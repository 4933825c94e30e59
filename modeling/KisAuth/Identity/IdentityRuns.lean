import KisAuth.Identity.IdentityService
import KisAuth.Interaction.Conformance
import KisAuth.Runtime.Uuid
import KisAuth.Service.Chronicle

/-
  Interleaved calls of the identity service, one statement
  at a time, and the tables they leave.

  The statements a history records and the ticks of its
  clock determine the tables, so the tables at any moment
  of a run are a function of the history until then.

  Key definitions include:
    * `IdentityCall`, `IdentityRun`
    * `applied`, `tablesAt`
    * `Truthful`, `LinkPath`, `CallEnds`

  Key theorems include:
    * `IdentityRun.recorded`
    * `program_obeys`
-/

------------------------------------------------------------
-- Runs Of Identity Calls
------------------------------------------------------------

namespace KisAuth

open Interaction

/- The calls of the identity service. -/
inductive IdentityCall where
  | link (args : NewIdentity)
  | findByProviderSubject (provider providerSubject : String)
  | findById (id : String)
  | touchLastAuthenticated (id : String)

/- What they return. -/
inductive IdentityReply where
  | linked (result : LinkResult)
  | found (identity : Option AuthIdentity)
  | touched

def IdentityCall.program : IdentityCall → KisM IdentityReply
| .link args => do
    let result ← IdentityService.link args
    return .linked result
| .findByProviderSubject provider providerSubject => do
    let identity ←
      IdentityService.findByProviderSubject provider
        providerSubject
    return .found identity
| .findById id => do
    let identity ← IdentityService.findById id
    return .found identity
| .touchLastAuthenticated id => do
    IdentityService.touchLastAuthenticated id
    return .touched

abbrev IdentityEntry :=
  Entry Eff Eff.Res HttpError IdentityCall IdentityReply EnvOp

/- What has happened so far, newest first. -/
abbrev IdentityHistory := List IdentityEntry

/- The pair a row binds to a user. -/
def AuthIdentity.pair
    (identity : AuthIdentity) : String × String :=
  (identity.provider, identity.providerSubject)

/- The two unique constraints hold. -/
structure Tables.OneToOne (tables : Tables) : Prop where
  pairs :
    (tables.identities.map
      (fun row => row.toAuthIdentity.pair)).Nodup
  users :
    (tables.identities.map
      (fun row => row.kisUserId)).Nodup

/- What the types and the primary key of the table say. -/
structure Tables.Typed (tables : Tables) : Prop where
  ids : (tables.identities.map (fun row => row.id)).Nodup
  canonical :
    ∀ row ∈ tables.identities,
      uuidIn row.id = some row.id ∧
        uuidIn row.kisUserId = some row.kisUserId

/-
  A state reached by any calls in any interleaving, from any
  tables that satisfy their constraints. Time passes with
  the ticks of the environment.
-/
structure IdentityRun
    (P : Platform)
    (cfg : KisAuthConfig) where
  start : World
  typed : start.tables.Typed
  oneToOne : start.tables.OneToOne
  drawn :
    ∀ row ∈ start.tables.identities,
      row.id ∈ start.randoms
  state :
    State Eff Eff.Res HttpError IdentityCall IdentityReply
      World EnvOp
  reachable :
    Reachable (worldSemantics P cfg) IdentityCall.program
      start state

def IdentityRun.history
    {P : Platform}
    {cfg : KisAuthConfig}
    (run : IdentityRun P cfg) : IdentityHistory :=
  run.state.history

end KisAuth

------------------------------------------------------------
-- The Tables A History Leaves
------------------------------------------------------------

namespace KisAuth

open Interaction

/- The clock reading after a history. -/
def clockAt (start : World) : IdentityHistory → Nat
| [] => start.clock
| .env (.tick milliseconds) :: earlier =>
    clockAt start earlier + milliseconds
| _ :: earlier => clockAt start earlier

/- What an answered statement did to the tables. -/
def statementApplied
    (now : Nat)
    (tables : Tables) : Answer Eff Eff.Res → Tables
| ⟨.insertIdentity _, .ok row⟩ =>
    tables.addRow ⟨row, some now⟩
| ⟨.updateIdentity email verified id, .ok _⟩ =>
    match uuidIn id with
    | some id =>
        tables.modifyRow id
          (Tables.withEmail email (verified.getD false) now)
    | none => tables
| ⟨.touchIdentity id, .ok _⟩ =>
    match uuidIn id with
    | some id => tables.modifyRow id (Tables.touched now)
    | none => tables
| _ => tables

/- What an entry did to the tables. -/
def applied
    (now : Nat)
    (tables : Tables) : IdentityEntry → Tables
| .answer _ answer => statementApplied now tables answer
| .env (.setIdentityStatus id status) =>
    tables.modifyRow id (Tables.withStatus status)
| .env (.setClient clientId client) =>
    { tables with
      clients := fun other =>
        if other = clientId then client
        else tables.clients other }
| _ => tables

/- The tables after a history. -/
def tablesAt (start : World) : IdentityHistory → Tables
| [] => start.tables
| entry :: earlier =>
    applied (clockAt start earlier) (tablesAt start earlier)
      entry

/- What each statement's answer says about the tables. -/
def TruthfulAnswer
    (now : Nat)
    (tables : Tables) : Answer Eff Eff.Res → Prop
| ⟨.selectIdentity provider providerSubject, result⟩ =>
    result = tables.selectIdentity provider providerSubject
| ⟨.insertIdentity args, .ok row⟩ =>
    ∃ accepted id,
      tables.checkInsert args = .ok accepted ∧
        row = (Tables.newRow accepted id now).toAuthIdentity ∧
        uuidIn id = some id ∧
        ∀ other ∈ tables.identities, other.id ≠ id
| ⟨.insertIdentity args, .error error⟩ =>
    tables.checkInsert args = .error error
| ⟨.updateIdentity email verified id, .ok found⟩ =>
    ∃ canonical,
      uuidIn id = some canonical ∧
        found =
          ((tables.modifyRow canonical
            (Tables.withEmail email (verified.getD false)
              now)).findRow canonical).map
            AuthIdentityRow.toAuthIdentity
| ⟨.updateIdentity email verified id, .error _⟩ =>
    uuidIn id = none ∨
      (email.all validText && verified.isSome) = false
| _ => True

def Truthful
    (start : World)
    (entry : IdentityEntry)
    (earlier : IdentityHistory) : Prop :=
  match entry with
  | .answer _ answer =>
      TruthfulAnswer (clockAt start earlier)
        (tablesAt start earlier) answer
  | _ => True

end KisAuth

------------------------------------------------------------
-- The Statements Of A Call
------------------------------------------------------------

namespace KisAuth

open Interaction Prog

/-
  How a link call goes: the pair is looked up, and then the
  row it has is updated or a row for it is inserted.
-/
inductive LinkPath (args : NewIdentity) :
    Past → Except HttpError IdentityReply → Prop where
  | unreadable
      (error : SqlError) :
      LinkPath args
        [⟨.selectIdentity args.provider args.providerSubject,
          .error error⟩]
        (.error .internal)
  | conflict
      (existing : AuthIdentity)
      (hUser : existing.kisUserId ≠ args.kisUserId) :
      LinkPath args
        [⟨.selectIdentity args.provider args.providerSubject,
          .ok (some existing)⟩]
        (.ok (.linked .alreadyLinked))
  | retried
      (existing : AuthIdentity)
      (row : Option AuthIdentity)
      (hUser : existing.kisUserId = args.kisUserId) :
      LinkPath args
        [⟨.updateIdentity args.providerEmail
            args.providerEmailVerified existing.id,
          .ok row⟩,
          ⟨.selectIdentity args.provider
              args.providerSubject,
            .ok (some existing)⟩]
        (match row with
          | some row => .ok (.linked (.ok row))
          | none => .error .internal)
  | notRetried
      (existing : AuthIdentity)
      (error : SqlError)
      (hUser : existing.kisUserId = args.kisUserId) :
      LinkPath args
        [⟨.updateIdentity args.providerEmail
            args.providerEmailVerified existing.id,
          .error error⟩,
          ⟨.selectIdentity args.provider
              args.providerSubject,
            .ok (some existing)⟩]
        (.error .internal)
  | inserted
      (row : AuthIdentity) :
      LinkPath args
        [⟨.insertIdentity args, .ok row⟩,
          ⟨.selectIdentity args.provider
              args.providerSubject,
            .ok none⟩]
        (.ok (.linked (.ok row)))
  | refused :
      LinkPath args
        [⟨.insertIdentity args, .error .uniqueViolation⟩,
          ⟨.selectIdentity args.provider
              args.providerSubject,
            .ok none⟩]
        (.ok (.linked .alreadyLinked))
  | malformed :
      LinkPath args
        [⟨.insertIdentity args, .error .invalidText⟩,
          ⟨.selectIdentity args.provider
              args.providerSubject,
            .ok none⟩]
        (.error .internal)

/- How each call ends, given its statements. -/
def CallEnds (call : IdentityCall)
    (past : Past)
    (outcome : Except HttpError IdentityReply) : Prop :=
  match call with
  | .link args => LinkPath args past outcome
  | .findByProviderSubject provider providerSubject =>
      ∃ result,
        past =
            [⟨.selectIdentity provider providerSubject,
              result⟩] ∧
          outcome.toOption =
            result.toOption.map IdentityReply.found
  | .findById id =>
      ∃ result,
        past = [⟨.selectIdentityById id, result⟩] ∧
          outcome.toOption =
            result.toOption.map IdentityReply.found
  | .touchLastAuthenticated id =>
      ∃ result,
        past = [⟨.touchIdentity id, result⟩] ∧
          outcome.toOption =
            result.toOption.map (fun _ => .touched)

/- Statements on the identity table. -/
def IdentityStatement (effect : Eff) : Prop :=
  World.backend effect = .sql

end KisAuth

------------------------------------------------------------
-- Calls Follow Their Paths
------------------------------------------------------------

namespace KisAuth

open Interaction Prog

theorem link_obeys (args : NewIdentity) :
    Obeys (fun _ effect => IdentityStatement effect)
      (CallEnds (.link args))
      (IdentityCall.program (.link args)) [] := by
  unfold IdentityCall.program IdentityService.link
    IdentityService.findByProviderSubject
  simp only [bind_eq, pure_eq, call, perform, bind_call,
    bind_ret, obeys_call]
  refine ⟨rfl, ?_⟩
  intro looked
  cases looked with
  | error error => exact .unreadable error
  | ok found =>
      cases found with
      | none =>
          simp only [orSqlCrash, bind_ret, bind_call,
            obeys_call]
          refine ⟨rfl, ?_⟩
          intro result
          cases result with
          | ok row => exact .inserted row
          | error error =>
              cases error with
              | uniqueViolation => exact .refused
              | invalidText => exact .malformed
      | some existing =>
          simp only [orSqlCrash, bind_ret]
          split
          · next hUser => exact .conflict existing hUser
          · next hUser =>
              rw [not_not] at hUser
              simp only [bind_call, obeys_call]
              refine ⟨rfl, ?_⟩
              intro rows
              cases rows with
              | error error =>
                  exact .notRetried existing error hUser
              | ok row =>
                  have hPath :=
                    LinkPath.retried existing row hUser
                  cases row with
                  | none => exact hPath
                  | some row => exact hPath

/- Every call executes its own statements only. -/
theorem program_obeys (call : IdentityCall) :
    Obeys (fun _ effect => IdentityStatement effect)
      (CallEnds call) call.program [] := by
  cases call with
  | link args => exact link_obeys args
  | findByProviderSubject provider providerSubject =>
      unfold IdentityCall.program
        IdentityService.findByProviderSubject
      simp only [bind_eq, pure_eq, KisAuth.call, perform,
        bind_call, bind_ret, obeys_call]
      refine ⟨rfl, ?_⟩
      intro result
      cases result with
      | ok identity => exact ⟨.ok identity, rfl, rfl⟩
      | error error => exact ⟨.error error, rfl, rfl⟩
  | findById id =>
      unfold IdentityCall.program IdentityService.findById
      simp only [bind_eq, pure_eq, KisAuth.call, perform,
        bind_call, bind_ret, obeys_call]
      refine ⟨rfl, ?_⟩
      intro result
      cases result with
      | ok identity => exact ⟨.ok identity, rfl, rfl⟩
      | error error => exact ⟨.error error, rfl, rfl⟩
  | touchLastAuthenticated id =>
      unfold IdentityCall.program
        IdentityService.touchLastAuthenticated
      simp only [bind_eq, pure_eq, KisAuth.call, perform,
        bind_call, bind_ret, obeys_call]
      refine ⟨rfl, ?_⟩
      intro result
      cases result with
      | ok done => exact ⟨.ok done, rfl, rfl⟩
      | error error => exact ⟨.error error, rfl, rfl⟩

end KisAuth

------------------------------------------------------------
-- The World Follows The History
------------------------------------------------------------

namespace KisAuth

open Interaction

variable {P : Platform} {cfg : KisAuthConfig}

/- The world is what the history made of the start. -/
structure FollowsTables
    (start world : World)
    (history : IdentityHistory) : Prop where
  clock : world.clock = clockAt start history
  tables : world.tables = tablesAt start history
  drawn :
    ∀ row ∈ world.tables.identities, row.id ∈ world.randoms

/- A modified row keeps its id where the change does. -/
theorem modifyRow_drawn
    {tables : Tables}
    {randoms : List String}
    (id : String)
    {change : AuthIdentityRow → AuthIdentityRow}
    (hDrawn :
      ∀ row ∈ tables.identities, row.id ∈ randoms)
    (hId : ∀ row, (change row).id = row.id) :
    ∀ row ∈ (tables.modifyRow id change).identities,
      row.id ∈ randoms := by
  intro row hRow
  unfold Tables.modifyRow at hRow
  rcases List.mem_map.mp hRow with ⟨old, hOld, rfl⟩
  by_cases hSame : old.id = id
  · rw [if_pos hSame, hId]
    exact hDrawn old hOld
  · rw [if_neg hSame]
    exact hDrawn old hOld

/- An answered statement that leaves the world as it is. -/
theorem FollowsTables.unmoved
    {start world : World}
    {history : IdentityHistory}
    {answer : Answer Eff Eff.Res}
    (hFollows : FollowsTables start world history)
    (hUnmoved :
      statementApplied world.clock world.tables answer =
        world.tables)
    (thread : Nat) :
    FollowsTables start world
      (.answer thread answer :: history) where
  clock := hFollows.clock
  tables := by
    have hApplied := hUnmoved
    rw [hFollows.clock, hFollows.tables] at hApplied
    rw [hFollows.tables]
    exact hApplied.symm
  drawn := hFollows.drawn

/- An answered statement that modifies one row. -/
theorem FollowsTables.modified
    {start world : World}
    {history : IdentityHistory}
    {answer : Answer Eff Eff.Res}
    {id : String}
    {change : AuthIdentityRow → AuthIdentityRow}
    (hFollows : FollowsTables start world history)
    (hModified :
      statementApplied world.clock world.tables answer =
        world.tables.modifyRow id change)
    (hId : ∀ row, (change row).id = row.id)
    (thread : Nat) :
    FollowsTables start
      (world.withTables (world.tables.modifyRow id change))
      (.answer thread answer :: history) where
  clock := hFollows.clock
  tables := by
    have hApplied := hModified
    rw [hFollows.clock, hFollows.tables] at hApplied
    simp only [World.withTables]
    rw [hFollows.tables]
    exact hApplied.symm
  drawn := modifyRow_drawn id hFollows.drawn hId

/- An answered INSERT that adds its row. -/
theorem FollowsTables.inserted
    {start world : World}
    {history : IdentityHistory}
    {args accepted : NewIdentity}
    {id : String}
    (hFollows : FollowsTables start world history)
    (thread : Nat) :
    FollowsTables start
      ((world.withTables
        (world.tables.addRow
          (Tables.newRow accepted id world.clock))).draw id)
      (.answer thread
          ⟨.insertIdentity args,
            .ok (Tables.newRow accepted id
              world.clock).toAuthIdentity⟩ ::
        history) where
  clock := hFollows.clock
  tables := by
    simp only [World.draw, World.withTables, tablesAt, applied,
      statementApplied]
    rw [← hFollows.tables, ← hFollows.clock]
    rfl
  drawn := by
    intro row hRow
    simp only [World.draw, World.withTables, Tables.addRow,
      List.mem_append, List.mem_singleton] at hRow
    rcases hRow with hRow | rfl
    · exact List.mem_cons_of_mem _ (hFollows.drawn row hRow)
    · exact List.mem_cons_self

/- Statements are answered truthfully, and applied. -/
theorem FollowsTables.execSql
    {start world world' : World}
    {history : IdentityHistory}
    {effect : Eff}
    {value : effect.Res}
    {ext : External}
    (hFollows : FollowsTables start world history)
    (hExec :
      world.execSql ext effect = some (value, world'))
    (thread : Nat) :
    TruthfulAnswer world.clock world.tables
        ⟨effect, value⟩ ∧
      FollowsTables start world'
        (.answer thread ⟨effect, value⟩ :: history) := by
  cases effect with
  | selectClient clientId =>
      simp only [World.execSql, Option.some.injEq,
        Prod.mk.injEq] at hExec
      rcases hExec with ⟨rfl, rfl⟩
      exact ⟨trivial, hFollows.unmoved rfl thread⟩
  | selectIdentity provider providerSubject =>
      simp only [World.execSql, Option.some.injEq,
        Prod.mk.injEq] at hExec
      rcases hExec with ⟨rfl, rfl⟩
      exact ⟨rfl, hFollows.unmoved rfl thread⟩
  | selectIdentityById id =>
      simp only [World.execSql, Option.some.injEq,
        Prod.mk.injEq] at hExec
      rcases hExec with ⟨rfl, rfl⟩
      exact ⟨trivial, hFollows.unmoved rfl thread⟩
  | insertIdentity args =>
      rcases execSql_insert hExec with
        ⟨error, hCheck, rfl, rfl⟩ |
        ⟨accepted, id, hCheck, hFresh, hId, rfl, rfl⟩
      · exact ⟨hCheck, hFollows.unmoved rfl thread⟩
      · refine
          ⟨⟨accepted, id, hCheck, rfl, hId, ?_⟩,
            hFollows.inserted thread⟩
        rintro other hOther rfl
        exact hFresh (hFollows.drawn other hOther)
  | updateIdentity email verified id =>
      rcases execSql_update hExec with
        ⟨hRefused, rfl, rfl⟩ | ⟨canonical, hId, rfl, rfl⟩
      · exact ⟨hRefused, hFollows.unmoved rfl thread⟩
      · refine ⟨⟨canonical, hId, rfl⟩, ?_⟩
        apply hFollows.modified
        · simp only [statementApplied, hId]
        · intro row
          rfl
  | touchIdentity id =>
      rcases execSql_touch hExec with
        ⟨_, rfl, rfl⟩ | ⟨canonical, hId, rfl, rfl⟩
      · exact ⟨trivial, hFollows.unmoved rfl thread⟩
      · refine ⟨trivial, ?_⟩
        apply hFollows.modified
        · simp only [statementApplied, hId]
        · intro row
          rfl
  | _ => simp [World.execSql] at hExec

/- An entry that changes neither clock nor tables. -/
theorem FollowsTables.silent
    {start world : World}
    {history : IdentityHistory}
    {entry : IdentityEntry}
    (hFollows : FollowsTables start world history)
    (hClock :
      clockAt start (entry :: history) = clockAt start history)
    (hTables :
      tablesAt start (entry :: history) =
        tablesAt start history) :
    FollowsTables start world (entry :: history) where
  clock := by rw [hClock, hFollows.clock]
  tables := by rw [hTables, hFollows.tables]
  drawn := hFollows.drawn

/- The environment's operations are applied, too. -/
theorem FollowsTables.env
    {start world world' : World}
    {history : IdentityHistory}
    {op : EnvOp}
    (hFollows : FollowsTables start world history)
    (hEnv : world.env op = some world') :
    FollowsTables start world' (.env op :: history) := by
  rcases hFollows with ⟨hClock, hTables, hDrawn⟩
  cases op with
  | tick milliseconds =>
      simp only [World.env, Option.some.injEq] at hEnv
      subst hEnv
      exact
        ⟨congrArg (· + milliseconds) hClock, hTables,
          hDrawn⟩
  | setIdentityStatus id status =>
      simp only [World.env, Option.some.injEq] at hEnv
      subst hEnv
      refine ⟨hClock, ?_, ?_⟩
      · simp only [World.withTables, tablesAt, applied]
        rw [hTables]
      · exact modifyRow_drawn id hDrawn (fun row => rfl)
  | setClient clientId client =>
      simp only [World.env, Option.some.injEq] at hEnv
      subst hEnv
      refine ⟨hClock, ?_, hDrawn⟩
      simp only [World.withTables, tablesAt, applied]
      rw [hTables]

/-
  What every run of identity calls satisfies: it is made by
  the calls, each executes its own statements, and these are
  answered truthfully.
-/
structure IdentityRecorded
    (start : World)
    (history : IdentityHistory) : Prop where
  conforms :
    Always (Conforms IdentityCall.program) history
  ends :
    Always
      (Keeps (fun _ _ effect => IdentityStatement effect)
        CallEnds) history
  truthful : Always (Truthful start) history

theorem IdentityRun.follows (run : IdentityRun P cfg) :
    FollowsTables run.start run.state.world run.history ∧
      Always (Truthful run.start) run.history := by
  apply Reachable.invariant
    (fun world history =>
      FollowsTables run.start world history ∧
        Always (Truthful run.start) history)
    ⟨⟨rfl, rfl, run.drawn⟩, trivial⟩ ?_ ?_ ?_ ?_
    run.reachable
  · rintro world history thread call ⟨hFollows, hAlways⟩
    exact ⟨hFollows.silent rfl rfl, trivial, hAlways⟩
  · rintro world history thread effect ext value world'
      _ hConforms hExec ⟨hFollows, hAlways⟩
    rcases hConforms.keeps program_obeys with
      ⟨call, _, hStatement⟩
    have hSql : World.backend effect = .sql := hStatement
    simp only [worldSemantics, World.exec, hSql] at hExec
    rcases hFollows.execSql hExec thread with
      ⟨hTruthful, hAfter⟩
    rw [hFollows.clock, hFollows.tables] at hTruthful
    exact ⟨hAfter, hTruthful, hAlways⟩
  · rintro world history thread outcome
      ⟨hFollows, hAlways⟩
    exact ⟨hFollows.silent rfl rfl, trivial, hAlways⟩
  · rintro world history op world' hEnv
      ⟨hFollows, hAlways⟩
    exact ⟨hFollows.env hEnv, trivial, hAlways⟩

theorem IdentityRun.recorded (run : IdentityRun P cfg) :
    IdentityRecorded run.start run.history where
  conforms := run.reachable.conforms
  ends := run.reachable.obeys program_obeys
  truthful := run.follows.2

end KisAuth
