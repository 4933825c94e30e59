import KisAuth.Db.Migrate

/-
  Migrations are all or nothing, as long as the pool serves
  every query of a file on the session of its BEGIN.

  Key definitions include:
    * `AllOrNothing`, `StopsAtFailure`
    * `OnBlockSession`, `SteadyRuns`, `PlainFiles`

  Key theorems include:
    * `main_safe`, `main_stops`
    * `performRun_atomic`, `performRun_stops`
    * `migrations_atomic`
-/

------------------------------------------------------------
-- Properties
------------------------------------------------------------

namespace KisAuth

namespace Migrate

open Interaction Transactions

variable {S : Type}

/- The change is one of the statements of the file. -/
@[simp] def Change.ranIn (file : String) : Change S → Bool
| .ran other _ => other = file
| _ => false

/- What the file has done so far, in order. -/
def effectsOf
    (file : String)
    (log : List (Change S)) : List (Change S) :=
  log.reverse.filter (Change.ranIn file)

/- The changes that the statements ask for. -/
@[simp] def changesOf :
    List (Statement (Change S)) → List (Change S)
| [] => []
| .change c :: rest => c :: changesOf rest
| _ :: rest => changesOf rest

/- What the file says, in order. -/
def askedOf
    (contents : Migrations S)
    (file : String) : List (Change S) :=
  (changesOf (contents file)).filter (Change.ranIn file)

/-
  A file that is recorded has done what it says, once and in
  order, and any other has done nothing.
-/
def AllOrNothing
    (contents : Migrations S)
    (log : List (Change S)) : Prop :=
  ∀ file,
    effectsOf file log =
      if isRecorded file log then askedOf contents file
      else []

/- After a failure there is nothing but a rollback. -/
def StopsAtFailure (past : List Step) : Prop :=
  ∀ later failed earlier,
    past = later ++ failed :: earlier →
      failed.value = none →
        ∀ step ∈ later, step.effect = .rollback

/- The session of the last BEGIN. -/
@[simp] def blockSession : List Step → Option Nat
| [] => none
| last :: past =>
    if last.effect = .begin then some last.choice.session
    else blockSession past

/- A query of a block goes to the session of its BEGIN. -/
def OnBlockSession
    (past : List Step)
    (service : Service) : Query → Prop
| .apply _ => blockSession past = some service.session
| .record _ => blockSession past = some service.session
| .commit => blockSession past = some service.session
| _ => True

instance OnBlockSession.decidable
    (past : List Step)
    (service : Service) :
    DecidablePred (OnBlockSession past service)
| .createTable => inferInstanceAs (Decidable True)
| .selectApplied _ => inferInstanceAs (Decidable True)
| .begin => inferInstanceAs (Decidable True)
| .apply _ => inferInstanceAs (Decidable (_ = _))
| .record _ => inferInstanceAs (Decidable (_ = _))
| .commit => inferInstanceAs (Decidable (_ = _))
| .rollback => inferInstanceAs (Decidable True)

/- Every run keeps its blocks on their sessions. -/
def SteadyRuns
    (contents : Migrations S) : List MigrationRun → Prop
| [] => True
| run :: earlier =>
    AllAllowed OnBlockSession
      (performRun contents run
        (afterRuns contents earlier)).1 ∧
      SteadyRuns contents earlier

/-
  The files change the schema only: no transaction commands
  and nothing in `schema_migrations`.
-/
def PlainFiles (contents : Migrations S) : Prop :=
  ∀ file, ∀ statement ∈ contents file,
    ∃ sql, statement = .change (.ran file sql)

end Migrate

end KisAuth

------------------------------------------------------------
-- Effects Of Changes
------------------------------------------------------------

namespace KisAuth

namespace Migrate

open Interaction Transactions

variable {S : Type}
variable {contents : Migrations S}
variable {log : List (Change S)}

theorem AllOrNothing.table
    (hLog : AllOrNothing contents log) :
    AllOrNothing contents (.table :: log) := by
  intro file
  have hFile := hLog file
  simpa [effectsOf, isRecorded, Change.ranIn,
    Change.records] using hFile

/- A plain file, as the changes it asks for. -/
theorem PlainFiles.eq_map
    (hPlain : PlainFiles contents)
    (file : String) :
    contents file = (changesOf (contents file)).map .change := by
  have hStatements := hPlain file
  generalize contents file = statements at hStatements
  induction statements with
  | nil => rfl
  | cons statement rest ih =>
      obtain ⟨sql, rfl⟩ :=
        hStatements statement (List.mem_cons_self ..)
      rw [changesOf, List.map_cons,
        ← ih (fun other hOther =>
          hStatements other (List.mem_cons_of_mem _ hOther))]

theorem PlainFiles.mem_changesOf
    (hPlain : PlainFiles contents)
    {file : String}
    {change : Change S}
    (hChange : change ∈ changesOf (contents file)) :
    ∃ sql, change = .ran file sql := by
  have hStatement :
      Statement.change change ∈ contents file := by
    rw [hPlain.eq_map file]
    exact List.mem_map_of_mem hChange
  obtain ⟨sql, hEq⟩ := hPlain file _ hStatement
  exact ⟨sql, Statement.change.inj hEq⟩

/- What the changes of a plain file do, by file. -/
theorem PlainFiles.filter_ranIn
    (hPlain : PlainFiles contents)
    (file other : String) :
    (changesOf (contents file)).filter
        (Change.ranIn other) =
      if file = other then changesOf (contents file)
      else [] := by
  split
  · rename_i hSame
    apply List.filter_eq_self.mpr
    intro change hChange
    obtain ⟨sql, rfl⟩ := hPlain.mem_changesOf hChange
    simp [Change.ranIn, hSame]
  · rename_i hOther
    apply List.filter_eq_nil_iff.mpr
    intro change hChange
    obtain ⟨sql, rfl⟩ := hPlain.mem_changesOf hChange
    simp [Change.ranIn, hOther]

theorem PlainFiles.any_records
    (hPlain : PlainFiles contents)
    (file other : String) :
    (changesOf (contents file)).any
        (Change.records other) = false := by
  apply List.any_eq_false.mpr
  intro change hChange
  obtain ⟨sql, rfl⟩ := hPlain.mem_changesOf hChange
  simp [Change.records]

/- A whole file and its row, where it was not recorded. -/
theorem AllOrNothing.file
    (hPlain : PlainFiles contents)
    (hLog : AllOrNothing contents log)
    {file : String}
    (hNew : isRecorded file log = false) :
    AllOrNothing contents
      ((.recorded file ::
          (changesOf (contents file)).reverse) ++ log) := by
  intro other
  have hOther := hLog other
  have hRan := hPlain.filter_ranIn file other
  have hRows := hPlain.any_records file other
  have hEffects :
      effectsOf other
          ((.recorded file ::
            (changesOf (contents file)).reverse) ++ log) =
        effectsOf other log ++
          if file = other then changesOf (contents file)
          else [] := by
    simp [effectsOf, hRan, Change.ranIn]
  have hAsked := hPlain.filter_ranIn other other
  have hRecorded :
      isRecorded other
          ((.recorded file ::
            (changesOf (contents file)).reverse) ++ log) =
        (decide (file = other) || isRecorded other log) := by
    simp only [isRecorded, List.any_append, List.any_cons,
      List.any_reverse, hRows, Change.records,
      Bool.or_false]
  rw [hEffects, hRecorded, hOther, askedOf, hAsked,
    if_pos rfl]
  by_cases hSame : file = other
  · subst hSame
    simp [hNew]
  · simp [hSame]

end Migrate

end KisAuth

------------------------------------------------------------
-- Queries In Their Phases
------------------------------------------------------------

namespace KisAuth

namespace Migrate

open Interaction Transactions

variable {S : Type}
variable {contents : Migrations S}
variable {service : Service}
variable {db db' : Database (Change S)}
variable {reply : Option Bool} {rows : Bool}

/- No session is in a block. -/
def Calm (db : Database (Change S)) : Prop :=
  ∀ i, db.sessions i = .idle

/- One session is in a block, with these changes so far. -/
structure InBlock
    (db : Database (Change S))
    (session : Nat)
    (pending : List (Change S)) : Prop where
  here : db.sessions session = .block pending
  others : ∀ i, i ≠ session → db.sessions i = .idle

/- What a query does, from what its statements do. -/
theorem serve_of_exec
    {query : Query}
    {outcome : Outcome (Change S)}
    (hExec :
      execMessage admitsChange service.fault
          (statements contents query) db.committed
          (db.sessions service.session) =
        outcome)
    (hServe :
      serve contents service query db = (reply, db')) :
    db'.committed = outcome.committed ∧
      db'.sessions =
        Function.update db.sessions service.session
          (if service.lost then .idle
            else outcome.session) ∧
      ∀ rows, reply = some rows →
        outcome.ok = true ∧ service.lost = false ∧
          rows =
            rowsOf
              ((db.sessions service.session).visible
                db.committed) query := by
  simp only [serve, send_of_exec hExec,
    Prod.mk.injEq] at hServe
  obtain ⟨hReply, rfl⟩ := hServe
  refine ⟨rfl, rfl, ?_⟩
  intro rows hRows
  rw [← hReply] at hRows
  split at hRows
  · rename_i hSent
    simp only [Bool.and_eq_true, Bool.not_eq_true'] at hSent
    exact ⟨hSent.1, hSent.2, (Option.some.inj hRows).symm⟩
  · cases hRows

/- A query outside blocks that leaves its session idle. -/
theorem Calm.serve
    {query : Query}
    {ok : Bool}
    {log : List (Change S)}
    (hCalm : Calm db)
    (hExec :
      execMessage admitsChange service.fault
          (statements contents query) db.committed .idle =
        ⟨ok, .idle, log⟩)
    (hServe :
      serve contents service query db = (reply, db')) :
    Calm db' ∧ db'.committed = log ∧
      ∀ rows, reply = some rows →
        ok = true ∧ rows = rowsOf db.committed query := by
  have hIdle := hCalm service.session
  have hRun :
      execMessage admitsChange service.fault
          (statements contents query) db.committed
          (db.sessions service.session) =
        ⟨ok, .idle, log⟩ := by
    rw [hIdle, hExec]
  obtain ⟨hCommitted, hSessions, hRows⟩ :=
    serve_of_exec hRun hServe
  refine ⟨?_, hCommitted, ?_⟩
  · intro i
    rw [hSessions, ite_self, Function.update_apply]
    split
    · rfl
    · exact hCalm i
  · intro rows hReply
    obtain ⟨hOk, -, hSeen⟩ := hRows rows hReply
    rw [hIdle] at hSeen
    exact ⟨hOk, hSeen⟩

theorem serve_createTable
    (hCalm : Calm db)
    (hServe :
      serve contents service .createTable db =
        (reply, db')) :
    Calm db' ∧
      (db'.committed = .table :: db.committed ∨
        db'.committed = db.committed) := by
  rcases
    @execMessage_change_idle _ admitsChange service.fault
      Change.table db.committed with hExec | hExec
  · have hServed := hCalm.serve hExec hServe
    exact ⟨hServed.1, Or.inl hServed.2.1⟩
  · have hServed := hCalm.serve hExec hServe
    exact ⟨hServed.1, Or.inr hServed.2.1⟩

theorem serve_selectApplied
    {file : String}
    (hCalm : Calm db)
    (hServe :
      serve contents service (.selectApplied file) db =
        (reply, db')) :
    Calm db' ∧ db'.committed = db.committed ∧
      ∀ rows, reply = some rows →
        rows = isRecorded file db.committed := by
  obtain ⟨ok, hExec⟩ :=
    @execMessage_read_idle _ admitsChange service.fault
      db.committed
  obtain ⟨hNext, hCommitted, hRows⟩ :=
    hCalm.serve hExec hServe
  exact
    ⟨hNext, hCommitted,
      fun rows hReply => (hRows rows hReply).2⟩

/- A BEGIN that works opens the block of its session. -/
theorem serve_begin
    (hCalm : Calm db)
    (hServe :
      serve contents service .begin db = (reply, db')) :
    db'.committed = db.committed ∧
      ∀ rows, reply = some rows →
        InBlock db' service.session [] := by
  have hIdle := hCalm service.session
  rcases
    @execMessage_begin_idle _ admitsChange service.fault
      db.committed with hExec | hExec
  · have hRun := hExec
    rw [← hIdle] at hRun
    obtain ⟨hCommitted, hSessions, hRows⟩ :=
      serve_of_exec hRun hServe
    refine ⟨hCommitted, ?_⟩
    intro rows hReply
    obtain ⟨-, hKept, -⟩ := hRows rows hReply
    refine ⟨by simp [hSessions, hKept], ?_⟩
    intro i hOther
    rw [hSessions, Function.update_of_ne hOther]
    exact hCalm i
  · obtain ⟨-, hCommitted, hRows⟩ :=
      hCalm.serve hExec hServe
    refine ⟨hCommitted, ?_⟩
    intro rows hReply
    cases (hRows rows hReply).1

/-
  Changes on the session of the block stay pending, where
  they work.
-/
theorem InBlock.serve
    {query : Query}
    {pending changes : List (Change S)}
    (hBlock : InBlock db service.session pending)
    (hChanges :
      statements contents query = changes.map .change)
    (hServe :
      serve contents service query db = (reply, db')) :
    db'.committed = db.committed ∧
      ∀ rows, reply = some rows →
        InBlock db' service.session
          (changes.reverse ++ pending) := by
  have hExec :=
    @execMessage_changes_block _ admitsChange service.fault
      changes db.committed pending
  rw [← hBlock.here, ← hChanges] at hExec
  rcases hExec with hExec | hExec
  · obtain ⟨hCommitted, hSessions, hRows⟩ :=
      serve_of_exec hExec hServe
    refine ⟨hCommitted, ?_⟩
    intro rows hReply
    obtain ⟨-, hKept, -⟩ := hRows rows hReply
    refine ⟨by simp [hSessions, hKept], ?_⟩
    intro i hOther
    rw [hSessions, Function.update_of_ne hOther]
    exact hBlock.others i hOther
  · obtain ⟨hCommitted, -, hRows⟩ :=
      serve_of_exec hExec hServe
    refine ⟨hCommitted, ?_⟩
    intro rows hReply
    cases (hRows rows hReply).1

/- A COMMIT of the block commits all of it or nothing. -/
theorem serve_commit
    {pending : List (Change S)}
    (hBlock : InBlock db service.session pending)
    (hServe :
      serve contents service .commit db = (reply, db')) :
    Calm db' ∧
      (db'.committed = pending ++ db.committed ∨
        db'.committed = db.committed) := by
  have hExec :=
    @execMessage_commit_block _ admitsChange service.fault
      db.committed pending
  have hCalm :
      ∀ i,
        Function.update db.sessions service.session .idle i =
          .idle := by
    intro i
    rw [Function.update_apply]
    split
    · rfl
    · rename_i hOther
      exact hBlock.others i hOther
  rw [← hBlock.here] at hExec
  rcases hExec with hExec | hExec
  · obtain ⟨hCommitted, hSessions, -⟩ :=
      serve_of_exec hExec hServe
    rw [ite_self] at hSessions
    exact
      ⟨fun i => hSessions ▸ hCalm i, Or.inl hCommitted⟩
  · obtain ⟨hCommitted, hSessions, -⟩ :=
      serve_of_exec hExec hServe
    rw [ite_self] at hSessions
    exact
      ⟨fun i => hSessions ▸ hCalm i, Or.inr hCommitted⟩

/- A rollback commits nothing, wherever it is sent. -/
theorem serve_rollback
    (hServe :
      serve contents service .rollback db = (reply, db')) :
    db'.committed = db.committed := by
  have hServed := serve_of_exec rfl hServe
  rw [hServed.1]
  exact
    execMessage_rollback service.fault db.committed
      (db.sessions service.session)

end Migrate

end KisAuth

------------------------------------------------------------
-- The Runner Is Safe
------------------------------------------------------------

namespace KisAuth

namespace Migrate

open Interaction Transactions

variable {S : Type}
variable {contents : Migrations S}
variable {allowed : List Step → Service → Query → Prop}
variable {inv :
  List Step → Database (Change S) → Prop}
variable {past : List Step} {db : Database (Change S)}

/- The rule for one query. -/
theorem safe_query
    {final :
      Except Unit Bool → List Step →
        Database (Change S) → Prop}
    {query : Query}
    (hInv : inv past db)
    (hRows :
      ∀ service rows db', allowed past service query →
        serve contents service query db =
          (some rows, db') →
        final (.ok rows)
          (⟨query, service, some rows⟩ :: past) db')
    (hFailed :
      ∀ service db', allowed past service query →
        serve contents service query db = (none, db') →
        final (.error ())
          (⟨query, service, none⟩ :: past) db') :
    Prog.Safe (serve contents) allowed inv final
      (Migrate.query query) past db := by
  refine ⟨hInv, ?_⟩
  intro service hAllowed
  rcases hServe : serve contents service query db with
    ⟨reply, db'⟩
  cases reply with
  | none => exact hFailed service db' hAllowed hServe
  | some rows => exact hRows service rows db' hAllowed hServe

end Migrate

end KisAuth

namespace KisAuth

namespace Migrate

open Interaction Transactions

variable {S : Type}
variable {contents : Migrations S}
variable {past : List Step} {db : Database (Change S)}

/- Where a file or a run of files may end. -/
def Ends
    (contents : Migrations S) :
    Except Unit Unit → List Step → Database (Change S) →
      Prop
| .ok _, _, db =>
    AllOrNothing contents db.committed ∧ Calm db
| .error _, _, db => AllOrNothing contents db.committed

/- What the runner keeps, on the session of each block. -/
abbrev RunnerSafe
    (contents : Migrations S)
    {α : Type}
    (final :
      Except Unit α → List Step → Database (Change S) →
        Prop) :
    Runner α → List Step → Database (Change S) → Prop :=
  Prog.Safe (serve contents) OnBlockSession
    (fun _ db => AllOrNothing contents db.committed) final

/- Only a BEGIN changes the session of the block. -/
theorem blockSession_cons
    {step : Step}
    {session : Nat}
    (hOther : step.effect ≠ .begin)
    (hBegun : blockSession past = some session) :
    blockSession (step :: past) = some session := by
  rw [blockSession, if_neg hOther, hBegun]

/- Whatever failed, the rollback leaves the log alone. -/
theorem rollback_safe
    (hLog : AllOrNothing contents db.committed) :
    RunnerSafe contents (Ends contents)
      (do
        let _ ← query .rollback
        .throw ())
      past db := by
  apply Prog.safe_bind
  apply safe_query hLog
  · intro service rows db' _ hServe
    rw [← serve_rollback hServe] at hLog
    exact hLog
  · intro service db' _ hServe
    rw [← serve_rollback hServe] at hLog
    exact hLog

/- The COMMIT, where the whole block keeps the log right. -/
theorem commit_safe
    {session : Nat}
    {pending : List (Change S)}
    (hLog : AllOrNothing contents db.committed)
    (hWhole :
      AllOrNothing contents (pending ++ db.committed))
    (hBegun : blockSession past = some session)
    (hBlock : InBlock db session pending) :
    RunnerSafe contents (Ends contents)
      (do
        let _ ← query .commit
        return ())
      past db := by
  have hCommitted :
      ∀ service reply db', OnBlockSession past service .commit →
        serve contents service .commit db = (reply, db') →
        AllOrNothing contents db'.committed ∧ Calm db' := by
    intro service reply db' hAllowed hServe
    obtain rfl : session = service.session :=
      Option.some.inj (hBegun.symm.trans hAllowed)
    obtain ⟨hCalm, hEither⟩ := serve_commit hBlock hServe
    rcases hEither with hAll | hNone
    · exact ⟨hAll ▸ hWhole, hCalm⟩
    · exact ⟨hNone ▸ hLog, hCalm⟩
  apply Prog.safe_bind
  apply safe_query hLog
  · intro service rows db' hAllowed hServe
    exact hCommitted service (some rows) db' hAllowed hServe
  · intro service db' hAllowed hServe
    exact (hCommitted service none db' hAllowed hServe).1

/-
  Changes of the block, and then a part that is safe once
  they are all pending.
-/
theorem pending_safe
    {query : Query}
    {session : Nat}
    {pending changes : List (Change S)}
    {next : Runner Unit}
    (hChanges :
      statements contents query = changes.map .change)
    (hOther : query ≠ .begin)
    (hServed :
      ∀ service, OnBlockSession past service query →
        blockSession past = some service.session)
    (hLog : AllOrNothing contents db.committed)
    (hBegun : blockSession past = some session)
    (hBlock : InBlock db session pending)
    (hNext :
      ∀ later db',
        db'.committed = db.committed →
        blockSession later = some session →
        InBlock db' session (changes.reverse ++ pending) →
        RunnerSafe contents (Ends contents) next later
          db') :
    RunnerSafe contents (Ends contents)
      (do
        let _ ← Migrate.query query
        next)
      past db := by
  have hSession :
      ∀ service, OnBlockSession past service query →
        session = service.session :=
    fun service hAllowed =>
      Option.some.inj
        (hBegun.symm.trans (hServed service hAllowed))
  apply Prog.safe_bind
  apply safe_query hLog
  · intro service rows db' hAllowed hServe
    obtain rfl := hSession service hAllowed
    obtain ⟨hSame, hPending⟩ :=
      hBlock.serve hChanges hServe
    exact
      hNext _ db' hSame (blockSession_cons hOther hBegun)
        (hPending rows rfl)
  · intro service db' hAllowed hServe
    obtain rfl := hSession service hAllowed
    have hSame := (hBlock.serve hChanges hServe).1
    rw [← hSame] at hLog
    exact hLog

/- The part of a file that is inside its block. -/
theorem block_safe
    (hPlain : PlainFiles contents)
    {file : String}
    {session : Nat}
    (hLog : AllOrNothing contents db.committed)
    (hNew : isRecorded file db.committed = false)
    (hBegun : blockSession past = some session)
    (hBlock : InBlock db session []) :
    RunnerSafe contents (Ends contents)
      (do
        let _ ← query (.apply file)
        let _ ← query (.record file)
        let _ ← query .commit
        return ())
      past db := by
  have hStatements :
      statements contents (.apply file) =
        (changesOf (contents file)).map .change :=
    hPlain.eq_map file
  apply
    pending_safe hStatements nofun (fun _ hAllowed => hAllowed)
      hLog hBegun hBlock
  intro later db₁ hSame₁ hBegun₁ hBlock₁
  rw [← hSame₁] at hLog hNew
  have hRow :
      statements contents (.record file) =
        [Change.recorded file].map .change :=
    rfl
  apply
    pending_safe hRow nofun (fun _ hAllowed => hAllowed)
      hLog hBegun₁ hBlock₁
  intro last db₂ hSame₂ hBegun₂ hBlock₂
  rw [← hSame₂] at hLog hNew
  have hWhole := hLog.file hPlain hNew
  rw [List.append_nil] at hBlock₂
  exact commit_safe hLog hWhole hBegun₂ hBlock₂

/- A file that is not recorded yet. -/
theorem applyFile_safe
    (hPlain : PlainFiles contents)
    {file : String}
    (hLog : AllOrNothing contents db.committed)
    (hCalm : Calm db)
    (hNew : isRecorded file db.committed = false) :
    RunnerSafe contents (Ends contents) (applyFile file)
      past db := by
  apply Prog.safe_bind
  apply safe_query hLog
  · intro service rows db' _ hServe
    obtain ⟨hSame, hBlock⟩ := serve_begin hCalm hServe
    rw [← hSame] at hLog hNew
    apply Prog.safe_handle
    apply
      (block_safe hPlain hLog hNew rfl (hBlock rows rfl)).mono
    intro outcome later e hEnds
    cases outcome with
    | ok value => exact hEnds
    | error error => exact rollback_safe hEnds
  · intro service db' _ hServe
    rw [← (serve_begin hCalm hServe).1] at hLog
    exact hLog

/- The files in order, from a state between two files. -/
theorem applyFiles_safe
    (hPlain : PlainFiles contents)
    (files : List String)
    (hLog : AllOrNothing contents db.committed)
    (hCalm : Calm db) :
    RunnerSafe contents (Ends contents) (applyFiles files)
      past db := by
  induction files generalizing past db with
  | nil => exact ⟨hLog, hCalm⟩
  | cons file files ih =>
      apply Prog.safe_bind
      apply safe_query hLog
      · intro service rows db' _ hServe
        obtain ⟨hCalm', hSame, hRows⟩ :=
          serve_selectApplied hCalm hServe
        rw [← hSame] at hLog
        cases rows with
        | true => exact ih hLog hCalm'
        | false =>
            have hNew :
                isRecorded file db'.committed = false := by
              rw [hSame, ← hRows false rfl]
            apply Prog.safe_bind
            apply
              (applyFile_safe hPlain hLog hCalm' hNew).mono
            intro outcome later e hEnds
            cases outcome with
            | ok value => exact ih hEnds.1 hEnds.2
            | error error => exact hEnds
      · intro service db' _ hServe
        rw [← (serve_selectApplied hCalm hServe).2.1] at hLog
        exact hLog

theorem main_safe
    (hPlain : PlainFiles contents)
    (entries : List String)
    (hLog : AllOrNothing contents db.committed)
    (hCalm : Calm db) :
    RunnerSafe contents (Ends contents) (main entries)
      past db := by
  have hCreated :
      ∀ service reply db',
        serve contents service .createTable db =
          (reply, db') →
        AllOrNothing contents db'.committed ∧ Calm db' := by
    intro service reply db' hServe
    obtain ⟨hCalm', hEither⟩ := serve_createTable hCalm hServe
    rcases hEither with hTable | hNone
    · exact ⟨hTable ▸ hLog.table, hCalm'⟩
    · exact ⟨hNone ▸ hLog, hCalm'⟩
  apply Prog.safe_bind
  apply safe_query hLog
  · intro service rows db' _ hServe
    obtain ⟨hLog', hCalm'⟩ := hCreated _ _ _ hServe
    exact applyFiles_safe hPlain _ hLog' hCalm'
  · intro service db' _ hServe
    exact (hCreated _ _ _ hServe).1

end Migrate

end KisAuth

------------------------------------------------------------
-- The Runner Stops
------------------------------------------------------------

namespace KisAuth

namespace Migrate

open Interaction Transactions

variable {S : Type}
variable {contents : Migrations S}
variable {past : List Step} {db : Database (Change S)}

/- No query has failed so far. -/
def AllAnswered (past : List Step) : Prop :=
  ∀ step ∈ past, step.value ≠ none

/- After such a past, one failure is the first. -/
theorem AllAnswered.stops
    (hAnswered : AllAnswered past)
    (step : Step) :
    StopsAtFailure (step :: past) := by
  intro later failed earlier hEq hFailed
  cases later with
  | nil => simp
  | cons last later =>
      have hPast : past = later ++ failed :: earlier :=
        (List.cons.inj hEq).2
      exact absurd hFailed (hAnswered failed (by simp [hPast]))

theorem AllAnswered.stopsNow
    (hAnswered : AllAnswered past) :
    StopsAtFailure past := by
  intro later failed earlier hEq hFailed
  exact absurd hFailed (hAnswered failed (by simp [hEq]))

theorem AllAnswered.cons
    {step : Step}
    (hAnswered : AllAnswered past)
    (hStep : step.value ≠ none) :
    AllAnswered (step :: past) :=
  List.forall_mem_cons.mpr ⟨hStep, hAnswered⟩

/- A rollback may come after a failure. -/
theorem StopsAtFailure.rollback
    {step : Step}
    (hStops : StopsAtFailure past)
    (hRollback : step.effect = .rollback) :
    StopsAtFailure (step :: past) := by
  intro later failed earlier hEq hFailed
  cases later with
  | nil => simp
  | cons last later =>
      obtain ⟨rfl, hPast⟩ := List.cons.inj hEq
      have hLater := hStops later failed earlier hPast hFailed
      exact List.forall_mem_cons.mpr ⟨hRollback, hLater⟩

/- Without a failure, or with one and at most a rollback. -/
def Stops {α : Type} :
    Except Unit α → List Step → Database (Change S) → Prop
| .ok _, past, _ => AllAnswered past
| .error _, past, _ => StopsAtFailure past

abbrev RunnerStops
    (contents : Migrations S)
    {α : Type} :
    Runner α → List Step → Database (Change S) → Prop :=
  Prog.Safe (serve contents) (fun _ _ _ => True)
    (fun past _ => StopsAtFailure past) Stops

/- A query and what follows it where it works. -/
theorem query_stops
    {α : Type}
    {query : Query}
    {next : Bool → Runner α}
    (hAnswered : AllAnswered past)
    (hNext :
      ∀ rows later db', AllAnswered later →
        RunnerStops contents (next rows) later db') :
    RunnerStops contents (Migrate.query query >>= next)
      past db := by
  apply Prog.safe_bind
  apply safe_query hAnswered.stopsNow
  · intro service rows db' _ _
    exact hNext rows _ db' (hAnswered.cons (by simp))
  · intro service db' _ _
    exact hAnswered.stops _

theorem applyFile_stops
    (file : String)
    (hAnswered : AllAnswered past) :
    RunnerStops contents (applyFile file) past db := by
  apply query_stops hAnswered
  intro _ later₁ db₁ hAnswered₁
  have hBody :
      RunnerStops contents
        (do
          let _ ← query (.apply file)
          let _ ← query (.record file)
          let _ ← query .commit
          return ())
        later₁ db₁ := by
    apply query_stops hAnswered₁
    intro _ later₂ db₂ hAnswered₂
    apply query_stops hAnswered₂
    intro _ later₃ db₃ hAnswered₃
    apply query_stops hAnswered₃
    intro _ later₄ db₄ hAnswered₄
    exact hAnswered₄
  apply Prog.safe_handle
  apply hBody.mono
  intro outcome later db' hStops
  cases outcome with
  | ok value => exact hStops
  | error error =>
      apply Prog.safe_bind
      apply safe_query hStops
      · intro service rows db'' _ _
        exact hStops.rollback rfl
      · intro service db'' _ _
        exact hStops.rollback rfl

theorem applyFiles_stops
    (files : List String)
    (hAnswered : AllAnswered past) :
    RunnerStops contents (applyFiles files) past db := by
  induction files generalizing past db with
  | nil => exact hAnswered
  | cons file files ih =>
      apply query_stops hAnswered
      intro rows later db' hLater
      cases rows with
      | true => exact ih hLater
      | false =>
          apply Prog.safe_bind
          apply (applyFile_stops file hLater).mono
          intro outcome last e hStops
          cases outcome with
          | ok value => exact ih hStops
          | error error => exact hStops

theorem main_stops
    (entries : List String)
    (hAnswered : AllAnswered past) :
    RunnerStops contents (main entries) past db := by
  apply query_stops hAnswered
  intro _ later db' hLater
  exact applyFiles_stops _ hLater

end Migrate

end KisAuth

------------------------------------------------------------
-- Runs
------------------------------------------------------------

namespace KisAuth

namespace Migrate

open Interaction Transactions

variable {S : Type}
variable {contents : Migrations S}
variable {runs : List MigrationRun}

/- One run, from whatever the earlier ones committed. -/
theorem performRun_atomic
    {run : MigrationRun}
    {log : List (Change S)}
    (hPlain : PlainFiles contents)
    (hLog : AllOrNothing contents log)
    (hSteady :
      AllAllowed OnBlockSession
        (performRun contents run log).1) :
    AllOrNothing contents
      (performRun contents run log).2.committed := by
  apply
    (main_safe hPlain run.entries hLog
      (fun _ => rfl)).play ?_ run.services hSteady
  intro outcome later db hEnds
  cases outcome with
  | ok value => exact hEnds.1
  | error error => exact hEnds

theorem allAllowed_true
    (past : List Step) :
    AllAllowed (fun _ _ _ => True) past := by
  induction past with
  | nil => trivial
  | cons last past ih => exact ⟨trivial, ih⟩

theorem performRun_stops
    (run : MigrationRun)
    (log : List (Change S)) :
    StopsAtFailure (performRun contents run log).1 := by
  have hStops :
      RunnerStops contents (main run.entries) []
        { committed := log, sessions := fun _ => .idle } :=
    main_stops run.entries (by simp [AllAnswered])
  apply hStops.play ?_ run.services (allAllowed_true _)
  intro outcome later db hEnds
  cases outcome with
  | ok value => exact hEnds.stopsNow
  | error error => exact hEnds

/-
  After any runs that keep each block on one session, a file
  that is recorded has taken effect exactly once and any
  other not at all; a failure ends its run, in every run.
-/
theorem migrations_atomic
    (hPlain : PlainFiles contents)
    (hSteady : SteadyRuns contents runs) :
    AllOrNothing contents (afterRuns contents runs) ∧
      ∀ run,
        StopsAtFailure
          (performRun contents run
            (afterRuns contents runs)).1 := by
  refine ⟨?_, fun run => performRun_stops run _⟩
  induction runs with
  | nil =>
      intro file
      simp [afterRuns, effectsOf, isRecorded]
  | cons run earlier ih =>
      exact performRun_atomic hPlain (ih hSteady.2) hSteady.1

/- Each file has one statement, named after it. -/
private def oneStatement : Migrations Unit :=
  fun file => [.change (.ran file ())]

private theorem oneStatement_plain :
    PlainFiles oneStatement := by
  intro file statement hStatement
  exact ⟨(), List.mem_singleton.mp hStatement⟩

/- A run of which each query is served by these sessions. -/
private def runOn (sessions : List Nat) : MigrationRun where
  entries := ["002_more.sql", "notes.txt", "001_init.sql"]
  services :=
    sessions.map (fun session => ⟨session, none, false⟩)

/-
  The first run is killed before the COMMIT of its second
  file, and the next one finishes.
-/
theorem migrations_atomic_two_runs :
    afterRuns oneStatement
        [runOn (List.replicate 7 1),
          runOn (List.replicate 10 0)] =
      [.recorded "002_more.sql", .ran "002_more.sql" (),
        .table, .recorded "001_init.sql",
        .ran "001_init.sql" (), .table] ∧
      AllOrNothing oneStatement
        (afterRuns oneStatement
          [runOn (List.replicate 7 1),
            runOn (List.replicate 10 0)]) := by
  have hSteady :
      SteadyRuns oneStatement
        [runOn (List.replicate 7 1),
          runOn (List.replicate 10 0)] :=
    ⟨by decide +kernel, by decide +kernel, trivial⟩
  exact
    ⟨by decide +kernel,
      (migrations_atomic oneStatement_plain hSteady).1⟩

/-
  The file is sent to another session than its BEGIN, and the
  run is killed before the next query: the file has taken
  effect, and is not recorded.
-/
theorem migration_half_applied :
    ¬ ∀ (contents : Migrations Unit)
        (runs : List MigrationRun),
      PlainFiles contents →
        AllOrNothing contents (afterRuns contents runs) := by
  intro hAlways
  have hFile :=
    hAlways oneStatement [runOn [0, 0, 0, 1]]
      oneStatement_plain "001_init.sql"
  revert hFile
  decide +kernel

end Migrate

end KisAuth
