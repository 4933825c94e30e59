import KisAuth.Identity.TableHistory

/-
  The identity table is an append-only one-to-one map.

  Whatever calls are interleaved, rows bind pairs to users
  one to one, stay as they are bound, and are changed by a
  link that succeeds only in their e-mail and time fields.

  Key definitions include:
    * `ChangesOnly`, `Unmoved`, `LinkKept`
    * `AppendOnlyMap`

  Key theorems include:
    * `refused_unmoved`, `linked_kept`
    * `identity_map`
-/

------------------------------------------------------------
-- What Calls May Change
------------------------------------------------------------

namespace KisAuth

open Interaction

/-
  Rows are added under one id only, and no other row is
  changed.
-/
def ChangesOnly (id : String) (old new : Tables) : Prop :=
  ∃ change added,
    new.identities = old.identities.map change ++ added ∧
      (∀ row ∈ old.identities,
        SameRow row (change row) ∧
          (row.id ≠ id → change row = row)) ∧
      ∀ row ∈ added, row.id = id

/- No statement of the call changed the tables. -/
def Unmoved
    (start : World)
    (thread : Nat)
    (history : IdentityHistory) : Prop :=
  ∀ later answer before,
    history = later ++ .answer thread answer :: before →
      tablesAt start (.answer thread answer :: before) =
        tablesAt start before

/- The call failed, or found a conflict. -/
def Refused : Except HttpError IdentityReply → Prop
| .error _ => True
| .ok (.linked .alreadyLinked) => True
| .ok _ => False

/-
  A link that succeeded: its row is bound to exactly what
  was to be linked, it is in the table, and the call changed
  no other row.
-/
structure LinkKept
    (start : World)
    (thread : Nat)
    (args : NewIdentity)
    (row : AuthIdentity)
    (history : IdentityHistory) : Prop where
  provider : row.provider = args.provider
  providerSubject :
    row.providerSubject = args.providerSubject
  kisUserId : uuidIn args.kisUserId = some row.kisUserId
  stored :
    ∃ kept ∈ (tablesAt start history).identities,
      kept.toAuthIdentity.binding = row.binding
  changes :
    ∀ later answer before,
      history = later ++ .answer thread answer :: before →
        ChangesOnly row.id (tablesAt start before)
          (tablesAt start (.answer thread answer :: before))

/- The identity table as an append-only one-to-one map. -/
structure AppendOnlyMap
    (start world : World)
    (history : IdentityHistory) : Prop where
  tables : world.tables = tablesAt start history
  oneToOne : world.tables.OneToOne
  kept : Always (EntryKeeps start) history
  refused :
    Always
      (fun entry earlier =>
        ∀ thread outcome,
          entry = .respond thread outcome →
            Refused outcome → Unmoved start thread earlier)
      history
  linked :
    Always
      (fun entry earlier =>
        ∀ thread args row,
          entry =
              .respond thread (.ok (.linked (.ok row))) →
            Entry.arrive thread (.link args) ∈ earlier →
              LinkKept start thread args row earlier)
      history
  stays :
    ∀ thread row,
      Entry.respond thread (.ok (.linked (.ok row))) ∈
          history →
        ∃ kept ∈ world.tables.identities,
          kept.toAuthIdentity.binding = row.binding

end KisAuth

------------------------------------------------------------
-- Calls That Are Refused
------------------------------------------------------------

namespace KisAuth

open Interaction

variable {start : World}
variable {history later earlier : IdentityHistory}

/- Modifying a row the table does not have. -/
theorem modifyRow_absent
    {tables : Tables}
    {id : String}
    {change : AuthIdentityRow → AuthIdentityRow}
    (hId : ∀ row, (change row).id = row.id)
    (hAbsent :
      (tables.modifyRow id change).findRow id = none) :
    tables.modifyRow id change = tables := by
  have hNone :
      ∀ row ∈ tables.identities, row.id ≠ id := by
    intro row hRow hSame
    have hFound :=
      List.find?_eq_none.mp hAbsent _
        (mem_modifyRow id change hRow)
    rw [if_pos hSame] at hFound
    simp [hId row, hSame] at hFound
  have hMap :
      tables.identities.map
          (fun row =>
            if row.id = id then change row else row) =
        tables.identities.map (fun row => row) := by
    apply List.map_congr_left
    intro row hRow
    rw [if_neg (hNone row hRow)]
  unfold Tables.modifyRow
  rw [hMap, List.map_id']

/- A statement that neither stores nor changes a row. -/
def Idle (answer : Answer Eff Eff.Res) : Prop :=
  match answer with
  | ⟨.insertIdentity _, .ok _⟩ => False
  | ⟨.updateIdentity _ _ _, .ok (some _)⟩ => False
  | ⟨.touchIdentity _, .ok _⟩ => False
  | _ => True

theorem idle_unmoved
    {tables : Tables}
    {now : Nat}
    {answer : Answer Eff Eff.Res}
    (hIdle : Idle answer)
    (hTruthful : TruthfulAnswer now tables answer) :
    statementApplied now tables answer = tables := by
  unfold statementApplied
  split
  · exact False.elim hIdle
  · next email verified id found =>
      cases found with
      | some row => exact False.elim hIdle
      | none =>
          rcases hTruthful with ⟨canonical, hId, hFound⟩
          rw [hId]
          have hAbsent :
              (tables.modifyRow canonical
                (Tables.withEmail email (verified.getD false)
                  now)).findRow canonical = none :=
            Option.map_eq_none_iff.mp hFound.symm
          exact modifyRow_absent (fun row => rfl) hAbsent
  · exact False.elim hIdle
  · rfl

/- A call that is refused executed idle statements only. -/
theorem refused_idle
    {call : IdentityCall}
    {past : Past}
    {outcome : Except HttpError IdentityReply}
    (hEnds : CallEnds call past outcome)
    (hRefused : Refused outcome) :
    ∀ answer ∈ past, Idle answer := by
  cases call with
  | link args =>
      have hPath : LinkPath args past outcome := hEnds
      cases hPath with
      | unreadable error => simp [Idle]
      | conflict existing hUser => simp [Idle]
      | retried existing row hUser =>
          cases row with
          | none => simp [Idle]
          | some row => exact False.elim hRefused
      | notRetried existing error hUser => simp [Idle]
      | inserted row => exact False.elim hRefused
      | refused => simp [Idle]
      | malformed => simp [Idle]
  | findByProviderSubject provider providerSubject =>
      rcases hEnds with ⟨result, rfl, _⟩
      simp [Idle]
  | findById id =>
      rcases hEnds with ⟨result, rfl, _⟩
      simp [Idle]
  | touchLastAuthenticated id =>
      rcases hEnds with ⟨result, rfl, hResult⟩
      cases result with
      | error error => simp [Idle]
      | ok done =>
          cases outcome with
          | error error => simp [Except.toOption] at hResult
          | ok reply =>
              simp only [Except.toOption, Option.map_some,
                Option.some.injEq] at hResult
              subst hResult
              exact False.elim hRefused

theorem refused_unmoved
    {thread : Nat}
    {outcome : Except HttpError IdentityReply}
    (hRecorded :
      IdentityRecorded start
        (later ++ .respond thread outcome :: earlier))
    (hRefused : Refused outcome) :
    Unmoved start thread earlier := by
  intro newer answer before hSplit
  rcases hRecorded.ended with ⟨call, _, hEnds⟩
  have hIdle :=
    refused_idle hEnds hRefused answer (split_of_past hSplit)
  have hTruthful := hRecorded.truthful.split.2
  rw [hSplit] at hTruthful
  exact idle_unmoved hIdle hTruthful.split.1

end KisAuth

------------------------------------------------------------
-- Links That Succeed
------------------------------------------------------------

namespace KisAuth

open Interaction

variable {start : World}
variable {history later earlier : IdentityHistory}

theorem ChangesOnly.refl
    (id : String)
    (tables : Tables) :
    ChangesOnly id tables tables :=
  ⟨fun row => row, [], by simp,
    fun row _ => ⟨⟨rfl, rfl⟩, fun _ => rfl⟩, by simp⟩

theorem modifyRow_changesOnly
    {change : AuthIdentityRow → AuthIdentityRow}
    (tables : Tables)
    (id : String)
    (hChange : ∀ row, SameRow row (change row)) :
    ChangesOnly id tables (tables.modifyRow id change) := by
  refine
    ⟨fun row => if row.id = id then change row else row, [],
      by simp [Tables.modifyRow], ?_, by simp⟩
  intro row _
  beta_reduce
  by_cases hId : row.id = id
  · constructor
    · rw [if_pos hId]
      exact hChange row
    · exact fun hOther => absurd hId hOther
  · rw [if_neg hId]
    exact ⟨⟨rfl, rfl⟩, fun _ => rfl⟩

theorem addRow_changesOnly
    (tables : Tables)
    (row : AuthIdentityRow) :
    ChangesOnly row.id tables (tables.addRow row) :=
  ⟨fun row => row, [row], by simp [Tables.addRow],
    fun row _ => ⟨⟨rfl, rfl⟩, fun _ => rfl⟩, by simp⟩

/- The statements of a link that succeeded. -/
theorem link_succeeded
    {args : NewIdentity}
    {past : Past}
    {row : AuthIdentity}
    (hPath : LinkPath args past (.ok (.linked (.ok row)))) :
    (∃ existing,
        existing.kisUserId = args.kisUserId ∧
          past =
            [updatedRow args existing (some row),
              lookedUp args (some existing)]) ∨
      past = [insertedRow args row, lookedUp args none] := by
  generalize hOutcome :
    (Except.ok (IdentityReply.linked (.ok row)) :
      Except HttpError IdentityReply) = outcome at hPath
  cases hPath with
  | unreadable error => simp at hOutcome
  | conflict existing hUser => simp at hOutcome
  | retried existing found hUser =>
      cases found with
      | none => simp at hOutcome
      | some found =>
          simp only [Except.ok.injEq, IdentityReply.linked.injEq,
            LinkResult.ok.injEq] at hOutcome
          subst hOutcome
          exact Or.inl ⟨existing, hUser, rfl⟩
  | notRetried existing error hUser => simp at hOutcome
  | inserted found =>
      simp only [Except.ok.injEq, IdentityReply.linked.injEq,
        LinkResult.ok.injEq] at hOutcome
      subst hOutcome
      exact Or.inr rfl
  | refused => simp at hOutcome
  | malformed => simp at hOutcome

/- A retried link keeps the row that it found. -/
theorem retried_kept
    {thread : Nat}
    {args : NewIdentity}
    {existing row : AuthIdentity}
    (hStart : start.tables.Sound)
    (hTruthful : Always (Truthful start) earlier)
    (hUser : existing.kisUserId = args.kisUserId)
    (hPast :
      answersOf thread earlier =
        [updatedRow args existing (some row),
          lookedUp args (some existing)]) :
    LinkKept start thread args row earlier := by
  rcases exists_split_of_answersOf hPast with
    ⟨newer, middle, hSplit, hMiddle⟩
  rcases exists_split_of_answersOf hMiddle with
    ⟨between, older, rfl, _⟩
  have hUpdate := hTruthful
  rw [hSplit] at hUpdate
  have hHeld := looked_up_held hStart hUpdate.split.2
  have hSound := tables_invariant hStart hUpdate.split.2
  rcases hHeld.updated hSound hUpdate.split.1 with
    ⟨stored, hStored, hBinding, kept, hKept, hRow⟩
  rw [Option.some.injEq] at hStored
  subst hStored
  have hSameId : row.id = existing.id :=
    congrArg IdentityBinding.id hBinding
  constructor
  · rw [← hHeld.provider]
    exact congrArg IdentityBinding.provider hBinding
  · rw [← hHeld.providerSubject]
    exact congrArg IdentityBinding.providerSubject hBinding
  · rw [← hUser, hHeld.user]
    exact
      congrArg (fun binding => some binding.kisUserId)
        hBinding.symm
  · rcases
        @row_kept start
          (.answer thread
              (updatedRow args existing (some row)) ::
            (between ++
              .answer thread
                  (lookedUp args (some existing)) ::
                older)) newer kept hKept with
      ⟨last, hLast, hSame⟩
    rw [← hSplit] at hLast
    exact ⟨last, hLast, hSame.trans (by rw [hRow])⟩
  · intro later answer before hPosition
    have hMem := split_of_past hPosition
    rw [hPast] at hMem
    simp only [List.mem_cons, List.not_mem_nil,
      or_false] at hMem
    rcases hMem with rfl | rfl
    · simp only [tablesAt, applied, statementApplied,
        hHeld.id]
      rw [hSameId]
      exact
        modifyRow_changesOnly _ _ (fun row => ⟨rfl, rfl⟩)
    · exact ChangesOnly.refl row.id _

/- A first link stores its row. -/
theorem inserted_kept
    {thread : Nat}
    {args : NewIdentity}
    {row : AuthIdentity}
    (hTruthful : Always (Truthful start) earlier)
    (hPast :
      answersOf thread earlier =
        [insertedRow args row, lookedUp args none]) :
    LinkKept start thread args row earlier := by
  rcases exists_split_of_answersOf hPast with
    ⟨newer, older, hSplit, _⟩
  have hInsert := hTruthful
  rw [hSplit] at hInsert
  rcases inserted_row hInsert.split.1 with
    ⟨hProvider, hSubject, hUser, kept, hKept, hRow⟩
  constructor
  · exact hProvider
  · exact hSubject
  · exact hUser
  · rcases row_kept newer hKept with
      ⟨last, hLast, hSame⟩
    rw [← hSplit] at hLast
    exact ⟨last, hLast, hSame.trans (by rw [hRow])⟩
  · intro later answer before hPosition
    have hMem := split_of_past hPosition
    rw [hPast] at hMem
    simp only [List.mem_cons, List.not_mem_nil,
      or_false] at hMem
    rcases hMem with rfl | rfl
    · exact addRow_changesOnly _ _
    · exact ChangesOnly.refl row.id _

theorem linked_kept
    {thread : Nat}
    {args : NewIdentity}
    {row : AuthIdentity}
    (hStart : start.tables.Sound)
    (hRecorded :
      IdentityRecorded start
        (later ++
          .respond thread (.ok (.linked (.ok row))) ::
            earlier))
    (hArrive : Entry.arrive thread (.link args) ∈ earlier) :
    LinkKept start thread args row earlier := by
  rcases hRecorded.ended with ⟨call, hCall, hEnds⟩
  have hSame :=
    arrive_unique_of_always hRecorded.conforms.split.2 hCall
      hArrive
  subst hSame
  have hTruthful := hRecorded.truthful.split.2
  rcases link_succeeded hEnds with
    ⟨existing, hUser, hPast⟩ | hPast
  · exact retried_kept hStart hTruthful hUser hPast
  · exact inserted_kept hTruthful hPast

end KisAuth

------------------------------------------------------------
-- The Table Over A Whole Run
------------------------------------------------------------

namespace KisAuth

open Interaction

variable {P : Platform} {cfg : KisAuthConfig}

/-
  Under any interleaving of the calls, statement by
  statement, the table is a one-to-one map that only grows.
-/
theorem identity_map (run : IdentityRun P cfg) :
    AppendOnlyMap run.start run.state.world
      run.history := by
  have hStart : run.start.tables.Sound :=
    ⟨run.typed, run.oneToOne⟩
  have hRecorded := run.recorded
  have hTables := run.follows.1.tables
  have hLinked :
      ∀ later thread row earlier,
        run.history =
            later ++
              .respond thread (.ok (.linked (.ok row))) ::
                earlier →
          ∃ args, LinkKept run.start thread args row
            earlier := by
    intro later thread row earlier hSplit
    rw [hSplit] at hRecorded
    rcases hRecorded.ended with ⟨call, hCall, hEnds⟩
    cases call with
    | link args =>
        exact ⟨args, linked_kept hStart hRecorded hCall⟩
    | findByProviderSubject provider providerSubject =>
        rcases hEnds with ⟨result, _, hResult⟩
        cases result with
        | ok found => simp [Except.toOption] at hResult
        | error error => simp [Except.toOption] at hResult
    | findById id =>
        rcases hEnds with ⟨result, _, hResult⟩
        cases result with
        | ok found => simp [Except.toOption] at hResult
        | error error => simp [Except.toOption] at hResult
    | touchLastAuthenticated id =>
        rcases hEnds with ⟨result, _, hResult⟩
        cases result with
        | ok done => simp [Except.toOption] at hResult
        | error error => simp [Except.toOption] at hResult
  constructor
  · exact hTables
  · rw [hTables]
    exact
      (tables_invariant hStart hRecorded.truthful).oneToOne
  · apply always_of_split
    intro later entry earlier _
    exact entry_keeps entry earlier
  · apply always_of_split
    rintro later entry earlier hSplit thread outcome rfl
      hRefused
    rw [hSplit] at hRecorded
    exact refused_unmoved hRecorded hRefused
  · apply always_of_split
    rintro later entry earlier hSplit thread args row rfl
      hArrive
    rw [hSplit] at hRecorded
    exact linked_kept hStart hRecorded hArrive
  · intro thread row hRespond
    rcases List.append_of_mem hRespond with
      ⟨later, earlier, hSplit⟩
    rcases hLinked later thread row earlier hSplit with
      ⟨args, hKept⟩
    rcases hKept.stored with ⟨kept, hMem, hBinding⟩
    rcases
        row_kept
          (later ++
            [.respond thread (.ok (.linked (.ok row)))])
          hMem with
      ⟨last, hLast, hSame⟩
    rw [List.append_assoc] at hLast
    rw [hTables, hSplit]
    exact ⟨last, hLast, hSame.trans hBinding⟩

end KisAuth
