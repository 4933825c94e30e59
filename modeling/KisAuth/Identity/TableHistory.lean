import KisAuth.Identity.IdentityRuns
import KisAuth.Service.Answers

/-
  What a history of identity calls makes of the table.

  The two unique constraints hold at every moment, and a row
  once stored is in the table with its binding from then on.
  So a row that a call has found is there when the call
  updates it.

  Key definitions include:
    * `SameRow`, `EntryKeeps`, `Tables.Sound`
    * `lookedUp`, `updatedRow`, `insertedRow`, `Held`

  Key theorems include:
    * `tables_invariant`, `row_kept`
    * `looked_up_held`, `Held.updated`, `inserted_row`
-/

------------------------------------------------------------
-- What A Step Keeps
------------------------------------------------------------

namespace KisAuth

open Interaction

/-
  A row with the same id, pair, user and status. Its e-mail
  fields and time of authentication may differ.
-/
def SameRow (row row' : AuthIdentityRow) : Prop :=
  row'.toAuthIdentity.binding = row.toAuthIdentity.binding ∧
    row'.status = row.status

/-
  Every row is kept with its binding, and a call keeps its
  status as well.
-/
def EntryKeeps
    (start : World)
    (entry : IdentityEntry)
    (earlier : IdentityHistory) : Prop :=
  ∀ row ∈ (tablesAt start earlier).identities,
    ∃ row' ∈ (tablesAt start (entry :: earlier)).identities,
      row'.toAuthIdentity.binding =
          row.toAuthIdentity.binding ∧
        ((∃ thread, entry.about = some thread) →
          row'.status = row.status)

end KisAuth

------------------------------------------------------------
-- The Constraints Hold
------------------------------------------------------------

namespace KisAuth

open Interaction

variable {start : World}
variable {history later earlier : IdentityHistory}

/- What a change keeps of each row it keeps of the table. -/
theorem map_modifyRow
    {β : Type}
    (tables : Tables)
    (id : String)
    {change : AuthIdentityRow → AuthIdentityRow}
    {f : AuthIdentityRow → β}
    (hChange : ∀ row, f (change row) = f row) :
    (tables.modifyRow id change).identities.map f =
      tables.identities.map f := by
  unfold Tables.modifyRow
  rw [List.map_map]
  apply List.map_congr_left
  intro row _
  by_cases hId : row.id = id
  · simp [hId, hChange row]
  · simp [hId]

/- What the constraints and the types say about the rows. -/
structure Tables.Sound (tables : Tables) : Prop where
  typed : tables.Typed
  oneToOne : tables.OneToOne

theorem Tables.Sound.modifyRow
    {tables : Tables}
    (hSound : tables.Sound)
    (id : String)
    {change : AuthIdentityRow → AuthIdentityRow}
    (hChange :
      ∀ row,
        (change row).toAuthIdentity.binding =
          row.toAuthIdentity.binding) :
    (tables.modifyRow id change).Sound := by
  have hId : ∀ row, (change row).id = row.id :=
    fun row => congrArg IdentityBinding.id (hChange row)
  have hUser :
      ∀ row, (change row).kisUserId = row.kisUserId :=
    fun row => congrArg IdentityBinding.kisUserId (hChange row)
  have hPair :
      ∀ row : AuthIdentityRow,
        (change row).toAuthIdentity.pair =
          row.toAuthIdentity.pair :=
    fun row =>
      congrArg
        (fun binding : IdentityBinding =>
          (binding.provider, binding.providerSubject))
        (hChange row)
  constructor
  · constructor
    · rw [map_modifyRow tables id hId]
      exact hSound.typed.ids
    · intro row hRow
      unfold Tables.modifyRow at hRow
      rcases List.mem_map.mp hRow with ⟨old, hOld, rfl⟩
      have hCanonical := hSound.typed.canonical old hOld
      by_cases hSame : old.id = id
      · rw [if_pos hSame, hId, hUser]
        exact hCanonical
      · rw [if_neg hSame]
        exact hCanonical
  · constructor
    · rw [map_modifyRow tables id hPair]
      exact hSound.oneToOne.pairs
    · rw [map_modifyRow tables id hUser]
      exact hSound.oneToOne.users

/- A new element keeps a list without duplicates. -/
theorem nodup_map_append_singleton
    {α β : Type}
    {f : α → β}
    {items : List α}
    {item : α}
    (hNodup : (items.map f).Nodup)
    (hNew : ∀ other ∈ items, f other ≠ f item) :
    ((items ++ [item]).map f).Nodup := by
  rw [List.map_append, List.nodup_append]
  refine ⟨hNodup, by simp, ?_⟩
  intro value hValue other hOther
  rcases List.mem_map.mp hValue with ⟨old, hOld, rfl⟩
  simp only [List.map_cons, List.map_nil,
    List.mem_singleton] at hOther
  rw [hOther]
  exact hNew old hOld

/- An insert that is accepted keeps the constraints. -/
theorem Tables.Sound.addRow
    {tables : Tables}
    {args accepted : NewIdentity}
    {id : String}
    {now : Nat}
    (hSound : tables.Sound)
    (hCheck : tables.checkInsert args = .ok accepted)
    (hId : uuidIn id = some id)
    (hFresh : ∀ other ∈ tables.identities, other.id ≠ id) :
    (tables.addRow (Tables.newRow accepted id now)).Sound := by
  rcases checkInsert_spec hCheck with
    ⟨_, _, hUser, hConflict⟩
  have hFree :
      ∀ other ∈ tables.identities,
        other.toAuthIdentity.pair ≠
            (accepted.provider, accepted.providerSubject) ∧
          other.kisUserId ≠ accepted.kisUserId := by
    intro other hOther
    unfold Tables.conflicts at hConflict
    have hNone := List.any_eq_false.mp hConflict other hOther
    simp only [Bool.or_eq_true, Bool.and_eq_true, beq_iff_eq,
      not_or, not_and] at hNone
    constructor
    · intro hPair
      simp only [AuthIdentity.pair, Prod.mk.injEq] at hPair
      exact hNone.1 hPair.1 hPair.2
    · exact hNone.2
  constructor
  · constructor
    · exact
        nodup_map_append_singleton hSound.typed.ids hFresh
    · intro row hRow
      rcases List.mem_append.mp hRow with hOld | hNew
      · exact hSound.typed.canonical row hOld
      · rw [List.mem_singleton] at hNew
        subst hNew
        exact ⟨hId, uuidIn_canonical hUser⟩
  · constructor
    · exact
        nodup_map_append_singleton hSound.oneToOne.pairs
          (fun other hOther => (hFree other hOther).1)
    · exact
        nodup_map_append_singleton hSound.oneToOne.users
          (fun other hOther => (hFree other hOther).2)

/- A truthful entry keeps the constraints. -/
theorem applied_sound
    {tables : Tables}
    {now : Nat}
    {answer : Answer Eff Eff.Res}
    (hSound : tables.Sound)
    (hTruthful : TruthfulAnswer now tables answer) :
    (statementApplied now tables answer).Sound := by
  unfold statementApplied
  split
  · next args row =>
      rcases hTruthful with
        ⟨accepted, id, hCheck, rfl, hId, hFresh⟩
      exact hSound.addRow hCheck hId hFresh
  · split
    · exact hSound.modifyRow _ (fun row => rfl)
    · exact hSound
  · split
    · exact hSound.modifyRow _ (fun row => rfl)
    · exact hSound
  · exact hSound

/- The constraints hold at every moment. -/
theorem tables_invariant
    (hStart : start.tables.Sound)
    (hTruthful : Always (Truthful start) history) :
    (tablesAt start history).Sound := by
  induction history with
  | nil => exact hStart
  | cons entry earlier ih =>
      have hSound := ih hTruthful.2
      cases entry with
      | arrive thread call => exact hSound
      | respond thread outcome => exact hSound
      | answer thread answer =>
          exact applied_sound hSound hTruthful.1
      | env op =>
          cases op with
          | tick milliseconds => exact hSound
          | setIdentityStatus id status =>
              exact hSound.modifyRow id (fun row => rfl)
          | setClient clientId client =>
              exact ⟨⟨hSound.typed.ids,
                hSound.typed.canonical⟩,
                ⟨hSound.oneToOne.pairs,
                  hSound.oneToOne.users⟩⟩

end KisAuth

------------------------------------------------------------
-- Rows Are Kept
------------------------------------------------------------

namespace KisAuth

open Interaction

variable {start : World}
variable {history later earlier : IdentityHistory}

/- A modified table has each old row, changed or not. -/
theorem mem_modifyRow
    {tables : Tables}
    {row : AuthIdentityRow}
    (id : String)
    (change : AuthIdentityRow → AuthIdentityRow)
    (hRow : row ∈ tables.identities) :
    (if row.id = id then change row else row) ∈
      (tables.modifyRow id change).identities :=
  List.mem_map_of_mem hRow

/- A statement keeps every row with binding and status. -/
theorem statementApplied_keeps
    {tables : Tables}
    {now : Nat}
    {answer : Answer Eff Eff.Res}
    {row : AuthIdentityRow}
    (hRow : row ∈ tables.identities) :
    ∃ row' ∈ (statementApplied now tables answer).identities,
      SameRow row row' := by
  have hModified :
      ∀ id (change : AuthIdentityRow → AuthIdentityRow),
        (∀ row, SameRow row (change row)) →
          ∃ row' ∈ (tables.modifyRow id change).identities,
            SameRow row row' := by
    intro id change hChange
    refine ⟨_, mem_modifyRow id change hRow, ?_⟩
    by_cases hId : row.id = id
    · rw [if_pos hId]
      exact hChange row
    · rw [if_neg hId]
      exact ⟨rfl, rfl⟩
  have hSame :
      ∃ row' ∈ tables.identities, SameRow row row' :=
    ⟨row, hRow, rfl, rfl⟩
  unfold statementApplied
  split
  · exact
      ⟨row, List.mem_append_left _ hRow, rfl, rfl⟩
  · split
    · exact hModified _ _ (fun row => ⟨rfl, rfl⟩)
    · exact hSame
  · split
    · exact hModified _ _ (fun row => ⟨rfl, rfl⟩)
    · exact hSame
  · exact hSame

theorem entry_keeps
    (entry : IdentityEntry)
    (earlier : IdentityHistory) :
    EntryKeeps start entry earlier := by
  intro row hRow
  have hSame :
      ∃ row' ∈ (tablesAt start earlier).identities,
        row'.toAuthIdentity.binding =
            row.toAuthIdentity.binding ∧
          ((∃ thread, entry.about = some thread) →
            row'.status = row.status) :=
    ⟨row, hRow, rfl, fun _ => rfl⟩
  cases entry with
  | arrive thread call => exact hSame
  | respond thread outcome => exact hSame
  | answer thread answer =>
      rcases statementApplied_keeps hRow with
        ⟨row', hRow', hBinding, hStatus⟩
      exact ⟨row', hRow', hBinding, fun _ => hStatus⟩
  | env op =>
      cases op with
      | tick milliseconds => exact hSame
      | setClient clientId client => exact hSame
      | setIdentityStatus id status =>
          refine
            ⟨_, mem_modifyRow id (Tables.withStatus status)
              hRow, ?_, ?_⟩
          · by_cases hId : row.id = id
            · rw [if_pos hId]
              rfl
            · rw [if_neg hId]
          · rintro ⟨thread, hAbout⟩
            simp [Entry.about] at hAbout

/- A row of any moment is in the table from then on. -/
theorem row_kept
    (later : IdentityHistory)
    {row : AuthIdentityRow}
    (hRow : row ∈ (tablesAt start earlier).identities) :
    ∃ kept ∈ (tablesAt start (later ++ earlier)).identities,
      kept.toAuthIdentity.binding =
        row.toAuthIdentity.binding := by
  induction later with
  | nil => exact ⟨row, hRow, rfl⟩
  | cons entry later ih =>
      rcases ih with ⟨kept, hKept, hBinding⟩
      rcases entry_keeps entry (later ++ earlier) kept hKept
        with ⟨row', hRow', hSame, _⟩
      exact ⟨row', hRow', hSame.trans hBinding⟩

end KisAuth

------------------------------------------------------------
-- Rows That Calls Find
------------------------------------------------------------

namespace KisAuth

open Interaction

variable {start : World}
variable {history later earlier : IdentityHistory}

/- The position of an answer a thread received. -/
theorem split_of_past
    {thread : Nat}
    {answer : Answer Eff Eff.Res}
    {before : IdentityHistory}
    (hSplit :
      history = later ++ .answer thread answer :: before) :
    answer ∈ answersOf thread history := by
  rw [mem_answersOf_iff, hSplit]
  exact List.mem_append_right _ List.mem_cons_self

/- How an ended call went. -/
theorem IdentityRecorded.ended
    {thread : Nat}
    {outcome : Except HttpError IdentityReply}
    (hRecorded :
      IdentityRecorded start
        (later ++ .respond thread outcome :: earlier)) :
    ∃ call,
      Entry.arrive thread call ∈ earlier ∧
        CallEnds call (answersOf thread earlier) outcome :=
  hRecorded.ends.split.1

/- A row is found by its canonical id. -/
theorem selectIdentity_row
    {tables : Tables}
    {provider providerSubject : String}
    {identity : AuthIdentity}
    (hSelect :
      tables.selectIdentity provider providerSubject =
        .ok (some identity)) :
    ∃ row ∈ tables.identities,
      row.toAuthIdentity = identity ∧
        row.provider = provider ∧
        row.providerSubject = providerSubject := by
  unfold Tables.selectIdentity at hSelect
  split at hSelect
  · simp only [Except.ok.injEq] at hSelect
    rcases Option.map_eq_some_iff.mp hSelect with
      ⟨row, hFound, hRow⟩
    have hTest := List.find?_some hFound
    simp only [Bool.and_eq_true, beq_iff_eq] at hTest
    exact
      ⟨row, List.mem_of_find?_eq_some hFound, hRow, hTest.1,
        hTest.2⟩
  · simp at hSelect

/- Rows with one id are one row. -/
theorem row_unique
    {tables : Tables}
    {row other : AuthIdentityRow}
    (hTyped : tables.Typed)
    (hRow : row ∈ tables.identities)
    (hOther : other ∈ tables.identities)
    (hId : row.id = other.id) :
    row = other :=
  List.inj_on_of_nodup_map hTyped.ids hRow hOther hId

/- The answer of a call's lookup. -/
abbrev lookedUp
    (args : NewIdentity)
    (found : Option AuthIdentity) : Answer Eff Eff.Res :=
  ⟨.selectIdentity args.provider args.providerSubject,
    .ok found⟩

/- The answer of its update of the row that was found. -/
abbrev updatedRow
    (args : NewIdentity)
    (existing : AuthIdentity)
    (found : Option AuthIdentity) : Answer Eff Eff.Res :=
  ⟨.updateIdentity args.providerEmail
      args.providerEmailVerified existing.id,
    .ok found⟩

/- A row for the pair, which the table still has. -/
structure Held
    (tables : Tables)
    (args : NewIdentity)
    (existing : AuthIdentity) : Prop where
  id : uuidIn existing.id = some existing.id
  user :
    uuidIn existing.kisUserId = some existing.kisUserId
  provider : existing.provider = args.provider
  providerSubject :
    existing.providerSubject = args.providerSubject
  kept :
    ∃ kept ∈ tables.identities,
      kept.toAuthIdentity.binding = existing.binding

/-
  A row that was found stays in the table, whatever other
  calls come in between.
-/
theorem looked_up_held
    {between older : IdentityHistory}
    {thread : Nat}
    {args : NewIdentity}
    {existing : AuthIdentity}
    (hStart : start.tables.Sound)
    (hTruthful :
      Always (Truthful start)
        (between ++
          .answer thread (lookedUp args (some existing)) ::
            older)) :
    Held
      (tablesAt start
        (between ++
          .answer thread (lookedUp args (some existing)) ::
            older))
      args existing := by
  have hLookup := hTruthful.split
  have hOlder := tables_invariant hStart hLookup.2
  rcases selectIdentity_row hLookup.1.symm with
    ⟨found, hMem, rfl, hProvider, hSubject⟩
  have hCanonical := hOlder.typed.canonical found hMem
  exact
    { id := hCanonical.1
      user := hCanonical.2
      provider := hProvider
      providerSubject := hSubject
      kept := row_kept between hMem }

/- The update of a row that the table still has. -/
theorem Held.updated
    {tables : Tables}
    {now : Nat}
    {args : NewIdentity}
    {existing : AuthIdentity}
    {found : Option AuthIdentity}
    (hHeld : Held tables args existing)
    (hSound : tables.Sound)
    (hTruthful :
      TruthfulAnswer now tables
        (updatedRow args existing found)) :
    ∃ row,
      found = some row ∧
        row.binding = existing.binding ∧
        ∃ kept ∈
            (statementApplied now tables
              (updatedRow args existing found)).identities,
          kept.toAuthIdentity = row := by
  have hAfter := applied_sound hSound hTruthful
  rcases hTruthful with ⟨canonical, hId, hFound⟩
  have hSameId : canonical = existing.id := by
    rw [hHeld.id] at hId
    exact (Option.some.inj hId).symm
  subst hSameId
  rcases hHeld.kept with ⟨kept, hKept, hBinding⟩
  have hKeptId : kept.id = existing.id :=
    congrArg IdentityBinding.id hBinding
  have hChanged :=
    mem_modifyRow existing.id
      (Tables.withEmail args.providerEmail
        (args.providerEmailVerified.getD false) now) hKept
  rw [if_pos hKeptId] at hChanged
  simp only [statementApplied, hHeld.id] at hAfter ⊢
  cases hFind :
      (tables.modifyRow existing.id
        (Tables.withEmail args.providerEmail
          (args.providerEmailVerified.getD false)
          now)).findRow existing.id with
  | none =>
      have hAbsent := List.find?_eq_none.mp hFind _ hChanged
      exact
        absurd hKeptId
          (by simpa [Tables.withEmail] using hAbsent)
  | some full =>
      rw [hFind] at hFound
      have hFull := List.mem_of_find?_eq_some hFind
      have hFullId : full.id = existing.id := by
        simpa using List.find?_some hFind
      have hSame :=
        row_unique hAfter.typed hFull hChanged
          (hFullId.trans hKeptId.symm)
      refine
        ⟨full.toAuthIdentity, hFound, ?_, full, hFull, rfl⟩
      rw [hSame]
      exact hBinding

/- The answer of a call's insert that was accepted. -/
abbrev insertedRow
    (args : NewIdentity)
    (row : AuthIdentity) : Answer Eff Eff.Res :=
  ⟨.insertIdentity args, .ok row⟩

/- An accepted insert stores what was to be linked. -/
theorem inserted_row
    {thread : Nat}
    {args : NewIdentity}
    {row : AuthIdentity}
    (hTruthful :
      Truthful start (.answer thread (insertedRow args row))
        earlier) :
    row.provider = args.provider ∧
      row.providerSubject = args.providerSubject ∧
      uuidIn args.kisUserId = some row.kisUserId ∧
      ∃ kept ∈
          (tablesAt start
            (.answer thread (insertedRow args row) ::
              earlier)).identities,
        kept.toAuthIdentity = row := by
  rcases hTruthful with ⟨accepted, id, hCheck, rfl, _, _⟩
  rcases checkInsert_spec hCheck with
    ⟨hProvider, hSubject, hUser, _⟩
  exact
    ⟨hProvider, hSubject, hUser, _,
      List.mem_append_right _ List.mem_cons_self, rfl⟩

end KisAuth
