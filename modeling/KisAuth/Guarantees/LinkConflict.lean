import KisAuth.Identity.TableHistory

/-
  When a link is answered with a conflict.

  A link is refused where its pair or its user is bound
  otherwise at some moment of the call. It is also refused
  where another call binds the very same pair and user
  between its two statements: the losing call of such a race
  is told of a conflict, and succeeds when it is retried.

  Key definitions include:
    * `ConflictAt`, `Overtaken`, `Storable`
    * `LinkSettled`, `OnlyRealConflicts`

  Key theorems include:
    * `link_settled`
    * `conflict_without_cause`
-/

------------------------------------------------------------
-- Conflicts
------------------------------------------------------------

namespace KisAuth

open Interaction

/- The pair a call links. -/
def NewIdentity.pair (args : NewIdentity) : String × String :=
  (args.provider, args.providerSubject)

/- The pair is bound to the user. -/
def BoundAt (tables : Tables) (args : NewIdentity) : Prop :=
  ∃ row ∈ tables.identities,
    row.toAuthIdentity.pair = args.pair ∧
      uuidIn args.kisUserId = some row.kisUserId

/-
  The pair is bound to a different user, or the user is
  bound to a different pair.
-/
def ConflictAt
    (tables : Tables)
    (args : NewIdentity) : Prop :=
  ∃ row ∈ tables.identities,
    (row.toAuthIdentity.pair = args.pair ∧
        uuidIn args.kisUserId ≠ some row.kisUserId) ∨
      (row.toAuthIdentity.pair ≠ args.pair ∧
        uuidIn args.kisUserId = some row.kisUserId)

instance (tables : Tables) (args : NewIdentity) :
    Decidable (ConflictAt tables args) :=
  inferInstanceAs
    (Decidable
      (∃ row ∈ tables.identities,
        (row.toAuthIdentity.pair = args.pair ∧
            uuidIn args.kisUserId ≠ some row.kisUserId) ∨
          (row.toAuthIdentity.pair ≠ args.pair ∧
            uuidIn args.kisUserId = some row.kisUserId)))

/- A moment of a link call, given what happened until now. -/
def MomentOf
    (thread : Nat)
    (args : NewIdentity)
    (now moment : IdentityHistory) : Prop :=
  moment <:+ now ∧
    Entry.arrive thread (.link args) ∈ moment

/- A link call met a conflict at one of its moments. -/
def RealConflict
    (start : World)
    (thread : Nat)
    (args : NewIdentity)
    (now : IdentityHistory) : Prop :=
  ∃ moment,
    MomentOf thread args now moment ∧
      ConflictAt (tablesAt start moment) args

/- The answer of an insert that met a unique constraint. -/
abbrev refusedRow (args : NewIdentity) : Answer Eff Eff.Res :=
  ⟨.insertIdentity args, .error .uniqueViolation⟩

/-
  Between the two statements of a link call another call
  inserted a row that binds the same pair to the same user.
-/
def Overtaken
    (thread : Nat)
    (args : NewIdentity)
    (now : IdentityHistory) : Prop :=
  ∃ newer between older other args' row,
    now =
        newer ++
          .answer thread (refusedRow args) ::
            (between ++
              .answer thread (lookedUp args none) ::
                older) ∧
      other ≠ thread ∧
      Entry.answer other (insertedRow args' row) ∈ between ∧
      row.pair = args.pair ∧
      uuidIn args.kisUserId = some row.kisUserId

/- The database can store what is to be linked. -/
def Storable (args : NewIdentity) : Prop :=
  validText args.provider = true ∧
    validText args.providerSubject = true ∧
    args.providerEmail.all validText = true ∧
    args.providerEmailVerified.isSome = true ∧
    (uuidIn args.kisUserId).isSome = true

/-
  How a link call is answered. A user id that is not in the
  canonical form is left out of the account where the pair
  is bound to that user already.
-/
structure LinkSettled
    (start : World)
    (thread : Nat)
    (args : NewIdentity)
    (outcome : Except HttpError IdentityReply)
    (now : IdentityHistory) : Prop where
  conflict :
    outcome = .ok (.linked .alreadyLinked) →
      RealConflict start thread args now ∨
        Overtaken thread args now ∨
          (uuidIn args.kisUserId ≠ some args.kisUserId ∧
            ∃ moment,
              MomentOf thread args now moment ∧
                BoundAt (tablesAt start moment) args)
  completes :
    Storable args → ∃ result, outcome = .ok (.linked result)
  retried :
    ∀ newer before row,
      now = newer ++ .arrive thread (.link args) :: before →
        row ∈ (tablesAt start before).identities →
          row.toAuthIdentity.pair = args.pair →
            row.kisUserId = args.kisUserId →
              Storable args →
                ∃ kept,
                  outcome = .ok (.linked (.ok kept)) ∧
                    kept.id = row.id

/- Every refusal is due to a conflict during the call. -/
def OnlyRealConflicts
    (start : World)
    (history : IdentityHistory) : Prop :=
  Always
    (fun entry earlier =>
      ∀ thread args,
        entry = .respond thread (.ok (.linked .alreadyLinked)) →
          Entry.arrive thread (.link args) ∈ earlier →
            RealConflict start thread args earlier)
    history

end KisAuth

------------------------------------------------------------
-- Rows Come From Inserts
------------------------------------------------------------

namespace KisAuth

open Interaction

variable {start : World}
variable {history later earlier : IdentityHistory}

/- A row of a modified table is an old row, changed or not. -/
theorem modifyRow_origin
    {tables : Tables}
    {id : String}
    {change : AuthIdentityRow → AuthIdentityRow}
    {row : AuthIdentityRow}
    (hChange :
      ∀ row,
        (change row).toAuthIdentity.binding =
          row.toAuthIdentity.binding)
    (hRow : row ∈ (tables.modifyRow id change).identities) :
    ∃ old ∈ tables.identities,
      old.toAuthIdentity.binding =
        row.toAuthIdentity.binding := by
  unfold Tables.modifyRow at hRow
  rcases List.mem_map.mp hRow with ⟨old, hOld, rfl⟩
  refine ⟨old, hOld, ?_⟩
  by_cases hId : old.id = id
  · rw [if_pos hId, hChange]
  · rw [if_neg hId]

/- A row is in the table before a step, or the step adds it. -/
theorem applied_origin
    {tables : Tables}
    {now : Nat}
    {entry : IdentityEntry}
    {row : AuthIdentityRow}
    (hRow : row ∈ (applied now tables entry).identities) :
    (∃ old ∈ tables.identities,
        old.toAuthIdentity.binding =
          row.toAuthIdentity.binding) ∨
      ∃ thread args,
        entry =
          .answer thread (insertedRow args
            row.toAuthIdentity) := by
  have hModified :
      ∀ id (change : AuthIdentityRow → AuthIdentityRow),
        row ∈ (tables.modifyRow id change).identities →
        (∀ row,
          (change row).toAuthIdentity.binding =
            row.toAuthIdentity.binding) →
          (∃ old ∈ tables.identities,
              old.toAuthIdentity.binding =
                row.toAuthIdentity.binding) ∨
            ∃ thread args,
              entry =
                .answer thread (insertedRow args
                  row.toAuthIdentity) :=
    fun id change hMem hChange =>
      Or.inl (modifyRow_origin hChange hMem)
  have hSame :
      row ∈ tables.identities →
        (∃ old ∈ tables.identities,
            old.toAuthIdentity.binding =
              row.toAuthIdentity.binding) ∨
          ∃ thread args,
            entry =
              .answer thread (insertedRow args
                row.toAuthIdentity) :=
    fun hMem => Or.inl ⟨row, hMem, rfl⟩
  unfold applied at hRow
  split at hRow
  · next thread answer =>
      unfold statementApplied at hRow
      split at hRow
      · next args stored =>
          rcases List.mem_append.mp hRow with hOld | hNew
          · exact hSame hOld
          · rw [List.mem_singleton] at hNew
            subst hNew
            exact Or.inr ⟨thread, args, rfl⟩
      · split at hRow
        · exact hModified _ _ hRow (fun row => rfl)
        · exact hSame hRow
      · split at hRow
        · exact hModified _ _ hRow (fun row => rfl)
        · exact hSame hRow
      · exact hSame hRow
  · exact hModified _ _ hRow (fun row => rfl)
  · exact hSame hRow
  · exact hSame hRow

/- A row that was not in the table was inserted since. -/
theorem inserted_since
    {between older : IdentityHistory}
    {row : AuthIdentityRow}
    (hRow :
      row ∈ (tablesAt start (between ++ older)).identities)
    (hNew :
      ∀ old ∈ (tablesAt start older).identities,
        old.toAuthIdentity.binding ≠
          row.toAuthIdentity.binding) :
    ∃ thread args stored,
      Entry.answer thread (insertedRow args stored) ∈
          between ∧
        stored.binding = row.toAuthIdentity.binding := by
  induction between generalizing row with
  | nil => exact absurd rfl (hNew row hRow)
  | cons entry between ih =>
      rcases applied_origin hRow with
        ⟨old, hOld, hBinding⟩ | ⟨thread, args, rfl⟩
      · rcases
            ih hOld
              (fun other hOther hSame =>
                hNew other hOther (hSame.trans hBinding))
          with ⟨thread, args, stored, hMem, hStored⟩
        exact
          ⟨thread, args, stored,
            List.mem_cons_of_mem _ hMem,
            hStored.trans hBinding⟩
      · exact
          ⟨thread, args, row.toAuthIdentity,
            List.mem_cons_self, rfl⟩

end KisAuth

------------------------------------------------------------
-- Refused Links
------------------------------------------------------------

namespace KisAuth

open Interaction

variable {start : World}
variable {history later earlier : IdentityHistory}

/- A lookup without a result: the pair is not bound. -/
theorem unbound_of_select
    {tables : Tables}
    {args : NewIdentity}
    (hSelect :
      tables.selectIdentity args.provider
          args.providerSubject =
        .ok none) :
    ∀ row ∈ tables.identities,
      row.toAuthIdentity.pair ≠ args.pair := by
  intro row hRow hPair
  unfold Tables.selectIdentity at hSelect
  split at hSelect
  · simp only [Except.ok.injEq, Option.map_eq_none_iff]
      at hSelect
    have hTest := List.find?_eq_none.mp hSelect row hRow
    simp only [AuthIdentity.pair, NewIdentity.pair,
      Prod.mk.injEq] at hPair
    simp [hPair.1, hPair.2] at hTest
  · simp at hSelect

/- A row that an insert met is a conflict or the same row. -/
theorem met_of_refused
    {tables : Tables}
    {args : NewIdentity}
    (hCheck :
      tables.checkInsert args = .error .uniqueViolation) :
    ConflictAt tables args ∨ BoundAt tables args := by
  unfold Tables.checkInsert at hCheck
  split at hCheck
  · cases hUser : uuidIn args.kisUserId with
    | none => simp [hUser] at hCheck
    | some user =>
        simp only [hUser] at hCheck
        split at hCheck
        · next hConflict =>
            unfold Tables.conflicts at hConflict
            rcases List.any_eq_true.mp hConflict with
              ⟨row, hRow, hMet⟩
            simp only [Bool.or_eq_true, Bool.and_eq_true,
              beq_iff_eq] at hMet
            by_cases hPair :
                row.toAuthIdentity.pair = args.pair
            · by_cases hSame : user = row.kisUserId
              · exact
                  Or.inr
                    ⟨row, hRow, hPair, by rw [hUser, hSame]⟩
              · refine Or.inl ⟨row, hRow, Or.inl ⟨hPair, ?_⟩⟩
                rw [hUser, ne_eq, Option.some.injEq]
                exact hSame
            · refine Or.inl ⟨row, hRow, Or.inr ⟨hPair, ?_⟩⟩
              rcases hMet with ⟨hProvider, hSubject⟩ | hSame
              · exact
                  absurd (Prod.ext hProvider hSubject) hPair
              · rw [hUser, hSame]
        · simp at hCheck
  · simp at hCheck

/- The row that stands against a retry. -/
theorem met_of_conflict
    {tables : Tables}
    {args : NewIdentity}
    {existing : AuthIdentity}
    (hSelect :
      tables.selectIdentity args.provider
          args.providerSubject =
        .ok (some existing))
    (hUser : existing.kisUserId ≠ args.kisUserId) :
    ConflictAt tables args ∨
      (uuidIn args.kisUserId ≠ some args.kisUserId ∧
        BoundAt tables args) := by
  rcases selectIdentity_row hSelect with
    ⟨row, hRow, rfl, hProvider, hSubject⟩
  have hPair : row.toAuthIdentity.pair = args.pair :=
    Prod.ext hProvider hSubject
  by_cases hSame :
      uuidIn args.kisUserId = some row.kisUserId
  · refine Or.inr ⟨?_, row, hRow, hPair, hSame⟩
    rw [hSame, ne_eq, Option.some.injEq]
    exact hUser
  · exact Or.inl ⟨row, hRow, Or.inl ⟨hPair, hSame⟩⟩

/- The call of a thread is older than its statements. -/
theorem arrived_before
    {thread : Nat}
    {call : IdentityCall}
    {answer : Answer Eff Eff.Res}
    {before : IdentityHistory}
    (hConforms :
      Always (Conforms IdentityCall.program)
        (later ++ .answer thread answer :: before))
    (hArrive :
      Entry.arrive thread call ∈
        later ++ .answer thread answer :: before) :
    Entry.arrive thread call ∈ before := by
  rcases hConforms.split.1.2 with ⟨request, _, hMem, _⟩
  have hSame :=
    arrive_unique_of_always hConforms hArrive
      (List.mem_append_right _
        (List.mem_cons_of_mem _ hMem))
  rw [hSame]
  exact hMem

/- An answered statement of a call ends one of its moments. -/
theorem momentOf_answer
    {thread : Nat}
    {args : NewIdentity}
    {answer : Answer Eff Eff.Res}
    {before : IdentityHistory}
    (hConforms :
      Always (Conforms IdentityCall.program)
        (later ++ .answer thread answer :: before))
    (hArrive :
      Entry.arrive thread (.link args) ∈
        later ++ .answer thread answer :: before) :
    MomentOf thread args
      (later ++ .answer thread answer :: before) before :=
  ⟨⟨later ++ [.answer thread answer], by simp⟩,
    arrived_before hConforms hArrive⟩

/- An insert is refused by a conflict or a faster call. -/
theorem refused_settled
    {thread : Nat}
    {args : NewIdentity}
    (hConforms :
      Always (Conforms IdentityCall.program) earlier)
    (hTruthful : Always (Truthful start) earlier)
    (hArrive : Entry.arrive thread (.link args) ∈ earlier)
    (hPast :
      answersOf thread earlier =
        [refusedRow args, lookedUp args none]) :
    RealConflict start thread args earlier ∨
      Overtaken thread args earlier := by
  rcases exists_split_of_answersOf hPast with
    ⟨newer, middle, rfl, hMiddle⟩
  rcases exists_split_of_answersOf hMiddle with
    ⟨between, older, rfl, _⟩
  have hInsert := hTruthful.split
  have hUnbound :=
    unbound_of_select hInsert.2.split.1.symm
  rcases met_of_refused hInsert.1 with hConflict | hBound
  · exact
      Or.inl ⟨_, momentOf_answer hConforms hArrive, hConflict⟩
  · rcases hBound with ⟨row, hRow, hPair, hUser⟩
    have hNew :
        ∀ old ∈
            (tablesAt start
              (.answer thread (lookedUp args none) ::
                older)).identities,
          old.toAuthIdentity.binding ≠
            row.toAuthIdentity.binding := by
      intro old hOld hSame
      apply hUnbound old hOld
      rw [← hPair]
      exact
        congrArg
          (fun binding : IdentityBinding =>
            (binding.provider, binding.providerSubject))
          hSame
    rcases inserted_since hRow hNew with
      ⟨other, args', stored, hStored, hBinding⟩
    right
    refine
      ⟨newer, between, older, other, args', stored, rfl, ?_,
        hStored, ?_, ?_⟩
    · rintro rfl
      have hMem :
          insertedRow args' stored ∈
            answersOf other
              (between ++
                .answer other (lookedUp args none) ::
                  older) :=
        (mem_answersOf_iff _ _ _).mpr
          (List.mem_append_left _ hStored)
      rw [hMiddle] at hMem
      simp at hMem
    · rw [← hPair]
      exact
        congrArg
          (fun binding : IdentityBinding =>
            (binding.provider, binding.providerSubject))
          hBinding
    · rw [hUser]
      exact
        congrArg (fun binding => some binding.kisUserId)
          hBinding.symm

end KisAuth

------------------------------------------------------------
-- Links That The Database Can Store
------------------------------------------------------------

namespace KisAuth

open Interaction

variable {start : World}
variable {history later earlier : IdentityHistory}

theorem Storable.insert
    {tables : Tables}
    {args : NewIdentity}
    (hStorable : Storable args) :
    tables.checkInsert args ≠ .error .invalidText := by
  rcases hStorable with
    ⟨hProvider, hSubject, hEmail, hVerified, hUser⟩
  rcases Option.isSome_iff_exists.mp hUser with
    ⟨user, hUser⟩
  unfold Tables.checkInsert
  simp only [hProvider, hSubject, hEmail, hVerified, hUser,
    Bool.and_self, if_true]
  split
  · simp
  · simp

theorem Storable.select
    {tables : Tables}
    {args : NewIdentity}
    {error : SqlError}
    (hStorable : Storable args) :
    tables.selectIdentity args.provider
        args.providerSubject ≠
      .error error := by
  unfold Tables.selectIdentity
  simp [hStorable.1, hStorable.2.1]

/- Such a link never throws. -/
theorem link_completes
    {thread : Nat}
    {args : NewIdentity}
    {outcome : Except HttpError IdentityReply}
    (hStart : start.tables.Sound)
    (hTruthful : Always (Truthful start) earlier)
    (hPath :
      LinkPath args (answersOf thread earlier) outcome)
    (hStorable : Storable args) :
    ∃ result, outcome = .ok (.linked result) := by
  generalize hPast : answersOf thread earlier = past at hPath
  cases hPath with
  | unreadable error =>
      rcases exists_split_of_answersOf hPast with
        ⟨newer, older, rfl, _⟩
      have hSelect := hTruthful.split.1
      exact absurd hSelect.symm hStorable.select
  | conflict existing hUser => exact ⟨_, rfl⟩
  | retried existing found hUser =>
      rcases exists_split_of_answersOf hPast with
        ⟨newer, middle, rfl, hMiddle⟩
      rcases exists_split_of_answersOf hMiddle with
        ⟨between, older, rfl, _⟩
      have hUpdate := hTruthful.split
      have hHeld := looked_up_held hStart hUpdate.2
      have hSound := tables_invariant hStart hUpdate.2
      rcases hHeld.updated hSound hUpdate.1 with
        ⟨row, rfl, _⟩
      exact ⟨_, rfl⟩
  | notRetried existing error hUser =>
      rcases exists_split_of_answersOf hPast with
        ⟨newer, middle, rfl, hMiddle⟩
      rcases exists_split_of_answersOf hMiddle with
        ⟨between, older, rfl, _⟩
      have hUpdate := hTruthful.split
      have hHeld := looked_up_held hStart hUpdate.2
      rcases hUpdate.1 with hId | hText
      · simp [hHeld.id] at hId
      · simp [hStorable.2.2.1, hStorable.2.2.2.1] at hText
  | inserted row => exact ⟨_, rfl⟩
  | refused => exact ⟨_, rfl⟩
  | malformed =>
      rcases exists_split_of_answersOf hPast with
        ⟨newer, older, rfl, _⟩
      exact absurd hTruthful.split.1 hStorable.insert

end KisAuth

------------------------------------------------------------
-- Retried Links
------------------------------------------------------------

namespace KisAuth

open Interaction

variable {start : World}
variable {history later earlier : IdentityHistory}

/- The lookup of a pair finds the row it is bound by. -/
theorem select_of_bound
    {tables : Tables}
    {args : NewIdentity}
    {row : AuthIdentityRow}
    (hSound : tables.Sound)
    (hRow : row ∈ tables.identities)
    (hPair : row.toAuthIdentity.pair = args.pair)
    {found : Option AuthIdentity}
    (hSelect :
      tables.selectIdentity args.provider
          args.providerSubject =
        .ok found) :
    found = some row.toAuthIdentity := by
  cases found with
  | none =>
      exact
        absurd hPair (unbound_of_select hSelect row hRow)
  | some identity =>
      rcases selectIdentity_row hSelect with
        ⟨other, hOther, rfl, hProvider, hSubject⟩
      have hSame :
          other.toAuthIdentity.pair =
            row.toAuthIdentity.pair := by
        rw [hPair]
        exact Prod.ext hProvider hSubject
      rw [List.inj_on_of_nodup_map hSound.oneToOne.pairs
        hOther hRow hSame]

/-
  The lookup of a retried link finds the row that was there
  when the call arrived.
-/
theorem lookup_of_bound
    {thread : Nat}
    {args : NewIdentity}
    {before older : IdentityHistory}
    {newer : IdentityHistory}
    {found : Option AuthIdentity}
    {row : AuthIdentityRow}
    (hStart : start.tables.Sound)
    (hConforms :
      Always (Conforms IdentityCall.program)
        (later ++
          .answer thread (lookedUp args found) :: older))
    (hTruthful :
      Always (Truthful start)
        (later ++
          .answer thread (lookedUp args found) :: older))
    (hPosition :
      later ++ .answer thread (lookedUp args found) :: older =
        newer ++ .arrive thread (.link args) :: before)
    (hRow : row ∈ (tablesAt start before).identities)
    (hPair : row.toAuthIdentity.pair = args.pair) :
    ∃ existing,
      found = some existing ∧
        existing.binding = row.toAuthIdentity.binding := by
  have hLookup := hTruthful.split
  have hSound := tables_invariant hStart hLookup.2
  rcases positions_cases hPosition with
    ⟨hSame, _⟩ | ⟨between, rfl⟩ | ⟨between, rfl⟩
  · simp at hSame
  · rw [hPosition] at hConforms
    have hUnused := hConforms.split.1
    exact
      absurd rfl
        (hUnused
          (.answer thread (lookedUp args found))
          (List.mem_append_right _ List.mem_cons_self))
  · rcases
        row_kept
          (between ++ [.arrive thread (.link args)]) hRow
      with ⟨kept, hKept, hBinding⟩
    rw [List.append_assoc] at hKept
    have hKeptPair :
        kept.toAuthIdentity.pair = args.pair := by
      rw [← hPair]
      exact
        congrArg
          (fun binding : IdentityBinding =>
            (binding.provider, binding.providerSubject))
          hBinding
    exact
      ⟨kept.toAuthIdentity,
        select_of_bound hSound hKept hKeptPair
          hLookup.1.symm,
        hBinding⟩

/- A retried link succeeds with the row that was there. -/
theorem retried_settled
    {thread : Nat}
    {args : NewIdentity}
    {outcome : Except HttpError IdentityReply}
    {newer before : IdentityHistory}
    {row : AuthIdentityRow}
    (hStart : start.tables.Sound)
    (hConforms :
      Always (Conforms IdentityCall.program) earlier)
    (hTruthful : Always (Truthful start) earlier)
    (hPath :
      LinkPath args (answersOf thread earlier) outcome)
    (hPosition :
      earlier =
        newer ++ .arrive thread (.link args) :: before)
    (hRow : row ∈ (tablesAt start before).identities)
    (hPair : row.toAuthIdentity.pair = args.pair)
    (hUser : row.kisUserId = args.kisUserId)
    (hStorable : Storable args) :
    ∃ kept,
      outcome = .ok (.linked (.ok kept)) ∧
        kept.id = row.id := by
  have hFound :
      ∀ found,
        lookedUp args found ∈ answersOf thread earlier →
          ∃ existing,
            found = some existing ∧
              existing.binding =
                row.toAuthIdentity.binding := by
    intro found hMem
    rw [mem_answersOf_iff] at hMem
    rcases List.append_of_mem hMem with ⟨later, older, rfl⟩
    exact
      lookup_of_bound hStart hConforms hTruthful hPosition
        hRow hPair
  have hCompletes :=
    link_completes hStart hTruthful hPath hStorable
  generalize hPast : answersOf thread earlier = past
    at hPath hFound
  cases hPath with
  | unreadable error => simp at hCompletes
  | conflict existing hOther =>
      rcases hFound (some existing) (by simp) with
        ⟨found, hSome, hBinding⟩
      rw [Option.some.injEq] at hSome
      subst hSome
      have hSame : existing.kisUserId = row.kisUserId :=
        congrArg IdentityBinding.kisUserId hBinding
      exact absurd (hSame.trans hUser) hOther
  | retried existing found hOther =>
      rcases exists_split_of_answersOf hPast with
        ⟨later, middle, hSplit, hMiddle⟩
      rcases exists_split_of_answersOf hMiddle with
        ⟨between, older, rfl, _⟩
      have hUpdate := hTruthful
      rw [hSplit] at hUpdate
      have hHeld := looked_up_held hStart hUpdate.split.2
      have hSound := tables_invariant hStart hUpdate.split.2
      rcases hHeld.updated hSound hUpdate.split.1 with
        ⟨kept, rfl, hKept, _⟩
      rcases hFound (some existing) (by simp) with
        ⟨same, hSome, hBinding⟩
      rw [Option.some.injEq] at hSome
      subst hSome
      exact
        ⟨kept, rfl,
          congrArg IdentityBinding.id
            (hKept.trans hBinding)⟩
  | notRetried existing error hOther => simp at hCompletes
  | inserted stored =>
      rcases hFound none (by simp) with
        ⟨existing, hSome, _⟩
      simp at hSome
  | refused =>
      rcases hFound none (by simp) with
        ⟨existing, hSome, _⟩
      simp at hSome
  | malformed => simp at hCompletes

end KisAuth

------------------------------------------------------------
-- Links Over Whole Runs
------------------------------------------------------------

namespace KisAuth

open Interaction

variable {P : Platform} {cfg : KisAuthConfig}
variable {start : World} {earlier : IdentityHistory}

/- A refused link met a conflict, or was overtaken. -/
theorem refusal_settled
    {thread : Nat}
    {args : NewIdentity}
    (hConforms :
      Always (Conforms IdentityCall.program) earlier)
    (hTruthful : Always (Truthful start) earlier)
    (hArrive : Entry.arrive thread (.link args) ∈ earlier)
    (hPath :
      LinkPath args (answersOf thread earlier)
        (.ok (.linked .alreadyLinked))) :
    RealConflict start thread args earlier ∨
      Overtaken thread args earlier ∨
        (uuidIn args.kisUserId ≠ some args.kisUserId ∧
          ∃ moment,
            MomentOf thread args earlier moment ∧
              BoundAt (tablesAt start moment) args) := by
  generalize hPast : answersOf thread earlier = past at hPath
  generalize hOutcome :
    (Except.ok (IdentityReply.linked .alreadyLinked) :
      Except HttpError IdentityReply) = outcome at hPath
  cases hPath with
  | unreadable error => simp at hOutcome
  | conflict existing hUser =>
      rcases exists_split_of_answersOf hPast with
        ⟨newer, older, rfl, _⟩
      have hMoment := momentOf_answer hConforms hArrive
      rcases met_of_conflict hTruthful.split.1.symm hUser with
        hConflict | ⟨hText, hBound⟩
      · exact Or.inl ⟨older, hMoment, hConflict⟩
      · exact Or.inr (Or.inr ⟨hText, older, hMoment, hBound⟩)
  | retried existing found hUser =>
      cases found with
      | none => simp at hOutcome
      | some row => simp at hOutcome
  | notRetried existing error hUser => simp at hOutcome
  | inserted row => simp at hOutcome
  | refused =>
      rcases
          refused_settled hConforms hTruthful hArrive hPast
        with hConflict | hOvertaken
      · exact Or.inl hConflict
      · exact Or.inr (Or.inl hOvertaken)
  | malformed => simp at hOutcome

/- How every link call of every interleaving is answered. -/
theorem link_settled (run : IdentityRun P cfg) :
    Always
      (fun entry earlier =>
        ∀ thread args outcome,
          entry = .respond thread outcome →
            Entry.arrive thread (.link args) ∈ earlier →
              LinkSettled run.start thread args outcome
                earlier)
      run.history := by
  have hStart : run.start.tables.Sound :=
    ⟨run.typed, run.oneToOne⟩
  have hRecorded := run.recorded
  apply always_of_split
  rintro later entry earlier hSplit thread args outcome rfl
    hArrive
  rw [hSplit] at hRecorded
  have hConforms := hRecorded.conforms.split.2
  have hTruthful := hRecorded.truthful.split.2
  rcases hRecorded.ended with ⟨call, hCall, hEnds⟩
  have hSame :=
    arrive_unique_of_always hConforms hCall hArrive
  subst hSame
  have hPath : LinkPath args _ outcome := hEnds
  constructor
  · rintro rfl
    exact refusal_settled hConforms hTruthful hArrive hPath
  · exact link_completes hStart hTruthful hPath
  · intro newer before row hPosition hRow hPair hUser
      hStorable
    exact
      retried_settled hStart hConforms hTruthful hPath
        hPosition hRow hPair hUser hStorable

end KisAuth

------------------------------------------------------------
-- Conflicts That Are None
------------------------------------------------------------

namespace KisAuth

open Interaction

abbrev IdentityActions :=
  List (Action IdentityCall External EnvOp)

/- A user in canonical form. -/
def linkedUser : String :=
  "0a1b2c3d-0000-4000-8000-000000000001"

/- The first link of one pair to one user. -/
def linkArgs (kisUserId : String) : NewIdentity where
  provider := "google"
  providerSubject := "g1"
  kisUserId := kisUserId
  providerEmail := none
  providerEmailVerified := some false

/- Run identity calls on an empty table. -/
def identityRun (actions : IdentityActions) :=
  run (worldSemantics Platform.bare testConfig)
    IdentityCall.program
    (.init (World.empty (fun _ => none)))
    actions

/- Two calls look the pair up before either inserts it. -/
def raceActions : IdentityActions :=
  [.arrive (.link (linkArgs linkedUser)),
    .arrive (.link (linkArgs linkedUser)),
    .run 0 .none, .run 1 .none,
    .run 0
      (.random "0a1b2c3d-0000-4000-8000-00000000000f"),
    .run 1 .none, .run 1 .none]

/- One call after the other, with the user in upper case. -/
def upperCaseActions : IdentityActions :=
  [.arrive
      (.link
        (linkArgs "0A1B2C3D-0000-4000-8000-000000000001")),
    .run 0 .none,
    .run 0
      (.random "0a1b2c3d-0000-4000-8000-00000000000f"),
    .run 0 .none,
    .arrive
      (.link
        (linkArgs "0A1B2C3D-0000-4000-8000-000000000001")),
    .run 1 .none, .run 1 .none]

/- No moment had a conflict for what a call was to link. -/
def Calm
    (start : World)
    (args : NewIdentity)
    (history : IdentityHistory) : Prop :=
  Always
    (fun entry earlier =>
      ¬ConflictAt (tablesAt start (entry :: earlier)) args)
    history

instance
    (start : World)
    (args : NewIdentity)
    (history : IdentityHistory) :
    Decidable (Calm start args history) :=
  inferInstanceAs (Decidable (Always _ history))

/- A link that is refused last, with no conflict before. -/
def refusedCalmly
    (start : World)
    (args : NewIdentity) : IdentityHistory → Bool
| .respond thread (.ok (.linked .alreadyLinked)) :: earlier =>
    decide (Calm start args earlier) &&
      match requestOf thread earlier with
      | some (.link linked) => linked = args
      | _ => false
| _ => false

theorem not_onlyRealConflicts
    {start : World}
    {args : NewIdentity}
    {history : IdentityHistory}
    (hRefused : refusedCalmly start args history = true) :
    ¬OnlyRealConflicts start history := by
  intro hOnly
  unfold refusedCalmly at hRefused
  split at hRefused
  · next thread earlier =>
      rw [Bool.and_eq_true, decide_eq_true_eq] at hRefused
      rcases hRefused with ⟨hCalm, hRequest⟩
      split at hRequest
      · next linked hLinked =>
          rw [decide_eq_true_eq] at hRequest
          subst hRequest
          have hArrive := arrive_of_requestOf hLinked
          rcases hOnly.1 thread linked rfl hArrive with
            ⟨moment, ⟨⟨newer, rfl⟩, hMem⟩, hConflict⟩
          cases moment with
          | nil => simp at hMem
          | cons entry earlier =>
              exact hCalm.split.1 hConflict
      · simp at hRequest
  · simp at hRefused

/- A run that ends in a refusal without a conflict. -/
theorem refused_run
    {actions : IdentityActions}
    {args : NewIdentity}
    (hRefused :
      (identityRun actions).map
          (fun state =>
            refusedCalmly (World.empty (fun _ => none)) args
              state.history) =
        some true) :
    ∃ run : IdentityRun Platform.bare testConfig,
      identityRun actions = some run.state ∧
        ¬OnlyRealConflicts run.start run.history := by
  rcases Option.map_eq_some_iff.mp hRefused with
    ⟨state, hRun, hCalm⟩
  exact
    ⟨{ start := World.empty (fun _ => none)
       typed := ⟨List.nodup_nil, by simp [World.empty]⟩
       oneToOne := ⟨List.nodup_nil, List.nodup_nil⟩
       drawn := by simp [World.empty]
       state := state
       reachable := Reachable.of_run hRun },
      hRun, not_onlyRealConflicts hCalm⟩

/-
  A call that loses a race against one for the same pair and
  user, and a retry in upper case, are told of a conflict.
-/
theorem conflict_without_cause :
    (∃ run : IdentityRun Platform.bare testConfig,
        identityRun raceActions = some run.state ∧
          ¬OnlyRealConflicts run.start run.history) ∧
      ∃ run : IdentityRun Platform.bare testConfig,
        identityRun upperCaseActions = some run.state ∧
          ¬OnlyRealConflicts run.start run.history := by
  have hRace :
      (identityRun raceActions).map
          (fun state =>
            refusedCalmly (World.empty (fun _ => none))
              (linkArgs linkedUser) state.history) =
        some true := by
    decide +kernel
  have hUpperCase :
      (identityRun upperCaseActions).map
          (fun state =>
            refusedCalmly (World.empty (fun _ => none))
              (linkArgs "0A1B2C3D-0000-4000-8000-000000000001")
              state.history) =
        some true := by
    decide +kernel
  exact ⟨refused_run hRace, refused_run hUpperCase⟩

end KisAuth
