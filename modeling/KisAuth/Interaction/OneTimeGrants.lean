import KisAuth.Interaction.System
import Mathlib.Data.List.Nodup
import Mathlib.Data.List.Perm.Subperm
import Mathlib.Logic.Function.Basic

/-
  Grants that are spent once.

  Something is asked for under a name. A grant that fits it
  is drawn under a code of its own. Whoever spends the code
  holds the grant, and is issued one credential for it. What
  the parties do is an event, and a run is a list of events,
  newest first, each of which the state it meets permits.

  Key definitions include:
    * `GrantRules`, `GrantEvent`, `GrantState`
    * `GrantStep`, `GrantRun`
    * `GrantsTold`, `Traced`

  Key theorems include:
    * `GrantRun.told`
    * `GrantRun.ask`, `GrantRun.grant`
    * `GrantRun.spend`, `GrantRun.issue`
    * `GrantRun.traced`, `GrantRun.issued_le_granted`
-/

------------------------------------------------------------
-- Runs
------------------------------------------------------------

namespace Interaction

/-
  What a grant takes over of what was asked for, and a
  credential of its grant.
-/
structure GrantRules (A G T : Type) where
  Fits : A → G → Prop
  Yields : G → T → Prop

inductive GrantEvent (S A C G H T : Type) where
  | asked (name : S) (ask : A)
  | granted (code : C) (grant : G)
  | spent (holder : H) (code : C)
  | issued (holder : H) (credential : T)

structure GrantState (S A C G H : Type) where
  asks : S → Option A
  grants : C → Option G
  isSpent : C → Bool
  held : H → Option G
  isAnswered : H → Bool

def GrantState.empty (S A C G H : Type) :
    GrantState S A C G H where
  asks := fun _ => none
  grants := fun _ => none
  isSpent := fun _ => false
  held := fun _ => none
  isAnswered := fun _ => false

variable {S A C G H T : Type}
variable [DecidableEq S] [DecidableEq C] [DecidableEq H]

inductive GrantStep
    (rules : GrantRules A G T) :
    GrantState S A C G H →
      GrantEvent S A C G H T →
        GrantState S A C G H → Prop where
  | ask
      (state : GrantState S A C G H)
      (name : S)
      (ask : A)
      (hNew : state.asks name = none) :
      GrantStep rules state (.asked name ask)
        { state with
          asks := Function.update state.asks name (some ask) }
  | grant
      (state : GrantState S A C G H)
      (name : S)
      (ask : A)
      (code : C)
      (grant : G)
      (hAsk : state.asks name = some ask)
      (hFits : rules.Fits ask grant)
      (hNew : state.grants code = none) :
      GrantStep rules state (.granted code grant)
        { state with
          grants :=
            Function.update state.grants code (some grant) }
  | spend
      (state : GrantState S A C G H)
      (holder : H)
      (code : C)
      (grant : G)
      (hGrant : state.grants code = some grant)
      (hUnspent : state.isSpent code = false)
      (hNew : state.held holder = none) :
      GrantStep rules state (.spent holder code)
        { state with
          isSpent := Function.update state.isSpent code true
          held :=
            Function.update state.held holder (some grant) }
  | issue
      (state : GrantState S A C G H)
      (holder : H)
      (grant : G)
      (credential : T)
      (hHeld : state.held holder = some grant)
      (hYields : rules.Yields grant credential)
      (hNew : state.isAnswered holder = false) :
      GrantStep rules state (.issued holder credential)
        { state with
          isAnswered :=
            Function.update state.isAnswered holder true }

inductive GrantRun
    (rules : GrantRules A G T) :
    List (GrantEvent S A C G H T) →
      GrantState S A C G H → Prop where
  | init : GrantRun rules [] (GrantState.empty S A C G H)
  | step
      (event : GrantEvent S A C G H T)
      (earlier : List (GrantEvent S A C G H T))
      (state state' : GrantState S A C G H)
      (hRun : GrantRun rules earlier state)
      (hStep : GrantStep rules state event state') :
      GrantRun rules (event :: earlier) state'

end Interaction

------------------------------------------------------------
-- What The State Tells Of The Events
------------------------------------------------------------

namespace Interaction

variable {S A C G H T : Type}

structure GrantsTold
    (events : List (GrantEvent S A C G H T))
    (state : GrantState S A C G H) : Prop where
  asks :
    ∀ name ask,
      state.asks name = some ask ↔ .asked name ask ∈ events
  grants :
    ∀ code grant,
      state.grants code = some grant ↔
        .granted code grant ∈ events
  isSpent :
    ∀ code,
      state.isSpent code = true ↔
        ∃ holder, .spent holder code ∈ events
  held :
    ∀ holder grant,
      state.held holder = some grant ↔
        ∃ code,
          .spent holder code ∈ events ∧
            .granted code grant ∈ events
  isAnswered :
    ∀ holder,
      state.isAnswered holder = true ↔
        ∃ credential, .issued holder credential ∈ events
  backed :
    ∀ holder code,
      .spent holder code ∈ events →
        ∃ grant, .granted code grant ∈ events

variable [DecidableEq S] [DecidableEq C] [DecidableEq H]
variable {rules : GrantRules A G T}
variable {events : List (GrantEvent S A C G H T)}
variable {state state' : GrantState S A C G H}

theorem GrantsTold.step
    {event : GrantEvent S A C G H T}
    (hTold : GrantsTold events state)
    (hStep : GrantStep rules state event state') :
    GrantsTold (event :: events) state' := by
  cases hStep with
  | ask name ask hNew =>
      refine
        { asks := ?_
          grants := by simp [hTold.grants]
          isSpent := by simp [hTold.isSpent]
          held := by simp [hTold.held]
          isAnswered := by simp [hTold.isAnswered]
          backed := by simpa using hTold.backed }
      intro name' ask'
      by_cases hName : name' = name
      · subst hName
        have hOld : .asked name' ask' ∉ events := by
          rw [← hTold.asks, hNew]
          simp
        simp [hOld, eq_comm]
      · simp [hName, hTold.asks]
  | grant name ask code grant hAsk hFits hNew =>
      have hFresh :
          ∀ grant', GrantEvent.granted code grant' ∉ events := by
        intro grant'
        rw [← hTold.grants, hNew]
        simp
      have hUnspent :
          ∀ holder, GrantEvent.spent holder code ∉ events := by
        intro holder hSpent
        rcases hTold.backed holder code hSpent with
          ⟨grant', hGrant⟩
        exact hFresh grant' hGrant
      refine
        { asks := by simp [hTold.asks]
          grants := ?_
          isSpent := by simp [hTold.isSpent]
          held := ?_
          isAnswered := by simp [hTold.isAnswered]
          backed := ?_ }
      · intro code' grant'
        by_cases hCode : code' = code
        · subst hCode
          simp [hFresh, eq_comm]
        · simp [hCode, hTold.grants]
      · intro holder grant'
        rw [hTold.held]
        constructor
        · rintro ⟨code', hSpent, hGrant⟩
          exact
            ⟨code', List.mem_cons_of_mem _ hSpent,
              List.mem_cons_of_mem _ hGrant⟩
        · rintro ⟨code', hSpent, hGrant⟩
          have hSpent : .spent holder code' ∈ events := by
            simpa using hSpent
          rcases List.mem_cons.mp hGrant with hHere | hGrant
          · cases hHere
            exact absurd hSpent (hUnspent holder)
          · exact ⟨code', hSpent, hGrant⟩
      · intro holder code' hSpent
        have hSpent : .spent holder code' ∈ events := by
          simpa using hSpent
        rcases hTold.backed holder code' hSpent with
          ⟨grant', hGrant⟩
        exact ⟨grant', List.mem_cons_of_mem _ hGrant⟩
  | spend holder code grant hGrant hUnspent hNew =>
      have hGranted := (hTold.grants code grant).mp hGrant
      have hFree :
          ∀ code', GrantEvent.spent holder code' ∉ events := by
        intro code' hSpent
        rcases hTold.backed holder code' hSpent with
          ⟨grant', hGrant'⟩
        have hHeld :=
          (hTold.held holder grant').mpr
            ⟨code', hSpent, hGrant'⟩
        rw [hNew] at hHeld
        cases hHeld
      refine
        { asks := by simp [hTold.asks]
          grants := by simp [hTold.grants]
          isSpent := ?_
          held := ?_
          isAnswered := by simp [hTold.isAnswered]
          backed := ?_ }
      · intro code'
        by_cases hCode : code' = code
        · subst hCode
          simp only [Function.update_self, true_iff]
          exact ⟨holder, List.mem_cons_self⟩
        · simp [hCode, hTold.isSpent]
      · intro holder' grant'
        by_cases hHolder : holder' = holder
        · subst hHolder
          simp only [Function.update_self, List.mem_cons,
            GrantEvent.spent.injEq, hFree, or_false, true_and,
            reduceCtorEq, false_or, exists_eq_left,
            ← hTold.grants, hGrant]
        · simp [hHolder, hTold.held]
      · intro holder' code' hSpent
        rcases List.mem_cons.mp hSpent with hHere | hSpent
        · cases hHere
          exact ⟨grant, List.mem_cons_of_mem _ hGranted⟩
        · rcases hTold.backed holder' code' hSpent with
            ⟨grant', hGrant'⟩
          exact ⟨grant', List.mem_cons_of_mem _ hGrant'⟩
  | issue holder grant credential hHeld hYields hNew =>
      refine
        { asks := by simp [hTold.asks]
          grants := by simp [hTold.grants]
          isSpent := by simp [hTold.isSpent]
          held := by simp [hTold.held]
          isAnswered := ?_
          backed := by simpa using hTold.backed }
      intro holder'
      by_cases hHolder : holder' = holder
      · subst hHolder
        simp only [Function.update_self, true_iff]
        exact ⟨credential, List.mem_cons_self⟩
      · simp [hHolder, hTold.isAnswered]

/- The state is what the events made of it. -/
theorem GrantRun.told (hRun : GrantRun rules events state) :
    GrantsTold events state := by
  induction hRun with
  | init =>
      exact
        { asks := by simp [GrantState.empty]
          grants := by simp [GrantState.empty]
          isSpent := by simp [GrantState.empty]
          held := by simp [GrantState.empty]
          isAnswered := by simp [GrantState.empty]
          backed := by simp }
  | step event earlier state state' hRun hStep ih =>
      exact ih.step hStep

end Interaction

------------------------------------------------------------
-- How A Run Goes On
------------------------------------------------------------

namespace Interaction

variable {S A C G H T : Type}
variable [DecidableEq S] [DecidableEq C] [DecidableEq H]
variable {rules : GrantRules A G T}
variable {events : List (GrantEvent S A C G H T)}
variable {state : GrantState S A C G H}

theorem GrantRun.ask
    {name : S}
    {ask : A}
    (hRun : GrantRun rules events state)
    (hNew : ∀ ask', GrantEvent.asked name ask' ∉ events) :
    ∃ state',
      GrantRun rules (.asked name ask :: events) state' := by
  refine ⟨_, .step _ _ _ _ hRun (.ask state name ask ?_)⟩
  rw [Option.eq_none_iff_forall_ne_some]
  intro ask' hAsk
  exact hNew ask' ((hRun.told.asks name ask').mp hAsk)

theorem GrantRun.grant
    {name : S}
    {ask : A}
    {code : C}
    {grant : G}
    (hRun : GrantRun rules events state)
    (hAsked : .asked name ask ∈ events)
    (hFits : rules.Fits ask grant)
    (hNew : ∀ grant', GrantEvent.granted code grant' ∉ events) :
    ∃ state',
      GrantRun rules (.granted code grant :: events) state' := by
  refine
    ⟨_, .step _ _ _ _ hRun
      (.grant state name ask code grant
        ((hRun.told.asks name ask).mpr hAsked) hFits ?_)⟩
  rw [Option.eq_none_iff_forall_ne_some]
  intro grant' hGrant
  exact hNew grant' ((hRun.told.grants code grant').mp hGrant)

theorem GrantRun.spend
    {holder : H}
    {code : C}
    {grant : G}
    (hRun : GrantRun rules events state)
    (hGranted : .granted code grant ∈ events)
    (hUnspent :
      ∀ holder', GrantEvent.spent holder' code ∉ events)
    (hNew : ∀ code', GrantEvent.spent holder code' ∉ events) :
    ∃ state',
      GrantRun rules (.spent holder code :: events) state' := by
  refine
    ⟨_, .step _ _ _ _ hRun
      (.spend state holder code grant
        ((hRun.told.grants code grant).mpr hGranted) ?_ ?_)⟩
  · rw [← Bool.not_eq_true, hRun.told.isSpent]
    rintro ⟨holder', hSpent⟩
    exact hUnspent holder' hSpent
  · rw [Option.eq_none_iff_forall_ne_some]
    intro grant' hHeld
    rcases (hRun.told.held holder grant').mp hHeld with
      ⟨code', hSpent, _⟩
    exact hNew code' hSpent

theorem GrantRun.issue
    {holder : H}
    {code : C}
    {grant : G}
    {credential : T}
    (hRun : GrantRun rules events state)
    (hSpent : .spent holder code ∈ events)
    (hGranted : .granted code grant ∈ events)
    (hYields : rules.Yields grant credential)
    (hNew :
      ∀ credential',
        GrantEvent.issued holder credential' ∉ events) :
    ∃ state',
      GrantRun rules (.issued holder credential :: events)
        state' := by
  refine
    ⟨_, .step _ _ _ _ hRun
      (.issue state holder grant credential
        ((hRun.told.held holder grant).mpr
          ⟨code, hSpent, hGranted⟩)
        hYields ?_)⟩
  rw [← Bool.not_eq_true, hRun.told.isAnswered]
  rintro ⟨credential', hIssued⟩
  exact hNew credential' hIssued

end Interaction

------------------------------------------------------------
-- What Runs Have In Common
------------------------------------------------------------

namespace Interaction

variable {S A C G H T : Type}

/-
  A credential goes back to the spending of a code, this to
  the grant of the code, and this to what was asked for.
-/
def Traced
    (rules : GrantRules A G T)
    (event : GrantEvent S A C G H T)
    (earlier : List (GrantEvent S A C G H T)) : Prop :=
  ∀ holder credential,
    event = .issued holder credential →
      ∃ code grant name ask,
        [.spent holder code, .granted code grant,
            .asked name ask].Sublist earlier ∧
          rules.Fits ask grant ∧
          rules.Yields grant credential

variable [DecidableEq S] [DecidableEq C] [DecidableEq H]
variable {rules : GrantRules A G T}
variable {events : List (GrantEvent S A C G H T)}
variable {state : GrantState S A C G H}

/- A run went on from where it was. -/
theorem GrantRun.drop
    {later earlier : List (GrantEvent S A C G H T)}
    (hRun : GrantRun rules (later ++ earlier) state) :
    ∃ state', GrantRun rules earlier state' := by
  induction later generalizing state with
  | nil => exact ⟨state, hRun⟩
  | cons event rest ih =>
      cases hRun with
      | step event earlier' before after hBefore hStep =>
          exact ih hBefore

/- The ask behind a grant. -/
theorem GrantRun.asked_before
    {later earlier : List (GrantEvent S A C G H T)}
    {code : C}
    {grant : G}
    (hRun :
      GrantRun rules (later ++ .granted code grant :: earlier)
        state) :
    ∃ name ask,
      .asked name ask ∈ earlier ∧ rules.Fits ask grant := by
  rcases hRun.drop with ⟨after, hRun⟩
  cases hRun with
  | step event earlier' before after hBefore hStep =>
      cases hStep with
      | grant name ask code grant hAsk hFits hNew =>
          exact
            ⟨name, ask, (hBefore.told.asks name ask).mp hAsk,
              hFits⟩

/- The grant behind what is spent. -/
theorem GrantRun.granted_before
    {later earlier : List (GrantEvent S A C G H T)}
    {holder : H}
    {code : C}
    (hRun :
      GrantRun rules (later ++ .spent holder code :: earlier)
        state) :
    ∃ grant, .granted code grant ∈ earlier := by
  rcases hRun.drop with ⟨after, hRun⟩
  cases hRun with
  | step event earlier' before after hBefore hStep =>
      cases hStep with
      | spend holder code grant hGrant hUnspent hNew =>
          exact
            ⟨grant, (hBefore.told.grants code grant).mp hGrant⟩

/- Every credential of a run is traced. -/
theorem GrantRun.traced (hRun : GrantRun rules events state) :
    Always (Traced rules) events := by
  apply always_of_split
  intro later event earlier hSplit holder credential hEvent
  subst hSplit
  subst hEvent
  rcases hRun.drop with ⟨after, hRun⟩
  cases hRun with
  | step event earlier before after hBefore hStep =>
      cases hStep with
      | issue holder grant credential hHeld hYields hNew =>
          have hTold := hBefore.told
          rcases (hTold.held holder grant).mp hHeld with
            ⟨code, hSpent, hGranted⟩
          rcases List.append_of_mem hSpent with
            ⟨newer, older, rfl⟩
          rcases hBefore.granted_before with ⟨grant', hOlder⟩
          have hSame : grant' = grant := by
            have hState :=
              (hTold.grants code grant').mpr (by simp [hOlder])
            rw [(hTold.grants code grant).mpr hGranted]
              at hState
            exact (Option.some.inj hState).symm
          subst hSame
          rcases List.append_of_mem hOlder with
            ⟨middle, oldest, rfl⟩
          have hGrantRun :
              GrantRun rules
                ((newer ++ .spent holder code :: middle) ++
                  .granted code grant' :: oldest)
                before := by
            simpa using hBefore
          rcases hGrantRun.asked_before with
            ⟨name, ask, hAsked, hFits⟩
          refine
            ⟨code, grant', name, ask, ?_, hFits, hYields⟩
          apply List.Sublist.trans _
            (List.sublist_append_right _ _)
          apply List.Sublist.cons_cons
          apply List.Sublist.trans _
            (List.sublist_append_right _ _)
          apply List.Sublist.cons_cons
          exact List.singleton_sublist.mpr hAsked

/- What is found once at most is found without repetition. -/
theorem nodup_filterMap_of_always
    {ε β : Type}
    {observe : ε → Option β}
    {items : List ε}
    (hOnce :
      Always
        (fun item earlier =>
          ∀ value,
            observe item = some value →
              value ∉ earlier.filterMap observe)
        items) :
    (items.filterMap observe).Nodup := by
  induction items with
  | nil => exact List.nodup_nil
  | cons item earlier ih =>
      cases hItem : observe item with
      | none =>
          rw [List.filterMap_cons_none hItem]
          exact ih hOnce.2
      | some value =>
          rw [List.filterMap_cons_some hItem, List.nodup_cons]
          exact ⟨hOnce.1 value hItem, ih hOnce.2⟩

end Interaction

------------------------------------------------------------
-- Counts
------------------------------------------------------------

namespace Interaction

variable {S A C G H T : Type}

/- The holder of an issued credential of some kind. -/
def GrantEvent.issuedFor
    (kind : T → Bool) : GrantEvent S A C G H T → Option H
| .issued holder credential =>
    if kind credential then some holder else none
| _ => none

/- The holder and code of a spent grant of some kind. -/
def GrantEvent.spentFor
    (state : GrantState S A C G H)
    (kind : G → Bool) : GrantEvent S A C G H T → Option (H × C)
| .spent holder code =>
    if (state.grants code).any kind then some (holder, code)
    else none
| _ => none

/- The code of a grant of some kind. -/
def GrantEvent.grantedFor
    (kind : G → Bool) : GrantEvent S A C G H T → Option C
| .granted code grant => if kind grant then some code else none
| _ => none

theorem issuedFor_eq_some
    {kind : T → Bool}
    {event : GrantEvent S A C G H T}
    {holder : H} :
    event.issuedFor kind = some holder ↔
      ∃ credential,
        event = .issued holder credential ∧
          kind credential = true := by
  cases event <;> simp [GrantEvent.issuedFor, and_comm]

theorem spentFor_eq_some
    {state : GrantState S A C G H}
    {kind : G → Bool}
    {event : GrantEvent S A C G H T}
    {holder : H}
    {code : C} :
    event.spentFor state kind = some (holder, code) ↔
      event = .spent holder code ∧
        ∃ grant,
          state.grants code = some grant ∧ kind grant = true := by
  cases event with
  | spent holder' code' =>
      simp only [GrantEvent.spentFor, Option.any_eq_true,
        Option.ite_none_right_eq_some, Option.some.injEq,
        Prod.mk.injEq, GrantEvent.spent.injEq]
      constructor
      · rintro ⟨hGrant, rfl, rfl⟩
        exact ⟨⟨rfl, rfl⟩, hGrant⟩
      · rintro ⟨⟨rfl, rfl⟩, hGrant⟩
        exact ⟨hGrant, rfl, rfl⟩
  | asked name ask => simp [GrantEvent.spentFor]
  | granted code' grant => simp [GrantEvent.spentFor]
  | issued holder' credential => simp [GrantEvent.spentFor]

theorem grantedFor_eq_some
    {kind : G → Bool}
    {event : GrantEvent S A C G H T}
    {code : C} :
    event.grantedFor kind = some code ↔
      ∃ grant,
        event = .granted code grant ∧ kind grant = true := by
  cases event <;> simp [GrantEvent.grantedFor, and_comm]

variable [DecidableEq S] [DecidableEq C] [DecidableEq H]
variable {rules : GrantRules A G T}
variable {events : List (GrantEvent S A C G H T)}
variable {state : GrantState S A C G H}

/- A holder is issued one credential. -/
theorem GrantRun.nodup_issued
    (hRun : GrantRun rules events state)
    (kind : T → Bool) :
    (events.filterMap (GrantEvent.issuedFor kind)).Nodup := by
  apply nodup_filterMap_of_always
  apply always_of_split
  intro later event earlier hSplit holder hEvent hMem
  subst hSplit
  rcases issuedFor_eq_some.mp hEvent with
    ⟨credential, rfl, _⟩
  rcases List.mem_filterMap.mp hMem with
    ⟨other, hOther, hSame⟩
  rcases issuedFor_eq_some.mp hSame with
    ⟨credential', rfl, _⟩
  rcases hRun.drop with ⟨after, hRun⟩
  cases hRun with
  | step event earlier before after hBefore hStep =>
      cases hStep with
      | issue holder grant credential hHeld hYields hNew =>
          have hAnswered :=
            (hBefore.told.isAnswered holder).mpr
              ⟨credential', hOther⟩
          rw [hNew] at hAnswered
          cases hAnswered

/- A code is spent once. -/
theorem GrantRun.nodup_spent
    (hRun : GrantRun rules events state)
    (last : GrantState S A C G H)
    (kind : G → Bool) :
    ((events.filterMap
        (GrantEvent.spentFor last kind)).map Prod.snd).Nodup := by
  rw [List.map_filterMap]
  apply nodup_filterMap_of_always
  apply always_of_split
  intro later event earlier hSplit code hEvent hMem
  subst hSplit
  rcases Option.map_eq_some_iff.mp hEvent with
    ⟨⟨holder, _⟩, hSpent, rfl⟩
  rcases spentFor_eq_some.mp hSpent with ⟨rfl, _⟩
  rcases List.mem_filterMap.mp hMem with
    ⟨other, hOther, hSame⟩
  rcases Option.map_eq_some_iff.mp hSame with
    ⟨⟨holder', code'⟩, hSpent', hCode⟩
  rcases spentFor_eq_some.mp hSpent' with ⟨rfl, _⟩
  cases hCode
  rcases hRun.drop with ⟨after, hRun⟩
  cases hRun with
  | step event earlier before after hBefore hStep =>
      cases hStep with
      | spend holder code grant hGrant hUnspent hNew =>
          have hBusy :=
            (hBefore.told.isSpent _).mpr ⟨holder', hOther⟩
          rw [hUnspent] at hBusy
          cases hBusy

/-
  Credentials of one kind are no more than the grants of the
  kind they come from that were spent, and these no more
  than were made.
-/
theorem GrantRun.issued_le_granted
    {kind : T → Bool}
    {source : G → Bool}
    (hRun : GrantRun rules events state)
    (hSource :
      ∀ grant credential,
        rules.Yields grant credential →
          kind credential = true → source grant = true) :
    (events.filterMap (GrantEvent.issuedFor kind)).length ≤
        (events.filterMap
          (GrantEvent.spentFor state source)).length ∧
      (events.filterMap
            (GrantEvent.spentFor state source)).length ≤
        (events.filterMap
          (GrantEvent.grantedFor source)).length := by
  have hTold := hRun.told
  constructor
  · rw [← List.length_map Prod.fst]
    apply List.Subperm.length_le
    apply List.subperm_of_subset (hRun.nodup_issued kind)
    intro holder hMem
    rcases List.mem_filterMap.mp hMem with
      ⟨event, hEvent, hIssued⟩
    rcases issuedFor_eq_some.mp hIssued with
      ⟨credential, rfl, hKind⟩
    rcases List.append_of_mem hEvent with
      ⟨later, earlier, rfl⟩
    rcases hRun.traced.split.1 holder credential rfl with
      ⟨code, grant, name, ask, hOrder, _, hYields⟩
    have hBefore := hOrder.subset
    have hGrant :
        state.grants code = some grant := by
      rw [hTold.grants]
      exact
        List.mem_append_right _
          (List.mem_cons_of_mem _ (hBefore (by simp)))
    refine List.mem_map.mpr ⟨(holder, code), ?_, rfl⟩
    refine
      List.mem_filterMap.mpr
        ⟨.spent holder code, ?_,
          spentFor_eq_some.mpr
            ⟨rfl, grant, hGrant,
              hSource grant credential hYields hKind⟩⟩
    exact
      List.mem_append_right _
        (List.mem_cons_of_mem _ (hBefore (by simp)))
  · rw [← List.length_map Prod.snd]
    apply List.Subperm.length_le
    apply
      List.subperm_of_subset (hRun.nodup_spent state source)
    intro code hMem
    rcases List.mem_map.mp hMem with
      ⟨⟨holder, _⟩, hSpent, rfl⟩
    rcases List.mem_filterMap.mp hSpent with
      ⟨event, hEvent, hSome⟩
    rcases spentFor_eq_some.mp hSome with
      ⟨rfl, grant, hGrant, hKind⟩
    exact
      List.mem_filterMap.mpr
        ⟨.granted _ grant, (hTold.grants _ grant).mp hGrant,
          grantedFor_eq_some.mpr ⟨grant, rfl, hKind⟩⟩

end Interaction
