import KisAuth.Interaction.Conformance

/-
  Runs that keep a stamp of the world before each step.

  A history does not say when its entries were recorded. A
  timeline is a history in which each entry has a stamp, any
  part of the world that the step found. Every run has one.

  Key definitions include:
    * `Moment`, `entriesOf`
    * `Timed`, `runTimed`

  Key theorems include:
    * `Timed.of_run`, `Reachable.timed`
    * `Timed.entriesOf_eq`, `Timed.invariant`
-/

------------------------------------------------------------
-- Timelines
------------------------------------------------------------

namespace Interaction

/- An entry, and the stamp of the world its step found. -/
structure Moment
    (T E : Type) (R : E → Type) (X Q ρ Op : Type) where
  stamp : T
  entry : Entry E R X Q ρ Op

variable {T E : Type} {R : E → Type}
variable {X Q ρ W Ext Op : Type}

/- The history of a timeline. -/
def entriesOf
    (timeline : List (Moment T E R X Q ρ Op)) :
    List (Entry E R X Q ρ Op) :=
  timeline.map Moment.entry

@[simp] theorem entriesOf_cons
    (moment : Moment T E R X Q ρ Op)
    (earlier : List (Moment T E R X Q ρ Op)) :
    entriesOf (moment :: earlier) =
      moment.entry :: entriesOf earlier :=
  rfl

/- The states of a run, with the timeline so far. -/
inductive Timed
    (sem : Semantics E R W Ext Op)
    (handler : Q → Prog E R X ρ)
    (stamp : W → T)
    (start : W) :
    List (Moment T E R X Q ρ Op) →
      State E R X Q ρ W Op → Prop where
  | init : Timed sem handler stamp start [] (.init start)
  | step
      {timeline : List (Moment T E R X Q ρ Op)}
      {state state' : State E R X Q ρ W Op}
      {entry : Entry E R X Q ρ Op}
      (hTimed :
        Timed sem handler stamp start timeline state)
      (action : Action Q Ext Op)
      (hAct : act sem handler state action = some state')
      (hEntry : state'.history = entry :: state.history) :
      Timed sem handler stamp start
        (⟨stamp state.world, entry⟩ :: timeline) state'

/- Run a list of actions, and keep the timeline. -/
def runTimed
    (sem : Semantics E R W Ext Op)
    (handler : Q → Prog E R X ρ)
    (stamp : W → T) :
    List (Moment T E R X Q ρ Op) →
      State E R X Q ρ W Op → List (Action Q Ext Op) →
        Option
          (List (Moment T E R X Q ρ Op) ×
            State E R X Q ρ W Op)
| timeline, state, [] => some (timeline, state)
| timeline, state, action :: actions =>
    match act sem handler state action with
    | none => none
    | some state' =>
        match state'.history with
        | [] => none
        | entry :: _ =>
            runTimed sem handler stamp
              (⟨stamp state.world, entry⟩ :: timeline) state'
              actions

end Interaction

------------------------------------------------------------
-- Timelines And Histories
------------------------------------------------------------

namespace Interaction

variable {T E : Type} {R : E → Type}
variable {X Q ρ W Ext Op : Type}
variable {sem : Semantics E R W Ext Op}
variable {handler : Q → Prog E R X ρ}
variable {stamp : W → T}
variable {start : W}
variable {timeline : List (Moment T E R X Q ρ Op)}
variable {state : State E R X Q ρ W Op}

theorem Timed.reachable
    (hTimed : Timed sem handler stamp start timeline state) :
    Reachable sem handler start state := by
  induction hTimed with
  | init => exact .init
  | step _ action hAct _ ih => exact ih.step action hAct

/- The timeline is the history, with stamps. -/
theorem Timed.entriesOf_eq
    (hTimed : Timed sem handler stamp start timeline state) :
    entriesOf timeline = state.history := by
  induction hTimed with
  | init => rfl
  | step _ action hAct hEntry ih =>
      rw [entriesOf_cons, ih, hEntry]

/- Every run has a timeline. -/
theorem Reachable.timed
    (hReachable : Reachable sem handler start state)
    (stamp : W → T) :
    ∃ timeline,
      Timed sem handler stamp start timeline state := by
  induction hReachable with
  | init => exact ⟨[], .init⟩
  | step _ action hAct ih =>
      rcases ih with ⟨timeline, hTimed⟩
      rcases act_history hAct with ⟨entry, hEntry⟩
      exact ⟨_, hTimed.step action hAct hEntry⟩

/- A computed timeline goes on from the one it began with. -/
theorem Timed.run
    {timeline' : List (Moment T E R X Q ρ Op)}
    {state' : State E R X Q ρ W Op}
    {actions : List (Action Q Ext Op)}
    (hTimed : Timed sem handler stamp start timeline state)
    (hRun :
      runTimed sem handler stamp timeline state actions =
        some (timeline', state')) :
    Timed sem handler stamp start timeline' state' := by
  induction actions generalizing timeline state with
  | nil =>
      simp only [runTimed, Option.some.injEq, Prod.mk.injEq]
        at hRun
      rcases hRun with ⟨rfl, rfl⟩
      exact hTimed
  | cons action actions ih =>
      simp only [runTimed] at hRun
      cases hAct : act sem handler state action with
      | none => simp [hAct] at hRun
      | some next =>
          rcases act_history hAct with ⟨entry, hEntry⟩
          simp only [hAct, hEntry] at hRun
          exact ih (hTimed.step action hAct hEntry) hRun

/- A computed timeline is the timeline of its run. -/
theorem Timed.of_run
    {actions : List (Action Q Ext Op)}
    (hRun :
      runTimed sem handler stamp [] (.init start) actions =
        some (timeline, state)) :
    Timed sem handler stamp start timeline state :=
  Timed.init.run hRun

/-
  The rule for invariants that tie the world to the timeline:
  it holds at the start and every kind of entry keeps it.
-/
theorem Timed.invariant
    (I : W → List (Moment T E R X Q ρ Op) → Prop)
    (hStart : I start [])
    (hSame :
      ∀ world timeline entry,
        (∀ thread answer, entry ≠ .answer thread answer) →
        (∀ op, entry ≠ .env op) →
        I world timeline →
          I world (⟨stamp world, entry⟩ :: timeline))
    (hAnswer :
      ∀ world timeline thread effect ext value world',
        sem.exec world effect ext = some (value, world') →
        I world timeline →
          I world'
            (⟨stamp world, .answer thread ⟨effect, value⟩⟩ ::
              timeline))
    (hEnv :
      ∀ world timeline op world',
        sem.env world op = some world' →
        I world timeline →
          I world' (⟨stamp world, .env op⟩ :: timeline))
    (hTimed : Timed sem handler stamp start timeline state) :
    I state.world timeline := by
  induction hTimed with
  | init => exact hStart
  | step hTimed action hAct hEntry ih =>
      rcases act_cases hAct with
        ⟨request, rfl⟩ |
        ⟨thread, request, outcome, hThread, rfl⟩ |
        ⟨thread, request, effect, rest, ext, value, world,
          hThread, hExec, rfl⟩ |
        ⟨op, world, hOp, rfl⟩
      · have hHead := (List.cons.inj hEntry).1
        subst hHead
        exact hSame _ _ _ (by simp) (by simp) ih
      · have hHead := (List.cons.inj hEntry).1
        subst hHead
        exact hSame _ _ _ (by simp) (by simp) ih
      · have hHead := (List.cons.inj hEntry).1
        subst hHead
        exact hAnswer _ _ _ _ _ _ _ hExec ih
      · have hHead := (List.cons.inj hEntry).1
        subst hHead
        exact hEnv _ _ _ _ hOp ih

end Interaction
