import KisAuth.Interaction.Prog

/-
  Any number of programs interleaved over one shared world.

  A request starts a program as a new thread. A step answers
  one call of one thread, ends one thread, admits a request
  or lets the environment act. The scheduler picks the step
  and supplies whatever the world does not determine.

  Every step is recorded. The history is kept newest first
  and is part of the state.

  Key definitions include:
    * `Entry`, `answersOf`, `requestOf`, `Always`
    * `State`, `Semantics`, `act`, `run`, `Reachable`

  Key theorems include:
    * `act_cases`
    * `Reachable.of_run`
-/

------------------------------------------------------------
-- Histories
------------------------------------------------------------

namespace Interaction

/-
  What one step of the system records: a request `Q` that
  starts a thread, an answered call, a thread that ends in
  an outcome, or an operation of the environment.
-/
inductive Entry
    (E : Type) (R : E → Type) (X Q ρ Op : Type) where
  | arrive (thread : Nat) (request : Q)
  | answer (thread : Nat) (answer : Answer E R)
  | respond (thread : Nat) (outcome : Except X ρ)
  | env (op : Op)

variable {E : Type} {R : E → Type} {X Q ρ Op : Type}

/- The answers one thread received, newest first. -/
def answersOf
    (thread : Nat) :
    List (Entry E R X Q ρ Op) → List (Answer E R)
| [] => []
| .answer other answer :: earlier =>
    if other = thread then
      answer :: answersOf thread earlier
    else
      answersOf thread earlier
| .arrive _ _ :: earlier => answersOf thread earlier
| .respond _ _ :: earlier => answersOf thread earlier
| .env _ :: earlier => answersOf thread earlier

theorem mem_answersOf_iff
    (thread : Nat)
    (history : List (Entry E R X Q ρ Op))
    (answer : Answer E R) :
    answer ∈ answersOf thread history ↔
      Entry.answer thread answer ∈ history := by
  induction history with
  | nil => simp [answersOf]
  | cons entry earlier ih =>
      cases entry with
      | answer other given =>
          by_cases hThread : other = thread
          · subst hThread
            simp [answersOf, ih]
          · have hNe : ¬ thread = other :=
              fun h => hThread h.symm
            simp [answersOf, ih, hThread, hNe]
      | arrive other request => simp [answersOf, ih]
      | respond other outcome => simp [answersOf, ih]
      | env op => simp [answersOf, ih]

/- The request a thread serves. -/
def requestOf
    (thread : Nat) :
    List (Entry E R X Q ρ Op) → Option Q
| [] => none
| .arrive other request :: earlier =>
    if other = thread then some request
    else requestOf thread earlier
| .answer _ _ :: earlier => requestOf thread earlier
| .respond _ _ :: earlier => requestOf thread earlier
| .env _ :: earlier => requestOf thread earlier

theorem arrive_of_requestOf
    {thread : Nat}
    {history : List (Entry E R X Q ρ Op)}
    {request : Q}
    (hRequest : requestOf thread history = some request) :
    Entry.arrive thread request ∈ history := by
  induction history with
  | nil => simp [requestOf] at hRequest
  | cons entry earlier ih =>
      cases entry with
      | arrive other presented =>
          simp only [requestOf] at hRequest
          split at hRequest
          · next hThread =>
              simp only [Option.some.injEq] at hRequest
              subst hThread
              subst hRequest
              exact List.mem_cons_self
          · exact List.mem_cons_of_mem _ (ih hRequest)
      | answer other answer =>
          exact List.mem_cons_of_mem _ (ih hRequest)
      | respond other outcome =>
          exact List.mem_cons_of_mem _ (ih hRequest)
      | env op => exact List.mem_cons_of_mem _ (ih hRequest)

theorem exists_requestOf_of_arrive
    {thread : Nat}
    {history : List (Entry E R X Q ρ Op)}
    {request : Q}
    (hArrive : Entry.arrive thread request ∈ history) :
    ∃ found, requestOf thread history = some found := by
  induction history with
  | nil => simp at hArrive
  | cons entry earlier ih =>
      cases entry with
      | arrive other presented =>
          by_cases hThread : other = thread
          · exact ⟨presented, by simp [requestOf, hThread]⟩
          · have hNe : ¬ thread = other :=
              fun hEq => hThread hEq.symm
            simp only [List.mem_cons, Entry.arrive.injEq,
              hNe, false_and, false_or] at hArrive
            rcases ih hArrive with ⟨found, hFound⟩
            exact
              ⟨found, by simp [requestOf, hThread, hFound]⟩
      | answer other answer =>
          exact ih (by simpa using hArrive)
      | respond other outcome =>
          exact ih (by simpa using hArrive)
      | env op => exact ih (by simpa using hArrive)

/- The thread an entry is about. -/
def Entry.about : Entry E R X Q ρ Op → Option Nat
| .arrive thread _ => some thread
| .answer thread _ => some thread
| .respond thread _ => some thread
| .env _ => none

/- No entry of the history is about this thread. -/
def Unused
    (thread : Nat)
    (history : List (Entry E R X Q ρ Op)) : Prop :=
  ∀ entry ∈ history, entry.about ≠ some thread

@[simp] theorem unused_nil
    (thread : Nat) :
    Unused thread ([] : List (Entry E R X Q ρ Op)) := by
  simp [Unused]

@[simp] theorem unused_cons
    (thread : Nat)
    (entry : Entry E R X Q ρ Op)
    (earlier : List (Entry E R X Q ρ Op)) :
    Unused thread (entry :: earlier) ↔
      entry.about ≠ some thread ∧ Unused thread earlier := by
  simp [Unused]

/- Entries about other threads add no answers. -/
theorem answersOf_cons_of_about_ne
    {thread : Nat}
    {entry : Entry E R X Q ρ Op}
    (hAbout : entry.about ≠ some thread)
    (earlier : List (Entry E R X Q ρ Op)) :
    answersOf thread (entry :: earlier) =
      answersOf thread earlier := by
  cases entry with
  | answer other answer =>
      have hNe : ¬ other = thread := by
        simpa [Entry.about] using hAbout
      simp [answersOf, hNe]
  | arrive other request => rfl
  | respond other outcome => rfl
  | env op => rfl

theorem answersOf_eq_nil_of_unused
    {thread : Nat}
    {history : List (Entry E R X Q ρ Op)}
    (hUnused : Unused thread history) :
    answersOf thread history = [] := by
  induction history with
  | nil => rfl
  | cons entry earlier ih =>
      rw [unused_cons] at hUnused
      rw [answersOf_cons_of_about_ne hUnused.1]
      exact ih hUnused.2

/- Where the last answer a thread received was recorded. -/
theorem exists_split_of_answersOf
    {thread : Nat}
    {history : List (Entry E R X Q ρ Op)}
    {answer : Answer E R}
    {past : List (Answer E R)}
    (hAnswers : answersOf thread history = answer :: past) :
    ∃ later earlier,
      history = later ++ .answer thread answer :: earlier ∧
        answersOf thread earlier = past := by
  induction history with
  | nil => simp [answersOf] at hAnswers
  | cons entry earlier ih =>
      by_cases hAbout : entry.about = some thread
      · cases entry with
        | answer other given =>
            have hThread : other = thread := by
              simpa [Entry.about] using hAbout
            subst hThread
            simp only [answersOf, if_true, List.cons.injEq]
              at hAnswers
            rcases hAnswers with ⟨rfl, hPast⟩
            exact ⟨[], earlier, rfl, hPast⟩
        | arrive other request =>
            rcases ih hAnswers with
              ⟨later, rest, rfl, hPast⟩
            exact ⟨_ :: later, rest, rfl, hPast⟩
        | respond other outcome =>
            rcases ih hAnswers with
              ⟨later, rest, rfl, hPast⟩
            exact ⟨_ :: later, rest, rfl, hPast⟩
        | env op => simp [Entry.about] at hAbout
      · rw [answersOf_cons_of_about_ne hAbout] at hAnswers
        rcases ih hAnswers with ⟨later, rest, rfl, hPast⟩
        exact ⟨_ :: later, rest, rfl, hPast⟩

/- `P entry earlier` holds for every entry of a history. -/
def Always {ε : Type} (P : ε → List ε → Prop) :
    List ε → Prop
| [] => True
| entry :: earlier => P entry earlier ∧ Always P earlier

instance Always.decidable
    {ε : Type}
    {P : ε → List ε → Prop}
    [∀ entry earlier, Decidable (P entry earlier)] :
    (history : List ε) → Decidable (Always P history)
| [] => isTrue trivial
| entry :: earlier =>
    have := Always.decidable (P := P) earlier
    inferInstanceAs
      (Decidable (P entry earlier ∧ Always P earlier))

@[simp] theorem always_nil
    {ε : Type}
    (P : ε → List ε → Prop) :
    Always P [] :=
  trivial

@[simp] theorem always_cons
    {ε : Type}
    (P : ε → List ε → Prop)
    (entry : ε)
    (earlier : List ε) :
    Always P (entry :: earlier) ↔
      P entry earlier ∧ Always P earlier :=
  Iff.rfl

theorem Always.mono
    {ε : Type}
    {P P' : ε → List ε → Prop}
    {history : List ε}
    (hAlways : Always P history)
    (hImp :
      ∀ entry earlier, P entry earlier → P' entry earlier) :
    Always P' history := by
  induction history with
  | nil => trivial
  | cons entry earlier ih =>
      exact ⟨hImp _ _ hAlways.1, ih hAlways.2⟩

theorem Always.and
    {ε : Type}
    {P P' : ε → List ε → Prop}
    {history : List ε}
    (hLeft : Always P history)
    (hRight : Always P' history) :
    Always (fun entry earlier =>
      P entry earlier ∧ P' entry earlier) history := by
  induction history with
  | nil => trivial
  | cons entry earlier ih =>
      exact ⟨⟨hLeft.1, hRight.1⟩, ih hLeft.2 hRight.2⟩

/- What holds of every entry holds where it was recorded. -/
theorem Always.split
    {ε : Type}
    {P : ε → List ε → Prop}
    {later earlier : List ε}
    {entry : ε}
    (hAlways : Always P (later ++ entry :: earlier)) :
    P entry earlier ∧ Always P earlier := by
  induction later with
  | nil => exact hAlways
  | cons head later ih => exact ih hAlways.2

theorem Always.drop
    {ε : Type}
    {P : ε → List ε → Prop}
    {later earlier : List ε}
    (hAlways : Always P (later ++ earlier)) :
    Always P earlier := by
  induction later with
  | nil => exact hAlways
  | cons head later ih => exact ih hAlways.2

/- What holds at every position holds of every entry. -/
theorem always_of_split
    {ε : Type}
    {P : ε → List ε → Prop}
    {history : List ε}
    (hSplit :
      ∀ later entry earlier,
        history = later ++ entry :: earlier →
          P entry earlier) :
    Always P history := by
  induction history with
  | nil => trivial
  | cons head tail ih =>
      refine ⟨hSplit [] head tail rfl, ?_⟩
      apply ih
      rintro later entry earlier rfl
      exact hSplit (head :: later) entry earlier rfl

/-
  Two positions of one history are the same, or one of them
  is before the other.
-/
theorem positions_cases
    {ε : Type}
    {later later' earlier earlier' : List ε}
    {entry entry' : ε}
    (hEq :
      later ++ entry :: earlier =
        later' ++ entry' :: earlier') :
    (entry = entry' ∧ earlier = earlier') ∨
      (∃ between, earlier' = between ++ entry :: earlier) ∨
        ∃ between, earlier = between ++ entry' :: earlier' := by
  rcases List.append_eq_append_iff.mp hEq with
    ⟨middle, _, hRest⟩ | ⟨middle, _, hRest⟩
  · cases middle with
    | nil =>
        simp only [List.nil_append, List.cons.injEq] at hRest
        exact Or.inl hRest
    | cons head middle =>
        simp only [List.cons_append, List.cons.injEq]
          at hRest
        exact Or.inr (Or.inr ⟨middle, hRest.2⟩)
  · cases middle with
    | nil =>
        simp only [List.nil_append, List.cons.injEq] at hRest
        exact Or.inl ⟨hRest.1.symm, hRest.2.symm⟩
    | cons head middle =>
        simp only [List.cons_append, List.cons.injEq]
          at hRest
        exact Or.inr (Or.inl ⟨middle, hRest.2⟩)

end Interaction

------------------------------------------------------------
-- Interleaved Execution
------------------------------------------------------------

namespace Interaction

/- A running program with the request it serves. -/
structure Thread
    (E : Type) (R : E → Type) (X Q ρ : Type) where
  request : Q
  program : Prog E R X ρ

/-
  How the world answers an effect and how the environment
  acts on it. `Ext` is what the scheduler supplies.
-/
structure Semantics
    (E : Type) (R : E → Type) (W Ext Op : Type) where
  exec : W → (effect : E) → Ext → Option (R effect × W)
  env : W → Op → Option W

/- The state of the system. -/
structure State
    (E : Type) (R : E → Type) (X Q ρ W Op : Type) where
  world : W
  threads : Nat → Option (Thread E R X Q ρ)
  next : Nat
  history : List (Entry E R X Q ρ Op)

/- The choices of the scheduler. -/
inductive Action (Q Ext Op : Type) where
  | arrive (request : Q)
  | run (thread : Nat) (ext : Ext)
  | env (op : Op)

variable {E : Type} {R : E → Type} {X Q ρ W Ext Op : Type}

/- Nothing has happened yet. -/
def State.init (world : W) : State E R X Q ρ W Op where
  world := world
  threads := fun _ => none
  next := 0
  history := []

/- Replace the entry of one thread. -/
def setThread
    (threads : Nat → Option (Thread E R X Q ρ))
    (thread : Nat)
    (entry : Option (Thread E R X Q ρ)) :
    Nat → Option (Thread E R X Q ρ) :=
  fun other =>
    if other = thread then entry else threads other

/- A thread that has ended leaves the system. -/
def finish
    (state : State E R X Q ρ W Op)
    (thread : Nat)
    (outcome : Except X ρ) : State E R X Q ρ W Op where
  world := state.world
  threads := setThread state.threads thread none
  next := state.next
  history := .respond thread outcome :: state.history

/- A thread continues after one of its calls is answered. -/
def advance
    (state : State E R X Q ρ W Op)
    (thread : Nat)
    (request : Q)
    (effect : E)
    (rest : R effect → Prog E R X ρ)
    (value : R effect)
    (world : W) : State E R X Q ρ W Op where
  world := world
  threads := setThread state.threads thread
    (some ⟨request, rest value⟩)
  next := state.next
  history :=
    .answer thread ⟨effect, value⟩ :: state.history

/- A request starts its program as a new thread. -/
def admitRequest
    (handler : Q → Prog E R X ρ)
    (state : State E R X Q ρ W Op)
    (request : Q) : State E R X Q ρ W Op where
  world := state.world
  threads := setThread state.threads state.next
    (some ⟨request, handler request⟩)
  next := state.next + 1
  history := .arrive state.next request :: state.history

/-
  One step. It is undefined when the scheduler names no
  running thread, or supplies what the world refuses.
-/
def act
    (sem : Semantics E R W Ext Op)
    (handler : Q → Prog E R X ρ)
    (state : State E R X Q ρ W Op) :
    Action Q Ext Op → Option (State E R X Q ρ W Op)
| .arrive request =>
    some (admitRequest handler state request)
| .run thread ext =>
    match state.threads thread with
    | none => none
    | some ⟨_, .ret value⟩ =>
        some (finish state thread (.ok value))
    | some ⟨_, .throw error⟩ =>
        some (finish state thread (.error error))
    | some ⟨request, .call effect rest⟩ =>
        match sem.exec state.world effect ext with
        | none => none
        | some (value, world) =>
            some (advance state thread request effect rest
              value world)
| .env op =>
    match sem.env state.world op with
    | none => none
    | some world =>
        some { state with
          world := world
          history := .env op :: state.history }

/- Run a list of actions, first to last. -/
def run
    (sem : Semantics E R W Ext Op)
    (handler : Q → Prog E R X ρ) :
    State E R X Q ρ W Op → List (Action Q Ext Op) →
      Option (State E R X Q ρ W Op)
| state, [] => some state
| state, action :: actions =>
    match act sem handler state action with
    | none => none
    | some state' => run sem handler state' actions

/- The states that a run from `start` passes through. -/
inductive Reachable
    (sem : Semantics E R W Ext Op)
    (handler : Q → Prog E R X ρ)
    (start : W) : State E R X Q ρ W Op → Prop where
  | init : Reachable sem handler start (.init start)
  | step
      {state state' : State E R X Q ρ W Op}
      (hReachable : Reachable sem handler start state)
      (action : Action Q Ext Op)
      (hAct : act sem handler state action = some state') :
      Reachable sem handler start state'

variable {sem : Semantics E R W Ext Op}
variable {handler : Q → Prog E R X ρ}
variable {start : W}

theorem Reachable.run
    {state state' : State E R X Q ρ W Op}
    {actions : List (Action Q Ext Op)}
    (hReachable : Reachable sem handler start state)
    (hRun :
      Interaction.run sem handler state actions =
        some state') :
    Reachable sem handler start state' := by
  induction actions generalizing state with
  | nil =>
      simp only [Interaction.run, Option.some.injEq] at hRun
      exact hRun ▸ hReachable
  | cons action actions ih =>
      simp only [Interaction.run] at hRun
      cases hAct : act sem handler state action with
      | none => simp [hAct] at hRun
      | some next =>
          simp only [hAct] at hRun
          exact ih (hReachable.step action hAct) hRun

/- A completed run ends in a reachable state. -/
theorem Reachable.of_run
    {state : State E R X Q ρ W Op}
    {actions : List (Action Q Ext Op)}
    (hRun :
      Interaction.run sem handler (.init start) actions =
        some state) :
    Reachable sem handler start state :=
  Reachable.init.run hRun

/- The four kinds of step, with all that each one changes. -/
theorem act_cases
    {state state' : State E R X Q ρ W Op}
    {action : Action Q Ext Op}
    (hAct : act sem handler state action = some state') :
    (∃ request,
        state' = admitRequest handler state request) ∨
      (∃ thread request outcome,
        state.threads thread =
            some ⟨request, Prog.ofOutcome outcome⟩ ∧
          state' = finish state thread outcome) ∨
      (∃ thread request effect rest ext value world,
        state.threads thread =
            some ⟨request, .call effect rest⟩ ∧
          sem.exec state.world effect ext =
            some (value, world) ∧
          state' = advance state thread request effect
            rest value world) ∨
      ∃ op world,
        sem.env state.world op = some world ∧
          state' = { state with
            world := world
            history := .env op :: state.history } := by
  cases action with
  | arrive request =>
      exact Or.inl ⟨request, (Option.some.inj hAct).symm⟩
  | run thread ext =>
      right
      simp only [act] at hAct
      split at hAct
      · exact absurd hAct (by simp)
      · next request value hThread =>
          exact Or.inl ⟨thread, request, .ok value, hThread,
            (Option.some.inj hAct).symm⟩
      · next request error hThread =>
          exact Or.inl ⟨thread, request, .error error,
            hThread, (Option.some.inj hAct).symm⟩
      · next request effect rest hThread =>
          split at hAct
          · exact absurd hAct (by simp)
          · next value world hExec =>
              exact Or.inr (Or.inl ⟨thread, request, effect,
                rest, ext, value, world, hThread, hExec,
                (Option.some.inj hAct).symm⟩)
  | env op =>
      right; right; right
      simp only [act] at hAct
      split at hAct
      · exact absurd hAct (by simp)
      · next world hEnv =>
          exact ⟨op, world, hEnv,
            (Option.some.inj hAct).symm⟩

/- Every step records one entry. -/
theorem act_history
    {state state' : State E R X Q ρ W Op}
    {action : Action Q Ext Op}
    (hAct : act sem handler state action = some state') :
    ∃ entry, state'.history = entry :: state.history := by
  rcases act_cases hAct with
    ⟨_, rfl⟩ | ⟨_, _, _, _, rfl⟩ |
      ⟨_, _, _, _, _, _, _, _, _, rfl⟩ | ⟨_, _, _, rfl⟩
  · exact ⟨_, rfl⟩
  · exact ⟨_, rfl⟩
  · exact ⟨_, rfl⟩
  · exact ⟨_, rfl⟩

end Interaction
