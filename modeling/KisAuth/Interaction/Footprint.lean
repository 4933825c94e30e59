import KisAuth.Interaction.Erasure

/-
  What the steps of one thread do to the world.

  Every step of a thread either answers one of its calls or
  leaves the world alone. So what is known of the answers a
  thread received tells what its steps did, whatever other
  threads did between them.

  Key definitions include:
    * `StepOf`, `AnswerStep`, `Leaves`

  Key theorems include:
    * `Reachable.answerStep`, `StepOf.answered`
    * `leaves_of_answers`
    * `ended_reaches`, `guard_of_answer`
-/

------------------------------------------------------------
-- The Steps Of A Thread
------------------------------------------------------------

namespace Interaction

variable {E : Type} {R : E → Type} {X Q ρ W Ext Op : Type}
variable {sem : Semantics E R W Ext Op}
variable {handler : Q → Prog E R X ρ}
variable {start : W} {thread : Nat}
variable {final before after : State E R X Q ρ W Op}

/-
  From `before` to `after` is one step of the thread, in a
  run that goes on to `final`.
-/
structure StepOf
    (sem : Semantics E R W Ext Op)
    (handler : Q → Prog E R X ρ)
    (start : W)
    (thread : Nat)
    (final before after : State E R X Q ρ W Op) : Prop where
  reached : Reachable sem handler start before
  step :
    ∃ ext,
      act sem handler before (.run thread ext) = some after
  later :
    ∃ actions, run sem handler after actions = some final

/- Such a step, where it answers a call of the thread. -/
structure AnswerStep
    (sem : Semantics E R W Ext Op)
    (handler : Q → Prog E R X ρ)
    (start : W)
    (thread : Nat)
    (final before after : State E R X Q ρ W Op)
    (effect : E)
    (value : R effect) : Prop where
  step : StepOf sem handler start thread final before after
  answered :
    ∃ ext,
      sem.exec before.world effect ext =
        some (value, after.world)
  recorded :
    after.history =
      .answer thread ⟨effect, value⟩ :: before.history

/- Every step of the thread keeps the world as it should. -/
def Leaves
    (sem : Semantics E R W Ext Op)
    (handler : Q → Prog E R X ρ)
    (start : W)
    (thread : Nat)
    (final : State E R X Q ρ W Op)
    (Keeps : W → W → Prop) : Prop :=
  ∀ before after,
    StepOf sem handler start thread final before after →
      Keeps before.world after.world

/- A step of a thread ends it or answers one of its calls. -/
theorem thread_step_cases
    {ext : Ext}
    (hAct :
      act sem handler before (.run thread ext) =
        some after) :
    after.world = before.world ∨
      ∃ effect value,
        sem.exec before.world effect ext =
            some (value, after.world) ∧
          after.history =
            .answer thread ⟨effect, value⟩ ::
              before.history := by
  simp only [act] at hAct
  split at hAct
  · simp at hAct
  · rw [Option.some.injEq] at hAct
    rw [← hAct]
    exact Or.inl rfl
  · rw [Option.some.injEq] at hAct
    rw [← hAct]
    exact Or.inl rfl
  · next request effect rest hThread =>
      split at hAct
      · simp at hAct
      · next value world hExec =>
          rw [Option.some.injEq] at hAct
          rw [← hAct]
          exact Or.inr ⟨effect, value, hExec, rfl⟩

/- The entry that a step of a thread adds. -/
theorem answered_of_run
    {other : Nat}
    {ext : Ext}
    {effect : E}
    {value : R effect}
    (hAct :
      act sem handler before (.run other ext) = some after)
    (hMem :
      Entry.answer thread ⟨effect, value⟩ ∈ after.history)
    (hOld :
      Entry.answer thread ⟨effect, value⟩ ∉ before.history) :
    other = thread ∧
      sem.exec before.world effect ext =
          some (value, after.world) ∧
        after.history =
          .answer thread ⟨effect, value⟩ :: before.history := by
  simp only [act] at hAct
  split at hAct
  · simp at hAct
  · rw [Option.some.injEq] at hAct
    subst hAct
    simp [finish, hOld] at hMem
  · rw [Option.some.injEq] at hAct
    subst hAct
    simp [finish, hOld] at hMem
  · split at hAct
    · simp at hAct
    · next given world hExec =>
        rw [Option.some.injEq] at hAct
        subst hAct
        rcases List.mem_cons.mp hMem with hEntry | hEarlier
        · rw [Entry.answer.injEq, Answer.mk.injEq] at hEntry
          rcases hEntry with ⟨rfl, rfl, hValue⟩
          rw [heq_eq_eq] at hValue
          subst hValue
          exact ⟨rfl, hExec, rfl⟩
        · exact absurd hEarlier hOld

/- A step was taken on the way, also where the run goes on. -/
theorem StepOf.onward
    {next : State E R X Q ρ W Op}
    {action : Action Q Ext Op}
    (hStep :
      StepOf sem handler start thread final before after)
    (hAct : act sem handler final action = some next) :
    StepOf sem handler start thread next before after where
  reached := hStep.reached
  step := hStep.step
  later := by
    rcases hStep.later with ⟨actions, hRun⟩
    refine ⟨actions ++ [action], ?_⟩
    rw [run_append, hRun, Option.bind_some, run, hAct]
    rfl

/- What was answered is among the answers of the thread. -/
theorem AnswerStep.mem
    {effect : E}
    {value : R effect}
    (hStep :
      AnswerStep sem handler start thread final before after
        effect value) :
    (⟨effect, value⟩ : Answer E R) ∈
      answersOf thread final.history := by
  rcases hStep.step.later with ⟨actions, hRun⟩
  rcases run_history hRun with ⟨later, hLater⟩
  rw [mem_answersOf_iff, hLater, hStep.recorded]
  simp

/- Every answer of a thread was given in a step of it. -/
theorem Reachable.answerStep
    {effect : E}
    {value : R effect}
    (hReachable : Reachable sem handler start final)
    (hMem :
      (⟨effect, value⟩ : Answer E R) ∈
        answersOf thread final.history) :
    ∃ before after,
      AnswerStep sem handler start thread final before after
        effect value := by
  rw [mem_answersOf_iff] at hMem
  induction hReachable with
  | init => simp [State.init] at hMem
  | @step state state' hReached action hAct ih =>
      by_cases hOld :
          Entry.answer thread ⟨effect, value⟩ ∈ state.history
      · rcases ih hOld with ⟨before, after, hStep⟩
        exact
          ⟨before, after, hStep.step.onward hAct,
            hStep.answered, hStep.recorded⟩
      · refine ⟨state, state', ?_⟩
        cases action with
        | arrive request =>
            rw [act, Option.some.injEq] at hAct
            subst hAct
            simp [admitRequest, hOld] at hMem
        | env op =>
            simp only [act] at hAct
            split at hAct
            · simp at hAct
            · rw [Option.some.injEq] at hAct
              subst hAct
              simp [hOld] at hMem
        | run other ext =>
            have hHead :=
              answered_of_run hAct hMem hOld
            rcases hHead with ⟨rfl, hExec, hHistory⟩
            exact
              ⟨⟨hReached, ⟨ext, hAct⟩, [], rfl⟩, ⟨ext, hExec⟩,
                hHistory⟩

/- The answer of a step is among those of the thread. -/
theorem StepOf.answered
    (hStep :
      StepOf sem handler start thread final before after) :
    after.world = before.world ∨
      ∃ effect ext value,
        sem.exec before.world effect ext =
            some (value, after.world) ∧
          (⟨effect, value⟩ : Answer E R) ∈
            answersOf thread final.history := by
  rcases hStep.step with ⟨ext, hAct⟩
  rcases hStep.later with ⟨actions, hRun⟩
  rcases thread_step_cases hAct with
    hSame | ⟨effect, value, hExec, hHistory⟩
  · exact Or.inl hSame
  · right
    refine ⟨effect, ext, value, hExec, ?_⟩
    rcases run_history hRun with ⟨later, hLater⟩
    rw [mem_answersOf_iff, hLater, hHistory]
    simp

/-
  Where every answer of a thread is one that keeps the
  world, so does every step of it.
-/
theorem leaves_of_answers
    {Keeps : W → W → Prop}
    {Inert : Answer E R → Prop}
    (hRefl : ∀ world, Keeps world world)
    (hExec :
      ∀ world ext effect value world',
        sem.exec world effect ext = some (value, world') →
          Inert ⟨effect, value⟩ → Keeps world world')
    (hInert :
      ∀ answer ∈ answersOf thread final.history,
        Inert answer) :
    Leaves sem handler start thread final Keeps := by
  intro before after hStep
  rcases hStep.answered with
    hSame | ⟨effect, ext, value, hAnswer, hMem⟩
  · rw [hSame]
    exact hRefl _
  · exact hExec _ ext effect value _ hAnswer (hInert _ hMem)

end Interaction

------------------------------------------------------------
-- Threads That Ended
------------------------------------------------------------

namespace Interaction

variable {E : Type} {R : E → Type} {X Q ρ W Ext Op : Type}
variable {handler : Q → Prog E R X ρ}
variable {history : List (Entry E R X Q ρ Op)}
variable {thread : Nat} {outcome : Except X ρ}

/- Nothing is recorded of a thread once it has ended. -/
theorem about_ne_of_ended
    {entry : Entry E R X Q ρ Op}
    (hConforms : Conforms handler entry history)
    (hEnd : Entry.respond thread outcome ∈ history) :
    entry.about ≠ some thread := by
  intro hAbout
  cases entry with
  | arrive other request =>
      rw [Entry.about, Option.some.injEq] at hAbout
      subst hAbout
      exact hConforms _ hEnd rfl
  | answer other answer =>
      rw [Entry.about, Option.some.injEq] at hAbout
      subst hAbout
      exact hConforms.1 outcome hEnd
  | respond other outcome' =>
      rw [Entry.about, Option.some.injEq] at hAbout
      subst hAbout
      exact hConforms.1 outcome hEnd
  | env op => simp [Entry.about] at hAbout

/- A thread ended where its answers brought its program. -/
theorem ended_reaches
    {request : Q}
    (hConforms : Always (Conforms handler) history)
    (hArrive : Entry.arrive thread request ∈ history)
    (hEnd : Entry.respond thread outcome ∈ history) :
    (handler request).Reaches (answersOf thread history)
      (Prog.ofOutcome outcome) := by
  induction history with
  | nil => simp at hEnd
  | cons entry earlier ih =>
      rcases List.mem_cons.mp hEnd with rfl | hEarlier
      · rcases hConforms.1.2 with
          ⟨other, hOther, hReaches⟩
        have hSame : request = other :=
          arrive_unique_of_always hConforms hArrive
            (List.mem_cons_of_mem _ hOther)
        rw [hSame]
        exact hReaches
      · have hAbout :=
          about_ne_of_ended hConforms.1 hEarlier
        rw [answersOf_cons_of_about_ne hAbout]
        apply ih hConforms.2 _ hEarlier
        rcases List.mem_cons.mp hArrive with rfl | hMem
        · exact absurd rfl hAbout
        · exact hMem

/- The first request of a run is its thread 0. -/
theorem arrive_of_run
    {sem : Semantics E R W Ext Op}
    {start : W}
    {request : Q}
    {actions : List (Action Q Ext Op)}
    {final : State E R X Q ρ W Op}
    (hRun :
      run sem handler (.init start)
          (.arrive request :: actions) =
        some final) :
    Entry.arrive 0 request ∈ final.history := by
  have hRest :
      run sem handler
          (admitRequest handler (.init start) request)
          actions =
        some final :=
    hRun
  rcases run_history hRest with ⟨later, hLater⟩
  rw [hLater]
  exact List.mem_append_right _ List.mem_cons_self

/-
  Each answer of a thread was given to a call that the guard
  of its program allowed.
-/
theorem guard_of_answer
    {guard : List (Answer E R) → E → Prop}
    {final : List (Answer E R) → Except X ρ → Prop}
    {request : Q}
    {answer : Answer E R}
    (hConforms : Always (Conforms handler) history)
    (hArrive : Entry.arrive thread request ∈ history)
    (hObeys : (handler request).Obeys guard final [])
    (hMem : answer ∈ answersOf thread history) :
    ∃ earlier,
      (∀ other ∈ earlier,
          other ∈ answersOf thread history) ∧
        guard earlier answer.effect := by
  rw [mem_answersOf_iff] at hMem
  rcases List.append_of_mem hMem with
    ⟨later, earlier, rfl⟩
  rcases hConforms.split.1.2 with
    ⟨other, rest, hOther, hReaches⟩
  have hSame : request = other :=
    arrive_unique_of_always hConforms hArrive
      (List.mem_append_right _
        (List.mem_cons_of_mem _ hOther))
  subst hSame
  refine
    ⟨answersOf thread earlier, ?_,
      hObeys.guard_of_reaches hReaches⟩
  intro given hGiven
  rw [mem_answersOf_iff] at hGiven ⊢
  exact
    List.mem_append_right _ (List.mem_cons_of_mem _ hGiven)

end Interaction
