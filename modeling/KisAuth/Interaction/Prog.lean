import Mathlib.Logic.Basic
import Mathlib.Data.List.Basic

/-
  Programs that interact with a shared environment.

  A program is a tree of calls: it performs an effect,
  waits for the answer and continues. Between two calls
  anything may happen outside. A program either returns a
  value or stops with an error.

  `Obeys` is the local reasoning principle: whatever the
  answers are, each call is allowed by a guard over the
  answers received before it, and each outcome satisfies a
  condition over all answers received.

  Key definitions include:
    * `Prog`, `Prog.perform`, `Prog.Reaches`
    * `Prog.Obeys`, `Prog.AndThen`, `Extends`

  Key theorems include:
    * `Prog.Obeys.andThen`, `Prog.obeys_perform`
    * `Prog.Obeys.reaches`, `Prog.obeys_after_quiet`
-/

------------------------------------------------------------
-- Programs
------------------------------------------------------------

namespace Interaction

/-
  A program over effects `E`, answered in `R`, that stops
  with an error in `X` or a value in `α`.
-/
inductive Prog
    (E : Type) (R : E → Type) (X α : Type) where
  | ret (value : α)
  | throw (error : X)
  | call (effect : E) (next : R effect → Prog E R X α)

/- One performed effect together with its answer. -/
structure Answer (E : Type) (R : E → Type) where
  effect : E
  value : R effect

namespace Prog

variable {E : Type} {R : E → Type} {X α β : Type}

/- Run a program, then continue with its value. -/
def bind : Prog E R X α → (α → Prog E R X β) →
    Prog E R X β
| .ret value, next => next value
| .throw error, _ => .throw error
| .call effect cont, next =>
    .call effect (fun answer => (cont answer).bind next)

instance : Monad (Prog E R X) where
  pure := .ret
  bind := bind

/- The program that performs one effect. -/
def perform (effect : E) : Prog E R X (R effect) :=
  .call effect .ret

@[simp] theorem pure_eq
    (value : α) :
    (pure value : Prog E R X α) = .ret value :=
  rfl

@[simp] theorem bind_eq
    (program : Prog E R X α)
    (next : α → Prog E R X β) :
    (program >>= next) = program.bind next :=
  rfl

@[simp] theorem map_eq
    (program : Prog E R X α)
    (f : α → β) :
    (f <$> program) =
      program.bind (fun value => .ret (f value)) :=
  rfl

@[simp] theorem bind_ret
    (value : α)
    (next : α → Prog E R X β) :
    (Prog.ret value : Prog E R X α).bind next =
      next value :=
  rfl

@[simp] theorem bind_throw
    (error : X)
    (next : α → Prog E R X β) :
    (Prog.throw error : Prog E R X α).bind next =
      .throw error :=
  rfl

@[simp] theorem bind_call
    (effect : E)
    (cont : R effect → Prog E R X α)
    (next : α → Prog E R X β) :
    (Prog.call effect cont).bind next =
      .call effect (fun answer => (cont answer).bind next) :=
  rfl

/- A sequence of three, put together either way. -/
theorem bind_assoc
    {γ : Type}
    (program : Prog E R X α)
    (next : α → Prog E R X β)
    (last : β → Prog E R X γ) :
    (program.bind next).bind last =
      program.bind (fun value => (next value).bind last) := by
  induction program with
  | ret value => rfl
  | throw error => rfl
  | call effect cont ih =>
      simp only [bind_call, ih]

theorem bind_ret_right
    (program : Prog E R X α) :
    program.bind .ret = program := by
  induction program with
  | ret value => rfl
  | throw error => rfl
  | call effect cont ih =>
      simp only [bind_call, ih]

/- The program that stops with the given outcome. -/
def ofOutcome : Except X α → Prog E R X α
| .ok value => .ret value
| .error error => .throw error

/-
  `p.Reaches past q`: after the answers `past`, newest
  first, the program `p` has become `q`.
-/
inductive Reaches
    (p : Prog E R X α) :
    List (Answer E R) → Prog E R X α → Prop where
  | start : Reaches p [] p
  | answer
      {past : List (Answer E R)}
      {effect : E}
      {next : R effect → Prog E R X α}
      (hPast : Reaches p past (.call effect next))
      (value : R effect) :
      Reaches p (⟨effect, value⟩ :: past) (next value)

/- The first answer, and what the rest leads to. -/
theorem Reaches.first
    {p q : Prog E R X α}
    {later : List (Answer E R)}
    {effect : E}
    {next : R effect → Prog E R X α}
    (hCall : p = .call effect next)
    (value : R effect)
    (hRest : (next value).Reaches later.reverse q) :
    p.Reaches (⟨effect, value⟩ :: later).reverse q := by
  subst hCall
  rw [List.reverse_cons]
  generalize later.reverse = past at hRest
  induction hRest with
  | start => exact .answer .start value
  | answer hPast last ih => exact .answer ih last

end Prog

end Interaction

------------------------------------------------------------
-- Guarded Programs
------------------------------------------------------------

namespace Interaction

namespace Prog

variable {E : Type} {R : E → Type} {X α β : Type}

/-
  Every call of the program satisfies `guard` and every
  outcome satisfies `final`, whatever the answers are. Both
  see the answers received so far, newest first.
-/
def Obeys
    (guard : List (Answer E R) → E → Prop)
    (final : List (Answer E R) → Except X α → Prop) :
    Prog E R X α → List (Answer E R) → Prop
| .ret value, past => final past (.ok value)
| .throw error, past => final past (.error error)
| .call effect next, past =>
    guard past effect ∧
      ∀ value, Obeys guard final (next value)
        (⟨effect, value⟩ :: past)

variable {guard : List (Answer E R) → E → Prop}
variable {final : List (Answer E R) → Except X α → Prop}

@[simp] theorem obeys_ret
    (value : α)
    (past : List (Answer E R)) :
    Obeys guard final (.ret value) past ↔
      final past (.ok value) :=
  Iff.rfl

@[simp] theorem obeys_throw
    (error : X)
    (past : List (Answer E R)) :
    Obeys guard final (.throw error) past ↔
      final past (.error error) :=
  Iff.rfl

@[simp] theorem obeys_call
    (effect : E)
    (next : R effect → Prog E R X α)
    (past : List (Answer E R)) :
    Obeys guard final (.call effect next) past ↔
      guard past effect ∧
        ∀ value, Obeys guard final (next value)
          (⟨effect, value⟩ :: past) :=
  Iff.rfl

/-
  What a sequence must satisfy, as what its first part must
  satisfy: the outcome condition of the first part is the
  rest of the obligation.
-/
theorem obeys_bind
    {final : List (Answer E R) → Except X β → Prop}
    (program : Prog E R X α)
    (next : α → Prog E R X β)
    (past : List (Answer E R)) :
    Obeys guard final (program.bind next) past ↔
      Obeys guard
        (fun later outcome =>
          match outcome with
          | .ok value => Obeys guard final (next value) later
          | .error error => final later (.error error))
        program past := by
  induction program generalizing past with
  | ret value => simp
  | throw error => simp
  | call effect cont ih => simp [ih]

/- Weaken both conditions. -/
theorem Obeys.mono
    {guard' : List (Answer E R) → E → Prop}
    {final' : List (Answer E R) → Except X α → Prop}
    {program : Prog E R X α}
    {past : List (Answer E R)}
    (hObeys : Obeys guard final program past)
    (hGuard :
      ∀ past effect, guard past effect → guard' past effect)
    (hFinal :
      ∀ past outcome,
        final past outcome → final' past outcome) :
    Obeys guard' final' program past := by
  induction program generalizing past with
  | ret value => exact hFinal _ _ hObeys
  | throw error => exact hFinal _ _ hObeys
  | call effect cont ih =>
      exact
        ⟨hGuard _ _ hObeys.1,
          fun value => ih value (hObeys.2 value)⟩

/- A guard that the answers so far imply is obeyed. -/
theorem obeys_of_past
    {past : List (Answer E R)}
    (hGuard :
      ∀ later effect, past ⊆ later → guard later effect)
    (hFinal :
      ∀ later outcome, past ⊆ later → final later outcome)
    (program : Prog E R X α) :
    Obeys guard final program past := by
  induction program generalizing past with
  | ret value => exact hFinal past _ (List.Subset.refl past)
  | throw error => exact hFinal past _ (List.Subset.refl past)
  | call effect cont ih =>
      refine
        ⟨hGuard past effect (List.Subset.refl past),
          fun value => ih value ?_ ?_⟩
      · intro later next hLater
        exact hGuard later next
          (List.Subset.trans (List.subset_cons_self _ _) hLater)
      · intro later outcome hLater
        exact hFinal later outcome
          (List.Subset.trans (List.subset_cons_self _ _) hLater)

/- A guarded program stays guarded as it is answered. -/
theorem Obeys.reaches
    {program rest : Prog E R X α}
    {past : List (Answer E R)}
    (hObeys : Obeys guard final program [])
    (hReaches : program.Reaches past rest) :
    Obeys guard final rest past := by
  induction hReaches with
  | start => exact hObeys
  | answer hPast value ih => exact ih.2 value

/- A guarded program satisfies the guard at each call. -/
theorem Obeys.guard_of_reaches
    {program : Prog E R X α}
    {past : List (Answer E R)}
    {effect : E}
    {next : R effect → Prog E R X α}
    (hObeys : Obeys guard final program [])
    (hReaches : program.Reaches past (.call effect next)) :
    guard past effect :=
  (hObeys.reaches hReaches).1

/- A guarded program ends in an allowed outcome. -/
theorem Obeys.final_of_reaches
    {program : Prog E R X α}
    {past : List (Answer E R)}
    {outcome : Except X α}
    (hObeys : Obeys guard final program [])
    (hReaches :
      program.Reaches past (Prog.ofOutcome outcome)) :
    final past outcome := by
  have hRest := hObeys.reaches hReaches
  cases outcome with
  | ok value => exact hRest
  | error error => exact hRest

end Prog

end Interaction

------------------------------------------------------------
-- Sequencing
------------------------------------------------------------

namespace Interaction

namespace Prog

variable {E : Type} {R : E → Type} {X α β : Type}
variable {guard : List (Answer E R) → E → Prop}
variable {final : List (Answer E R) → Except X β → Prop}

/- What the first part of a sequence must end in. -/
def AndThen
    (guard : List (Answer E R) → E → Prop)
    (final : List (Answer E R) → Except X β → Prop)
    (next : α → Prog E R X β)
    (later : List (Answer E R)) : Except X α → Prop
| .ok value => Obeys guard final (next value) later
| .error error => final later (.error error)

@[simp] theorem andThen_ok
    (next : α → Prog E R X β)
    (later : List (Answer E R))
    (value : α) :
    AndThen guard final next later (.ok value) ↔
      Obeys guard final (next value) later :=
  Iff.rfl

@[simp] theorem andThen_error
    (next : α → Prog E R X β)
    (later : List (Answer E R))
    (error : X) :
    AndThen guard final next later (.error error) ↔
      final later (.error error) :=
  Iff.rfl

/- The rule for a sequence. -/
theorem Obeys.andThen
    {program : Prog E R X α}
    {next : α → Prog E R X β}
    {past : List (Answer E R)}
    (hFirst :
      Obeys guard (AndThen guard final next) program past) :
    Obeys guard final (program >>= next) past := by
  rw [bind_eq, obeys_bind]
  apply hFirst.mono (fun _ _ hGuard => hGuard)
  intro later outcome hOutcome
  cases outcome with
  | ok value => exact hOutcome
  | error error => exact hOutcome

/- The rule for a single call. -/
theorem obeys_perform
    {effect : E}
    {past : List (Answer E R)}
    {final :
      List (Answer E R) → Except X (R effect) → Prop}
    (hGuard : guard past effect)
    (hFinal :
      ∀ value, final (⟨effect, value⟩ :: past) (.ok value)) :
    Obeys guard final (perform effect) past :=
  ⟨hGuard, hFinal⟩

end Prog

end Interaction

------------------------------------------------------------
-- Extensions By Quiet Calls
------------------------------------------------------------

namespace Interaction

variable {E : Type} {R : E → Type}
variable {quiet : E → Prop}

/- More answers, all of them to quiet calls. -/
def Extends
    (quiet : E → Prop)
    (past later : List (Answer E R)) : Prop :=
  ∃ new, later = new ++ past ∧
    ∀ answer ∈ new, quiet answer.effect

theorem Extends.refl
    (past : List (Answer E R)) :
    Extends quiet past past :=
  ⟨[], rfl, by simp⟩

theorem Extends.cons
    {past later : List (Answer E R)}
    (hExtends : Extends quiet past later)
    {effect : E}
    (hQuiet : quiet effect)
    (value : R effect) :
    Extends quiet past (⟨effect, value⟩ :: later) := by
  rcases hExtends with ⟨new, rfl, hNew⟩
  refine ⟨⟨effect, value⟩ :: new, rfl, ?_⟩
  intro answer hMem
  rcases List.mem_cons.mp hMem with rfl | hMem
  · exact hQuiet
  · exact hNew answer hMem

theorem Extends.trans
    {past middle later : List (Answer E R)}
    (hFirst : Extends quiet past middle)
    (hSecond : Extends quiet middle later) :
    Extends quiet past later := by
  rcases hFirst with ⟨first, rfl, hFirst⟩
  rcases hSecond with ⟨second, rfl, hSecond⟩
  refine ⟨second ++ first, by rw [List.append_assoc], ?_⟩
  intro answer hMem
  rcases List.mem_append.mp hMem with hMem | hMem
  · exact hSecond answer hMem
  · exact hFirst answer hMem

/- Answers are never lost. -/
theorem Extends.subset
    {past later : List (Answer E R)}
    (hExtends : Extends quiet past later) :
    past ⊆ later := by
  rcases hExtends with ⟨new, rfl, _⟩
  exact List.subset_append_right new past

/- What quiet calls do not contribute to stays the same. -/
theorem Extends.filterMap_eq
    {γ : Type}
    {past later : List (Answer E R)}
    {f : Answer E R → Option γ}
    (hExtends : Extends quiet past later)
    (hQuiet :
      ∀ answer, quiet answer.effect → f answer = none) :
    later.filterMap f = past.filterMap f := by
  rcases hExtends with ⟨new, rfl, hNew⟩
  have hNone : new.filterMap f = [] := by
    apply List.filterMap_eq_nil_iff.mpr
    intro answer hMem
    exact hQuiet answer (hNew answer hMem)
  rw [List.filterMap_append, hNone, List.nil_append]

namespace Prog

variable {X α β : Type}
variable {past : List (Answer E R)}

/- Quiet calls end in more quiet answers. -/
theorem Obeys.extends
    {final : List (Answer E R) → Except X α → Prop}
    {program : Prog E R X α}
    (hQuiet :
      Obeys (fun _ effect => quiet effect) final program
        past) :
    Obeys (fun _ effect => quiet effect)
      (fun later outcome =>
        Extends quiet past later ∧ final later outcome)
      program past := by
  have hFrom :
      ∀ later,
        Extends quiet past later →
          Obeys (fun _ effect => quiet effect) final program
              later →
            Obeys (fun _ effect => quiet effect)
              (fun last outcome =>
                Extends quiet past last ∧ final last outcome)
              program later := by
    clear hQuiet
    induction program with
    | ret value => exact fun later hLater hEnd => ⟨hLater, hEnd⟩
    | throw error =>
        exact fun later hLater hEnd => ⟨hLater, hEnd⟩
    | call effect next ih =>
        intro later hLater hObeys
        refine ⟨hObeys.1, fun value => ?_⟩
        exact
          ih value _ (hLater.cons hObeys.1 value)
            (hObeys.2 value)
  exact hFrom past (Extends.refl past) hQuiet

/- The rule for a sequence that begins with quiet calls. -/
theorem obeys_after_quiet
    {guard : List (Answer E R) → E → Prop}
    {final : List (Answer E R) → Except X β → Prop}
    {program : Prog E R X α}
    {next : α → Prog E R X β}
    (hQuiet :
      Obeys (fun _ effect => quiet effect) (fun _ _ => True)
        program past)
    (hGuard :
      ∀ later effect, quiet effect → guard later effect)
    (hOk :
      ∀ later value,
        Extends quiet past later →
          Obeys guard final (next value) later)
    (hError :
      ∀ later error,
        Extends quiet past later →
          final later (.error error)) :
    Obeys guard final (program >>= next) past := by
  apply Obeys.andThen
  apply hQuiet.extends.mono hGuard
  intro later outcome hLater
  cases outcome with
  | ok value => exact hOk later value hLater.1
  | error error => exact hError later error hLater.1

end Prog

end Interaction
