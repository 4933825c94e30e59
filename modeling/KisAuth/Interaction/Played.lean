import KisAuth.Interaction.Prog

/-
  Programs alone with an environment that they change.

  Each call is answered by the environment, under a choice
  that the program does not control. A program that runs out
  of choices stops where it is, so that it can be cut off at
  any call.

  `Safe` is the reasoning principle: as long as the choices
  are allowed, an invariant of the past exchanges and the
  environment holds at every call, and each outcome satisfies
  a condition of its own.

  Key definitions include:
    * `Prog.handle`, `Prog.play`
    * `Exchange`, `AllAllowed`, `Prog.Safe`

  Key theorems include:
    * `Prog.safe_bind`, `Prog.safe_handle`
    * `Prog.Safe.play`
-/

------------------------------------------------------------
-- Played Programs
------------------------------------------------------------

namespace Interaction

variable {E : Type} {R : E → Type} {X Y α β K D : Type}

/- A call, how it was served and its answer. -/
structure Exchange (E : Type) (R : E → Type) (K : Type) where
  effect : E
  choice : K
  value : R effect

/- Each choice was allowed when it was made. -/
def AllAllowed
    (allowed : List (Exchange E R K) → K → E → Prop) :
    List (Exchange E R K) → Prop
| [] => True
| last :: past =>
    allowed past last.choice last.effect ∧
      AllAllowed allowed past

instance AllAllowed.decidable
    {allowed : List (Exchange E R K) → K → E → Prop}
    [∀ past choice effect,
      Decidable (allowed past choice effect)] :
    DecidablePred (AllAllowed allowed)
| [] => inferInstanceAs (Decidable True)
| last :: past =>
    letI : Decidable (AllAllowed allowed past) :=
      AllAllowed.decidable past
    inferInstanceAs
      (Decidable
        (allowed past last.choice last.effect ∧
          AllAllowed allowed past))

namespace Prog

/- Run a program, and something else where it fails. -/
def handle :
    Prog E R X α → (X → Prog E R Y α) → Prog E R Y α
| .ret value, _ => .ret value
| .throw error, handler => handler error
| .call effect cont, handler =>
    .call effect (fun answer => (cont answer).handle handler)

/- The exchanges, newest first, and what becomes of `d`. -/
def play
    (serve : K → (effect : E) → D → R effect × D) :
    List K → Prog E R X α → List (Exchange E R K) → D →
      List (Exchange E R K) × D
| choice :: choices, .call effect next, past, d =>
    let served := serve choice effect d
    play serve choices (next served.1)
      (⟨effect, choice, served.1⟩ :: past) served.2
| _, _, past, d => (past, d)

/- What has been exchanged stays. -/
theorem play_suffix
    (serve : K → (effect : E) → D → R effect × D)
    (choices : List K)
    (program : Prog E R X α)
    (past : List (Exchange E R K))
    (d : D) :
    past <:+ (program.play serve choices past d).1 := by
  induction choices generalizing program past d with
  | nil => exact List.suffix_refl past
  | cons choice choices ih =>
      cases program with
      | ret value => exact List.suffix_refl past
      | throw error => exact List.suffix_refl past
      | call effect next =>
          exact (List.suffix_cons _ past).trans (ih _ _ _)

end Prog

theorem AllAllowed.of_suffix
    {allowed : List (Exchange E R K) → K → E → Prop}
    {past later : List (Exchange E R K)}
    (hAll : AllAllowed allowed later)
    (hSuffix : past <:+ later) :
    AllAllowed allowed past := by
  obtain ⟨new, rfl⟩ := hSuffix
  induction new with
  | nil => exact hAll
  | cons last new ih => exact ih hAll.2

end Interaction

------------------------------------------------------------
-- Safety
------------------------------------------------------------

namespace Interaction

namespace Prog

variable {E : Type} {R : E → Type} {X Y α β K D : Type}

/-
  `inv` at every call and `final` at every outcome, under
  all choices that are allowed.
-/
def Safe
    (serve : K → (effect : E) → D → R effect × D)
    (allowed : List (Exchange E R K) → K → E → Prop)
    (inv : List (Exchange E R K) → D → Prop)
    (final : Except X α → List (Exchange E R K) → D → Prop) :
    Prog E R X α → List (Exchange E R K) → D → Prop
| .ret value, past, d => final (.ok value) past d
| .throw error, past, d => final (.error error) past d
| .call effect next, past, d =>
    inv past d ∧
      ∀ choice, allowed past choice effect →
        Safe serve allowed inv final
          (next (serve choice effect d).1)
          (⟨effect, choice, (serve choice effect d).1⟩ ::
            past)
          (serve choice effect d).2

variable {serve : K → (effect : E) → D → R effect × D}
variable {allowed : List (Exchange E R K) → K → E → Prop}
variable {inv : List (Exchange E R K) → D → Prop}

/- The rule for a sequence. -/
theorem safe_bind
    {final :
      Except X β → List (Exchange E R K) → D → Prop}
    {program : Prog E R X α}
    {next : α → Prog E R X β}
    {past : List (Exchange E R K)}
    {d : D}
    (hFirst :
      Safe serve allowed inv
        (fun outcome later e =>
          match outcome with
          | .ok value =>
              Safe serve allowed inv final (next value)
                later e
          | .error error => final (.error error) later e)
        program past d) :
    Safe serve allowed inv final (program >>= next)
      past d := by
  induction program generalizing past d with
  | ret value => exact hFirst
  | throw error => exact hFirst
  | call effect cont ih =>
      exact
        ⟨hFirst.1,
          fun choice hAllowed =>
            ih _ (hFirst.2 choice hAllowed)⟩

/- The rule for a program with a handler. -/
theorem safe_handle
    {final :
      Except Y α → List (Exchange E R K) → D → Prop}
    {program : Prog E R X α}
    {handler : X → Prog E R Y α}
    {past : List (Exchange E R K)}
    {d : D}
    (hFirst :
      Safe serve allowed inv
        (fun outcome later e =>
          match outcome with
          | .ok value => final (.ok value) later e
          | .error error =>
              Safe serve allowed inv final (handler error)
                later e)
        program past d) :
    Safe serve allowed inv final (program.handle handler)
      past d := by
  induction program generalizing past d with
  | ret value => exact hFirst
  | throw error => exact hFirst
  | call effect cont ih =>
      exact
        ⟨hFirst.1,
          fun choice hAllowed =>
            ih _ (hFirst.2 choice hAllowed)⟩

theorem Safe.mono
    {final final' :
      Except X α → List (Exchange E R K) → D → Prop}
    {program : Prog E R X α}
    {past : List (Exchange E R K)}
    {d : D}
    (hSafe : Safe serve allowed inv final program past d)
    (hFinal :
      ∀ outcome later e,
        final outcome later e → final' outcome later e) :
    Safe serve allowed inv final' program past d := by
  induction program generalizing past d with
  | ret value => exact hFinal _ _ _ hSafe
  | throw error => exact hFinal _ _ _ hSafe
  | call effect cont ih =>
      exact
        ⟨hSafe.1,
          fun choice hAllowed =>
            ih _ (hSafe.2 choice hAllowed)⟩

/- A safe program keeps its invariant wherever it stops. -/
theorem Safe.play
    {final :
      Except X α → List (Exchange E R K) → D → Prop}
    {program : Prog E R X α}
    {past : List (Exchange E R K)}
    {d : D}
    (hSafe : Safe serve allowed inv final program past d)
    (hFinal :
      ∀ outcome later e, final outcome later e → inv later e)
    (choices : List K)
    (hAllowed :
      AllAllowed allowed
        (program.play serve choices past d).1) :
    inv (program.play serve choices past d).1
      (program.play serve choices past d).2 := by
  induction choices generalizing program past d with
  | nil =>
      cases program with
      | ret value => exact hFinal _ _ _ hSafe
      | throw error => exact hFinal _ _ _ hSafe
      | call effect next => exact hSafe.1
  | cons choice choices ih =>
      cases program with
      | ret value => exact hFinal _ _ _ hSafe
      | throw error => exact hFinal _ _ _ hSafe
      | call effect next =>
          have hSuffix :=
            play_suffix serve choices
              (next (serve choice effect d).1)
              (⟨effect, choice, (serve choice effect d).1⟩ ::
                past)
              (serve choice effect d).2
          have hNow := hAllowed.of_suffix hSuffix
          exact ih (hSafe.2 choice hNow.1) hAllowed

end Prog

end Interaction
