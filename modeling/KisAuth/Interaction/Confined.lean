import KisAuth.Interaction.Prog

/-
  Programs confined to some calls and some errors.

  Whatever a confined program is answered, it makes no other
  calls and throws no other errors. Parts of a confined
  program are confined, so the proof follows the text.

  Key definitions include:
    * `Prog.Confined`

  Key theorems include:
    * `confined_perform`, `confined_bind`
    * `Confined.obeys`
-/

------------------------------------------------------------
-- Confined Programs
------------------------------------------------------------

namespace Interaction

namespace Prog

variable {E : Type} {R : E → Type} {X α β : Type}
variable {calls : E → Prop} {errors : X → Prop}

/- Only these calls, and only these errors. -/
def Confined
    (calls : E → Prop)
    (errors : X → Prop) : Prog E R X α → Prop
| .ret _ => True
| .throw error => errors error
| .call effect next =>
    calls effect ∧
      ∀ value, Confined calls errors (next value)

/- A call at the start of a sequence. -/
theorem confined_perform
    {effect : E}
    {next : R effect → Prog E R X α}
    (hCall : calls effect)
    (hNext : ∀ value, Confined calls errors (next value)) :
    Confined calls errors (perform effect >>= next) :=
  ⟨hCall, hNext⟩

/- The rule for a sequence. -/
theorem confined_bind
    {program : Prog E R X α}
    {next : α → Prog E R X β}
    (hFirst : Confined calls errors program)
    (hNext : ∀ value, Confined calls errors (next value)) :
    Confined calls errors (program >>= next) := by
  induction program with
  | ret value => exact hNext value
  | throw error => exact hFirst
  | call effect rest ih =>
      exact
        ⟨hFirst.1, fun value => ih value (hFirst.2 value)⟩

/- What a guard and an end that say no more allow. -/
theorem Confined.obeys
    {guard : List (Answer E R) → E → Prop}
    {final : List (Answer E R) → Except X α → Prop}
    {program : Prog E R X α}
    {past : List (Answer E R)}
    (hConfined : Confined calls errors program)
    (hGuard :
      ∀ later effect,
        past ⊆ later → calls effect → guard later effect)
    (hOk :
      ∀ later value, past ⊆ later → final later (.ok value))
    (hError :
      ∀ later error,
        past ⊆ later →
          errors error → final later (.error error)) :
    Obeys guard final program past := by
  induction program generalizing past with
  | ret value =>
      exact hOk past value (List.Subset.refl past)
  | throw error =>
      exact hError past error (List.Subset.refl past) hConfined
  | call effect next ih =>
      refine
        ⟨hGuard past effect (List.Subset.refl past) hConfined.1,
          fun value => ih value (hConfined.2 value) ?_ ?_ ?_⟩
      · intro later other hLater
        exact hGuard later other
          (List.Subset.trans (List.subset_cons_self _ _)
            hLater)
      · intro later other hLater
        exact hOk later other
          (List.Subset.trans (List.subset_cons_self _ _)
            hLater)
      · intro later error hLater
        exact hError later error
          (List.Subset.trans (List.subset_cons_self _ _)
            hLater)

end Prog

end Interaction
