import KisAuth.Interaction.Timeline

/-
  Where in a run something was recorded.

  An answer that a thread has received is at some position of
  the history, and a position of the history has a moment of
  the timeline. Where the outcome alone is of interest, every
  call of a program is allowed.

  Key theorems include:
    * `exists_moment`
    * `exists_split_at_answer`
    * `Prog.obeys_then`
-/

------------------------------------------------------------
-- Moments
------------------------------------------------------------

namespace Interaction

variable {T E : Type} {R : E → Type} {X Q ρ Op : Type}

/- An entry of a timeline's history has its moment. -/
theorem exists_moment
    {timeline : List (Moment T E R X Q ρ Op)}
    {later earlier : List (Entry E R X Q ρ Op)}
    {entry : Entry E R X Q ρ Op}
    (hSplit : entriesOf timeline = later ++ entry :: earlier) :
    ∃ after moment before,
      timeline = after ++ moment :: before ∧
        moment.entry = entry ∧
        entriesOf before = earlier := by
  rcases List.map_eq_append_iff.mp hSplit with
    ⟨after, rest, hTimeline, _, hRest⟩
  rcases List.map_eq_cons_iff.mp hRest with
    ⟨moment, before, hSame, hEntry, hBefore⟩
  refine ⟨after, moment, before, ?_, hEntry, hBefore⟩
  rw [hTimeline, hSame]

/- An answer of a thread, and those it received before. -/
theorem exists_split_at_answer
    {thread : Nat}
    {history : List (Entry E R X Q ρ Op)}
    {answer : Answer E R}
    {after before : List (Answer E R)}
    (hAnswers :
      answersOf thread history = after ++ answer :: before) :
    ∃ later earlier,
      history = later ++ .answer thread answer :: earlier ∧
        answersOf thread earlier = before := by
  induction after generalizing history with
  | nil => exact exists_split_of_answersOf hAnswers
  | cons newest after ih =>
      rcases exists_split_of_answersOf hAnswers with
        ⟨later, earlier, rfl, hEarlier⟩
      rcases ih hEarlier with
        ⟨between, first, rfl, hBefore⟩
      refine
        ⟨later ++ .answer thread newest :: between, first, ?_,
          hBefore⟩
      simp

end Interaction

------------------------------------------------------------
-- Any Calls
------------------------------------------------------------

namespace Interaction

namespace Prog

variable {E : Type} {R : E → Type} {X α β : Type}

/- The rule for a sequence, where any call is allowed. -/
theorem obeys_then
    {final : List (Answer E R) → Except X β → Prop}
    {program : Prog E R X α}
    {next : α → Prog E R X β}
    {past : List (Answer E R)}
    (hOk :
      ∀ later value,
        past ⊆ later →
          Obeys (fun _ _ => True) final (next value) later)
    (hError : ∀ later error, final later (.error error)) :
    Obeys (fun _ _ => True) final (program >>= next) past := by
  have hAny :
      Obeys (fun _ _ => True) (fun _ _ => True) program past :=
    obeys_of_past (fun _ _ _ => trivial) (fun _ _ _ => trivial)
      program
  apply obeys_after_quiet hAny (fun _ _ _ => trivial)
  · intro later value hLater
    exact hOk later value hLater.subset
  · intro later error _
    exact hError later error

end Prog

end Interaction
