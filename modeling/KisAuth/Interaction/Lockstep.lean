import KisAuth.Interaction.System
import Mathlib.Data.List.Forall2
import Mathlib.Logic.Relation

/-
  Two programs that do the same, up to a renaming.

  Each program runs alone in a world of its own, while the
  world may move between its calls. Programs are in step
  where their calls correspond one by one as long as the
  answers do. Given the same choices at the same times, in
  corresponding worlds, they end alike and leave
  corresponding worlds.

  A program may also consult somebody between two parts of
  its own. The consultation is not compared, only what is
  told.

  Key definitions include:
    * `Solo`, `Prog.alone`
    * `InStep`, `SameChoices`, `SameCalls`
    * `Correspondence`
    * `Consulting`, `Consulting.Runs`, `Consulting.Discreet`

  Key theorems include:
    * `Solo.of_alone`, `Solo.bind_cases`
    * `InStep.andThen`
    * `Correspondence.lockstep`
    * `Consulting.runs_of_solo`
    * `Correspondence.consulted`
-/

------------------------------------------------------------
-- Programs Alone
------------------------------------------------------------

namespace Interaction

/- An answered call, and the stamp of the world it found. -/
structure Stamped (T E : Type) (R : E → Type) where
  stamp : T
  answer : Answer E R

variable {T E : Type} {R : E → Type} {X α β W Ext Op : Type}

/-
  A program that runs alone from one world to another, with
  its calls oldest first. Between them the world may move.
-/
inductive Solo
    (sem : Semantics E R W Ext Op)
    (moves : W → W → Prop)
    (stamp : W → T) :
    W →
      Prog E R X α →
        List (Stamped T E R) → Except X α → W → Prop where
  | ret (world : W) (value : α) :
      Solo sem moves stamp world (.ret value) [] (.ok value)
        world
  | throw (world : W) (error : X) :
      Solo sem moves stamp world (.throw error) []
        (.error error) world
  | moves
      {world middle final : W}
      {program : Prog E R X α}
      {trace : List (Stamped T E R)}
      {outcome : Except X α}
      (hMoves : moves world middle)
      (hRest :
        Solo sem moves stamp middle program trace outcome
          final) :
      Solo sem moves stamp world program trace outcome final
  | call
      {world middle final : W}
      {effect : E}
      {next : R effect → Prog E R X α}
      {ext : Ext}
      {value : R effect}
      {trace : List (Stamped T E R)}
      {outcome : Except X α}
      (hExec :
        sem.exec world effect ext = some (value, middle))
      (hRest :
        Solo sem moves stamp middle (next value) trace
          outcome final) :
      Solo sem moves stamp world (.call effect next)
        (⟨stamp world, ⟨effect, value⟩⟩ :: trace) outcome
        final

variable {sem : Semantics E R W Ext Op}
variable {moves : W → W → Prop}
variable {stamp : W → T}
variable {world final : W}
variable {trace : List (Stamped T E R)}

/- A program that has ended only lets the world move. -/
theorem Solo.ended
    {outcome ended : Except X α}
    (hSolo :
      Solo sem moves stamp world (Prog.ofOutcome ended) trace
        outcome final) :
    trace = [] ∧
      outcome = ended ∧
      Relation.ReflTransGen moves world final := by
  generalize hProgram :
    (Prog.ofOutcome ended : Prog E R X α) = program at hSolo
  induction hSolo with
  | ret world value =>
      refine ⟨rfl, ?_, .refl⟩
      cases ended with
      | ok other => simpa [Prog.ofOutcome] using hProgram.symm
      | error error => simp [Prog.ofOutcome] at hProgram
  | throw world error =>
      refine ⟨rfl, ?_, .refl⟩
      cases ended with
      | ok value => simp [Prog.ofOutcome] at hProgram
      | error other =>
          simpa [Prog.ofOutcome] using hProgram.symm
  | moves hMoves _ ih =>
      rcases ih hProgram with ⟨hTrace, hOutcome, hRest⟩
      exact ⟨hTrace, hOutcome, .head hMoves hRest⟩
  | call hExec _ ih =>
      cases ended with
      | ok value => simp [Prog.ofOutcome] at hProgram
      | error error => simp [Prog.ofOutcome] at hProgram

/- A program that calls is answered, and goes on. -/
theorem Solo.called
    {effect : E}
    {next : R effect → Prog E R X α}
    {outcome : Except X α}
    (hSolo :
      Solo sem moves stamp world (.call effect next) trace
        outcome final) :
    ∃ middle ext value world' trace',
      Relation.ReflTransGen moves world middle ∧
        sem.exec middle effect ext = some (value, world') ∧
        trace = ⟨stamp middle, ⟨effect, value⟩⟩ :: trace' ∧
        Solo sem moves stamp world' (next value) trace'
          outcome final := by
  generalize hProgram : Prog.call effect next = program
    at hSolo
  induction hSolo with
  | ret world value => simp at hProgram
  | throw world error => simp at hProgram
  | moves hMoves _ ih =>
      rcases ih hProgram with
        ⟨middle, ext, value, world', trace', hMoved, hRest⟩
      exact
        ⟨middle, ext, value, world', trace',
          .head hMoves hMoved, hRest⟩
  | call hExec hRest ih =>
      cases hProgram
      exact ⟨_, _, _, _, _, .refl, hExec, rfl, hRest⟩

/- What quiet calls and moves keep, a quiet run keeps. -/
theorem Solo.keeps
    {program : Prog E R X α}
    {outcome : Except X α}
    (I : W → Prop)
    (quiet : E → Prop)
    (hMoves :
      ∀ world world',
        moves world world' → I world → I world')
    (hExec :
      ∀ world effect ext value world',
        quiet effect →
          sem.exec world effect ext = some (value, world') →
            I world → I world')
    (hSolo :
      Solo sem moves stamp world program trace outcome final)
    (hQuiet :
      ∀ stamped ∈ trace, quiet stamped.answer.effect)
    (hStart : I world) :
    I final := by
  induction hSolo with
  | ret world value => exact hStart
  | throw world error => exact hStart
  | moves hMoved _ ih =>
      exact ih hQuiet (hMoves _ _ hMoved hStart)
  | call hAnswered _ ih =>
      rw [List.forall_mem_cons] at hQuiet
      exact
        ih hQuiet.2
          (hExec _ _ _ _ _ hQuiet.1 hAnswered hStart)

/- The program went through the answers of its run. -/
theorem Solo.reaches
    {program : Prog E R X α}
    {outcome : Except X α}
    (hSolo :
      Solo sem moves stamp world program trace outcome
        final) :
    program.Reaches (trace.map Stamped.answer).reverse
      (Prog.ofOutcome outcome) := by
  induction hSolo with
  | ret world value => exact .start
  | throw world error => exact .start
  | moves _ _ ih => exact ih
  | call _ _ ih => exact Prog.Reaches.first rfl _ ih

/- A run may begin after the world has moved. -/
theorem Solo.after_moves
    {middle : W}
    {program : Prog E R X α}
    {outcome : Except X α}
    (hMoved : Relation.ReflTransGen moves world middle)
    (hSolo :
      Solo sem moves stamp middle program trace outcome
        final) :
    Solo sem moves stamp world program trace outcome final := by
  induction hMoved using
    Relation.ReflTransGen.head_induction_on with
  | refl => exact hSolo
  | head hMoves _ ih => exact .moves hMoves ih

/- A run may go on until the world has moved. -/
theorem Solo.then_moves
    {last : W}
    {program : Prog E R X α}
    {outcome : Except X α}
    (hSolo :
      Solo sem moves stamp world program trace outcome final)
    (hMoved : Relation.ReflTransGen moves final last) :
    Solo sem moves stamp world program trace outcome last := by
  induction hSolo with
  | ret world value => exact .after_moves hMoved (.ret _ _)
  | throw world error =>
      exact .after_moves hMoved (.throw _ _)
  | moves hMoves _ ih => exact .moves hMoves (ih hMoved)
  | call hExec _ ih => exact .call hExec (ih hMoved)

/- The two parts of a sequence, or the error of the first. -/
theorem Solo.bind_cases
    {first : Prog E R X α}
    {next : α → Prog E R X β}
    {outcome : Except X β}
    (hSolo :
      Solo sem moves stamp world (first.bind next) trace
        outcome final) :
    (∃ value middle before after,
        trace = before ++ after ∧
          Solo sem moves stamp world first before (.ok value)
            middle ∧
          Solo sem moves stamp middle (next value) after
            outcome final) ∨
      ∃ error,
        outcome = .error error ∧
          Solo sem moves stamp world first trace
            (.error error) final := by
  induction first generalizing world trace with
  | ret value =>
      exact
        Or.inl ⟨value, world, [], trace, rfl, .ret _ _, hSolo⟩
  | throw error =>
      have hThrown :
          Solo sem moves stamp world
            (Prog.ofOutcome (.error error)) trace outcome
            final :=
        hSolo
      rcases hThrown.ended with ⟨rfl, rfl, hMoved⟩
      exact
        Or.inr
          ⟨error, rfl, .after_moves hMoved (.throw _ _)⟩
  | call effect cont ih =>
      rcases hSolo.called with
        ⟨middle, ext, value, world', trace', hMoved, hExec,
          rfl, hRest⟩
      rcases ih value hRest with
        ⟨result, between, before, after, rfl, hFirst, hNext⟩ |
          ⟨error, rfl, hFirst⟩
      · exact
          Or.inl
            ⟨result, between, _ :: before, after, rfl,
              .after_moves hMoved (.call hExec hFirst),
              hNext⟩
      · exact
          Or.inr
            ⟨error, rfl,
              .after_moves hMoved (.call hExec hFirst)⟩

end Interaction

------------------------------------------------------------
-- Computed Runs
------------------------------------------------------------

namespace Interaction

variable {T E : Type} {R : E → Type} {X α W Ext Op : Type}

/-
  The run with one external for each call, and the externals
  left over. The world does not move in between.
-/
def Prog.alone
    (sem : Semantics E R W Ext Op)
    (stamp : W → T) :
    List Ext → W → Prog E R X α →
      Option
        (List (Stamped T E R) × Except X α × W × List Ext)
| exts, world, .ret value => some ([], .ok value, world, exts)
| exts, world, .throw error =>
    some ([], .error error, world, exts)
| [], _, .call _ _ => none
| ext :: exts, world, .call effect next =>
    match sem.exec world effect ext with
    | none => none
    | some (value, middle) =>
        (Prog.alone sem stamp exts middle (next value)).map
          (fun run =>
            (⟨stamp world, ⟨effect, value⟩⟩ :: run.1, run.2))

variable {sem : Semantics E R W Ext Op}
variable {moves : W → W → Prop}
variable {stamp : W → T}
variable {world final : W}
variable {trace : List (Stamped T E R)}

theorem Solo.of_alone
    {exts unused : List Ext}
    {program : Prog E R X α}
    {outcome : Except X α}
    (hAlone :
      program.alone sem stamp exts world =
        some (trace, outcome, final, unused)) :
    Solo sem moves stamp world program trace outcome final := by
  induction program generalizing exts world trace with
  | ret value =>
      simp only [Prog.alone, Option.some.injEq,
        Prod.mk.injEq] at hAlone
      rcases hAlone with ⟨rfl, rfl, rfl, _⟩
      exact .ret _ _
  | throw error =>
      simp only [Prog.alone, Option.some.injEq,
        Prod.mk.injEq] at hAlone
      rcases hAlone with ⟨rfl, rfl, rfl, _⟩
      exact .throw _ _
  | call effect next ih =>
      cases exts with
      | nil => simp [Prog.alone] at hAlone
      | cons ext exts =>
          simp only [Prog.alone] at hAlone
          cases hExec : sem.exec world effect ext with
          | none => simp [hExec] at hAlone
          | some answered =>
              rcases answered with ⟨value, middle⟩
              simp only [hExec, Option.map_eq_some_iff]
                at hAlone
              rcases hAlone with ⟨rest, hRest, hEq⟩
              rcases rest with ⟨later, ended, last, rest⟩
              simp only [Prod.mk.injEq] at hEq
              rcases hEq with ⟨rfl, rfl, rfl, rfl⟩
              exact .call hExec (ih value hRest)

end Interaction

------------------------------------------------------------
-- Programs In Step
------------------------------------------------------------

namespace Interaction

variable {T E : Type} {R : E → Type}
variable {X α α' β β' W Ext Op : Type}

/-
  Programs whose calls correspond as long as their answers
  do, and that end alike.
-/
def InStep
    (calls : E → E → Prop)
    (answers : Answer E R → Answer E R → Prop)
    (ends : Except X α → Except X α' → Prop) :
    Prog E R X α → Prog E R X α' → Prop
| .ret value, .ret value' => ends (.ok value) (.ok value')
| .throw error, .throw error' =>
    ends (.error error) (.error error')
| .call effect next, .call effect' next' =>
    calls effect effect' ∧
      ∀ value value',
        answers ⟨effect, value⟩ ⟨effect', value'⟩ →
          InStep calls answers ends (next value) (next' value')
| _, _ => False

variable {calls : E → E → Prop}
variable {answers : Answer E R → Answer E R → Prop}

/- The rule for a sequence. -/
theorem InStep.andThen
    {ends : Except X α → Except X α' → Prop}
    {ends' : Except X β → Except X β' → Prop}
    {first : Prog E R X α}
    {first' : Prog E R X α'}
    {next : α → Prog E R X β}
    {next' : α' → Prog E R X β'}
    (hFirst : InStep calls answers ends first first')
    (hNext :
      ∀ value value',
        ends (.ok value) (.ok value') →
          InStep calls answers ends' (next value) (next' value'))
    (hError :
      ∀ error error',
        ends (.error error) (.error error') →
          ends' (.error error) (.error error')) :
    InStep calls answers ends' (first >>= next)
      (first' >>= next') := by
  induction first generalizing first' with
  | ret value =>
      cases first' with
      | ret value' => exact hNext value value' hFirst
      | throw error => exact hFirst.elim
      | call effect cont => exact hFirst.elim
  | throw error =>
      cases first' with
      | ret value => exact hFirst.elim
      | throw error' => exact hError error error' hFirst
      | call effect cont => exact hFirst.elim
  | call effect cont ih =>
      cases first' with
      | ret value => exact hFirst.elim
      | throw error => exact hFirst.elim
      | call effect' cont' =>
          refine ⟨hFirst.1, fun value value' hAnswers => ?_⟩
          exact ih value (hFirst.2 value value' hAnswers)

end Interaction

------------------------------------------------------------
-- Lockstep
------------------------------------------------------------

namespace Interaction

variable {T E : Type} {R : E → Type}
variable {X α α' W Ext Op : Type}

/-
  As far as both runs go, their calls are answered at the
  same times and with the same choices.
-/
def SameChoices
    (chosen : Answer E R → Answer E R → Prop) :
    List (Stamped T E R) → List (Stamped T E R) → Prop
| left :: lefts, right :: rights =>
    left.stamp = right.stamp ∧
      chosen left.answer right.answer ∧
      SameChoices chosen lefts rights
| _, _ => True

instance SameChoices.decidable
    [DecidableEq T]
    (chosen : Answer E R → Answer E R → Prop)
    [DecidableRel chosen] :
    ∀ lefts rights : List (Stamped T E R),
      Decidable (SameChoices chosen lefts rights)
| _ :: lefts, _ :: rights =>
    have := SameChoices.decidable chosen lefts rights
    inferInstanceAs (Decidable (_ ∧ _ ∧ _))
| [], _ => isTrue trivial
| _ :: _, [] => isTrue trivial

/-
  Worlds that correspond: moves of either keep it, quiet
  calls of either keep it, and so do corresponding calls at
  the same time with the same choices, whose answers
  correspond.
-/
structure Correspondence
    (sem : Semantics E R W Ext Op)
    (moves : W → W → Prop)
    (stamp : W → T)
    (calls : E → E → Prop)
    (chosen answers : Answer E R → Answer E R → Prop)
    (quiet : E → Prop)
    (same : W → W → Prop) : Prop where
  left_moves :
    ∀ left left' right,
      moves left left' → same left right → same left' right
  right_moves :
    ∀ left right right',
      moves right right' → same left right → same left right'
  left_quiet :
    ∀ left effect ext value left' right,
      quiet effect →
        sem.exec left effect ext = some (value, left') →
          same left right → same left' right
  right_quiet :
    ∀ left right effect ext value right',
      quiet effect →
        sem.exec right effect ext = some (value, right') →
          same left right → same left right'
  both :
    ∀ left left' right right' effect effect' ext ext' value
      value',
      same left right →
        calls effect effect' →
          stamp left = stamp right →
            sem.exec left effect ext = some (value, left') →
              sem.exec right effect' ext' =
                  some (value', right') →
                chosen ⟨effect, value⟩ ⟨effect', value'⟩ →
                  answers ⟨effect, value⟩ ⟨effect', value'⟩ ∧
                    same left' right'

variable {sem : Semantics E R W Ext Op}
variable {moves : W → W → Prop}
variable {stamp : W → T}
variable {calls : E → E → Prop}
variable {chosen answers : Answer E R → Answer E R → Prop}
variable {quiet : E → Prop}
variable {same : W → W → Prop}
variable {left left' right right' : W}

theorem Correspondence.left_moved
    (hSame :
      Correspondence sem moves stamp calls chosen answers
        quiet same)
    (hMoved : Relation.ReflTransGen moves left left')
    (hWorlds : same left right) :
    same left' right := by
  induction hMoved with
  | refl => exact hWorlds
  | tail _ hMoves ih => exact hSame.left_moves _ _ _ hMoves ih

theorem Correspondence.right_moved
    (hSame :
      Correspondence sem moves stamp calls chosen answers
        quiet same)
    (hMoved : Relation.ReflTransGen moves right right')
    (hWorlds : same left right) :
    same left right' := by
  induction hMoved with
  | refl => exact hWorlds
  | tail _ hMoves ih => exact hSame.right_moves _ _ _ hMoves ih

/- The calls of two runs correspond one by one. -/
abbrev SameCalls
    (calls : E → E → Prop)
    (answers : Answer E R → Answer E R → Prop)
    (trace trace' : List (Stamped T E R)) : Prop :=
  List.Forall₂
    (fun left right =>
      calls left.answer.effect right.answer.effect ∧
        answers left.answer right.answer)
    trace trace'

/- Programs that have ended only let their worlds move. -/
theorem Correspondence.ended
    {ends : Except X α → Except X α' → Prop}
    {trace trace' later later' : List (Stamped T E R)}
    {outcome : Except X α}
    {outcome' : Except X α'}
    (ended : Except X α)
    (ended' : Except X α')
    (hSame :
      Correspondence sem moves stamp calls chosen answers
        quiet same)
    (hEnds : ends ended ended')
    (hWorlds : same left right)
    (hLeft :
      Solo sem moves stamp left (Prog.ofOutcome ended) trace
        outcome left')
    (hRight :
      Solo sem moves stamp right (Prog.ofOutcome ended') trace'
        outcome' right')
    (hChoices :
      SameChoices chosen (trace ++ later)
        (trace' ++ later')) :
    SameCalls calls answers trace trace' ∧
      ends outcome outcome' ∧
      same left' right' ∧
      SameChoices chosen later later' := by
  rcases hLeft.ended with ⟨rfl, rfl, hMoved⟩
  rcases hRight.ended with ⟨rfl, rfl, hMoved'⟩
  have hFinal :=
    hSame.right_moved hMoved' (hSame.left_moved hMoved hWorlds)
  exact ⟨.nil, hEnds, hFinal, hChoices⟩

/-
  Programs in step in corresponding worlds, with the same
  choices as far as both go, do the same and end alike.
-/
theorem Correspondence.lockstep
    {ends : Except X α → Except X α' → Prop}
    {program : Prog E R X α}
    {program' : Prog E R X α'}
    {trace trace' later later' : List (Stamped T E R)}
    {outcome : Except X α}
    {outcome' : Except X α'}
    (hSame :
      Correspondence sem moves stamp calls chosen answers
        quiet same)
    (hInStep : InStep calls answers ends program program')
    (hWorlds : same left right)
    (hLeft :
      Solo sem moves stamp left program trace outcome left')
    (hRight :
      Solo sem moves stamp right program' trace' outcome'
        right')
    (hChoices :
      SameChoices chosen (trace ++ later)
        (trace' ++ later')) :
    SameCalls calls answers trace trace' ∧
      ends outcome outcome' ∧
      same left' right' ∧
      SameChoices chosen later later' := by
  induction program generalizing program' left right trace
    trace' with
  | ret value =>
      cases program' with
      | ret value' =>
          exact
            hSame.ended (.ok value) (.ok value') hInStep
              hWorlds hLeft hRight hChoices
      | throw error => exact hInStep.elim
      | call effect cont => exact hInStep.elim
  | throw error =>
      cases program' with
      | ret value => exact hInStep.elim
      | throw error' =>
          exact
            hSame.ended (.error error) (.error error') hInStep
              hWorlds hLeft hRight hChoices
      | call effect cont => exact hInStep.elim
  | call effect cont ih =>
      cases program' with
      | ret value => exact hInStep.elim
      | throw error => exact hInStep.elim
      | call effect' cont' =>
          rcases hLeft.called with
            ⟨middle, ext, value, next, rest, hMoved, hExec,
              rfl, hRest⟩
          rcases hRight.called with
            ⟨middle', ext', value', next', rest', hMoved',
              hExec', rfl, hRest'⟩
          rcases hChoices with ⟨hStamp, hChosen, hChoices⟩
          have hBefore : same middle middle' :=
            hSame.right_moved hMoved'
              (hSame.left_moved hMoved hWorlds)
          rcases
              hSame.both _ _ _ _ _ _ _ _ _ _ hBefore hInStep.1
                hStamp hExec hExec' hChosen with
            ⟨hAnswers, hAfter⟩
          rcases
              ih value (hInStep.2 value value' hAnswers) hAfter
                hRest hRest' hChoices with
            ⟨hCalls, hEnds, hFinal, hLater⟩
          exact
            ⟨.cons ⟨hInStep.1, hAnswers⟩ hCalls, hEnds, hFinal,
              hLater⟩

end Interaction

------------------------------------------------------------
-- Consultations
------------------------------------------------------------

namespace Interaction

variable {T E : Type} {R : E → Type}
variable {X Q A ρ W Ext Op : Type}

/-
  A program that returns, or asks somebody and goes on with
  what it is told.
-/
structure Consulting
    (E : Type) (R : E → Type) (X Q A ρ : Type) where
  enter : Prog E R X (ρ ⊕ Q)
  consult : Q → Prog E R X A
  finish : Q → A → Prog E R X ρ

/- After it entered, it returns or consults. -/
def Consulting.goOn
    (parts : Consulting E R X Q A ρ) :
    ρ ⊕ Q → Prog E R X ρ
| .inl value => return value
| .inr question => do
    let told ← parts.consult question
    parts.finish question told

def Consulting.program
    (parts : Consulting E R X Q A ρ) : Prog E R X ρ := do
  let entered ← parts.enter
  parts.goOn entered

/-
  A run in which the program, if it consults, is told this.
  The calls of the consultation are left out.
-/
inductive Consulting.Runs
    (sem : Semantics E R W Ext Op)
    (moves : W → W → Prop)
    (stamp : W → T)
    (parts : Consulting E R X Q A ρ)
    (told : A) :
    W → List (Stamped T E R) → Except X ρ → W → Prop where
  | returned
      {world final : W}
      {trace : List (Stamped T E R)}
      {value : ρ}
      (hEnter :
        Solo sem moves stamp world parts.enter trace
          (.ok (.inl value)) final) :
      Consulting.Runs sem moves stamp parts told world trace
        (.ok value) final
  | failed
      {world final : W}
      {trace : List (Stamped T E R)}
      {error : X}
      (hEnter :
        Solo sem moves stamp world parts.enter trace
          (.error error) final) :
      Consulting.Runs sem moves stamp parts told world trace
        (.error error) final
  | consulted
      {world asked informed final : W}
      {before during after : List (Stamped T E R)}
      {question : Q}
      {outcome : Except X ρ}
      (hEnter :
        Solo sem moves stamp world parts.enter before
          (.ok (.inr question)) asked)
      (hConsult :
        Solo sem moves stamp asked (parts.consult question)
          during (.ok told) informed)
      (hFinish :
        Solo sem moves stamp informed
          (parts.finish question told) after outcome final) :
      Consulting.Runs sem moves stamp parts told world
        (before ++ after) outcome final

/- The run of a program that consults. -/
def Consulting.alone
    (sem : Semantics E R W Ext Op)
    (stamp : W → T)
    (parts : Consulting E R X Q A ρ)
    (exts : List Ext)
    (world : W) :
    Option (A × List (Stamped T E R) × Except X ρ × W) :=
  match parts.enter.alone sem stamp exts world with
  | some (before, .ok (.inr question), asked, exts) =>
      match
          (parts.consult question).alone sem stamp exts asked
        with
      | some (_, .ok told, informed, exts) =>
          ((parts.finish question told).alone sem stamp exts
            informed).map
            (fun run =>
              (told, before ++ run.1, run.2.1, run.2.2.1))
      | _ => none
  | _ => none

variable {sem : Semantics E R W Ext Op}
variable {moves : W → W → Prop}
variable {stamp : W → T}
variable {parts : Consulting E R X Q A ρ}
variable {world final : W}
variable {trace : List (Stamped T E R)}

theorem Consulting.Runs.of_alone
    {exts : List Ext}
    {told : A}
    {outcome : Except X ρ}
    (hAlone :
      parts.alone sem stamp exts world =
        some (told, trace, outcome, final)) :
    parts.Runs sem moves stamp told world trace outcome
      final := by
  unfold Consulting.alone at hAlone
  split at hAlone
  · next before question asked unused hEnter =>
      split at hAlone
      · next during told' informed unused' hConsult =>
          rw [Option.map_eq_some_iff] at hAlone
          rcases hAlone with ⟨run, hFinish, hEq⟩
          rcases run with ⟨after, ended, last, left⟩
          simp only [Prod.mk.injEq] at hEq
          rcases hEq with ⟨rfl, rfl, rfl, rfl⟩
          exact
            .consulted (Solo.of_alone hEnter)
              (Solo.of_alone hConsult)
              (Solo.of_alone hFinish)
      · simp at hAlone
  · simp at hAlone

/-
  Every run of the whole program is such a run, unless the
  consultation fails and ends it.
-/
theorem Consulting.runs_of_solo
    {outcome : Except X ρ}
    (hSolo :
      Solo sem moves stamp world parts.program trace outcome
        final) :
    (∀ told,
        parts.Runs sem moves stamp told world trace outcome
          final) ∨
      (∃ told trace',
        parts.Runs sem moves stamp told world trace' outcome
          final) ∨
      ∃ question asked during error,
        outcome = .error error ∧
          Solo sem moves stamp asked (parts.consult question)
            during (.error error) final := by
  rcases Solo.bind_cases hSolo with
    ⟨entered, asked, before, rest, rfl, hEnter, hRest⟩ |
      ⟨error, rfl, hEnter⟩
  · cases entered with
    | inl value =>
        have hDone :
            Solo sem moves stamp asked
              (Prog.ofOutcome (.ok value)) rest outcome
              final :=
          hRest
        rcases hDone.ended with ⟨rfl, rfl, hMoved⟩
        rw [List.append_nil]
        exact
          Or.inl (fun _ => .returned (hEnter.then_moves hMoved))
    | inr question =>
        rcases Solo.bind_cases hRest with
          ⟨told, informed, during, after, rfl, hConsult,
            hFinish⟩ | ⟨error, rfl, hConsult⟩
        · exact
            Or.inr (Or.inl
              ⟨told, before ++ after,
                .consulted hEnter hConsult hFinish⟩)
        · exact
            Or.inr (Or.inr
              ⟨question, asked, rest, error, rfl, hConsult⟩)
  · exact Or.inl (fun _ => .failed hEnter)

end Interaction

------------------------------------------------------------
-- Consultations In Step
------------------------------------------------------------

namespace Interaction

variable {T E : Type} {R : E → Type}
variable {X Q Q' A ρ W Ext Op : Type}

/- Both return, both fail, or both ask. -/
def EnterAlike
    (ends : Except X ρ → Except X ρ → Prop)
    (asks : Q → Q' → Prop) :
    Except X (ρ ⊕ Q) → Except X (ρ ⊕ Q') → Prop
| .ok (.inl value), .ok (.inl value') =>
    ends (.ok value) (.ok value')
| .ok (.inr question), .ok (.inr question') =>
    asks question question'
| .error error, .error error' =>
    ends (.error error) (.error error')
| _, _ => False

/- What ends in a value was quiet. -/
def TellsQuietly
    (quiet : E → Prop)
    (past : List (Answer E R)) : Except X A → Prop
| .ok _ => ∀ answer ∈ past, quiet answer.effect
| .error _ => True

/- A consultation that tells anything is quiet. -/
def Consulting.Discreet
    (quiet : E → Prop)
    (parts : Consulting E R X Q A ρ) : Prop :=
  ∀ question,
    (parts.consult question).Obeys (fun _ _ => True)
      (TellsQuietly quiet) []

variable {sem : Semantics E R W Ext Op}
variable {moves : W → W → Prop}
variable {stamp : W → T}
variable {calls : E → E → Prop}
variable {chosen answers : Answer E R → Answer E R → Prop}
variable {quiet : E → Prop}
variable {same : W → W → Prop}
variable {parts : Consulting E R X Q A ρ}
variable {parts' : Consulting E R X Q' A ρ}

theorem Consulting.Discreet.quiet_during
    {question : Q}
    {told : A}
    {world final : W}
    {during : List (Stamped T E R)}
    (hDiscreet : parts.Discreet quiet)
    (hConsult :
      Solo sem moves stamp world (parts.consult question)
        during (.ok told) final) :
    ∀ stamped ∈ during, quiet stamped.answer.effect := by
  intro stamped hStamped
  have hQuiet :
      TellsQuietly quiet (during.map Stamped.answer).reverse
        (.ok told : Except X A) :=
    (hDiscreet question).final_of_reaches hConsult.reaches
  apply hQuiet
  rw [List.mem_reverse]
  exact List.mem_map_of_mem hStamped

/- What is told discreetly keeps the worlds alike. -/
theorem Correspondence.after_consulting
    {question : Q}
    {question' : Q'}
    {told : A}
    {left left' right right' : W}
    {during during' : List (Stamped T E R)}
    (hSame :
      Correspondence sem moves stamp calls chosen answers
        quiet same)
    (hDiscreet : parts.Discreet quiet)
    (hDiscreet' : parts'.Discreet quiet)
    (hLeft :
      Solo sem moves stamp left (parts.consult question)
        during (.ok told) left')
    (hRight :
      Solo sem moves stamp right (parts'.consult question')
        during' (.ok told) right')
    (hWorlds : same left right) :
    same left' right' := by
  have hAfterLeft : same left' right :=
    hLeft.keeps (fun world => same world right) quiet
      (fun _ _ hMoves hSameW =>
        hSame.left_moves _ _ _ hMoves hSameW)
      (fun _ _ _ _ _ hQuiet hExec hSameW =>
        hSame.left_quiet _ _ _ _ _ _ hQuiet hExec hSameW)
      (hDiscreet.quiet_during hLeft) hWorlds
  exact
    hRight.keeps (fun world => same left' world) quiet
      (fun _ _ hMoves hSameW =>
        hSame.right_moves _ _ _ hMoves hSameW)
      (fun _ _ _ _ _ hQuiet hExec hSameW =>
        hSame.right_quiet _ _ _ _ _ _ hQuiet hExec hSameW)
      (hDiscreet'.quiet_during hRight) hAfterLeft

/- What follows after a program has entered. -/
def Consulting.Follows
    (sem : Semantics E R W Ext Op)
    (moves : W → W → Prop)
    (stamp : W → T)
    (parts : Consulting E R X Q A ρ)
    (told : A)
    (middle : W)
    (after : List (Stamped T E R))
    (outcome : Except X ρ)
    (final : W) : Except X (ρ ⊕ Q) → Prop
| .ok (.inl value) =>
    after = [] ∧ outcome = .ok value ∧ final = middle
| .ok (.inr question) =>
    ∃ during informed,
      Solo sem moves stamp middle (parts.consult question)
        during (.ok told) informed ∧
      Solo sem moves stamp informed
        (parts.finish question told) after outcome final
| .error error =>
    after = [] ∧ outcome = .error error ∧ final = middle

theorem Consulting.Runs.entered
    {told : A}
    {world final : W}
    {trace : List (Stamped T E R)}
    {outcome : Except X ρ}
    (hRuns :
      parts.Runs sem moves stamp told world trace outcome
        final) :
    ∃ entered before middle after,
      trace = before ++ after ∧
        Solo sem moves stamp world parts.enter before entered
          middle ∧
        parts.Follows sem moves stamp told middle after outcome
          final entered := by
  cases hRuns with
  | returned hEnter =>
      exact
        ⟨_, _, _, [], (List.append_nil _).symm, hEnter, rfl,
          rfl, rfl⟩
  | failed hEnter =>
      exact
        ⟨_, _, _, [], (List.append_nil _).symm, hEnter, rfl,
          rfl, rfl⟩
  | consulted hEnter hConsult hFinish =>
      exact
        ⟨_, _, _, _, rfl, hEnter, _, _, hConsult, hFinish⟩

/-
  Programs in step that are told the same, with the same
  choices as far as both go, do the same and end alike.
-/
theorem Correspondence.consulted
    {ends : Except X ρ → Except X ρ → Prop}
    {asks : Q → Q' → Prop}
    {told : A}
    {left left' right right' : W}
    {trace trace' : List (Stamped T E R)}
    {outcome outcome' : Except X ρ}
    (hSame :
      Correspondence sem moves stamp calls chosen answers
        quiet same)
    (hDiscreet : parts.Discreet quiet)
    (hDiscreet' : parts'.Discreet quiet)
    (hEnter :
      InStep calls answers (EnterAlike ends asks) parts.enter
        parts'.enter)
    (hFinishes :
      ∀ question question',
        asks question question' →
          InStep calls answers ends
            (parts.finish question told)
            (parts'.finish question' told))
    (hWorlds : same left right)
    (hLeft :
      parts.Runs sem moves stamp told left trace outcome
        left')
    (hRight :
      parts'.Runs sem moves stamp told right trace' outcome'
        right')
    (hChoices : SameChoices chosen trace trace') :
    SameCalls calls answers trace trace' ∧
      ends outcome outcome' ∧
      same left' right' := by
  rcases hLeft.entered with
    ⟨entered, before, middle, after, rfl, hFirst, hRest⟩
  rcases hRight.entered with
    ⟨entered', before', middle', after', rfl, hFirst',
      hRest'⟩
  rcases
      hSame.lockstep hEnter hWorlds hFirst hFirst' hChoices
    with ⟨hCalls, hEnds, hMiddle, hLater⟩
  -- The only cases left are those in which both went on alike.
  match entered, entered', hEnds, hRest, hRest' with
  | .ok (.inl value), .ok (.inl value'), hEnds, hRest,
      hRest' =>
      rcases hRest with ⟨rfl, rfl, rfl⟩
      rcases hRest' with ⟨rfl, rfl, rfl⟩
      rw [List.append_nil, List.append_nil]
      exact ⟨hCalls, hEnds, hMiddle⟩
  | .ok (.inr question), .ok (.inr question'), hAsks,
      ⟨_, _, hConsult, hFinish⟩,
      ⟨_, _, hConsult', hFinish'⟩ =>
      have hInformed :=
        hSame.after_consulting hDiscreet hDiscreet' hConsult
          hConsult' hMiddle
      rw [← List.append_nil after,
        ← List.append_nil after'] at hLater
      rcases
          hSame.lockstep (hFinishes question question' hAsks)
            hInformed hFinish hFinish' hLater with
        ⟨hMore, hEnd, hFinal, _⟩
      exact ⟨List.rel_append hCalls hMore, hEnd, hFinal⟩
  | .error error, .error error', hEnds, hRest, hRest' =>
      rcases hRest with ⟨rfl, rfl, rfl⟩
      rcases hRest' with ⟨rfl, rfl, rfl⟩
      rw [List.append_nil, List.append_nil]
      exact ⟨hCalls, hEnds, hMiddle⟩

end Interaction
