import KisAuth.Http.Cookies
import Mathlib.Data.List.DropRight

/-
  What splitting a text at a character gives, and what
  trimming leaves of a piece.

  Key theorems include:
    * `splitAtChar_intercalate`, `not_mem_of_mem_splitAtChar`
    * `trim_eq_self`, `trim_space`, `head_trim`
-/

------------------------------------------------------------
-- Splitting
------------------------------------------------------------

namespace KisAuth

/- A property of each of these characters is a test of each. -/
theorem of_every
    {property : Char → Prop}
    [DecidablePred property]
    {chars : List Char}
    (hEvery :
      chars.all (fun c => decide (property c)) = true) :
    ∀ c ∈ chars, property c :=
  fun c hMem =>
    of_decide_eq_true (List.all_eq_true.mp hEvery c hMem)

theorem splitAtChar_eq_splitOn
    (separator : Char)
    (text : List Char) :
    splitAtChar separator text = text.splitOn separator := by
  induction text with
  | nil => rfl
  | cons c rest ih =>
      rw [splitAtChar, List.splitOn_cons_eq_if_modifyHead, ih]
      by_cases hSeparator : c = separator
      · simp [hSeparator]
      · rw [if_neg hSeparator,
          if_neg (by simpa using hSeparator)]
        cases hRest : rest.splitOn separator with
        | nil => exact absurd hRest (List.splitOn_ne_nil _ _)
        | cons piece pieces => rfl

/- Splitting undoes joining. -/
theorem splitAtChar_intercalate
    {separator : Char}
    {pieces : List (List Char)}
    (hClean : ∀ piece ∈ pieces, separator ∉ piece)
    (hPieces : pieces ≠ []) :
    splitAtChar separator ([separator].intercalate pieces) =
      pieces := by
  rw [splitAtChar_eq_splitOn]
  exact List.splitOn_intercalate separator hClean hPieces

/- The first piece ends at the first separator. -/
theorem splitAtChar_append
    {separator : Char}
    {first : List Char}
    (hFirst : separator ∉ first)
    (rest : List Char) :
    splitAtChar separator (first ++ separator :: rest) =
      first :: splitAtChar separator rest := by
  rw [splitAtChar_eq_splitOn, splitAtChar_eq_splitOn]
  exact List.splitOn_append_cons_self_of_not_mem hFirst rest

theorem splitAtChar_of_not_mem
    {separator : Char}
    {text : List Char}
    (hNone : separator ∉ text) :
    splitAtChar separator text = [text] := by
  rw [splitAtChar_eq_splitOn]
  exact List.splitOn_eq_singleton hNone

/- No piece has the separator in it. -/
theorem not_mem_of_mem_splitAtChar
    {separator : Char}
    {text piece : List Char}
    (hMem : piece ∈ splitAtChar separator text) :
    separator ∉ piece := by
  induction text generalizing piece with
  | nil =>
      rw [splitAtChar, List.mem_singleton] at hMem
      simp [hMem]
  | cons c rest ih =>
      rw [splitAtChar] at hMem
      by_cases hSeparator : c = separator
      · rw [if_pos hSeparator, List.mem_cons] at hMem
        rcases hMem with rfl | hMem
        · simp
        · exact ih hMem
      · rw [if_neg hSeparator] at hMem
        cases hRest : splitAtChar separator rest with
        | nil =>
            rw [hRest, List.mem_singleton] at hMem
            rw [hMem, List.mem_singleton]
            exact fun hSame => hSeparator hSame.symm
        | cons first pieces =>
            rw [hRest, List.mem_cons] at hMem
            rw [hRest] at ih
            rcases hMem with rfl | hMem
            · rw [List.mem_cons, not_or]
              exact
                ⟨fun hSame => hSeparator hSame.symm,
                  ih List.mem_cons_self⟩
            · exact ih (List.mem_cons_of_mem _ hMem)

/- Every character of a piece is one of the text. -/
theorem mem_of_mem_splitAtChar
    {separator : Char}
    {text piece : List Char}
    {c : Char}
    (hPiece : piece ∈ splitAtChar separator text)
    (hMem : c ∈ piece) :
    c ∈ text := by
  induction text generalizing piece with
  | nil =>
      rw [splitAtChar, List.mem_singleton] at hPiece
      simp [hPiece] at hMem
  | cons d rest ih =>
      rw [splitAtChar] at hPiece
      by_cases hSeparator : d = separator
      · rw [if_pos hSeparator, List.mem_cons] at hPiece
        rcases hPiece with rfl | hPiece
        · simp at hMem
        · exact List.mem_cons_of_mem _ (ih hPiece hMem)
      · rw [if_neg hSeparator] at hPiece
        cases hRest : splitAtChar separator rest with
        | nil =>
            rw [hRest, List.mem_singleton] at hPiece
            rw [hPiece, List.mem_singleton] at hMem
            exact List.mem_cons.mpr (Or.inl hMem)
        | cons first pieces =>
            rw [hRest, List.mem_cons] at hPiece
            rw [hRest] at ih
            rcases hPiece with rfl | hPiece
            · rcases List.mem_cons.mp hMem with rfl | hMem
              · exact List.mem_cons_self
              · exact
                  List.mem_cons_of_mem _
                    (ih List.mem_cons_self hMem)
            · exact
                List.mem_cons_of_mem _
                  (ih (List.mem_cons_of_mem _ hPiece) hMem)

/- What is joined has the pieces and the separator only. -/
theorem mem_intercalate
    {separator : List Char}
    {pieces : List (List Char)}
    {c : Char}
    (hMem : c ∈ separator.intercalate pieces) :
    c ∈ separator ∨ ∃ piece ∈ pieces, c ∈ piece := by
  induction pieces with
  | nil => simp at hMem
  | cons first rest ih =>
      cases rest with
      | nil =>
          rw [List.intercalate_singleton] at hMem
          exact Or.inr ⟨first, List.mem_cons_self, hMem⟩
      | cons next rest =>
          rw [List.intercalate_cons_cons, List.mem_append,
            List.mem_append] at hMem
          rcases hMem with (hFirst | hSeparator) | hRest
          · exact Or.inr ⟨first, List.mem_cons_self, hFirst⟩
          · exact Or.inl hSeparator
          · rcases ih hRest with
              hSeparator | ⟨piece, hPiece, hMem⟩
            · exact Or.inl hSeparator
            · exact
                Or.inr
                  ⟨piece, List.mem_cons_of_mem _ hPiece, hMem⟩

/- The first part ends at the first `=`. -/
theorem cutAtEquals_append
    {name : List Char}
    (hName : '=' ∉ name)
    (rest : List Char) :
    cutAtEquals (name ++ '=' :: rest) = some (name, rest) := by
  induction name with
  | nil => rfl
  | cons c name ih =>
      rw [List.mem_cons, not_or] at hName
      rw [List.cons_append, cutAtEquals, ih hName.2]
      · rfl
      · exact fun hEquals => hName.1 hEquals.symm

end KisAuth

------------------------------------------------------------
-- Trimming
------------------------------------------------------------

namespace KisAuth

/- Neither the first nor the last character is a space. -/
def Trimmed (text : List Char) : Prop :=
  (∀ c ∈ text.head?, isJsSpace c = false) ∧
    ∀ c ∈ text.getLast?, isJsSpace c = false

theorem dropWhile_space_eq_self
    {text : List Char}
    (hHead : ∀ c ∈ text.head?, isJsSpace c = false) :
    text.dropWhile isJsSpace = text := by
  cases text with
  | nil => rfl
  | cons c rest =>
      rw [List.dropWhile_cons_of_neg]
      simpa using hHead c rfl

theorem trim_eq_self
    {text : List Char}
    (hTrimmed : Trimmed text) :
    trim text = text := by
  have hLast :
      ∀ c ∈ text.reverse.head?, isJsSpace c = false := by
    rw [List.head?_reverse]
    exact hTrimmed.2
  rw [trim, dropWhile_space_eq_self hTrimmed.1,
    dropWhile_space_eq_self hLast, List.reverse_reverse]

theorem not_space_of_head
    {text : List Char}
    {c : Char}
    (hHead : (text.dropWhile isJsSpace).head? = some c) :
    isJsSpace c = false := by
  have hNot := List.head?_dropWhile_not isJsSpace text
  rw [hHead] at hNot
  exact hNot

/- What is left after trimming is trimmed. -/
theorem trimmed_trim
    (text : List Char) :
    Trimmed (trim text) := by
  have hPrefix : trim text <+: text.dropWhile isJsSpace :=
    List.rdropWhile_prefix _ _
  constructor
  · intro c hHead
    rcases hPrefix with ⟨after, hAfter⟩
    apply not_space_of_head
    rw [← hAfter, List.head?_append, hHead]
    rfl
  · intro c hLast
    rw [trim, List.getLast?_reverse] at hLast
    exact not_space_of_head hLast

/- A space in front is dropped. -/
theorem trim_space
    (text : List Char) :
    trim (' ' :: text) = trim text := by
  rw [trim, List.dropWhile_cons_of_pos (by decide), ← trim]

end KisAuth
