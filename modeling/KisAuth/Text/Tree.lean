import Mathlib.Data.List.Basic

/-
  Texts of bracketed trees, and their unique readability.

  A tree is written with brackets and commas, and an absent
  tree as nothing. Two trees with one text are equal, but
  for a list of one absent tree, which is written like the
  empty list.

  Key definitions include:
    * `Text.Tree`, `Text.Spelling`
    * `Text.Tree.print`, `Text.Tree.Plain`
    * `Text.Tree.depth`

  Key theorems include:
    * `Text.Tree.print_inj`
-/

------------------------------------------------------------
-- Trees And Their Texts
------------------------------------------------------------

namespace Text

/- Words, quoted strings, lists and records. -/
inductive Tree (W S : Type) where
  | absent
  | word (w : W)
  | str (s : S)
  | arr (items : List (Tree W S))
  | obj (members : List (S × Tree W S))

/- The characters that end an item. -/
def isDelimiter (c : Char) : Bool :=
  c == ',' || c == ']' || c == '}'

/- The characters a string, a list or a record starts with. -/
def isOpening (c : Char) : Bool :=
  c == '"' || c == '[' || c == '{'

/- The text is empty or starts with a delimiter. -/
def Delimited : List Char → Prop
| [] => True
| c :: _ => isDelimiter c = true

/-
  How words and strings are written: words without special
  characters, and strings so that their end can be told.
-/
structure Spelling (W S : Type) where
  word : W → List Char
  quote : S → List Char
  word_start :
    ∀ w, ∃ c rest, word w = c :: rest ∧ isOpening c = false
  word_clean : ∀ w, ∀ c ∈ word w, isDelimiter c = false
  word_injective : Function.Injective word
  quote_start : ∀ s, ∃ rest, quote s = '"' :: rest
  quote_inj :
    ∀ a b r s,
      quote a ++ r = quote b ++ s → a = b ∧ r = s

namespace Tree

variable {W S : Type}

mutual

/- The text of a tree. -/
def print (spelling : Spelling W S) : Tree W S → List Char
| .absent => []
| .word w => spelling.word w
| .str s => spelling.quote s
| .arr [] => ['[', ']']
| .arr (item :: rest) =>
    '[' :: (item.print spelling ++
      (printTail spelling rest ++ [']']))
| .obj [] => ['{', '}']
| .obj ((name, item) :: rest) =>
    '{' :: (spelling.quote name ++ ':' ::
      (item.print spelling ++
        (printMembers spelling rest ++ ['}'])))

/- The items after the first one. -/
def printTail
    (spelling : Spelling W S) : List (Tree W S) → List Char
| [] => []
| item :: rest =>
    ',' :: (item.print spelling ++ printTail spelling rest)

/- The members after the first one. -/
def printMembers
    (spelling : Spelling W S) :
    List (S × Tree W S) → List Char
| [] => []
| (name, item) :: rest =>
    ',' :: (spelling.quote name ++ ':' ::
      (item.print spelling ++ printMembers spelling rest))

end

mutual

/- No list in the tree is one absent tree alone. -/
def Plain : Tree W S → Prop
| .absent => True
| .word _ => True
| .str _ => True
| .arr items => items ≠ [.absent] ∧ PlainItems items
| .obj members => PlainMembers members

def PlainItems : List (Tree W S) → Prop
| [] => True
| item :: rest => item.Plain ∧ PlainItems rest

def PlainMembers : List (S × Tree W S) → Prop
| [] => True
| (_, item) :: rest => item.Plain ∧ PlainMembers rest

end

mutual

/- How deeply lists and records are nested in a tree. -/
def depth : Tree W S → Nat
| .arr items => depthItems items + 1
| .obj members => depthMembers members + 1
| _ => 0

def depthItems : List (Tree W S) → Nat
| [] => 0
| item :: rest => max item.depth (depthItems rest)

def depthMembers : List (S × Tree W S) → Nat
| [] => 0
| (_, item) :: rest => max item.depth (depthMembers rest)

end

theorem depthMembers_le_iff
    (members : List (S × Tree W S))
    (bound : Nat) :
    depthMembers members ≤ bound ↔
      ∀ member ∈ members, member.2.depth ≤ bound := by
  induction members with
  | nil => simp [depthMembers]
  | cons member rest ih =>
      rw [depthMembers, Nat.max_le, ih, List.forall_mem_cons]

/- The order of the members does not matter. -/
theorem depthMembers_perm
    {left right : List (S × Tree W S)}
    (hPerm : left.Perm right) :
    depthMembers left = depthMembers right := by
  have hLe :
      ∀ {members others : List (S × Tree W S)},
        members.Perm others →
          depthMembers members ≤ depthMembers others := by
    intro members others hSame
    rw [depthMembers_le_iff]
    intro member hMem
    exact
      (depthMembers_le_iff others _).mp (Nat.le_refl _) member
        (hSame.mem_iff.mp hMem)
  exact Nat.le_antisymm (hLe hPerm) (hLe hPerm.symm)

end Tree

end Text

------------------------------------------------------------
-- How A Text Starts
------------------------------------------------------------

namespace Text

/- The constructor of a tree. -/
inductive Shape where
  | absent
  | word
  | str
  | arr
  | obj
  deriving DecidableEq

/- The shape of the tree a text starts with. -/
def startShape : List Char → Shape
| [] => .absent
| c :: _ =>
    if isDelimiter c then .absent
    else if c = '"' then .str
    else if c = '[' then .arr
    else if c = '{' then .obj
    else .word

variable {W S : Type}

def Tree.shape : Tree W S → Shape
| .absent => .absent
| .word _ => .word
| .str _ => .str
| .arr _ => .arr
| .obj _ => .obj

theorem startShape_of_delimited
    {text : List Char}
    (hDelimited : Delimited text) :
    startShape text = .absent := by
  cases text with
  | nil => rfl
  | cons c rest => exact if_pos hDelimited

/- The start of its text tells the shape of a tree. -/
theorem Tree.startShape_print
    (spelling : Spelling W S)
    (tree : Tree W S)
    {rest : List Char}
    (hRest : Delimited rest) :
    startShape (tree.print spelling ++ rest) =
      tree.shape := by
  cases tree with
  | absent =>
      simp only [Tree.print, List.nil_append]
      exact startShape_of_delimited hRest
  | word w =>
      rcases spelling.word_start w with
        ⟨c, more, hWord, hOpening⟩
      have hClean := spelling.word_clean w c (by simp [hWord])
      simp only [isOpening, Bool.or_eq_false_iff,
        beq_eq_false_iff_ne, ne_eq] at hOpening
      rcases hOpening with ⟨⟨hQuote, hBracket⟩, hBrace⟩
      simp [Tree.print, Tree.shape, hWord, startShape, hClean,
        hQuote, hBracket, hBrace]
  | str s =>
      rcases spelling.quote_start s with ⟨more, hQuote⟩
      simp [Tree.print, Tree.shape, hQuote, startShape,
        isDelimiter]
  | arr items =>
      cases items with
      | nil =>
          simp [Tree.print, Tree.shape, startShape,
            isDelimiter]
      | cons item items =>
          simp [Tree.print, Tree.shape, startShape,
            isDelimiter]
  | obj members =>
      cases members with
      | nil =>
          simp [Tree.print, Tree.shape, startShape,
            isDelimiter]
      | cons member members =>
          simp [Tree.print, Tree.shape, startShape,
            isDelimiter]

theorem Tree.absent_of_shape
    {tree : Tree W S}
    (hShape : tree.shape = .absent) :
    tree = .absent := by
  cases tree <;> simp [Tree.shape] at hShape ⊢

end Text

------------------------------------------------------------
-- Unique Readability
------------------------------------------------------------

namespace Text

/- A text without a stop ends where the first stop is. -/
theorem append_inj_at_stop
    {stop : Char → Bool}
    {left right r s : List Char}
    (hLeft : ∀ c ∈ left, stop c = false)
    (hRight : ∀ c ∈ right, stop c = false)
    (hR : ∀ c ∈ r.head?, stop c = true)
    (hS : ∀ c ∈ s.head?, stop c = true)
    (hEq : left ++ r = right ++ s) :
    left = right ∧ r = s := by
  induction left generalizing right with
  | nil =>
      cases right with
      | nil => exact ⟨rfl, hEq⟩
      | cons c right =>
          have hClean := hRight c (by simp)
          have hStop := hR c (by simp_all)
          rw [hClean] at hStop
          simp at hStop
  | cons c left ih =>
      cases right with
      | nil =>
          have hClean := hLeft c (by simp)
          rw [List.nil_append, List.cons_append] at hEq
          have hStop := hS c (by simp [← hEq])
          rw [hClean] at hStop
          simp at hStop
      | cons d right =>
          simp only [List.cons_append, List.cons.injEq] at hEq
          rcases hEq with ⟨rfl, hEq⟩
          rcases ih (fun c hMem => hLeft c (by simp [hMem]))
              (fun c hMem => hRight c (by simp [hMem])) hEq
            with ⟨rfl, rfl⟩
          exact ⟨rfl, rfl⟩

/- Words end where the first delimiter is. -/
theorem word_append_inj
    {left right r s : List Char}
    (hLeft : ∀ c ∈ left, isDelimiter c = false)
    (hRight : ∀ c ∈ right, isDelimiter c = false)
    (hR : Delimited r)
    (hS : Delimited s)
    (hEq : left ++ r = right ++ s) :
    left = right ∧ r = s := by
  apply append_inj_at_stop hLeft hRight _ _ hEq
  · cases r with
    | nil => simp
    | cons c rest => simpa [Delimited] using hR
  · cases s with
    | nil => simp
    | cons c rest => simpa [Delimited] using hS

/- Texts without a mark end where the first mark is. -/
theorem mark_append_inj
    {mark : Char}
    {left right r s : String}
    (hLeft : mark ∉ left.toList)
    (hRight : mark ∉ right.toList)
    (hEq :
      left ++ String.singleton mark ++ r =
        right ++ String.singleton mark ++ s) :
    left = right ∧ r = s := by
  have hLists :
      left.toList ++ mark :: r.toList =
        right.toList ++ mark :: s.toList := by
    simpa using congrArg String.toList hEq
  have hClean :
      ∀ {text : String}, mark ∉ text.toList →
        ∀ c ∈ text.toList, (c == mark) = false := by
    intro text hNone c hMem
    rw [beq_eq_false_iff_ne]
    rintro rfl
    exact hNone hMem
  rcases append_inj_at_stop (hClean hLeft) (hClean hRight)
      (by simp) (by simp) hLists with ⟨hFirst, hRest⟩
  simp only [List.cons.injEq, true_and] at hRest
  exact
    ⟨String.toList_inj.mp hFirst, String.toList_inj.mp hRest⟩

/- The text has no line break. -/
def SingleLine (text : String) : Prop :=
  '\n' ∉ text.toList

instance (text : String) : Decidable (SingleLine text) :=
  inferInstanceAs (Decidable (_ ∉ _))

/- The first line of a text, and what follows it. -/
theorem line_append_inj
    {left right r s : String}
    (hLeft : SingleLine left)
    (hRight : SingleLine right)
    (hEq : left ++ "\n" ++ r = right ++ "\n" ++ s) :
    left = right ∧ r = s :=
  mark_append_inj hLeft hRight hEq

namespace Tree

variable {W S : Type} {spelling : Spelling W S}

theorem delimited_printTail
    (items : List (Tree W S))
    (rest : List Char) :
    Delimited (printTail spelling items ++ ']' :: rest) := by
  cases items <;> simp [printTail, Delimited, isDelimiter]

theorem delimited_printMembers
    (members : List (S × Tree W S))
    (rest : List Char) :
    Delimited
      (printMembers spelling members ++ '}' :: rest) := by
  cases members <;>
    simp [printMembers, Delimited, isDelimiter]

/- A list that is written like the empty one. -/
theorem eq_lone_absent
    {item : Tree W S}
    {items : List (Tree W S)}
    {r s : List Char}
    (hEq :
      ']' :: r =
        item.print spelling ++
          (printTail spelling items ++ ']' :: s)) :
    item :: items = [.absent] := by
  have hShape : item.shape = .absent := by
    rw [← item.startShape_print spelling
      (delimited_printTail items s), ← hEq]
    rfl
  have hItem := absent_of_shape hShape
  subst hItem
  cases items with
  | nil => rfl
  | cons other items => simp [print, printTail] at hEq

mutual

/- A plain tree is determined by its text. -/
theorem print_inj :
    ∀ a b : Tree W S, a.Plain → b.Plain →
      ∀ r s, Delimited r → Delimited s →
        a.print spelling ++ r = b.print spelling ++ s →
          a = b ∧ r = s
| a, b, hA, hB, r, s, hR, hS, hEq => by
  have hShape : a.shape = b.shape := by
    rw [← a.startShape_print spelling hR,
      ← b.startShape_print spelling hS, hEq]
  match a, b with
  | .absent, .absent => exact ⟨rfl, hEq⟩
  | .word w, .word v =>
      simp only [print] at hEq
      rcases word_append_inj (spelling.word_clean w)
          (spelling.word_clean v) hR hS hEq with
        ⟨hWord, hRest⟩
      rw [spelling.word_injective hWord]
      exact ⟨rfl, hRest⟩
  | .str x, .str y =>
      simp only [print] at hEq
      rcases spelling.quote_inj x y r s hEq with
        ⟨rfl, hRest⟩
      exact ⟨rfl, hRest⟩
  | .arr [], .arr [] =>
      simp only [print, List.cons_append, List.nil_append,
        List.cons.injEq, true_and] at hEq
      exact ⟨rfl, hEq⟩
  | .arr [], .arr (y :: ys) =>
      simp only [print, List.cons_append, List.nil_append,
        List.append_assoc, List.cons.injEq, true_and] at hEq
      exact absurd (eq_lone_absent hEq) hB.1
  | .arr (x :: xs), .arr [] =>
      simp only [print, List.cons_append, List.nil_append,
        List.append_assoc, List.cons.injEq, true_and] at hEq
      exact absurd (eq_lone_absent hEq.symm) hA.1
  | .arr (x :: xs), .arr (y :: ys) =>
      simp only [print, List.cons_append, List.nil_append,
        List.append_assoc, List.cons.injEq, true_and] at hEq
      rcases print_inj x y hA.2.1 hB.2.1 _ _
          (delimited_printTail xs r)
          (delimited_printTail ys s) hEq with ⟨rfl, hTail⟩
      rcases printTail_inj xs ys hA.2.2 hB.2.2 r s hTail with
        ⟨rfl, rfl⟩
      exact ⟨rfl, rfl⟩
  | .obj [], .obj [] =>
      simp only [print, List.cons_append, List.nil_append,
        List.cons.injEq, true_and] at hEq
      exact ⟨rfl, hEq⟩
  | .obj [], .obj ((name, y) :: ys) =>
      rcases spelling.quote_start name with ⟨more, hQuote⟩
      simp [print, hQuote] at hEq
  | .obj ((name, x) :: xs), .obj [] =>
      rcases spelling.quote_start name with ⟨more, hQuote⟩
      simp [print, hQuote] at hEq
  | .obj ((left, x) :: xs), .obj ((right, y) :: ys) =>
      simp only [print, List.cons_append, List.nil_append,
        List.append_assoc, List.cons.injEq, true_and] at hEq
      rcases spelling.quote_inj left right _ _ hEq with
        ⟨rfl, hValue⟩
      simp only [List.cons.injEq, true_and] at hValue
      rcases print_inj x y hA.1 hB.1 _ _
          (delimited_printMembers xs r)
          (delimited_printMembers ys s) hValue with
        ⟨rfl, hTail⟩
      rcases printMembers_inj xs ys hA.2 hB.2 r s hTail with
        ⟨rfl, rfl⟩
      exact ⟨rfl, rfl⟩

theorem printTail_inj :
    ∀ xs ys : List (Tree W S),
      PlainItems xs → PlainItems ys →
        ∀ r s,
          printTail spelling xs ++ ']' :: r =
              printTail spelling ys ++ ']' :: s →
            xs = ys ∧ r = s
| [], [], _, _, r, s, hEq => by simpa [printTail] using hEq
| [], y :: ys, _, _, r, s, hEq => by
    simp [printTail] at hEq
| x :: xs, [], _, _, r, s, hEq => by
    simp [printTail] at hEq
| x :: xs, y :: ys, hX, hY, r, s, hEq => by
    simp only [printTail, List.cons_append,
      List.append_assoc, List.cons.injEq, true_and] at hEq
    rcases print_inj x y hX.1 hY.1 _ _
        (delimited_printTail xs r)
        (delimited_printTail ys s) hEq with ⟨rfl, hTail⟩
    rcases printTail_inj xs ys hX.2 hY.2 r s hTail with
      ⟨rfl, rfl⟩
    exact ⟨rfl, rfl⟩

theorem printMembers_inj :
    ∀ xs ys : List (S × Tree W S),
      PlainMembers xs → PlainMembers ys →
        ∀ r s,
          printMembers spelling xs ++ '}' :: r =
              printMembers spelling ys ++ '}' :: s →
            xs = ys ∧ r = s
| [], [], _, _, r, s, hEq => by
    simpa [printMembers] using hEq
| [], (name, y) :: ys, _, _, r, s, hEq => by
    simp [printMembers] at hEq
| (name, x) :: xs, [], _, _, r, s, hEq => by
    simp [printMembers] at hEq
| (left, x) :: xs, (right, y) :: ys, hX, hY, r, s, hEq => by
    simp only [printMembers, List.cons_append,
      List.append_assoc, List.cons.injEq, true_and] at hEq
    rcases spelling.quote_inj left right _ _ hEq with
      ⟨rfl, hValue⟩
    simp only [List.cons.injEq, true_and] at hValue
    rcases print_inj x y hX.1 hY.1 _ _
        (delimited_printMembers xs r)
        (delimited_printMembers ys s) hValue with
      ⟨rfl, hTail⟩
    rcases printMembers_inj xs ys hX.2 hY.2 r s hTail with
      ⟨rfl, rfl⟩
    exact ⟨rfl, rfl⟩

end

end Tree

end Text
