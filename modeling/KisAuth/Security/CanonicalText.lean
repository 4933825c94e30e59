import KisAuth.Security.InternalSigning
import KisAuth.Text.Tree

/-
  What the canonical text of a body tells about the body.

  The canonical text is the text of a tree: the value with
  its members sorted, with null written like an absent
  value, and with every overflowing number written alike.

  Key definitions include:
    * `jsonSpelling`, `normal`
    * `Serializes`, `SameBody`

  Key theorems include:
    * `depth_normal`, `stableText_eq_print`
    * `stableBody_eq_iff`
-/

------------------------------------------------------------
-- Quoted Strings
------------------------------------------------------------

namespace KisAuth

/- The number a hexadecimal digit stands for. -/
def hexDigitValue (c : Char) : Nat :=
  if c.toNat < 58 then c.toNat - 48 else c.toNat - 87

/- Read back one character of a string literal. -/
def unescapeJsonChar :
    List Char → Option (Char × List Char)
| '\\' :: '"' :: rest => some ('"', rest)
| '\\' :: '\\' :: rest => some ('\\', rest)
| '\\' :: 'b' :: rest => some (Char.ofNat 8, rest)
| '\\' :: 'f' :: rest => some (Char.ofNat 12, rest)
| '\\' :: 'n' :: rest => some (Char.ofNat 10, rest)
| '\\' :: 'r' :: rest => some (Char.ofNat 13, rest)
| '\\' :: 't' :: rest => some (Char.ofNat 9, rest)
| '\\' :: 'u' :: '0' :: '0' :: high :: low :: rest =>
    some
      (Char.ofNat
        (hexDigitValue high * 16 + hexDigitValue low), rest)
| c :: rest => some (c, rest)
| [] => none

theorem hexDigitValue_lowerHexDigit :
    ∀ n < 16, hexDigitValue (lowerHexDigit n) = n := by
  decide

/- A code point, as four hexadecimal digits. -/
theorem unescape_unicode
    (high low : Char)
    (rest : List Char) :
    unescapeJsonChar
        ('\\' :: 'u' :: '0' :: '0' :: high :: low :: rest) =
      some
        (Char.ofNat
          (hexDigitValue high * 16 + hexDigitValue low),
          rest) :=
  rfl

/- A character that begins no escape. -/
theorem unescape_plain
    {c : Char}
    (hPlain : c ≠ '\\')
    (rest : List Char) :
    unescapeJsonChar (c :: rest) = some (c, rest) := by
  simp [unescapeJsonChar, hPlain]

theorem unescape_escape
    (c : Char)
    (rest : List Char) :
    unescapeJsonChar (escapeJsonChar c ++ rest) =
      some (c, rest) := by
  have hOf : Char.ofNat c.toNat = c := Char.ofNat_toNat c
  unfold escapeJsonChar
  split
  · next hQuote =>
      subst hQuote
      rfl
  split
  · next hBackslash =>
      subst hBackslash
      rfl
  split
  · next hCode =>
      rw [hCode] at hOf
      subst hOf
      rfl
  split
  · next hCode =>
      rw [hCode] at hOf
      subst hOf
      rfl
  split
  · next hCode =>
      rw [hCode] at hOf
      subst hOf
      rfl
  split
  · next hCode =>
      rw [hCode] at hOf
      subst hOf
      rfl
  split
  · next hCode =>
      rw [hCode] at hOf
      subst hOf
      rfl
  split
  · next hControl =>
      have hHigh :=
        hexDigitValue_lowerHexDigit (c.toNat / 16) (by omega)
      have hLow :=
        hexDigitValue_lowerHexDigit (c.toNat % 16) (by omega)
      have hSum :
          c.toNat / 16 * 16 + c.toNat % 16 = c.toNat := by
        omega
      simp only [List.cons_append, List.nil_append]
      rw [unescape_unicode, hHigh, hLow, hSum, hOf]
  · next hQuote hBackslash _ _ _ _ _ _ =>
      exact unescape_plain hBackslash rest

/- No character is written as a bare quotation mark. -/
theorem escape_ne_quote
    (c : Char)
    (rest more : List Char) :
    escapeJsonChar c ++ rest ≠ '"' :: more := by
  intro hEq
  have hRead := congrArg unescapeJsonChar hEq
  rw [unescape_escape] at hRead
  have hQuote :
      unescapeJsonChar ('"' :: more) = some ('"', more) := rfl
  rw [hQuote, Option.some.injEq, Prod.mk.injEq] at hRead
  rcases hRead with ⟨rfl, rfl⟩
  have hEscaped : escapeJsonChar '"' = ['\\', '"'] := rfl
  rw [hEscaped] at hEq
  simp at hEq

/- A string literal tells its text and where it ends. -/
theorem escaped_inj
    {left right r s : List Char}
    (hEq :
      left.flatMap escapeJsonChar ++ '"' :: r =
        right.flatMap escapeJsonChar ++ '"' :: s) :
    left = right ∧ r = s := by
  induction left generalizing right with
  | nil =>
      cases right with
      | nil => simpa using hEq
      | cons d right =>
          rw [List.flatMap_cons, List.append_assoc] at hEq
          exact absurd hEq.symm (escape_ne_quote _ _ _)
  | cons c left ih =>
      cases right with
      | nil =>
          rw [List.flatMap_cons, List.append_assoc] at hEq
          exact absurd hEq (escape_ne_quote _ _ _)
      | cons d right =>
          rw [List.flatMap_cons, List.flatMap_cons,
            List.append_assoc, List.append_assoc] at hEq
          have hRead := congrArg unescapeJsonChar hEq
          rw [unescape_escape, unescape_escape] at hRead
          simp only [Option.some.injEq, Prod.mk.injEq]
            at hRead
          rcases hRead with ⟨rfl, hRest⟩
          rcases ih hRest with ⟨rfl, rfl⟩
          exact ⟨rfl, rfl⟩

theorem quoteJson_inj
    (left right : String)
    (r s : List Char)
    (hEq : quoteJson left ++ r = quoteJson right ++ s) :
    left = right ∧ r = s := by
  unfold quoteJson at hEq
  simp only [List.cons_append, List.append_assoc,
    List.nil_append, List.cons.injEq, true_and] at hEq
  rcases escaped_inj hEq with ⟨hText, hRest⟩
  exact ⟨String.toList_inj.mp hText, hRest⟩

end KisAuth

------------------------------------------------------------
-- Words
------------------------------------------------------------

namespace KisAuth

open Text

/- The values that are written as one word. -/
inductive JsonWord where
  | bool (value : Bool)
  | num (value : JsNumber)
  | overflow

def JsonWord.text : JsonWord → List Char
| .bool true => "true".toList
| .bool false => "false".toList
| .num value => value.text.toList
| .overflow => "null".toList

theorem numeral_start
    {text : List Char}
    (hNumeral : isNumeral text = true) :
    ∃ c rest,
      text = c :: rest ∧
        (c.isDigit = true ∨ c = '-') ∧
        ∀ d ∈ text, isNumeralChar d = true := by
  cases text with
  | nil => simp [isNumeral] at hNumeral
  | cons c rest =>
      unfold isNumeral at hNumeral
      rw [Bool.and_eq_true, List.all_eq_true] at hNumeral
      rcases hNumeral with ⟨hStart, hAll⟩
      refine ⟨c, rest, rfl, ?_, hAll⟩
      simpa using hStart

theorem numeralChar_clean
    {c : Char}
    (hNumeral : isNumeralChar c = true) :
    isDelimiter c = false := by
  by_contra hDelimiter
  rw [Bool.not_eq_false] at hDelimiter
  simp only [isDelimiter, Bool.or_eq_true, beq_iff_eq]
    at hDelimiter
  rcases hDelimiter with (rfl | rfl) | rfl <;>
    simp [isNumeralChar] at hNumeral

theorem digit_not_opening
    {c : Char}
    (hStart : c.isDigit = true ∨ c = '-') :
    isOpening c = false := by
  by_contra hOpening
  rw [Bool.not_eq_false] at hOpening
  simp only [isOpening, Bool.or_eq_true, beq_iff_eq]
    at hOpening
  rcases hOpening with (rfl | rfl) | rfl <;>
    simp at hStart

/- A number is written like no other word. -/
theorem JsNumber.text_ne
    (value : JsNumber)
    {c : Char}
    {rest : List Char}
    (hLetter : c.isDigit = false)
    (hMinus : c ≠ '-') :
    value.text.toList ≠ c :: rest := by
  intro hEq
  rcases numeral_start value.numeral with
    ⟨d, more, hText, hStart, _⟩
  rw [hEq] at hText
  simp only [List.cons.injEq] at hText
  rcases hText with ⟨rfl, _⟩
  rcases hStart with hDigit | hSign
  · rw [hLetter] at hDigit
    simp at hDigit
  · exact hMinus hSign

/- The fixed words are written differently from numbers. -/
theorem JsonWord.fixed_ne_num
    (word : JsonWord)
    (value : JsNumber)
    (hEq : word.text = value.text.toList) :
    word = .num value := by
  cases word with
  | bool truth =>
      cases truth
      · exact absurd hEq.symm
          (value.text_ne (by decide) (by decide))
      · exact absurd hEq.symm
          (value.text_ne (by decide) (by decide))
  | num other =>
      have hText := String.toList_inj.mp hEq
      rcases other with ⟨text, _⟩
      rcases value with ⟨text', _⟩
      subst hText
      rfl
  | overflow =>
      exact absurd hEq.symm
        (value.text_ne (by decide) (by decide))

theorem JsonWord.text_injective :
    Function.Injective JsonWord.text := by
  intro left right hEq
  cases right with
  | num value => exact left.fixed_ne_num value hEq
  | bool truth =>
      cases left with
      | num value =>
          exact (fixed_ne_num _ value hEq.symm).symm
      | bool other =>
          cases truth <;> cases other <;>
            first
            | rfl
            | exact absurd hEq (by decide)
      | overflow =>
          cases truth <;> exact absurd hEq (by decide)
  | overflow =>
      cases left with
      | num value =>
          exact (fixed_ne_num _ value hEq.symm).symm
      | bool other =>
          cases other <;> exact absurd hEq (by decide)
      | overflow => rfl

/- How the canonical text writes words and strings. -/
def jsonSpelling : Spelling JsonWord String where
  word := JsonWord.text
  quote := quoteJson
  word_start := by
    intro w
    cases w with
    | bool value =>
        cases value
        · exact ⟨'f', _, rfl, rfl⟩
        · exact ⟨'t', _, rfl, rfl⟩
    | num value =>
        rcases numeral_start value.numeral with
          ⟨c, rest, hText, hStart, _⟩
        exact ⟨c, rest, hText, digit_not_opening hStart⟩
    | overflow => exact ⟨'n', _, rfl, rfl⟩
  word_clean := by
    intro w
    cases w with
    | bool value =>
        cases value <;> simp [JsonWord.text, isDelimiter]
    | num value =>
        rcases numeral_start value.numeral with
          ⟨c, rest, _, _, hAll⟩
        exact fun d hMem => numeralChar_clean (hAll d hMem)
    | overflow => simp [JsonWord.text, isDelimiter]
  word_injective := JsonWord.text_injective
  quote_start := fun _ => ⟨_, rfl⟩
  quote_inj := quoteJson_inj

end KisAuth

------------------------------------------------------------
-- Normal Forms
------------------------------------------------------------

namespace KisAuth

open Text

/- The tree of a value. -/
abbrev JsonTree := Tree JsonWord String

/- A list of one absent item counts as empty. -/
def dropLoneAbsent : List JsonTree → List JsonTree
| [.absent] => []
| items => items

/- Members in the order of their names. -/
def sortByName
    (members : List (String × JsonTree)) :
    List (String × JsonTree) :=
  members.insertionSort
    (fun left right => codeUnitLe left.1 right.1)

mutual

/-
  The value up to the order of its members, where null
  counts as absent, a list of one null as empty, and all
  overflowing numbers as one.
-/
def normal : JsValue → JsonTree
| .undefined => .absent
| .null => .absent
| .bool value => .word (.bool value)
| .num value => .word (.num value)
| .infinite _ => .word .overflow
| .str value => .str value
| .arr items => .arr (dropLoneAbsent (normalItems items))
| .obj members => .obj (sortByName (normalMembers members))

def normalItems : List JsValue → List JsonTree
| [] => []
| item :: rest => normal item :: normalItems rest

def normalMembers :
    List (String × JsValue) → List (String × JsonTree)
| [] => []
| (_, .undefined) :: rest => normalMembers rest
| (name, value) :: rest =>
    (name, normal value) :: normalMembers rest

end

/- A member counts unless its value is undefined. -/
theorem members_cons_cases
    (name : String)
    (value : JsValue)
    (rest : List (String × JsValue)) :
    (normalMembers ((name, value) :: rest) =
          normalMembers rest ∧
        stableMembers ((name, value) :: rest) =
          stableMembers rest) ∨
      (normalMembers ((name, value) :: rest) =
          (name, normal value) :: normalMembers rest ∧
        stableMembers ((name, value) :: rest) =
          (name, stableText value) ::
            stableMembers rest) := by
  cases value with
  | undefined => exact Or.inl ⟨rfl, rfl⟩
  | _ => exact Or.inr ⟨rfl, rfl⟩

theorem plainItems_of_forall
    {items : List JsonTree}
    (hAll : ∀ item ∈ items, item.Plain) :
    Tree.PlainItems items := by
  induction items with
  | nil => trivial
  | cons item rest ih =>
      exact
        ⟨hAll item (by simp),
          ih (fun other hMem => hAll other (by simp [hMem]))⟩

theorem plainMembers_of_forall
    {members : List (String × JsonTree)}
    (hAll : ∀ member ∈ members, member.2.Plain) :
    Tree.PlainMembers members := by
  induction members with
  | nil => trivial
  | cons member rest ih =>
      exact
        ⟨hAll member (by simp),
          ih (fun other hMem => hAll other (by simp [hMem]))⟩

theorem mem_of_mem_dropLoneAbsent
    {items : List JsonTree}
    {item : JsonTree}
    (hMem : item ∈ dropLoneAbsent items) :
    item ∈ items := by
  unfold dropLoneAbsent at hMem
  split at hMem
  · simp at hMem
  · exact hMem

theorem dropLoneAbsent_ne
    (items : List JsonTree) :
    dropLoneAbsent items ≠ [.absent] := by
  unfold dropLoneAbsent
  split
  · simp
  · next hNe => exact fun hEq => hNe hEq

mutual

/- Normal forms are determined by their texts. -/
theorem normal_plain : ∀ value, (normal value).Plain
| .undefined => trivial
| .null => trivial
| .bool _ => trivial
| .num _ => trivial
| .infinite _ => trivial
| .str _ => trivial
| .arr items => by
    refine ⟨dropLoneAbsent_ne _, ?_⟩
    apply plainItems_of_forall
    intro item hMem
    exact normalItems_plain items item
      (mem_of_mem_dropLoneAbsent hMem)
| .obj members => by
    apply plainMembers_of_forall
    intro member hMem
    apply normalMembers_plain members
    exact (List.perm_insertionSort _ _).mem_iff.mp hMem

theorem normalItems_plain :
    ∀ items, ∀ item ∈ normalItems items, item.Plain
| [], item, hMem => by simp [normalItems] at hMem
| value :: rest, item, hMem => by
    rcases List.mem_cons.mp hMem with rfl | hRest
    · exact normal_plain value
    · exact normalItems_plain rest item hRest

theorem normalMembers_plain :
    ∀ members, ∀ member ∈ normalMembers members,
      member.2.Plain
| [], member, hMem => by simp [normalMembers] at hMem
| (name, value) :: rest, member, hMem => by
    rcases members_cons_cases name value rest with
      ⟨hSame, _⟩ | ⟨hCons, _⟩
    · rw [hSame] at hMem
      exact normalMembers_plain rest member hMem
    · rw [hCons] at hMem
      rcases List.mem_cons.mp hMem with rfl | hRest
      · exact normal_plain value
      · exact normalMembers_plain rest member hRest

end

theorem depth_dropLoneAbsent (items : List JsonTree) :
    Tree.depthItems (dropLoneAbsent items) =
      Tree.depthItems items := by
  unfold dropLoneAbsent
  split
  · rfl
  · rfl

mutual

/- A value is nested as deeply as its normal form. -/
theorem depth_normal :
    ∀ value, (normal value).depth = value.depth
| .undefined => rfl
| .null => rfl
| .bool _ => rfl
| .num _ => rfl
| .infinite _ => rfl
| .str _ => rfl
| .arr items => by
    rw [normal, Tree.depth, JsValue.depth,
      depth_dropLoneAbsent, depth_normalItems items]
| .obj members => by
    rw [normal, Tree.depth, JsValue.depth, sortByName,
      Tree.depthMembers_perm (List.perm_insertionSort _ _),
      depth_normalMembers members]

theorem depth_normalItems :
    ∀ items,
      Tree.depthItems (normalItems items) =
        JsValue.itemsDepth items
| [] => rfl
| item :: rest => by
    rw [normalItems, Tree.depthItems, JsValue.itemsDepth,
      depth_normal item, depth_normalItems rest]

theorem depth_normalMembers :
    ∀ members,
      Tree.depthMembers (normalMembers members) =
        JsValue.membersDepth members
| [] => rfl
| (name, value) :: rest => by
    have hRest := depth_normalMembers rest
    have hValue := depth_normal value
    rw [JsValue.membersDepth]
    cases value with
    | undefined =>
        rw [normalMembers, hRest]
        simp [JsValue.depth]
    | _ =>
        rw [normalMembers, Tree.depthMembers, hValue, hRest]
        simp

end

end KisAuth

------------------------------------------------------------
-- The Canonical Text
------------------------------------------------------------

namespace KisAuth

open Text

theorem joinComma_items
    (item : JsonTree)
    (rest : List JsonTree) :
    joinComma
        ((item :: rest).map (Tree.print jsonSpelling)) =
      item.print jsonSpelling ++
        Tree.printTail jsonSpelling rest := by
  induction rest generalizing item with
  | nil => simp [joinComma, Tree.printTail]
  | cons next rest ih =>
      have hNext := ih next
      simp only [List.map_cons] at hNext ⊢
      rw [joinComma, hNext, Tree.printTail]

theorem print_arr (items : List JsonTree) :
    '[' ::
        joinComma (items.map (Tree.print jsonSpelling)) ++
        [']'] =
      Tree.print jsonSpelling (.arr items) := by
  cases items with
  | nil => rfl
  | cons item rest =>
      rw [joinComma_items]
      simp [Tree.print]

/- A lone absent item does not show. -/
theorem print_dropLoneAbsent (items : List JsonTree) :
    Tree.print jsonSpelling (.arr (dropLoneAbsent items)) =
      Tree.print jsonSpelling (.arr items) := by
  unfold dropLoneAbsent
  split
  · simp [Tree.print, Tree.printTail]
  · rfl

/- The text of one member. -/
def printMember
    (member : String × JsonTree) : List Char :=
  memberText (member.1, member.2.print jsonSpelling)

theorem joinComma_members
    (member : String × JsonTree)
    (rest : List (String × JsonTree)) :
    joinComma ((member :: rest).map printMember) =
      printMember member ++
        Tree.printMembers jsonSpelling rest := by
  induction rest generalizing member with
  | nil => simp [joinComma, Tree.printMembers]
  | cons next rest ih =>
      have hNext := ih next
      simp only [List.map_cons] at hNext ⊢
      rw [joinComma, hNext, Tree.printMembers]
      simp [printMember, memberText, jsonSpelling]

theorem print_obj (members : List (String × JsonTree)) :
    '\x7b' :: joinComma (members.map printMember) ++
        ['\x7d'] =
      Tree.print jsonSpelling (.obj members) := by
  cases members with
  | nil => rfl
  | cons member rest =>
      rw [joinComma_members]
      simp [Tree.print, printMember, memberText,
        jsonSpelling]

/- Sorting looks at the names only. -/
theorem sortMembers_map
    (members : List (String × JsonTree)) :
    sortMembers
        (members.map (fun member =>
          (member.1, member.2.print jsonSpelling))) =
      (sortByName members).map (fun member =>
        (member.1, member.2.print jsonSpelling)) := by
  unfold sortMembers sortByName
  symm
  apply List.map_insertionSort
  intro left _ right _
  exact Iff.rfl

mutual

/- The canonical text is the text of the normal form. -/
theorem stableText_eq_print :
    ∀ value,
      stableText value =
        (normal value).print jsonSpelling
| .undefined => rfl
| .null => rfl
| .bool true => rfl
| .bool false => rfl
| .num _ => rfl
| .infinite _ => rfl
| .str _ => rfl
| .arr items => by
    rw [stableText, normal, print_dropLoneAbsent,
      stableItems_eq_map items]
    exact print_arr _
| .obj members => by
    rw [stableText, normal,
      stableMembers_eq_map members, sortMembers_map,
      List.map_map]
    exact print_obj _

theorem stableItems_eq_map :
    ∀ items,
      stableItems items =
        (normalItems items).map (Tree.print jsonSpelling)
| [] => rfl
| item :: rest => by
    rw [stableItems, normalItems, List.map_cons,
      stableText_eq_print item, stableItems_eq_map rest]

theorem stableMembers_eq_map :
    ∀ members,
      stableMembers members =
        (normalMembers members).map (fun member =>
          (member.1, member.2.print jsonSpelling))
| [] => rfl
| (name, value) :: rest => by
    rcases members_cons_cases name value rest with
      ⟨hNormal, hStable⟩ | ⟨hNormal, hStable⟩
    · rw [hNormal, hStable]
      exact stableMembers_eq_map rest
    · rw [hNormal, hStable, List.map_cons,
        stableText_eq_print value,
        stableMembers_eq_map rest]

end

/- Normal forms with one text are equal. -/
theorem print_inj_of_plain
    {left right : JsonTree}
    (hLeft : left.Plain)
    (hRight : right.Plain)
    (hEq :
      left.print jsonSpelling = right.print jsonSpelling) :
    left = right := by
  have hBoth :
      left.print jsonSpelling ++ [] =
        right.print jsonSpelling ++ [] := by
    rw [hEq]
  exact
    (Tree.print_inj left right hLeft hRight [] [] trivial
      trivial hBoth).1

end KisAuth

------------------------------------------------------------
-- Bodies
------------------------------------------------------------

namespace KisAuth

open Text

/- A JSON value, or a text that is not JSON. -/
inductive BodyForm where
  | value (tree : JsonTree)
  | raw (text : String)

/- The normal form, where the call stack suffices for it. -/
def serialForm
    (P : Platform)
    (value : JsValue) : Option JsonTree :=
  if value.depth ≤ P.stringifyDepth then some (normal value)
  else none

/- A string that is JSON stands for the value it contains. -/
def bodyForm (P : Platform) : JsValue → BodyForm
| .str text =>
    match (P.jsonParse text).bind (serialForm P) with
    | some tree => .value tree
    | none => .raw text
| value => .value (normal value)

/- The body has a canonical text. A string always has one. -/
def Serializes (P : Platform) : JsValue → Prop
| .str _ => True
| value => value.depth ≤ P.stringifyDepth

def BodyForm.print : BodyForm → List Char
| .value tree => tree.print jsonSpelling
| .raw text => text.toList

/-
  The same body: the same normal form where both are JSON.
  A text that is not JSON, or nested too deeply, counts as
  the value with that canonical text.
-/
def SameBody
    (P : Platform)
    (left right : JsValue) : Prop :=
  match bodyForm P left, bodyForm P right with
  | .value tree, .value tree' => tree = tree'
  | form, form' => form.print = form'.print

theorem stableStringify_eq
    (P : Platform)
    (value : JsValue) :
    stableStringify P value =
      (serialForm P value).map
        (Tree.print jsonSpelling) := by
  unfold stableStringify serialForm
  split
  · rw [stableText_eq_print, Option.map_some]
  · rfl

theorem stableBody_eq_print
    {P : Platform}
    {body : JsValue}
    (hSerializes : Serializes P body) :
    stableBody P body = some (bodyForm P body).print := by
  unfold stableBody bodyForm
  cases body with
  | str text =>
      simp only
      cases hParsed : P.jsonParse text with
      | none => rfl
      | some value =>
          simp only [Option.bind_some, stableStringify_eq]
          cases serialForm P value with
          | none => rfl
          | some tree => rfl
  | _ =>
      simp only [stableStringify, stableText_eq_print,
        BodyForm.print]
      exact if_pos hSerializes

theorem stableBody_eq_none
    {P : Platform}
    {body : JsValue}
    (hDeep : ¬Serializes P body) :
    stableBody P body = none := by
  unfold stableBody
  cases body with
  | str text => exact absurd trivial hDeep
  | _ =>
      simp only [Serializes] at hDeep
      simp only [stableStringify, if_neg hDeep]

/- A body with a hash has a canonical text. -/
theorem serializes_of_some
    {P : Platform}
    {body : JsValue}
    {text : List Char}
    (hText : stableBody P body = some text) :
    Serializes P body ∧ (bodyForm P body).print = text := by
  by_cases hSerializes : Serializes P body
  · rw [stableBody_eq_print hSerializes] at hText
    exact ⟨hSerializes, Option.some.inj hText⟩
  · rw [stableBody_eq_none hSerializes] at hText
    simp at hText

theorem bodyForm_plain
    {P : Platform}
    {body : JsValue}
    {tree : JsonTree}
    (hForm : bodyForm P body = .value tree) :
    tree.Plain := by
  unfold bodyForm at hForm
  split at hForm
  · split at hForm
    · next value hSerial =>
        rw [BodyForm.value.injEq] at hForm
        rcases Option.bind_eq_some_iff.mp hSerial with
          ⟨parsed, _, hParsed⟩
        unfold serialForm at hParsed
        split at hParsed
        · rw [← hForm, ← Option.some.inj hParsed]
          exact normal_plain _
        · simp at hParsed
    · simp at hForm
  · rw [BodyForm.value.injEq] at hForm
    rw [← hForm]
    exact normal_plain _

/- The text that is hashed tells bodies apart, and no more. -/
theorem stableBody_eq_iff
    {P : Platform}
    {left right : JsValue}
    {text : List Char}
    (hText : stableBody P right = some text)
    (hLeft : Serializes P left) :
    stableBody P left = some text ↔
      SameBody P left right := by
  rw [stableBody_eq_print hLeft, Option.some.injEq,
    ← (serializes_of_some hText).2]
  unfold SameBody
  split
  · next tree tree' hFormLeft hFormRight =>
      rw [hFormLeft, hFormRight]
      simp only [BodyForm.print]
      constructor
      · exact
          print_inj_of_plain (bodyForm_plain hFormLeft)
            (bodyForm_plain hFormRight)
      · intro hEq
        rw [hEq]
  · exact Iff.rfl

end KisAuth

------------------------------------------------------------
-- Values Without Null
------------------------------------------------------------

namespace KisAuth

open Text

mutual

/- The value with the members of all objects in order. -/
def sortKeys : JsValue → JsValue
| .arr items => .arr (sortKeysItems items)
| .obj members =>
    .obj
      ((sortKeysMembers members).insertionSort
        (fun left right => codeUnitLe left.1 right.1))
| value => value

def sortKeysItems : List JsValue → List JsValue
| [] => []
| item :: rest => sortKeys item :: sortKeysItems rest

def sortKeysMembers :
    List (String × JsValue) → List (String × JsValue)
| [] => []
| (name, value) :: rest =>
    (name, sortKeys value) :: sortKeysMembers rest

end

mutual

/-
  The value has no null, no absent value and no overflowing
  number in it.
-/
def Solid : JsValue → Prop
| .undefined => False
| .null => False
| .infinite _ => False
| .arr items => SolidItems items
| .obj members => SolidMembers members
| _ => True

def SolidItems : List JsValue → Prop
| [] => True
| item :: rest => Solid item ∧ SolidItems rest

def SolidMembers : List (String × JsValue) → Prop
| [] => True
| (_, value) :: rest => Solid value ∧ SolidMembers rest

end

mutual

/- Read a value back from its normal form. -/
def treeValue : JsonTree → JsValue
| .absent => .null
| .word (.bool value) => .bool value
| .word (.num value) => .num value
| .word .overflow => .null
| .str value => .str value
| .arr items => .arr (treeItems items)
| .obj members => .obj (treeMembers members)

def treeItems : List JsonTree → List JsValue
| [] => []
| item :: rest => treeValue item :: treeItems rest

def treeMembers :
    List (String × JsonTree) → List (String × JsValue)
| [] => []
| (name, value) :: rest =>
    (name, treeValue value) :: treeMembers rest

end

theorem treeMembers_eq_map
    (members : List (String × JsonTree)) :
    treeMembers members =
      members.map (fun member =>
        (member.1, treeValue member.2)) := by
  induction members with
  | nil => rfl
  | cons member rest ih =>
      rcases member with ⟨name, value⟩
      rw [treeMembers, ih, List.map_cons]

/- Reading back keeps the order of the members. -/
theorem treeMembers_sortByName
    (members : List (String × JsonTree)) :
    treeMembers (sortByName members) =
      (treeMembers members).insertionSort
        (fun left right => codeUnitLe left.1 right.1) := by
  rw [treeMembers_eq_map, treeMembers_eq_map]
  unfold sortByName
  apply List.map_insertionSort
  intro left _ right _
  exact Iff.rfl

theorem normal_ne_absent
    {value : JsValue}
    (hSolid : Solid value) :
    normal value ≠ .absent := by
  cases value <;> simp_all [Solid, normal]

theorem dropLoneAbsent_of_solid
    {items : List JsValue}
    (hSolid : SolidItems items) :
    dropLoneAbsent (normalItems items) =
      normalItems items := by
  unfold dropLoneAbsent
  split
  · next hLone =>
      cases items with
      | nil => simp [normalItems] at hLone
      | cons item rest =>
          simp only [normalItems, List.cons.injEq] at hLone
          exact absurd hLone.1 (normal_ne_absent hSolid.1)
  · rfl

mutual

/- Without null the normal form is the sorted value. -/
theorem treeValue_normal :
    ∀ value, Solid value →
      treeValue (normal value) = sortKeys value
| .undefined, hSolid => by simp [Solid] at hSolid
| .null, hSolid => by simp [Solid] at hSolid
| .bool _, _ => rfl
| .num _, _ => rfl
| .infinite _, hSolid => by simp [Solid] at hSolid
| .str _, _ => rfl
| .arr items, hSolid => by
    have hItems : SolidItems items := by
      simpa [Solid] using hSolid
    rw [normal, dropLoneAbsent_of_solid hItems, treeValue,
      treeItems_normal items hItems, sortKeys]
| .obj members, hSolid => by
    have hMembers : SolidMembers members := by
      simpa [Solid] using hSolid
    rw [normal, treeValue, treeMembers_sortByName,
      treeMembers_normal members hMembers, sortKeys]

theorem treeItems_normal :
    ∀ items, SolidItems items →
      treeItems (normalItems items) = sortKeysItems items
| [], _ => rfl
| item :: rest, hSolid => by
    rw [normalItems, treeItems, sortKeysItems,
      treeValue_normal item hSolid.1,
      treeItems_normal rest hSolid.2]

theorem treeMembers_normal :
    ∀ members, SolidMembers members →
      treeMembers (normalMembers members) =
        sortKeysMembers members
| [], _ => rfl
| (name, value) :: rest, hSolid => by
    rcases members_cons_cases name value rest with
      ⟨hNormal, _⟩ | ⟨hNormal, _⟩
    · have hValue := hSolid.1
      cases value with
      | undefined => simp [Solid] at hValue
      | _ => simp [normalMembers] at hNormal
    · rw [hNormal, treeMembers, sortKeysMembers,
        treeValue_normal value hSolid.1,
        treeMembers_normal rest hSolid.2]

end

/- A body that the verifier does not read as text. -/
def IsStructured : JsValue → Prop
| .str _ => False
| value => Solid value

theorem IsStructured.solid
    {body : JsValue}
    (hBody : IsStructured body) :
    Solid body := by
  cases body <;> simp_all [IsStructured, Solid]

theorem IsStructured.bodyForm
    {P : Platform}
    {body : JsValue}
    (hBody : IsStructured body) :
    bodyForm P body = .value (normal body) := by
  cases body <;> simp_all [IsStructured, KisAuth.bodyForm]

/-
  Bodies without null that are no text are the same only up
  to the order of their members.
-/
theorem SameBody.sortKeys_eq
    {P : Platform}
    {left right : JsValue}
    (hSame : SameBody P left right)
    (hLeft : IsStructured left)
    (hRight : IsStructured right) :
    sortKeys left = sortKeys right := by
  unfold SameBody at hSame
  rw [hLeft.bodyForm, hRight.bodyForm] at hSame
  calc
    sortKeys left = treeValue (normal left) :=
      (treeValue_normal left hLeft.solid).symm
    _ = treeValue (normal right) := by rw [hSame]
    _ = sortKeys right :=
      treeValue_normal right hRight.solid

end KisAuth
