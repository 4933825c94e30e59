import Mathlib.Data.List.Basic

/-
  Character references: what a browser reads in place of
  `&amp;` or `&#39;`, in text and in attribute values.

  A reference by name is the longest name of the table that
  follows the ampersand. In an attribute value, a name without
  its semicolon is text where a letter, digit or `=` follows.

  Key definitions include:
    * `Markup.CharacterReferences`, `Markup.decode`
    * `Markup.Decodes`

  Key theorems include:
    * `Markup.CharacterReferences.decode_named`
    * `Markup.CharacterReferences.decode_apostrophe`
-/

------------------------------------------------------------
-- References
------------------------------------------------------------

namespace Markup

/-
  The table of names, with their semicolons, and of numbers.
  Of it is known that a semicolon only ends a name, what the
  four names of the markup characters stand for, and that a
  number below 128 that is printable stands for its character.
-/
structure CharacterReferences where
  names : List (List Char × List Char)
  numeric : Nat → Char
  semicolon_last :
    ∀ entry ∈ names, ';' ∉ entry.1.dropLast
  amp : names.lookup ['a', 'm', 'p', ';'] = some ['&']
  lt : names.lookup ['l', 't', ';'] = some ['<']
  gt : names.lookup ['g', 't', ';'] = some ['>']
  quot : names.lookup ['q', 'u', 'o', 't', ';'] = some ['"']
  printable :
    ∀ n, 32 ≤ n → n < 127 → numeric n = Char.ofNat n

/- The names that are in every table, and no others. -/
def CharacterReferences.basic : CharacterReferences where
  names :=
    [(['a', 'm', 'p', ';'], ['&']),
      (['a', 'm', 'p'], ['&']),
      (['l', 't', ';'], ['<']), (['l', 't'], ['<']),
      (['g', 't', ';'], ['>']), (['g', 't'], ['>']),
      (['q', 'u', 'o', 't', ';'], ['"']),
      (['q', 'u', 'o', 't'], ['"'])]
  numeric := fun n =>
    if n.isValidChar ∧ n ≠ 0 then Char.ofNat n
    else '\uFFFD'
  semicolon_last := by decide
  amp := by decide
  lt := by decide
  gt := by decide
  quot := by decide
  printable := by
    intro n hLow hHigh
    have hValid : n.isValidChar := Or.inl (by omega)
    rw [if_pos ⟨hValid, by omega⟩]

/- The number that digits of a base stand for. -/
def digitsValue
    (base : Nat)
    (value : Char → Option Nat)
    (digits : List Char) : Nat :=
  digits.foldl
    (fun total digit =>
      total * base + (value digit).getD 0)
    0

def decimalDigit (c : Char) : Option Nat :=
  if '0' ≤ c ∧ c ≤ '9' then some (c.toNat - 48) else none

def hexadecimalDigit (c : Char) : Option Nat :=
  if '0' ≤ c ∧ c ≤ '9' then some (c.toNat - 48)
  else if 'a' ≤ c ∧ c ≤ 'f' then some (c.toNat - 87)
  else if 'A' ≤ c ∧ c ≤ 'F' then some (c.toNat - 55)
  else none

namespace CharacterReferences

variable (references : CharacterReferences)

/-
  What digits after `#` stand for, and how many characters
  they are with the semicolon that may end them.
-/
def readDigits
    (base : Nat)
    (value : Char → Option Nat)
    (text : List Char) : Option (List Char × Nat) :=
  let digits := text.takeWhile (fun c => (value c).isSome)
  if digits = [] then none
  else
    let stop :=
      if (text.drop digits.length).head? = some ';' then 1
      else 0
    some
      ([references.numeric (digitsValue base value digits)],
        digits.length + stop)

/- The longest name at the front, and its length. -/
def readName (text : List Char) :
    Option (List Char × Nat) :=
  (List.range (text.length + 1)).reverse.findSome?
    (fun n =>
      (references.names.lookup (text.take n)).map
        (fun chars => (chars, n)))

/- A name that an attribute value keeps as text. -/
def keptInAttribute (text : List Char) (n : Nat) : Bool :=
  (text.take n).getLast? ≠ some ';' &&
    match (text.drop n).head? with
    | some c => c = '=' || c.isAlphanum
    | none => false

/-
  What the text after an ampersand refers to, and how much
  of it the reference takes.
-/
def readReference (inValue : Bool) :
    List Char → Option (List Char × Nat)
| '#' :: 'x' :: text =>
    (references.readDigits 16 hexadecimalDigit text).map
      (fun found => (found.1, found.2 + 2))
| '#' :: 'X' :: text =>
    (references.readDigits 16 hexadecimalDigit text).map
      (fun found => (found.1, found.2 + 2))
| '#' :: text =>
    (references.readDigits 10 decimalDigit text).map
      (fun found => (found.1, found.2 + 1))
| text =>
    (references.readName text).filter
      (fun found =>
        !(inValue && keptInAttribute text found.2))

/- Decode, after passing over what a reference took. -/
def decodeAfter (inValue : Bool) :
    Nat → List Char → List Char
| _, [] => []
| skip + 1, _ :: text => decodeAfter inValue skip text
| 0, c :: text =>
    if c = '&' then
      match references.readReference inValue text with
      | some (chars, taken) =>
          chars ++ decodeAfter inValue taken text
      | none => c :: decodeAfter inValue 0 text
    else
      c :: decodeAfter inValue 0 text

/- A text with its references replaced. -/
def decode (inValue : Bool) (text : List Char) :
    List Char :=
  references.decodeAfter inValue 0 text

example :
    CharacterReferences.basic.decode true
        "a&lt;&#x41;&ampb&amp;lt;".toList =
      "a<A&ampb&lt;".toList := by
  decide +kernel

end CharacterReferences

end Markup

------------------------------------------------------------
-- Decoding
------------------------------------------------------------

namespace Markup

namespace CharacterReferences

variable (references : CharacterReferences)
variable (inValue : Bool)

theorem decodeAfter_eq_drop
    (skip : Nat)
    (text : List Char) :
    references.decodeAfter inValue skip text =
      references.decode inValue (text.drop skip) := by
  induction skip generalizing text with
  | zero => rfl
  | succ skip ih =>
      cases text with
      | nil => rfl
      | cons c text =>
          rw [decodeAfter, ih, List.drop_succ_cons]

/- Characters that begin no reference are themselves. -/
theorem decode_plain
    {c : Char}
    (hPlain : c ≠ '&')
    (text : List Char) :
    references.decode inValue (c :: text) =
      c :: references.decode inValue text := by
  rw [decode, decodeAfter, if_neg hPlain, ← decode]

/- A reference, once it is known what it stands for. -/
theorem decode_reference
    {chars name rest : List Char}
    (hRead :
      references.readReference inValue (name ++ rest) =
        some (chars, name.length)) :
    references.decode inValue ('&' :: (name ++ rest)) =
      chars ++ references.decode inValue rest := by
  rw [decode, decodeAfter, if_pos rfl, hRead]
  simp only [decodeAfter_eq_drop, List.drop_left]

/- No longer text than a name with its semicolon is one. -/
theorem lookup_longer
    {name rest : List Char}
    {n : Nat}
    (hSemicolon : name.getLast? = some ';')
    (hLonger : name.length < n)
    (hMost : n ≤ (name ++ rest).length) :
    references.names.lookup ((name ++ rest).take n) = none := by
  rw [List.lookup_eq_none_iff]
  rintro ⟨other, value⟩ hEntry
  rw [bne_iff_ne]
  rintro rfl
  apply references.semicolon_last _ hEntry
  have hSome : rest.take (n - name.length) ≠ [] := by
    rw [List.length_append] at hMost
    intro hNone
    rw [List.take_eq_nil_iff] at hNone
    rcases hNone with hZero | rfl
    · omega
    · rw [List.length_nil] at hMost
      omega
  have hTake :
      (name ++ rest).take n =
        name ++ rest.take (n - name.length) := by
    rw [List.take_append,
      List.take_of_length_le (Nat.le_of_lt hLonger)]
  simp only [hTake]
  rw [List.dropLast_append_of_ne_nil hSome]
  exact
    List.mem_append_left _ (List.mem_of_getLast? hSemicolon)

/- The longest name is the one that a semicolon ends. -/
theorem readName_append
    {name chars : List Char}
    (rest : List Char)
    (hSemicolon : name.getLast? = some ';')
    (hName : references.names.lookup name = some chars) :
    references.readName (name ++ rest) =
      some (chars, name.length) := by
  have hSplit :
      (List.range ((name ++ rest).length + 1)).reverse =
        ((List.range rest.length).map
            (· + (name.length + 1))).reverse ++
          name.length :: (List.range name.length).reverse := by
    have hLength :
        (name ++ rest).length + 1 =
          (name.length + 1) + rest.length := by
      rw [List.length_append]
      omega
    rw [hLength, List.range_add, List.range_succ]
    simp [Nat.add_comm]
  have hLonger :
      ((List.range rest.length).map
          (· + (name.length + 1))).reverse.findSome?
        (fun n =>
          (references.names.lookup ((name ++ rest).take n)).map
            (fun chars => (chars, n))) = none := by
    rw [List.findSome?_eq_none_iff]
    intro n hMem
    rw [List.mem_reverse, List.mem_map] at hMem
    obtain ⟨k, hRange, rfl⟩ := hMem
    rw [List.mem_range] at hRange
    rw [references.lookup_longer hSemicolon (by omega)
      (by rw [List.length_append]; omega)]
    rfl
  rw [readName, hSplit, List.findSome?_append, hLonger,
    Option.none_or, List.findSome?_cons, List.take_left, hName]
  rfl

/- A reference by name, where a semicolon ends the name. -/
theorem decode_named
    {name chars : List Char}
    (rest : List Char)
    (hLetter : name.head? ≠ some '#')
    (hSemicolon : name.getLast? = some ';')
    (hName : references.names.lookup name = some chars) :
    references.decode inValue ('&' :: (name ++ rest)) =
      chars ++ references.decode inValue rest := by
  apply decode_reference
  have hSome : name ≠ [] := by
    rintro rfl
    cases hSemicolon
  have hNumber : ∀ text, name ++ rest ≠ '#' :: text := by
    intro text hText
    apply hLetter
    rw [← List.head?_append_of_ne_nil _ hSome, hText]
    rfl
  rw [readReference]
  · rw [references.readName_append rest hSemicolon hName,
      Option.filter_some, if_pos]
    simp [keptInAttribute, hSemicolon]
  · exact fun text => hNumber ('x' :: text)
  · exact fun text => hNumber ('X' :: text)
  · exact hNumber

/- The reference by number of the apostrophe. -/
theorem decode_apostrophe
    (rest : List Char) :
    references.decode inValue
        ('&' :: (['#', '3', '9', ';'] ++ rest)) =
      '\'' :: references.decode inValue rest := by
  have hDigits :
      ('3' :: '9' :: ';' :: rest).takeWhile
          (fun c => (decimalDigit c).isSome) =
        ['3', '9'] := by
    rfl
  have hChar : references.numeric 39 = '\'' :=
    references.printable 39 (by decide) (by decide)
  have hRead :
      references.readDigits 10 decimalDigit
          ('3' :: '9' :: ';' :: rest) =
        some (['\''], 3) := by
    simp only [readDigits, hDigits]
    have hValue :
        digitsValue 10 decimalDigit ['3', '9'] = 39 := rfl
    rw [hValue, hChar]
    rfl
  have hReference :
      references.readReference inValue
          (['#', '3', '9', ';'] ++ rest) =
        some (['\''], ['#', '3', '9', ';'].length) := by
    simp only [List.cons_append, List.nil_append]
    rw [readReference]
    · rw [hRead]
      rfl
    · intro text hText
      cases hText
    · intro text hText
      cases hText
  exact references.decode_reference inValue hReference

end CharacterReferences

end Markup
