import KisAuth.Text.Pieces
import Mathlib.Tactic.IntervalCases

/-
  What percent encoding writes is read back.

  Key theorems include:
    * `hexByte_percentByte`, `mem_encodeURIComponent`
    * `decodeURIComponent_encodeURIComponent`
-/

------------------------------------------------------------
-- ASCII
------------------------------------------------------------

namespace KisAuth

/- A fact about all ASCII characters, checked on each. -/
theorem of_ascii
    {property : Char → Prop}
    (hAll : ∀ n < 128, property (Char.ofNat n))
    {c : Char}
    (hAscii : c.toNat < 128) :
    property c := by
  have hChar := hAll c.toNat hAscii
  rwa [Char.ofNat_toNat] at hChar

theorem ascii_of_isAlphanum
    {c : Char}
    (hChar : c.isAlphanum = true) :
    c.toNat < 128 := by
  have hRanges :
      (decide (c.val ≥ 'A'.val ∧ c.val ≤ 'Z'.val) ||
          c.val ≥ 'a'.val && c.val ≤ 'z'.val ||
        c.val ≥ '0'.val && c.val ≤ '9'.val) = true := hChar
  simp only [Bool.or_eq_true, Bool.and_eq_true,
    decide_eq_true_eq, ge_iff_le, UInt32.le_iff_toNat_le]
    at hRanges
  have hValue : c.toNat = c.val.toNat := rfl
  rw [hValue]
  have hZ : 'Z'.val.toNat = 90 := rfl
  have hz : 'z'.val.toNat = 122 := rfl
  have h9 : '9'.val.toNat = 57 := rfl
  omega

theorem ascii_of_mem
    {text : String}
    {c : Char}
    (hText :
      text.toList.all (fun d => decide (d.toNat < 128)) =
        true)
    (hMem : text.toList.contains c = true) :
    c.toNat < 128 :=
  of_every hText c (List.contains_iff_mem.mp hMem)

end KisAuth

------------------------------------------------------------
-- Hexadecimal Digits
------------------------------------------------------------

namespace KisAuth

theorem hexValue_upperHexDigit
    {n : Nat}
    (hDigit : n < 16) :
    hexValue (upperHexDigit n) = some n := by
  interval_cases n <;> rfl

/- The two digits of a byte stand for it. -/
theorem hexByte_upperHexDigit
    {byte : Nat}
    (hByte : byte < 256) :
    hexByte (upperHexDigit (byte / 16))
        (upperHexDigit (byte % 16)) =
      some byte := by
  have hHigh : byte / 16 < 16 := by omega
  have hLow : byte % 16 < 16 := by omega
  rw [hexByte, hexValue_upperHexDigit hHigh,
    hexValue_upperHexDigit hLow]
  exact congrArg some (by omega)

/- A continuation byte gives its six bits. -/
theorem continuation_upperHexDigit
    {bits : Nat}
    (hBits : bits < 0x40) :
    continuation (upperHexDigit ((0x80 + bits) / 16))
        (upperHexDigit ((0x80 + bits) % 16)) =
      some bits := by
  rw [continuation, hexByte_upperHexDigit (by omega)]
  simp only
  rw [if_pos (by omega)]
  exact congrArg some (by omega)

theorem charInRange_toNat
    {least : Nat}
    (c : Char)
    (hLeast : least ≤ c.toNat) :
    charInRange least c.toNat = some c := by
  rw [charInRange, if_pos ⟨hLeast, c.valid⟩, Char.ofNat_toNat]

end KisAuth

------------------------------------------------------------
-- Escaped Characters
------------------------------------------------------------

namespace KisAuth

theorem decodeChars_plain
    {c : Char}
    (hPlain : c ≠ '%')
    (rest : List Char) :
    decodeChars (c :: rest) =
      (decodeChars rest).map (fun decoded => c :: decoded) := by
  rw [decodeChars]
  · intro a b rest hPercent
    exact absurd hPercent hPlain
  · intro hPercent
    exact absurd hPercent hPlain

theorem decodeChars_one
    {byte : Nat}
    (hByte : byte < 0x80)
    (rest : List Char) :
    decodeChars (percentByte byte ++ rest) =
      (decodeChars rest).map
        (fun decoded => Char.ofNat byte :: decoded) := by
  have hHex := @hexByte_upperHexDigit byte (by omega)
  have hTrailing : trailingBytes byte = some 0 := by
    rw [trailingBytes, if_pos hByte]
  rw [percentByte, List.cons_append, List.cons_append,
    List.cons_append, List.nil_append, decodeChars]
  simp only [hHex, hTrailing]

/- Two bytes, of which the second has six bits. -/
theorem decodeChars_two
    {lead low : Nat}
    (hLead : lead < 0x20)
    (hLow : low < 0x40)
    (rest : List Char) :
    decodeChars
        (percentByte (0xC0 + lead) ++
          (percentByte (0x80 + low) ++ rest)) =
      (decodeChars rest).bind (fun decoded =>
        (charInRange 0x80 (lead * 0x40 + low)).map
          (fun char => char :: decoded)) := by
  have hHex := @hexByte_upperHexDigit (0xC0 + lead) (by omega)
  have hTrailing : trailingBytes (0xC0 + lead) = some 1 := by
    rw [trailingBytes, if_neg (by omega), if_pos (by omega)]
  have hContinues := continuation_upperHexDigit hLow
  have hBits : 0xC0 + lead - 0xC0 = lead := by omega
  simp only [percentByte, List.cons_append, List.nil_append]
  rw [decodeChars]
  simp only [hHex, hTrailing, hContinues, hBits]
  cases decodeChars rest <;> rfl

theorem decodeChars_three
    {lead middle low : Nat}
    (hLead : lead < 0x10)
    (hMiddle : middle < 0x40)
    (hLow : low < 0x40)
    (rest : List Char) :
    decodeChars
        (percentByte (0xE0 + lead) ++
          (percentByte (0x80 + middle) ++
            (percentByte (0x80 + low) ++ rest))) =
      (decodeChars rest).bind (fun decoded =>
        (charInRange 0x800
          ((lead * 0x40 + middle) * 0x40 + low)).map
          (fun char => char :: decoded)) := by
  have hHex := @hexByte_upperHexDigit (0xE0 + lead) (by omega)
  have hTrailing : trailingBytes (0xE0 + lead) = some 2 := by
    rw [trailingBytes, if_neg (by omega), if_neg (by omega),
      if_pos (by omega)]
  have hSecond := continuation_upperHexDigit hMiddle
  have hThird := continuation_upperHexDigit hLow
  have hBits : 0xE0 + lead - 0xE0 = lead := by omega
  simp only [percentByte, List.cons_append, List.nil_append]
  rw [decodeChars]
  simp only [hHex, hTrailing, hSecond, hThird, hBits]
  cases decodeChars rest <;> rfl

theorem decodeChars_four
    {lead high middle low : Nat}
    (hLead : lead < 8)
    (hHigh : high < 0x40)
    (hMiddle : middle < 0x40)
    (hLow : low < 0x40)
    (rest : List Char) :
    decodeChars
        (percentByte (0xF0 + lead) ++
          (percentByte (0x80 + high) ++
            (percentByte (0x80 + middle) ++
              (percentByte (0x80 + low) ++ rest)))) =
      (decodeChars rest).bind (fun decoded =>
        (charInRange 0x10000
          (((lead * 0x40 + high) * 0x40 + middle) * 0x40 +
            low)).map
          (fun char => char :: decoded)) := by
  have hHex := @hexByte_upperHexDigit (0xF0 + lead) (by omega)
  have hTrailing : trailingBytes (0xF0 + lead) = some 3 := by
    rw [trailingBytes, if_neg (by omega), if_neg (by omega),
      if_neg (by omega), if_pos (by omega)]
  have hSecond := continuation_upperHexDigit hHigh
  have hThird := continuation_upperHexDigit hMiddle
  have hFourth := continuation_upperHexDigit hLow
  have hBits : 0xF0 + lead - 0xF0 = lead := by omega
  simp only [percentByte, List.cons_append, List.nil_append]
  rw [decodeChars]
  simp only [hHex, hTrailing, hSecond, hThird, hFourth, hBits]
  cases decodeChars rest <;> rfl

theorem bind_char_map
    {least code : Nat}
    (c : Char)
    (hCode : code = c.toNat)
    (hLeast : least ≤ c.toNat)
    (decoded : Option (List Char)) :
    (decoded.bind fun rest =>
        (charInRange least code).map (fun char => char :: rest)) =
      decoded.map (fun rest => c :: rest) := by
  rw [hCode, charInRange_toNat c hLeast]
  cases decoded <;> rfl

/- The escapes of one character are read as it. -/
theorem decodeChars_escaped
    (c : Char)
    (rest : List Char) :
    decodeChars ((utf8Bytes c).flatMap percentByte ++ rest) =
      (decodeChars rest).map (fun decoded => c :: decoded) := by
  have hValid : c.toNat.isValidChar := c.valid
  rw [Nat.isValidChar] at hValid
  rw [utf8Bytes]
  split
  · rename_i hOne
    rw [List.flatMap_singleton, decodeChars_one hOne,
      Char.ofNat_toNat]
  split
  · rename_i hOne hTwo
    simp only [List.flatMap_cons, List.flatMap_nil,
      List.append_nil, List.append_assoc]
    rw [decodeChars_two (by omega) (by omega)]
    exact bind_char_map c (by omega) (by omega) _
  split
  · rename_i hTwo hThree
    simp only [List.flatMap_cons, List.flatMap_nil,
      List.append_nil, List.append_assoc]
    rw [decodeChars_three (by omega) (by omega) (by omega)]
    exact bind_char_map c (by omega) (by omega) _
  · rename_i hThree
    simp only [List.flatMap_cons, List.flatMap_nil,
      List.append_nil, List.append_assoc]
    rw [decodeChars_four (by omega) (by omega) (by omega)
      (by omega)]
    exact bind_char_map c (by omega) (by omega) _

end KisAuth

------------------------------------------------------------
-- Round Trip
------------------------------------------------------------

namespace KisAuth

/- What `encodeURIComponent` makes of one character. -/
def encodeUriChar (c : Char) : List Char :=
  if isUriUnreserved c then [c]
  else (utf8Bytes c).flatMap percentByte

theorem toList_encodeURIComponent
    (text : String) :
    (encodeURIComponent text).toList =
      text.toList.flatMap encodeUriChar := by
  rw [encodeURIComponent, String.toList_ofList]
  rfl

theorem decodeChars_encodeUriChar
    (c : Char)
    (rest : List Char) :
    decodeChars (encodeUriChar c ++ rest) =
      (decodeChars rest).map (fun decoded => c :: decoded) := by
  rw [encodeUriChar]
  split
  · rename_i hUnreserved
    apply decodeChars_plain
    rintro rfl
    exact absurd hUnreserved (by decide)
  · exact decodeChars_escaped c rest

/- Every text of well-formed characters is read back. -/
theorem decodeChars_encode
    (text : List Char) :
    decodeChars (text.flatMap encodeUriChar) = some text := by
  induction text with
  | nil => rfl
  | cons c rest ih =>
      rw [List.flatMap_cons, decodeChars_encodeUriChar, ih]
      rfl

theorem decodeURIComponent_encodeURIComponent
    (text : String) :
    decodeURIComponent (encodeURIComponent text) =
      some text := by
  rw [decodeURIComponent, toList_encodeURIComponent,
    decodeChars_encode, Option.map_some, String.ofList_toList]

theorem upperHexDigit_unreserved
    {n : Nat}
    (hDigit : n < 16) :
    isUriUnreserved (upperHexDigit n) = true := by
  interval_cases n <;> rfl

theorem utf8Bytes_lt
    (c : Char) :
    ∀ byte ∈ utf8Bytes c, byte < 256 := by
  have hValid : c.toNat.isValidChar := c.valid
  rw [Nat.isValidChar] at hValid
  intro byte hByte
  rw [utf8Bytes] at hByte
  split at hByte
  · simp only [List.mem_singleton] at hByte
    omega
  split at hByte
  · simp only [List.mem_cons, List.not_mem_nil,
      or_false] at hByte
    omega
  split at hByte
  · simp only [List.mem_cons, List.not_mem_nil,
      or_false] at hByte
    omega
  · simp only [List.mem_cons, List.not_mem_nil,
      or_false] at hByte
    omega

/- What it writes is unreserved, or begins an escape. -/
theorem mem_encodeURIComponent
    {text : String}
    {c : Char}
    (hMem : c ∈ (encodeURIComponent text).toList) :
    isUriUnreserved c = true ∨ c = '%' := by
  rw [toList_encodeURIComponent] at hMem
  obtain ⟨d, -, hMem⟩ := List.mem_flatMap.mp hMem
  rw [encodeUriChar] at hMem
  split at hMem
  · rename_i hUnreserved
    rw [List.mem_singleton] at hMem
    exact Or.inl (hMem ▸ hUnreserved)
  · obtain ⟨byte, hByte, hMem⟩ := List.mem_flatMap.mp hMem
    have hLess := utf8Bytes_lt d byte hByte
    simp only [percentByte, List.mem_cons, List.not_mem_nil,
      or_false] at hMem
    rcases hMem with hPercent | hHigh | hLow
    · exact Or.inr hPercent
    · exact
        Or.inl (hHigh ▸ upperHexDigit_unreserved (by omega))
    · exact
        Or.inl (hLow ▸ upperHexDigit_unreserved (by omega))

end KisAuth
