import KisAuth.Http.PercentCoding
import KisAuth.Text.Pieces

/-
  Parameters in the `application/x-www-form-urlencoded`
  format: the list that a query stands for, the query of a
  list, and setting one parameter.

  Key definitions include:
    * `FormUrlencoded.Utf8Reader`
    * `FormUrlencoded.serialize`, `FormUrlencoded.parse`
    * `FormUrlencoded.setParam`

  Key theorems include:
    * `FormUrlencoded.parse_serialize`
    * `FormUrlencoded.valuesOf_setParam`
    * `FormUrlencoded.filter_setParam`
-/

------------------------------------------------------------
-- The Format
------------------------------------------------------------

namespace FormUrlencoded

open KisAuth

/-
  How bytes are read as UTF-8, of which it is known that
  what was written from a text is read as that text.
-/
structure Utf8Reader where
  read : List Nat → List Char
  read_bytes : ∀ text, read (text.flatMap utf8Bytes) = text

/- A reader that knows no malformed text from another. -/
def Utf8Reader.lenient : Utf8Reader where
  read := fun bytes =>
    (decodeChars (bytes.flatMap percentByte)).getD ['\uFFFD']
  read_bytes := by
    intro text
    have hRead :
        decodeChars
            ((text.flatMap utf8Bytes).flatMap percentByte) =
          some text := by
      rw [List.flatMap_assoc]
      induction text with
      | nil => rfl
      | cons c rest ih =>
          rw [List.flatMap_cons, decodeChars_escaped, ih]
          rfl
    rw [hRead, Option.getD_some]

/- The characters that stand for themselves. -/
def isFormPlain (c : Char) : Bool :=
  c.isAlphanum || "*-._".toList.contains c

def encodeChar (c : Char) : List Char :=
  if c = ' ' then ['+']
  else if isFormPlain c then [c]
  else (utf8Bytes c).flatMap percentByte

def encodeText (text : String) : List Char :=
  text.toList.flatMap encodeChar

def serializePair (pair : String × String) : List Char :=
  encodeText pair.1 ++ '=' :: encodeText pair.2

/- The query of a list of parameters. -/
def serialize (pairs : List (String × String)) : List Char :=
  ['&'].intercalate (pairs.map serializePair)

/- The bytes of a text with escapes. -/
def percentDecode : List Char → List Nat
| [] => []
| '%' :: a :: b :: rest =>
    match hexByte a b with
    | some byte => byte :: percentDecode rest
    | none => 0x25 :: percentDecode (a :: b :: rest)
| c :: rest => utf8Bytes c ++ percentDecode rest

def plusToSpace (c : Char) : Char :=
  if c = '+' then ' ' else c

def decodeText
    (reader : Utf8Reader)
    (text : List Char) : String :=
  String.ofList
    (reader.read (percentDecode (text.map plusToSpace)))

/- The name and the value of a piece between ampersands. -/
def parsePair
    (reader : Utf8Reader)
    (piece : List Char) : String × String :=
  match cutAtEquals piece with
  | none => (decodeText reader piece, "")
  | some (name, value) =>
      (decodeText reader name, decodeText reader value)

/- The parameters of a query, in order. -/
def parse
    (reader : Utf8Reader)
    (query : List Char) : List (String × String) :=
  ((splitAtChar '&' query).filter (· ≠ [])).map
    (parsePair reader)

/-
  The first parameter of the name gets the value and the
  others go; where there is none, it is added at the end.
-/
def setParam
    (name value : String) :
    List (String × String) → List (String × String)
| [] => [(name, value)]
| (other, old) :: pairs =>
    if other = name then
      (name, value) :: pairs.filter (fun p => p.1 ≠ name)
    else
      (other, old) :: setParam name value pairs

/- The values of all parameters of a name. -/
def valuesOf
    (name : String)
    (pairs : List (String × String)) : List String :=
  (pairs.filter (fun p => p.1 = name)).map Prod.snd

end FormUrlencoded

------------------------------------------------------------
-- Reading What Was Written
------------------------------------------------------------

namespace FormUrlencoded

open KisAuth

theorem percentDecode_plain
    {c : Char}
    (hPlain : c ≠ '%')
    (rest : List Char) :
    percentDecode (c :: rest) =
      utf8Bytes c ++ percentDecode rest := by
  rw [percentDecode]
  intro a b later hPercent
  exact absurd hPercent hPlain

theorem percentDecode_byte
    {byte : Nat}
    (hByte : byte < 256)
    (rest : List Char) :
    percentDecode (percentByte byte ++ rest) =
      byte :: percentDecode rest := by
  rw [percentByte, List.cons_append, List.cons_append,
    List.cons_append, List.nil_append, percentDecode,
    hexByte_upperHexDigit hByte]

theorem percentDecode_bytes
    {bytes : List Nat}
    (hBytes : ∀ byte ∈ bytes, byte < 256)
    (rest : List Char) :
    percentDecode (bytes.flatMap percentByte ++ rest) =
      bytes ++ percentDecode rest := by
  induction bytes with
  | nil => rfl
  | cons byte bytes ih =>
      rw [List.flatMap_cons, List.append_assoc,
        percentDecode_byte (hBytes byte List.mem_cons_self),
        ih (fun other hMem =>
          hBytes other (List.mem_cons_of_mem _ hMem)),
        List.cons_append]

/- No escape has a plus sign in it. -/
theorem plusToSpace_percentByte
    {byte : Nat}
    (hByte : byte < 256) :
    (percentByte byte).map plusToSpace = percentByte byte := by
  have hDigit :
      ∀ n < 16, plusToSpace (upperHexDigit n) =
        upperHexDigit n := by
    decide
  rw [percentByte, List.map_cons, List.map_cons,
    List.map_cons, List.map_nil,
    hDigit (byte / 16) (by omega),
    hDigit (byte % 16) (by omega)]
  rfl

theorem plusToSpace_bytes
    {bytes : List Nat}
    (hBytes : ∀ byte ∈ bytes, byte < 256) :
    (bytes.flatMap percentByte).map plusToSpace =
      bytes.flatMap percentByte := by
  rw [List.map_flatMap]
  apply List.flatMap_congr
  intro byte hMem
  exact plusToSpace_percentByte (hBytes byte hMem)

theorem percentDecode_encodeChar
    (c : Char)
    (rest : List Char) :
    percentDecode ((encodeChar c).map plusToSpace ++ rest) =
      utf8Bytes c ++ percentDecode rest := by
  rw [encodeChar]
  split
  · rename_i hSpace
    subst hSpace
    exact percentDecode_plain (by decide) rest
  split
  · rename_i hPlain
    have hPercent : c ≠ '%' := by
      rintro rfl
      exact absurd hPlain (by decide)
    have hPlus : c ≠ '+' := by
      rintro rfl
      exact absurd hPlain (by decide)
    rw [List.map_singleton, plusToSpace, if_neg hPlus]
    exact percentDecode_plain hPercent rest
  · rw [plusToSpace_bytes (utf8Bytes_lt c)]
    exact percentDecode_bytes (utf8Bytes_lt c) rest

/- Every text is read back. -/
theorem decodeText_encodeText
    (reader : Utf8Reader)
    (text : String) :
    decodeText reader (encodeText text) = text := by
  have hBytes :
      percentDecode ((encodeText text).map plusToSpace) =
        text.toList.flatMap utf8Bytes := by
    rw [encodeText]
    induction text.toList with
    | nil => rfl
    | cons c rest ih =>
        rw [List.flatMap_cons, List.map_append,
          percentDecode_encodeChar, ih, List.flatMap_cons]
  rw [decodeText, hBytes, reader.read_bytes,
    String.ofList_toList]

/- What is written has no separators. -/
theorem mem_encodeText
    {text : String}
    {c : Char}
    (hMem : c ∈ encodeText text) :
    isFormPlain c = true ∨ c = '%' ∨ c = '+' := by
  have hDigit :
      ∀ n < 16, isFormPlain (upperHexDigit n) = true := by
    decide
  rw [encodeText] at hMem
  obtain ⟨d, -, hMem⟩ := List.mem_flatMap.mp hMem
  rw [encodeChar] at hMem
  split at hMem
  · exact Or.inr (Or.inr (List.mem_singleton.mp hMem))
  split at hMem
  · rename_i hPlain
    rw [List.mem_singleton] at hMem
    exact Or.inl (hMem ▸ hPlain)
  · obtain ⟨byte, hByte, hMem⟩ := List.mem_flatMap.mp hMem
    have hLess := utf8Bytes_lt d byte hByte
    simp only [percentByte, List.mem_cons, List.not_mem_nil,
      or_false] at hMem
    rcases hMem with hPercent | hHigh | hLow
    · exact Or.inr (Or.inl hPercent)
    · exact Or.inl (hHigh ▸ hDigit _ (by omega))
    · exact Or.inl (hLow ▸ hDigit _ (by omega))

theorem encodeText_not_mem
    {c : Char}
    (hPlain : isFormPlain c = false)
    (hPercent : c ≠ '%')
    (hPlus : c ≠ '+')
    (text : String) :
    c ∉ encodeText text := by
  intro hMem
  rcases mem_encodeText hMem with hIs | hIs | hIs
  · rw [hPlain] at hIs
    cases hIs
  · exact hPercent hIs
  · exact hPlus hIs

theorem parsePair_serializePair
    (reader : Utf8Reader)
    (pair : String × String) :
    parsePair reader (serializePair pair) = pair := by
  have hEquals : '=' ∉ encodeText pair.1 :=
    encodeText_not_mem (by decide) (by decide) (by decide) _
  rw [parsePair, serializePair, cutAtEquals_append hEquals]
  simp only [decodeText_encodeText]

/- The whole list is read back. -/
theorem parse_serialize
    (reader : Utf8Reader)
    (pairs : List (String × String)) :
    parse reader (serialize pairs) = pairs := by
  cases pairs with
  | nil => rfl
  | cons first rest =>
      have hClean :
          ∀ piece ∈ (first :: rest).map serializePair,
            '&' ∉ piece := by
        intro piece hPiece
        obtain ⟨pair, -, rfl⟩ := List.mem_map.mp hPiece
        have hName :=
          @encodeText_not_mem '&' (by decide) (by decide)
            (by decide) pair.1
        have hValue :=
          @encodeText_not_mem '&' (by decide) (by decide)
            (by decide) pair.2
        simp [serializePair, hName, hValue]
      have hSome :
          ∀ piece ∈ (first :: rest).map serializePair,
            decide (piece ≠ []) = true := by
        intro piece hPiece
        obtain ⟨pair, -, rfl⟩ := List.mem_map.mp hPiece
        simp [serializePair]
      rw [parse, serialize,
        splitAtChar_intercalate hClean (by simp),
        List.filter_eq_self.mpr hSome, List.map_map]
      have hEach :
          ∀ pair ∈ first :: rest,
            (parsePair reader ∘ serializePair) pair = pair :=
        fun pair _ => parsePair_serializePair reader pair
      rw [List.map_congr_left hEach, List.map_id']

end FormUrlencoded

------------------------------------------------------------
-- Setting A Parameter
------------------------------------------------------------

namespace FormUrlencoded

/- Parameters of other names stay as they are. -/
theorem filter_setParam
    {name value : String}
    {keep : String × String → Bool}
    (hOther : ∀ old, keep (name, old) = false)
    (pairs : List (String × String)) :
    (setParam name value pairs).filter keep =
      pairs.filter keep := by
  induction pairs with
  | nil => simp [setParam, hOther]
  | cons first pairs ih =>
      obtain ⟨other, old⟩ := first
      rw [setParam]
      split
      · rename_i hSame
        subst hSame
        rw [List.filter_cons_of_neg (by simp [hOther]),
          List.filter_cons_of_neg (by simp [hOther]),
          List.filter_filter]
        apply List.filter_congr
        rintro ⟨third, kept⟩ _
        by_cases hThird : third = other
        · simp [hThird, hOther]
        · simp [hThird]
      · rw [List.filter_cons, List.filter_cons, ih]

/- There is one parameter of the name, with the value. -/
theorem valuesOf_setParam
    (name value : String)
    (pairs : List (String × String)) :
    valuesOf name (setParam name value pairs) = [value] := by
  induction pairs with
  | nil => simp [setParam, valuesOf]
  | cons first pairs ih =>
      obtain ⟨other, old⟩ := first
      rw [setParam]
      split
      · have hNone :
            (pairs.filter (fun p => p.1 ≠ name)).filter
                (fun p => p.1 = name) =
              [] := by
          rw [List.filter_filter, List.filter_eq_nil_iff]
          intro p _
          simp
        rw [valuesOf, List.filter_cons_of_pos (by simp), hNone]
        rfl
      · rename_i hOther
        rw [valuesOf, List.filter_cons_of_neg (by simpa),
          ← valuesOf, ih]

theorem valuesOf_setParam_of_ne
    {name other : String}
    (hOther : other ≠ name)
    (value : String)
    (pairs : List (String × String)) :
    valuesOf other (setParam name value pairs) =
      valuesOf other pairs := by
  rw [valuesOf, filter_setParam (by simpa using hOther.symm),
    ← valuesOf]

/- Looking a name up finds its first value. -/
theorem lookup_eq_head
    (name : String)
    (pairs : List (String × String)) :
    pairs.lookup name = (valuesOf name pairs).head? := by
  induction pairs with
  | nil => rfl
  | cons first pairs ih =>
      obtain ⟨other, value⟩ := first
      rw [List.lookup_cons]
      by_cases hSame : other = name
      · subst hSame
        simp [valuesOf]
      · have hNot : (name == other) = false :=
          beq_eq_false_iff_ne.mpr (fun hEq => hSame hEq.symm)
        rw [hNot, valuesOf,
          List.filter_cons_of_neg (by simpa), ← valuesOf]
        exact ih

end FormUrlencoded
