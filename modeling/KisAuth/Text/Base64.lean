import Mathlib.Data.List.GetD
import Mathlib.Data.List.Nodup

/-
  Base64, written out and read back.

  Three bytes are written as four characters. What is left at
  the end is written as two or three characters, which may be
  padded to four. A lenient reader takes the characters of
  either alphabet and passes over all others.

  Key definitions include:
    * `Base64.digit`, `Base64.sextet`
    * `Base64.encode`, `Base64.encodePadded`
    * `Base64.lenientDecode`

  Key theorems include:
    * `Base64.lenientDecode_encode`
    * `Base64.mem_encode`
-/

------------------------------------------------------------
-- Digits
------------------------------------------------------------

namespace Base64

/- The characters of the standard alphabet, in order. -/
def alphabet : List Char :=
  "ABCDEFGHIJKLMNOPQRSTUVWXYZ".toList ++
    "abcdefghijklmnopqrstuvwxyz".toList ++
      "0123456789+/".toList

/- The character that stands for six bits. -/
def digit (n : Nat) : Char :=
  alphabet.getD n 'A'

/- The six bits a character of either alphabet stands for. -/
def sextet (c : Char) : Option Nat :=
  if c = '-' then some 62
  else if c = '_' then some 63
  else
    let n := alphabet.idxOf c
    if n < 64 then some n else none

/- The alphabet, as the codes of its characters. -/
theorem codes_alphabet :
    alphabet.map Char.toNat =
      List.range' 65 26 ++ List.range' 97 26 ++
        List.range' 48 10 ++ [43, 47] := by
  decide +kernel

theorem length_alphabet :
    alphabet.length = 64 := by
  rw [← List.length_map Char.toNat, codes_alphabet]
  rfl

theorem nodup_alphabet :
    alphabet.Nodup := by
  apply List.Nodup.of_map Char.toNat
  rw [codes_alphabet]
  simp only [List.nodup_append, List.mem_append,
    List.mem_range'_1, List.mem_cons, List.not_mem_nil,
    or_false]
  refine
    ⟨⟨⟨List.nodup_range', List.nodup_range', ?_⟩,
      List.nodup_range', ?_⟩, by decide, ?_⟩
  all_goals
    intro a hLeft b hRight
    omega

/- No other codes are those of its characters. -/
theorem not_mem_alphabet
    {c : Char}
    (hCode :
      c.toNat ∉
        List.range' 65 26 ++ List.range' 97 26 ++
          List.range' 48 10 ++ [43, 47]) :
    c ∉ alphabet := by
  rw [← codes_alphabet] at hCode
  exact fun hMem => hCode (List.mem_map_of_mem hMem)

theorem digit_eq
    {n : Nat}
    (hBound : n < 64) :
    digit n =
      alphabet.get ⟨n, length_alphabet ▸ hBound⟩ :=
  List.getD_eq_getElem _ _ _

theorem digit_mem
    {n : Nat}
    (hBound : n < 64) :
    digit n ∈ alphabet := by
  rw [digit_eq hBound]
  exact List.get_mem _ _

theorem sextet_digit
    {n : Nat}
    (hBound : n < 64) :
    sextet (digit n) = some n := by
  have hDash : digit n ≠ '-' := by
    intro hEq
    exact not_mem_alphabet (by decide) (hEq ▸ digit_mem hBound)
  have hLow : digit n ≠ '_' := by
    intro hEq
    exact not_mem_alphabet (by decide) (hEq ▸ digit_mem hBound)
  have hIndex : alphabet.idxOf (digit n) = n := by
    rw [digit_eq hBound]
    exact nodup_alphabet.idxOf_getElem n _
  rw [sextet, if_neg hDash, if_neg hLow, hIndex, if_pos hBound]

/- Padding stands for no bits. -/
theorem sextet_pad :
    sextet '=' = none := by
  have hIndex : alphabet.idxOf '=' = alphabet.length :=
    List.idxOf_eq_length (not_mem_alphabet (by decide))
  rw [sextet, if_neg (by decide), if_neg (by decide), hIndex,
    length_alphabet]
  rfl

end Base64

------------------------------------------------------------
-- Bytes
------------------------------------------------------------

namespace Base64

/- The characters of some bytes, without padding. -/
def encode : List UInt8 → List Char
| [] => []
| [a] =>
    [digit (a.toNat / 4), digit (a.toNat % 4 * 16)]
| [a, b] =>
    [digit (a.toNat / 4),
      digit (a.toNat % 4 * 16 + b.toNat / 16),
      digit (b.toNat % 16 * 4)]
| a :: b :: c :: rest =>
    digit (a.toNat / 4) ::
      digit (a.toNat % 4 * 16 + b.toNat / 16) ::
        digit (b.toNat % 16 * 4 + c.toNat / 64) ::
          digit (c.toNat % 64) :: encode rest

/- How many padding characters complete the last group. -/
def padding (bytes : List UInt8) : Nat :=
  (3 - bytes.length % 3) % 3

def encodePadded (bytes : List UInt8) : List Char :=
  encode bytes ++ List.replicate (padding bytes) '='

/- The bytes of some sextets. One alone gives no byte. -/
def joinSextets : List Nat → List UInt8
| s :: t :: u :: v :: rest =>
    UInt8.ofNat (s * 4 + t / 16) ::
      UInt8.ofNat (t % 16 * 16 + u / 4) ::
        UInt8.ofNat (u % 4 * 64 + v) :: joinSextets rest
| [s, t, u] =>
    [UInt8.ofNat (s * 4 + t / 16),
      UInt8.ofNat (t % 16 * 16 + u / 4)]
| [s, t] => [UInt8.ofNat (s * 4 + t / 16)]
| _ => []

def lenientDecode (text : List Char) : List UInt8 :=
  joinSextets (text.filterMap sextet)

end Base64

------------------------------------------------------------
-- Reading Back
------------------------------------------------------------

namespace Base64

/- A byte is determined by its number. -/
theorem ofNat_eq
    {a : UInt8}
    {n : Nat}
    (hValue : n = a.toNat) :
    UInt8.ofNat n = a := by
  rw [hValue, UInt8.ofNat_toNat]

/- The sextets of what was written give the bytes back. -/
theorem joinSextets_encode
    (bytes : List UInt8) :
    joinSextets ((encode bytes).filterMap sextet) =
      bytes := by
  induction bytes using encode.induct with
  | case1 => rfl
  | case2 a =>
      have hA := a.toNat_lt
      rw [encode, List.filterMap_cons_some
          (sextet_digit (by omega)),
        List.filterMap_cons_some (sextet_digit (by omega)),
        List.filterMap_nil, joinSextets]
      rw [ofNat_eq (a := a) (by omega)]
  | case3 a b =>
      have hA := a.toNat_lt
      have hB := b.toNat_lt
      rw [encode, List.filterMap_cons_some
          (sextet_digit (by omega)),
        List.filterMap_cons_some (sextet_digit (by omega)),
        List.filterMap_cons_some (sextet_digit (by omega)),
        List.filterMap_nil, joinSextets]
      rw [ofNat_eq (a := a) (by omega),
        ofNat_eq (a := b) (by omega)]
  | case4 a b c rest ih =>
      have hA := a.toNat_lt
      have hB := b.toNat_lt
      have hC := c.toNat_lt
      rw [encode, List.filterMap_cons_some
          (sextet_digit (by omega)),
        List.filterMap_cons_some (sextet_digit (by omega)),
        List.filterMap_cons_some (sextet_digit (by omega)),
        List.filterMap_cons_some (sextet_digit (by omega)),
        joinSextets, ih]
      rw [ofNat_eq (a := a) (by omega),
        ofNat_eq (a := b) (by omega),
        ofNat_eq (a := c) (by omega)]

/- Padding of any length changes nothing. -/
theorem lenientDecode_encode
    (bytes : List UInt8)
    (pads : Nat) :
    lenientDecode
        (encode bytes ++ List.replicate pads '=') =
      bytes := by
  have hPads :
      (List.replicate pads '=').filterMap sextet = [] := by
    rw [List.filterMap_eq_nil_iff]
    intro c hMem
    rw [List.eq_of_mem_replicate hMem]
    exact sextet_pad
  rw [lenientDecode, List.filterMap_append, hPads,
    List.append_nil]
  exact joinSextets_encode bytes

theorem mem_encode
    {bytes : List UInt8}
    {c : Char}
    (hMem : c ∈ encode bytes) :
    c ∈ alphabet := by
  induction bytes using encode.induct with
  | case1 => simp [encode] at hMem
  | case2 a =>
      have hA := a.toNat_lt
      simp only [encode, List.mem_cons, List.not_mem_nil,
        or_false] at hMem
      rcases hMem with rfl | rfl
      all_goals exact digit_mem (by omega)
  | case3 a b =>
      have hA := a.toNat_lt
      have hB := b.toNat_lt
      simp only [encode, List.mem_cons, List.not_mem_nil,
        or_false] at hMem
      rcases hMem with rfl | rfl | rfl
      all_goals exact digit_mem (by omega)
  | case4 a b c rest ih =>
      have hA := a.toNat_lt
      have hB := b.toNat_lt
      have hC := c.toNat_lt
      simp only [encode, List.mem_cons] at hMem
      rcases hMem with rfl | rfl | rfl | rfl | hRest
      · exact digit_mem (by omega)
      · exact digit_mem (by omega)
      · exact digit_mem (by omega)
      · exact digit_mem (by omega)
      · exact ih hRest

/- Only nothing is written as nothing. -/
theorem encode_eq_nil_iff
    (bytes : List UInt8) :
    encode bytes = [] ↔ bytes = [] := by
  cases bytes using encode.induct <;> simp [encode]

end Base64
