import KisAuth.Runtime.Postgres

/-
  Reading a uuid and writing it canonically.

  The canonical text of a uuid is its own canonical text, so
  a stored uuid is found again by the text it is stored as.

  Key definitions include:
    * `spaced`

  Key theorems include:
    * `uuidIn_canonical`
-/

------------------------------------------------------------
-- Digits
------------------------------------------------------------

namespace KisAuth

/- The upper case digits, one by one. -/
theorem upperHex_cases
    {c : Char}
    (hLow : 'A' ≤ c)
    (hHigh : c ≤ 'F') :
    c = 'A' ∨ c = 'B' ∨ c = 'C' ∨ c = 'D' ∨ c = 'E' ∨
      c = 'F' := by
  have hFirst : 65 ≤ c.toNat := hLow
  have hLast : c.toNat ≤ 70 := hHigh
  have hChar : c = Char.ofNat c.toNat := by simp
  rw [hChar]
  have hCode :
      c.toNat = 65 ∨ c.toNat = 66 ∨ c.toNat = 67 ∨
        c.toNat = 68 ∨ c.toNat = 69 ∨ c.toNat = 70 := by
    omega
  rcases hCode with hCode | hCode | hCode | hCode | hCode |
    hCode <;> rw [hCode] <;> decide

/- A digit that was read reads as itself. -/
theorem hexDigit_hexDigit
    {c d : Char}
    (hDigit : hexDigit c = some d) :
    hexDigit d = some d := by
  unfold hexDigit at hDigit
  split at hDigit
  · next hDecimal =>
      simp only [Option.some.injEq] at hDigit
      subst hDigit
      simp [hexDigit, hDecimal]
  · next hDecimal =>
      split at hDigit
      · next hLower =>
          simp only [Option.some.injEq] at hDigit
          subst hDigit
          simp [hexDigit, hDecimal, hLower]
      · split at hDigit
        · next hUpper =>
            simp only [Option.some.injEq] at hDigit
            subst hDigit
            rcases upperHex_cases hUpper.1 hUpper.2 with
              rfl | rfl | rfl | rfl | rfl | rfl <;> decide
        · simp at hDigit

theorem hexDigit_ne_hyphen
    {c : Char}
    (hDigit : hexDigit c = some c) :
    c ≠ '-' := by
  rintro rfl
  revert hDigit
  decide

/- Only digits are read, four to a group. -/
theorem readUuidGroups_digits
    {groups : Nat}
    {text digits rest : List Char}
    (hRead :
      readUuidGroups groups text = some (digits, rest)) :
    digits.length = 4 * groups ∧
      ∀ d ∈ digits, hexDigit d = some d := by
  induction groups generalizing text digits rest with
  | zero =>
      simp only [readUuidGroups, Option.some.injEq,
        Prod.mk.injEq] at hRead
      rcases hRead with ⟨rfl, _⟩
      simp
  | succ groups ih =>
      unfold readUuidGroups at hRead
      split at hRead
      · next hZero => simp at hZero
      · next groups' a b c d more hGroups =>
          split at hRead
          · next hA hB hC hD =>
              split at hRead
              · next digits' rest' hMore =>
                  simp only [Option.some.injEq,
                    Prod.mk.injEq] at hRead
                  rcases hRead with ⟨rfl, _⟩
                  have hSame : groups' = groups := by omega
                  subst hSame
                  rcases ih hMore with ⟨hLength, hDigits⟩
                  constructor
                  · simp only [List.length_cons, hLength]
                    omega
                  · intro digit hMem
                    simp only [List.mem_cons] at hMem
                    rcases hMem with rfl | rfl | rfl | rfl |
                      hMem
                    · exact hexDigit_hexDigit hA
                    · exact hexDigit_hexDigit hB
                    · exact hexDigit_hexDigit hC
                    · exact hexDigit_hexDigit hD
                    · exact hDigits digit hMem
              · simp at hRead
          · simp at hRead
      · simp at hRead

theorem skipHyphen_digit
    {c : Char}
    (hDigit : hexDigit c = some c)
    (rest : List Char) :
    skipHyphen (c :: rest) = c :: rest := by
  have hNe := hexDigit_ne_hyphen hDigit
  unfold skipHyphen
  split
  · next hEq =>
      simp only [List.cons.injEq] at hEq
      exact absurd hEq.1 hNe
  · rfl

end KisAuth

------------------------------------------------------------
-- Canonical Text
------------------------------------------------------------

namespace KisAuth

/-
  Digits with a hyphen after each group of four that has a
  gap behind it.
-/
def spaced : List Bool → List Char → List Char
| [], digits => digits
| gap :: gaps, digits =>
    digits.take 4 ++
      ((if gap then ['-'] else []) ++
        spaced gaps (digits.drop 4))

theorem spaced_cons
    (gaps : List Bool)
    (c : Char)
    (digits : List Char) :
    ∃ rest, spaced gaps (c :: digits) = c :: rest := by
  cases gaps with
  | nil => exact ⟨digits, rfl⟩
  | cons gap gaps => exact ⟨_, rfl⟩

/- Spaced digits are read back. -/
theorem readUuidGroups_spaced
    {gaps : List Bool}
    {digits : List Char}
    (hLength : digits.length = 4 * (gaps.length + 1))
    (hDigits : ∀ d ∈ digits, hexDigit d = some d) :
    readUuidGroups (gaps.length + 1) (spaced gaps digits) =
      some (digits, []) := by
  induction gaps generalizing digits with
  | nil =>
      match digits, hLength with
      | [a, b, c, d], _ =>
          simp only [List.forall_mem_cons] at hDigits
          simp [spaced, readUuidGroups, hDigits.1,
            hDigits.2.1, hDigits.2.2.1, hDigits.2.2.2.1]
  | cons gap gaps ih =>
      match digits, hLength with
      | a :: b :: c :: d :: e :: more, hLength =>
          simp only [List.forall_mem_cons] at hDigits
          rcases hDigits with ⟨hA, hB, hC, hD, hE, hMore⟩
          have hRest :=
            @ih (e :: more)
              (by simp at hLength ⊢; omega)
              (by simpa using ⟨hE, hMore⟩)
          rcases spaced_cons gaps e more with ⟨rest, hHead⟩
          have hSkip :
              skipHyphen
                  ((if gap then ['-'] else []) ++
                    spaced gaps (e :: more)) =
                spaced gaps (e :: more) := by
            cases gap with
            | true => rfl
            | false =>
                rw [hHead]
                exact skipHyphen_digit hE rest
          simp [spaced, readUuidGroups, hA, hB, hC, hD,
            hSkip, hRest]

/- Where the canonical text has its hyphens. -/
theorem formatUuid_eq_spaced (digits : List Char) :
    (formatUuid digits).toList =
      spaced [false, true, true, true, true, false, false]
        digits := by
  have hFirst :
      digits.take (4 + 4) =
        digits.take 4 ++ (digits.drop 4).take 4 :=
    List.take_add
  have hDrop :
      ∀ n,
        (digits.drop n).take 4 ++ digits.drop (n + 4) =
          digits.drop n := by
    intro n
    rw [← List.drop_drop]
    exact List.take_append_drop 4 (digits.drop n)
  have hLast :
      (digits.drop 20).take 4 ++
          ((digits.drop 24).take 4 ++ digits.drop 28) =
        digits.drop 20 := by
    rw [hDrop 24, hDrop 20]
  simp only [formatUuid, spaced, String.toList_ofList,
    List.drop_drop, Nat.reduceAdd]
  rw [hFirst]
  simp [hLast]

/- The canonical text of a uuid is its own canonical text. -/
theorem uuidIn_canonical
    {text canonical : String}
    (hUuid : uuidIn text = some canonical) :
    uuidIn canonical = some canonical := by
  have hRead :
      ∃ source digits rest,
        readUuidGroups 8 source = some (digits, rest) ∧
          canonical = formatUuid digits := by
    unfold uuidIn at hUuid
    split at hUuid
    · next source hText =>
        split at hUuid
        · next digits hDigits =>
            exact
              ⟨source, digits, _, hDigits,
                (Option.some.inj hUuid).symm⟩
        · simp at hUuid
    · split at hUuid
      · next digits hDigits =>
          exact
            ⟨_, digits, _, hDigits,
              (Option.some.inj hUuid).symm⟩
      · simp at hUuid
  rcases hRead with ⟨source, digits, rest, hRead, rfl⟩
  rcases readUuidGroups_digits hRead with
    ⟨hLength, hDigits⟩
  have hAgain :
      readUuidGroups 8 (formatUuid digits).toList =
        some (digits, []) := by
    rw [formatUuid_eq_spaced]
    exact
      @readUuidGroups_spaced
        [false, true, true, true, true, false, false] digits
        hLength hDigits
  cases digits with
  | nil => simp at hLength
  | cons c digits =>
      have hC := hDigits c List.mem_cons_self
      have hBrace : c ≠ '\x7b' := by
        rintro rfl
        revert hC
        decide
      rcases spaced_cons
          [false, true, true, true, true, false, false] c
          digits with ⟨more, hMore⟩
      rw [← formatUuid_eq_spaced] at hMore
      rw [hMore] at hAgain
      unfold uuidIn
      rw [hMore]
      split
      · next hEq =>
          simp only [List.cons.injEq] at hEq
          exact absurd hEq.1 hBrace
      · rw [hAgain]

end KisAuth
