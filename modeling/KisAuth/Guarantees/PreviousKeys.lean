import KisAuth.Config.PreviousKeys
import Mathlib.Data.List.Forall2

/-
  What the list of previous keys is read as.

  A list that is written as documented is read back. Any
  other list is read as some other keys, unless one of its
  entries lacks a part, for which reading it throws.

  Key definitions include:
    * `dropPadding`, `SameKeyList`
    * `ReadsExactly`, `IsDocumented`, `Writable`

  Key theorems include:
    * `parsePreviousKeys_encode`
    * `previous_keys_exact_iff`
-/

------------------------------------------------------------
-- Lists That Mean The Same
------------------------------------------------------------

namespace KisAuth

/- An entry without the padding at its end. -/
def dropPadding (entry : List Char) : List Char :=
  entry.rdropWhile (· == '=')

/-
  The same entries, but for spaces around them, empty ones
  and padding.
-/
def SameKeyList (raw raw' : String) : Prop :=
  (previousKeyEntries raw).map dropPadding =
    (previousKeyEntries raw').map dropPadding

instance SameKeyList.decidable
    (raw raw' : String) : Decidable (SameKeyList raw raw') :=
  inferInstanceAs
    (Decidable
      ((previousKeyEntries raw).map dropPadding =
        (previousKeyEntries raw').map dropPadding))

/- Reading throws, or gives the keys that are written. -/
def ReadsExactly
    (buffer : BufferText)
    (raw : String) : Prop :=
  (∃ message,
      parsePreviousKeys buffer (some raw) = .error message) ∨
    ∃ keys,
      parsePreviousKeys buffer (some raw) = .ok keys ∧
        SameKeyList raw (encodePreviousKeys keys)

/- The entry has a text before and after its first colon. -/
def HasBothParts (entry : List Char) : Prop :=
  ∃ kid base64Pem rest,
    splitAtChar ':' entry = kid :: base64Pem :: rest ∧
      kid ≠ [] ∧ base64Pem ≠ []

/- The entry is `kid:base64(text)`, padded or not. -/
def IsDocumented (entry : List Char) : Prop :=
  ∃ kid text,
    ':' ∉ kid ∧
      dropPadding entry =
        dropPadding
          (kid ++ ':' :: Base64.encodePadded (utf8Of text))

/- A key whose documented form can be told apart. -/
structure Writable (key : PreviousKey) : Prop where
  kid : key.kid ≠ ""
  comma : ',' ∉ key.kid.toList
  colon : ':' ∉ key.kid.toList
  trimmed : trim key.kid.toList = key.kid.toList
  pem : key.publicKeyPem ≠ ""

end KisAuth

------------------------------------------------------------
-- Padding
------------------------------------------------------------

namespace KisAuth

theorem not_mem_encode
    {c : Char}
    (hOther : c ∉ Base64.alphabet)
    (bytes : List UInt8) :
    c ∉ Base64.encode bytes :=
  fun hMem => hOther (Base64.mem_encode hMem)

/- The second part of an entry has no colon. -/
theorem colon_not_mem_encode
    (bytes : List UInt8)
    (pads : Nat) :
    ':' ∉ Base64.encode bytes ++ List.replicate pads '=' := by
  rw [List.mem_append, not_or]
  refine ⟨not_mem_encode (by decide +kernel) _, ?_⟩
  intro hMem
  simpa using List.eq_of_mem_replicate hMem

/- The part before the padding does not end in it. -/
theorem dropPadding_unpadded
    (kid : List Char)
    (bytes : List UInt8) :
    dropPadding (kid ++ ':' :: Base64.encode bytes) =
      kid ++ ':' :: Base64.encode bytes := by
  unfold dropPadding
  rw [List.rdropWhile_eq_self_iff]
  intro hSome hPad
  rw [beq_iff_eq, List.getLast_append_of_ne_nil _ (by simp)]
    at hPad
  have hMem :
      '=' ∈ ':' :: Base64.encode bytes := by
    rw [← hPad]
    exact List.getLast_mem _
  rcases List.mem_cons.mp hMem with hColon | hDigit
  · simp at hColon
  · exact not_mem_encode (by decide +kernel) bytes hDigit

/- Padding at the end does not matter. -/
theorem dropPadding_append
    (entry : List Char)
    (pads : Nat) :
    dropPadding (entry ++ List.replicate pads '=') =
      dropPadding entry := by
  induction pads with
  | zero => simp
  | succ pads ih =>
      rw [List.replicate_succ', ← List.append_assoc,
        dropPadding, List.rdropWhile_concat_pos _ _ _ (by simp)]
      exact ih

theorem dropPadding_encoded
    (kid : List Char)
    (bytes : List UInt8) :
    dropPadding (kid ++ ':' :: Base64.encodePadded bytes) =
      kid ++ ':' :: Base64.encode bytes := by
  have hSplit :
      kid ++ ':' :: Base64.encodePadded bytes =
        (kid ++ ':' :: Base64.encode bytes) ++
          List.replicate (Base64.padding bytes) '=' := by
    simp [Base64.encodePadded]
  rw [hSplit, dropPadding_append, dropPadding_unpadded]

/- What was dropped was padding. -/
theorem exists_padding
    (entry : List Char) :
    ∃ pads,
      entry =
        dropPadding entry ++ List.replicate pads '=' := by
  refine ⟨(entry.rtakeWhile (· == '=')).length, ?_⟩
  have hPads :
      entry.rtakeWhile (· == '=') =
        List.replicate
          (entry.rtakeWhile (· == '=')).length '=' := by
    rw [List.eq_replicate_iff]
    refine ⟨rfl, fun c hMem => ?_⟩
    simpa using List.mem_rtakeWhile_imp hMem
  rw [← hPads]
  exact List.rdropWhile_append_rtakeWhile.symm

end KisAuth

------------------------------------------------------------
-- Entries
------------------------------------------------------------

namespace KisAuth

/- A key identifier that an entry can start with. -/
structure CleanKid (kid : List Char) : Prop where
  some : kid ≠ []
  comma : ',' ∉ kid
  colon : ':' ∉ kid
  start : ∀ c ∈ kid.head?, isJsSpace c = false

theorem mem_previousKeyEntries
    {raw : String}
    {entry : List Char} :
    entry ∈ previousKeyEntries raw ↔
      entry ≠ [] ∧
        ∃ piece ∈ splitAtChar ',' raw.toList,
          trim piece = entry := by
  rw [previousKeyEntries, List.mem_filter, List.mem_map,
    decide_eq_true_eq]
  exact and_comm

theorem mem_of_mem_trim
    {text : List Char}
    {c : Char}
    (hMem : c ∈ trim text) :
    c ∈ text := by
  have hInner : c ∈ text.dropWhile isJsSpace :=
    (List.rdropWhile_prefix _ _).subset hMem
  exact (List.dropWhile_suffix _).subset hInner

/- Entries have no commas, and no spaces around them. -/
theorem entry_clean
    {raw : String}
    {entry : List Char}
    (hEntry : entry ∈ previousKeyEntries raw) :
    ',' ∉ entry ∧ Trimmed entry := by
  rcases mem_previousKeyEntries.mp hEntry with
    ⟨_, piece, hPiece, rfl⟩
  refine ⟨fun hMem => ?_, trimmed_trim piece⟩
  exact
    not_mem_of_mem_splitAtChar hPiece (mem_of_mem_trim hMem)

/- The first piece is how the text starts. -/
theorem append_of_split
    {text first : List Char}
    {pieces : List (List Char)}
    (hSplit : splitAtChar ':' text = first :: pieces) :
    ∃ rest, text = first ++ rest := by
  have hText : [':'].intercalate (text.splitOn ':') = text :=
    List.intercalate_splitOn ':'
  rw [← splitAtChar_eq_splitOn, hSplit] at hText
  cases pieces with
  | nil => exact ⟨[], by simpa using hText.symm⟩
  | cons piece pieces =>
      rw [List.intercalate_cons_cons, List.append_assoc]
        at hText
      exact ⟨_, hText.symm⟩

/- What is read of an entry, and of what entry. -/
theorem readPreviousKey_ok
    {buffer : BufferText}
    {entry : List Char}
    {key : PreviousKey} :
    readPreviousKey buffer entry = .ok key ↔
      ∃ kid base64Pem rest,
        splitAtChar ':' entry = kid :: base64Pem :: rest ∧
          kid ≠ [] ∧
          base64Pem ≠ [] ∧
          key = ⟨String.ofList kid, buffer.read base64Pem⟩ := by
  unfold readPreviousKey
  split
  · next kid base64Pem rest hSplit =>
      constructor
      · intro hRead
        split at hRead
        · simp at hRead
        · next hParts =>
            rw [not_or] at hParts
            exact
              ⟨kid, base64Pem, rest, hSplit, hParts.1,
                hParts.2, (Except.ok.inj hRead).symm⟩
      · rintro ⟨kid', pem', rest', hSame, hKid, hPem, rfl⟩
        rw [hSplit, List.cons.injEq, List.cons.injEq] at hSame
        rcases hSame with ⟨rfl, rfl, _⟩
        rw [if_neg (not_or.mpr ⟨hKid, hPem⟩)]
  · next hNot =>
      constructor
      · intro hRead
        simp at hRead
      · rintro ⟨kid, pem, rest, hSplit, _⟩
        exact absurd hSplit (hNot kid pem rest)

theorem readPreviousKey_throws
    {buffer : BufferText}
    {entry : List Char} :
    (∃ message,
        readPreviousKey buffer entry = .error message) ↔
      ¬HasBothParts entry := by
  constructor
  · rintro ⟨message, hThrows⟩ ⟨kid, pem, rest, hSplit, hParts⟩
    have hRead :
        readPreviousKey buffer entry =
          .ok ⟨String.ofList kid, buffer.read pem⟩ :=
      readPreviousKey_ok.mpr
        ⟨kid, pem, rest, hSplit, hParts.1, hParts.2, rfl⟩
    rw [hThrows] at hRead
    simp at hRead
  · intro hMissing
    cases hRead : readPreviousKey buffer entry with
    | error message => exact ⟨message, rfl⟩
    | ok key =>
        rcases readPreviousKey_ok.mp hRead with
          ⟨kid, pem, rest, hSplit, hKid, hPem, _⟩
        exact
          absurd ⟨kid, pem, rest, hSplit, hKid, hPem⟩ hMissing

/- The identifiers that are read can be written. -/
theorem cleanKid_of_read
    {buffer : BufferText}
    {raw : String}
    {entry : List Char}
    {key : PreviousKey}
    (hEntry : entry ∈ previousKeyEntries raw)
    (hRead : readPreviousKey buffer entry = .ok key) :
    CleanKid key.kid.toList := by
  rcases readPreviousKey_ok.mp hRead with
    ⟨kid, pem, rest, hSplit, hKid, _, rfl⟩
  rcases entry_clean hEntry with ⟨hComma, hTrimmed⟩
  rcases append_of_split hSplit with ⟨after, rfl⟩
  simp only [String.toList_ofList]
  constructor
  case some => exact hKid
  case comma =>
    exact fun hMem =>
      hComma (List.mem_append_left _ hMem)
  case colon =>
    apply not_mem_of_mem_splitAtChar
    rw [hSplit]
    exact List.mem_cons_self
  case start =>
    intro c hHead
    apply hTrimmed.1
    rw [List.head?_append, hHead]
    rfl

/- A documented entry gives the key it was written from. -/
theorem readPreviousKey_documented
    {buffer : BufferText}
    {entry : List Char}
    (hParts : HasBothParts entry)
    (hDocumented : IsDocumented entry) :
    ∃ key,
      readPreviousKey buffer entry = .ok key ∧
        dropPadding (encodePreviousKey key) =
          dropPadding entry := by
  rcases hDocumented with ⟨kid, text, hColon, hSame⟩
  rcases exists_padding entry with ⟨pads, hEntry⟩
  rw [hSame, dropPadding_encoded] at hEntry
  have hSplit :
      splitAtChar ':' entry =
        [kid,
          Base64.encode (utf8Of text) ++
            List.replicate pads '='] := by
    rw [hEntry, List.append_assoc, List.cons_append,
      splitAtChar_append hColon,
      splitAtChar_of_not_mem (colon_not_mem_encode _ _)]
  rcases hParts with ⟨kid', pem, rest, hSplit', hKid, hPem⟩
  rw [hSplit, List.cons.injEq, List.cons.injEq] at hSplit'
  rcases hSplit' with ⟨rfl, rfl, _⟩
  refine ⟨⟨String.ofList kid, text⟩, ?_, ?_⟩
  · apply readPreviousKey_ok.mpr
    exact
      ⟨kid, _, _, hSplit, hKid, hPem,
        by rw [buffer.read_encode]⟩
  · rw [hSame, encodePreviousKey, String.toList_ofList]

end KisAuth

------------------------------------------------------------
-- Lists
------------------------------------------------------------

namespace KisAuth

/- A text of spaces only has no entries. -/
theorem previousKeyEntries_blank
    {raw : String}
    (hBlank : trim raw.toList = []) :
    previousKeyEntries raw = [] := by
  have hSpaces : ∀ c ∈ raw.toList, isJsSpace c = true := by
    have hInner :
        ∀ c ∈ raw.toList.dropWhile isJsSpace,
          isJsSpace c = true :=
      List.rdropWhile_eq_nil_iff.mp hBlank
    intro c hMem
    rw [← List.takeWhile_append_dropWhile (p := isJsSpace)
      (l := raw.toList), List.mem_append] at hMem
    rcases hMem with hTaken | hDropped
    · exact List.mem_takeWhile_imp hTaken
    · exact hInner c hDropped
  rw [List.eq_nil_iff_forall_not_mem]
  intro entry hEntry
  rcases mem_previousKeyEntries.mp hEntry with
    ⟨hSome, piece, hPiece, rfl⟩
  apply hSome
  apply List.rdropWhile_eq_nil_iff.mpr
  intro c hMem
  apply hSpaces
  exact
    mem_of_mem_splitAtChar hPiece
      ((List.dropWhile_suffix _).subset hMem)

theorem parsePreviousKeys_some
    (buffer : BufferText)
    (raw : String) :
    parsePreviousKeys buffer (some raw) =
      (previousKeyEntries raw).mapM
        (readPreviousKey buffer) := by
  unfold parsePreviousKeys
  by_cases hBlank : trim raw.toList = []
  · simp only [hBlank, if_true,
      previousKeyEntries_blank hBlank, List.mapM_nil]
    rfl
  · simp only [hBlank, if_false]

/- All entries are read, or reading stops with an error. -/
theorem mapM_ok_iff
    {read : List Char → Except String PreviousKey}
    {entries : List (List Char)}
    {keys : List PreviousKey} :
    entries.mapM read = .ok keys ↔
      List.Forall₂ (fun entry key => read entry = .ok key)
        entries keys := by
  induction entries generalizing keys with
  | nil =>
      rw [List.mapM_nil, List.forall₂_nil_left_iff]
      constructor
      · exact fun hKeys => (Except.ok.inj hKeys).symm
      · rintro rfl
        rfl
  | cons entry entries ih =>
      rw [List.mapM_cons, List.forall₂_cons_left_iff]
      cases hRead : read entry with
      | error message =>
          refine iff_of_false (fun hKeys => ?_) ?_
          · exact absurd hKeys (by simp [bind, Except.bind])
          · rintro ⟨key, keys', hKey, _⟩
            simp at hKey
      | ok key =>
          simp only [bind, Except.bind, ← ih]
          cases hRest : entries.mapM read with
          | error message => simp
          | ok keys' =>
              simp [pure, Except.pure, eq_comm]

/- What follows the colon has neither commas nor spaces. -/
theorem encoded_part_clean
    {bytes : List UInt8}
    {c : Char}
    (hMem : c ∈ ':' :: Base64.encodePadded bytes) :
    c ≠ ',' ∧ isJsSpace c = false := by
  have hAll :
      ∀ d ∈ ':' :: '=' :: Base64.alphabet,
        d ≠ ',' ∧ isJsSpace d = false :=
    of_every (by decide +kernel)
  apply hAll
  rcases List.mem_cons.mp hMem with rfl | hMem
  · exact List.mem_cons_self
  · rcases List.mem_append.mp hMem with hDigit | hPad
    · exact
        List.mem_cons_of_mem _
          (List.mem_cons_of_mem _ (Base64.mem_encode hDigit))
    · rw [List.eq_of_mem_replicate hPad]
      simp

/- The documented form of a key is one trimmed entry. -/
theorem encodePreviousKey_clean
    {key : PreviousKey}
    (hKid : CleanKid key.kid.toList) :
    ',' ∉ encodePreviousKey key ∧
      Trimmed (encodePreviousKey key) := by
  refine ⟨fun hMem => ?_, fun c hHead => ?_, fun c hLast => ?_⟩
  · rcases List.mem_append.mp hMem with hLeft | hRight
    · exact hKid.comma hLeft
    · exact (encoded_part_clean hRight).1 rfl
  · rw [encodePreviousKey, List.head?_append_of_ne_nil _
      hKid.some] at hHead
    exact hKid.start c hHead
  · rw [encodePreviousKey, List.getLast?_append_of_ne_nil _
      (by simp)] at hLast
    exact
      (encoded_part_clean (List.mem_of_getLast? hLast)).2

theorem previousKeyEntries_encode
    {keys : List PreviousKey}
    (hKids : ∀ key ∈ keys, CleanKid key.kid.toList) :
    previousKeyEntries (encodePreviousKeys keys) =
      keys.map encodePreviousKey := by
  cases keys with
  | nil => rfl
  | cons first rest =>
      have hClean :
          ∀ entry ∈ (first :: rest).map encodePreviousKey,
            ',' ∉ entry := by
        intro entry hMem
        rcases List.mem_map.mp hMem with ⟨key, hKey, rfl⟩
        exact (encodePreviousKey_clean (hKids key hKey)).1
      have hTrim :
          (first :: rest).map (trim ∘ encodePreviousKey) =
            (first :: rest).map encodePreviousKey := by
        apply List.map_congr_left
        intro key hKey
        exact
          trim_eq_self
            (encodePreviousKey_clean (hKids key hKey)).2
      rw [previousKeyEntries, encodePreviousKeys,
        String.toList_ofList,
        splitAtChar_intercalate hClean (by simp),
        List.map_map, hTrim, List.filter_eq_self]
      intro entry hMem
      rcases List.mem_map.mp hMem with ⟨key, _, rfl⟩
      simp [encodePreviousKey]

end KisAuth

------------------------------------------------------------
-- Exact Reading
------------------------------------------------------------

namespace KisAuth

/- Related lists relate their elements, from the left. -/
theorem exists_right_of_forall₂
    {α β : Type}
    {R : α → β → Prop}
    {left : List α}
    {right : List β}
    (hAll : List.Forall₂ R left right)
    {a : α}
    (hMem : a ∈ left) :
    ∃ b ∈ right, R a b := by
  induction hAll with
  | nil => simp at hMem
  | cons hRel _ ih =>
      rcases List.mem_cons.mp hMem with rfl | hMem
      · exact ⟨_, List.mem_cons_self, hRel⟩
      · rcases ih hMem with ⟨b, hB, hRelB⟩
        exact ⟨b, List.mem_cons_of_mem _ hB, hRelB⟩

theorem exists_forall₂
    {α β : Type}
    {R : α → β → Prop}
    {left : List α}
    (hEach : ∀ a ∈ left, ∃ b, R a b) :
    ∃ right, List.Forall₂ R left right := by
  induction left with
  | nil => exact ⟨[], .nil⟩
  | cons a left ih =>
      rcases hEach a List.mem_cons_self with ⟨b, hB⟩
      rcases ih
          (fun c hMem =>
            hEach c (List.mem_cons_of_mem _ hMem)) with
        ⟨right, hRight⟩
      exact ⟨b :: right, .cons hB hRight⟩

variable {buffer : BufferText} {raw : String}

/- The keys that are read can be written and told apart. -/
theorem cleanKid_of_mem
    {keys : List PreviousKey}
    {key : PreviousKey}
    (hKeys :
      parsePreviousKeys buffer (some raw) = .ok keys)
    (hKey : key ∈ keys) :
    CleanKid key.kid.toList := by
  rw [parsePreviousKeys_some, mapM_ok_iff] at hKeys
  have hFlip :
      List.Forall₂
        (fun key entry =>
          entry ∈ previousKeyEntries raw ∧
            readPreviousKey buffer entry = .ok key)
        keys (previousKeyEntries raw) := by
    apply List.Forall₂.flip
    exact
      (List.forall₂_and_left _ _).mpr
        ⟨fun _ hMem => hMem, hKeys⟩
  rcases exists_right_of_forall₂ hFlip hKey with
    ⟨entry, _, hEntry, hRead⟩
  exact cleanKid_of_read hEntry hRead

/- An entry that lacks a part makes reading throw. -/
theorem throws_iff :
    (∃ message,
        parsePreviousKeys buffer (some raw) =
          .error message) ↔
      ∃ entry ∈ previousKeyEntries raw,
        ¬HasBothParts entry := by
  constructor
  · rintro ⟨message, hThrows⟩
    by_contra hNone
    have hEach :
        ∀ entry ∈ previousKeyEntries raw,
          ∃ key, readPreviousKey buffer entry = .ok key := by
      intro entry hEntry
      cases hRead : readPreviousKey buffer entry with
      | ok key => exact ⟨key, rfl⟩
      | error message =>
          exact
            absurd
              ⟨entry, hEntry,
                readPreviousKey_throws.mp ⟨_, hRead⟩⟩
              hNone
    rcases exists_forall₂ hEach with ⟨keys, hKeys⟩
    rw [← mapM_ok_iff, ← parsePreviousKeys_some, hThrows]
      at hKeys
    simp at hKeys
  · rintro ⟨entry, hEntry, hMissing⟩
    cases hKeys : parsePreviousKeys buffer (some raw) with
    | error message => exact ⟨message, rfl⟩
    | ok keys =>
        rw [parsePreviousKeys_some, mapM_ok_iff] at hKeys
        rcases exists_right_of_forall₂ hKeys hEntry with
          ⟨key, _, hRead⟩
        rcases readPreviousKey_throws.mpr hMissing with
          ⟨message, hThrows⟩
        rw [hThrows] at hRead
        simp at hRead

/- What is read of a list of documented entries. -/
theorem reads_documented
    (hParts :
      ∀ entry ∈ previousKeyEntries raw, HasBothParts entry)
    (hDocumented :
      ∀ entry ∈ previousKeyEntries raw, IsDocumented entry) :
    ∃ keys,
      parsePreviousKeys buffer (some raw) = .ok keys ∧
        SameKeyList raw (encodePreviousKeys keys) := by
  have hEach :
      ∀ entry ∈ previousKeyEntries raw,
        ∃ key,
          readPreviousKey buffer entry = .ok key ∧
            dropPadding (encodePreviousKey key) =
              dropPadding entry :=
    fun entry hEntry =>
      readPreviousKey_documented (hParts entry hEntry)
        (hDocumented entry hEntry)
  rcases exists_forall₂ hEach with ⟨keys, hKeys⟩
  have hRead :
      parsePreviousKeys buffer (some raw) = .ok keys := by
    rw [parsePreviousKeys_some, mapM_ok_iff]
    exact hKeys.imp (fun _ _ hBoth => hBoth.1)
  refine ⟨keys, hRead, ?_⟩
  rw [SameKeyList,
    previousKeyEntries_encode
      (fun _ hKey => cleanKid_of_mem hRead hKey),
    List.map_map, ← List.forall₂_eq_eq_eq,
    List.forall₂_map_left_iff, List.forall₂_map_right_iff]
  exact hKeys.imp (fun _ _ hBoth => hBoth.2.symm)

/- Keys that are read exactly come from documented entries. -/
theorem documented_of_same
    {keys : List PreviousKey}
    (hRead :
      parsePreviousKeys buffer (some raw) = .ok keys)
    (hSame : SameKeyList raw (encodePreviousKeys keys))
    {entry : List Char}
    (hEntry : entry ∈ previousKeyEntries raw) :
    IsDocumented entry := by
  have hMem :
      dropPadding entry ∈
        (previousKeyEntries raw).map dropPadding :=
    List.mem_map_of_mem hEntry
  rw [hSame,
    previousKeyEntries_encode
      (fun _ hKey => cleanKid_of_mem hRead hKey),
    List.map_map] at hMem
  rcases List.mem_map.mp hMem with ⟨key, hKey, hPadding⟩
  exact
    ⟨key.kid.toList, key.publicKeyPem,
      (cleanKid_of_mem hRead hKey).colon, hPadding.symm⟩

/- A text without bytes is empty. -/
theorem eq_empty_of_utf8Of
    (buffer : BufferText)
    {text : String}
    (hBytes : utf8Of text = []) :
    text = "" := by
  have hText := buffer.read_encode text 0
  rw [hBytes] at hText
  exact hText.symm.trans (buffer.read_encode "" 0)

/- What is written of keys is read back, in order. -/
theorem parsePreviousKeys_encode
    (buffer : BufferText)
    {keys : List PreviousKey}
    (hKeys : ∀ key ∈ keys, Writable key) :
    parsePreviousKeys buffer
        (some (encodePreviousKeys keys)) =
      .ok keys := by
  have hClean :
      ∀ key ∈ keys, CleanKid key.kid.toList := by
    intro key hKey
    have hKid := hKeys key hKey
    refine ⟨?_, hKid.comma, hKid.colon, ?_⟩
    · simpa using hKid.kid
    · rw [← hKid.trimmed]
      exact (trimmed_trim _).1
  rw [parsePreviousKeys_some, previousKeyEntries_encode hClean,
    mapM_ok_iff, List.forall₂_map_left_iff, List.forall₂_same]
  intro key hKey
  apply readPreviousKey_ok.mpr
  refine
    ⟨key.kid.toList,
      Base64.encodePadded (utf8Of key.publicKeyPem), [], ?_,
      (hClean key hKey).some, ?_, ?_⟩
  · rw [encodePreviousKey,
      splitAtChar_append (hClean key hKey).colon,
      Base64.encodePadded,
      splitAtChar_of_not_mem (colon_not_mem_encode _ _)]
  · intro hNil
    rw [Base64.encodePadded, List.append_eq_nil_iff,
      Base64.encode_eq_nil_iff] at hNil
    exact
      (hKeys key hKey).pem
        (eq_empty_of_utf8Of buffer hNil.1)
  · rw [Base64.encodePadded, buffer.read_encode,
      String.ofList_toList]

/-
  A list of previous keys is read exactly when one of its
  entries lacks a part, so that reading throws, or all of
  them are as documented; and what is written of keys is
  read back.
-/
theorem previous_keys_exact_iff
    (buffer : BufferText) :
    (∀ raw,
        ReadsExactly buffer raw ↔
          (∃ entry ∈ previousKeyEntries raw,
              ¬HasBothParts entry) ∨
            ∀ entry ∈ previousKeyEntries raw,
              IsDocumented entry) ∧
      ∀ keys,
        (∀ key ∈ keys, Writable key) →
          parsePreviousKeys buffer
              (some (encodePreviousKeys keys)) =
            .ok keys := by
  refine ⟨fun raw => ?_, fun _ => parsePreviousKeys_encode _⟩
  constructor
  · rintro (hThrows | ⟨keys, hRead, hSame⟩)
    · exact Or.inl (throws_iff.mp hThrows)
    · exact
        Or.inr
          (fun _ hEntry => documented_of_same hRead hSame hEntry)
  · intro hEntries
    by_cases hMissing :
        ∃ entry ∈ previousKeyEntries raw, ¬HasBothParts entry
    · exact Or.inl (throws_iff.mpr hMissing)
    · have hDocumented := hEntries.resolve_left hMissing
      push Not at hMissing
      exact Or.inr (reads_documented hMissing hDocumented)

/- A third part of an entry is dropped in silence. -/
theorem surplus_part_dropped :
    ¬ReadsExactly BufferText.lenient "old:YQ==:YQ==" := by
  have hRead :
      parsePreviousKeys BufferText.lenient
          (some "old:YQ==:YQ==") =
        .ok [⟨"old", "a"⟩] := by
    decide +kernel
  have hDiffers :
      ¬SameKeyList "old:YQ==:YQ=="
          (encodePreviousKeys [⟨"old", "a"⟩]) := by
    decide +kernel
  rintro (⟨message, hThrows⟩ | ⟨keys, hKeys, hSame⟩)
  · rw [hRead] at hThrows
    simp at hThrows
  · rw [hRead, Except.ok.injEq] at hKeys
    rw [← hKeys] at hSame
    exact hDiffers hSame

end KisAuth
