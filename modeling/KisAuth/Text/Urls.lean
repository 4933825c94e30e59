import KisAuth.Text.FormUrlencoded

/-
  URLs as a base, a query and a fragment. The base is what
  comes before them: the scheme, the host and the path. How
  a base is read and normalised is a parameter; the query,
  the fragment and the search parameters are not.

  Key definitions include:
    * `Urls.Url`, `Urls.BaseRules`, `Urls.Rules`
    * `Urls.parse`, `Urls.href`
    * `Urls.params`, `Urls.setSearchParam`, `Urls.Normal`

  Key theorems include:
    * `Urls.normal_parse`, `Urls.normal_setSearchParam`
    * `Urls.parse_href`
-/

------------------------------------------------------------
-- URLs
------------------------------------------------------------

namespace Urls

open KisAuth FormUrlencoded

structure Url where
  base : List Char
  query : Option (List Char)
  fragment : Option (List Char)
deriving DecidableEq

/- The text of a URL. -/
def href (url : Url) : List Char :=
  url.base ++
    (match url.query with
      | none => []
      | some query => '?' :: query) ++
    match url.fragment with
      | none => []
      | some fragment => '#' :: fragment

/- What a URL text may not begin or end with. -/
def isControlOrSpace (c : Char) : Bool :=
  c.toNat ≤ 32

/- What a URL text may not contain. -/
def isTabOrNewline (c : Char) : Bool :=
  c = '\t' || c = '\n' || c = '\r'

/- A text without what a parser drops from it. -/
def stripUrl (text : List Char) : List Char :=
  (((text.dropWhile isControlOrSpace).reverse.dropWhile
    isControlOrSpace).reverse).filter
      (fun c => !isTabOrNewline c)

/- The text before a character, and what comes after it. -/
def cutAt (c : Char) :
    List Char → List Char × Option (List Char)
| [] => ([], none)
| d :: rest =>
    if d = c then ([], some rest)
    else
      let parts := cutAt c rest
      (d :: parts.1, parts.2)

/- The characters that a fragment has as escapes. -/
def fragmentSet (c : Char) : Bool :=
  c.toNat ≤ 32 || 0x7E < c.toNat || c = '"' || c = '<' ||
    c = '>' || c.toNat = 0x60

/- The characters that a query has as escapes. -/
def querySet (special : Bool) (c : Char) : Bool :=
  c.toNat ≤ 32 || 0x7E < c.toNat || c = '"' || c = '#' ||
    c = '<' || c = '>' || (special && c = '\'')

/- A text with the characters of a set as escapes. -/
def encodeSet
    (set : Char → Bool)
    (text : List Char) : List Char :=
  text.flatMap (fun c =>
    if set c then (utf8Bytes c).flatMap percentByte else [c])

/-
  A base begins with the letter of a scheme, and has no
  delimiters and nothing that a parser drops.
-/
def CleanBase (base : List Char) : Prop :=
  (∃ c ∈ base.head?, c.isAlpha = true) ∧
    ∀ c ∈ base,
      c ≠ '?' ∧ c ≠ '#' ∧ isTabOrNewline c = false

instance (base : List Char) : Decidable (CleanBase base) :=
  @instDecidableAnd _ _
    (Option.decidableExistsMem base.head?)
    (List.decidableBAll _ base)

/-
  How bases are read, of which it is known that a base that
  was read is clean and is read as itself.
-/
structure BaseRules where
  parseBase : List Char → Option (List Char)
  special : List Char → Bool
  pathname : List Char → List Char
  clean :
    ∀ text base, parseBase text = some base → CleanBase base
  again :
    ∀ text base, parseBase text = some base →
      parseBase base = some base

/- A URL as a parser gives it. -/
structure Normal (rules : BaseRules) (url : Url) : Prop where
  base : rules.parseBase url.base = some url.base
  query :
    ∀ text ∈ url.query, ∀ c ∈ text,
      querySet (rules.special url.base) c = false
  fragment :
    ∀ text ∈ url.fragment, ∀ c ∈ text,
      fragmentSet c = false

/-
  What else a runtime knows: how bytes are read, and how a
  text is read against another URL.
-/
structure Rules extends BaseRules where
  reader : Utf8Reader
  resolve : List Char → List Char → Option Url
  resolve_normal :
    ∀ text against url, resolve text against = some url →
      Normal toBaseRules url

/- `new URL(text)`, where it does not throw. -/
def parse (rules : BaseRules) (text : List Char) :
    Option Url :=
  let outer := cutAt '#' (stripUrl text)
  let inner := cutAt '?' outer.1
  (rules.parseBase inner.1).map (fun base =>
    { base := base
      query :=
        inner.2.map
          (encodeSet (querySet (rules.special base)))
      fragment := outer.2.map (encodeSet fragmentSet) })

/- `url.searchParams`, in order. -/
def params (rules : Rules) (url : Url) :
    List (String × String) :=
  FormUrlencoded.parse rules.reader (url.query.getD [])

/- `url.searchParams.set(name, value)`. -/
def setSearchParam
    (rules : Rules)
    (url : Url)
    (name value : String) : Url :=
  { url with
    query :=
      some (serialize (setParam name value (params rules url))) }

end Urls

------------------------------------------------------------
-- Normal URLs
------------------------------------------------------------

namespace Urls

open KisAuth FormUrlencoded

/- A set that escapes do not meet. -/
def SparesEscapes (set : Char → Bool) : Prop :=
  set '%' = false ∧
    ∀ n < 16, set (upperHexDigit n) = false

theorem fragmentSet_spares : SparesEscapes fragmentSet := by
  refine ⟨by decide, ?_⟩
  decide

theorem querySet_spares
    (special : Bool) :
    SparesEscapes (querySet special) := by
  cases special with
  | false => exact ⟨by decide, by decide⟩
  | true => exact ⟨by decide, by decide⟩

/- Encoded, a text has no character of the set. -/
theorem encodeSet_clean
    {set : Char → Bool}
    (hSpares : SparesEscapes set)
    (text : List Char) :
    ∀ c ∈ encodeSet set text, set c = false := by
  intro c hMem
  obtain ⟨d, -, hMem⟩ := List.mem_flatMap.mp hMem
  split at hMem
  · obtain ⟨byte, hByte, hMem⟩ := List.mem_flatMap.mp hMem
    have hLess := utf8Bytes_lt d byte hByte
    simp only [percentByte, List.mem_cons, List.not_mem_nil,
      or_false] at hMem
    rcases hMem with rfl | rfl | rfl
    · exact hSpares.1
    · exact hSpares.2 _ (by omega)
    · exact hSpares.2 _ (by omega)
  · rename_i hKept
    rw [List.mem_singleton] at hMem
    subst hMem
    simpa using hKept

theorem encodeSet_eq_self
    {set : Char → Bool}
    {text : List Char}
    (hClean : ∀ c ∈ text, set c = false) :
    encodeSet set text = text := by
  induction text with
  | nil => rfl
  | cons c text ih =>
      have hRest :=
        ih (fun d hMem => hClean d (List.mem_cons_of_mem _ hMem))
      rw [encodeSet] at hRest ⊢
      rw [List.flatMap_cons, hRest,
        hClean c List.mem_cons_self]
      rfl

theorem normal_parse
    {rules : BaseRules}
    {text : List Char}
    {url : Url}
    (hParse : parse rules text = some url) :
    Normal rules url := by
  obtain ⟨base, hBase, rfl⟩ := Option.map_eq_some_iff.mp hParse
  refine ⟨rules.again _ _ hBase, ?_, ?_⟩
  · intro query hQuery
    obtain ⟨raw, -, rfl⟩ := Option.map_eq_some_iff.mp hQuery
    exact encodeSet_clean (querySet_spares _) raw
  · intro fragment hFragment
    obtain ⟨raw, -, rfl⟩ := Option.map_eq_some_iff.mp hFragment
    exact encodeSet_clean fragmentSet_spares raw

/- What a query is made of, no query escapes. -/
theorem formPlain_not_querySet
    {special : Bool}
    {c : Char}
    (hPlain : isFormPlain c = true ∨ c = '%' ∨ c = '+') :
    querySet special c = false := by
  have hAll :
      ∀ n < 128, isFormPlain (Char.ofNat n) = true →
        querySet special (Char.ofNat n) = false := by
    cases special with
    | false => decide +kernel
    | true => decide +kernel
  rcases hPlain with hPlain | rfl | rfl
  · have hAscii : c.toNat < 128 := by
      rcases (Bool.or_eq_true _ _).mp hPlain with
        hAlnum | hMark
      · exact ascii_of_isAlphanum hAlnum
      · exact ascii_of_mem (by decide) hMark
    revert hPlain
    apply of_ascii _ hAscii
    exact hAll
  · cases special <;> decide
  · cases special <;> decide

theorem serialize_clean
    {special : Bool}
    (pairs : List (String × String)) :
    ∀ c ∈ serialize pairs, querySet special c = false := by
  intro c hMem
  rcases mem_intercalate hMem with hMark | ⟨_, hPiece, hMem⟩
  · rw [List.mem_singleton] at hMark
    subst hMark
    cases special <;> decide
  · obtain ⟨pair, -, rfl⟩ := List.mem_map.mp hPiece
    rw [serializePair, List.mem_append, List.mem_cons] at hMem
    rcases hMem with hName | rfl | hValue
    · exact formPlain_not_querySet (mem_encodeText hName)
    · cases special <;> decide
    · exact formPlain_not_querySet (mem_encodeText hValue)

theorem normal_setSearchParam
    {rules : Rules}
    {url : Url}
    (hNormal : Normal rules.toBaseRules url)
    (name value : String) :
    Normal rules.toBaseRules
      (setSearchParam rules url name value) := by
  refine ⟨hNormal.base, ?_, hNormal.fragment⟩
  intro query hQuery
  obtain rfl := Option.some.inj hQuery
  exact serialize_clean _

end Urls

------------------------------------------------------------
-- Reading A URL Back
------------------------------------------------------------

namespace Urls

open KisAuth FormUrlencoded

theorem cutAt_append
    {c : Char}
    {first : List Char}
    (hFirst : c ∉ first)
    (rest : List Char) :
    cutAt c (first ++ c :: rest) = (first, some rest) := by
  induction first with
  | nil => simp [cutAt]
  | cons d first ih =>
      rw [List.mem_cons, not_or] at hFirst
      rw [List.cons_append, cutAt,
        if_neg (fun hEq => hFirst.1 hEq.symm), ih hFirst.2]

theorem cutAt_of_not_mem
    {c : Char}
    {text : List Char}
    (hText : c ∉ text) :
    cutAt c text = (text, none) := by
  induction text with
  | nil => rfl
  | cons d text ih =>
      rw [List.mem_cons, not_or] at hText
      rw [cutAt, if_neg (fun hEq => hText.1 hEq.symm),
        ih hText.2]

theorem dropWhile_control_eq_self
    {text : List Char}
    (hHead : ∀ c ∈ text.head?, isControlOrSpace c = false) :
    text.dropWhile isControlOrSpace = text := by
  cases text with
  | nil => rfl
  | cons c rest =>
      rw [List.dropWhile_cons_of_neg]
      simpa using hHead c rfl

theorem stripUrl_eq_self
    {text : List Char}
    (hHead : ∀ c ∈ text.head?, isControlOrSpace c = false)
    (hLast : ∀ c ∈ text.getLast?, isControlOrSpace c = false)
    (hInner : ∀ c ∈ text, isTabOrNewline c = false) :
    stripUrl text = text := by
  have hReverse :
      ∀ c ∈ text.reverse.head?, isControlOrSpace c = false := by
    rw [List.head?_reverse]
    exact hLast
  rw [stripUrl, dropWhile_control_eq_self hHead,
    dropWhile_control_eq_self hReverse, List.reverse_reverse]
  apply List.filter_eq_self.mpr
  intro c hMem
  rw [hInner c hMem]
  rfl

/- The characters of queries and fragments are visible. -/
theorem visible_of_not_fragmentSet
    {c : Char}
    (hNot : fragmentSet c = false) :
    isControlOrSpace c = false ∧ isTabOrNewline c = false := by
  simp only [fragmentSet, Bool.or_eq_false_iff,
    decide_eq_false_iff_not, not_le] at hNot
  have hLow := hNot.1.1.1.1.1
  refine ⟨by simpa [isControlOrSpace] using hLow, ?_⟩
  by_contra hDropped
  simp only [isTabOrNewline, Bool.not_eq_false,
    Bool.or_eq_true, decide_eq_true_eq] at hDropped
  rcases hDropped with (rfl | rfl) | rfl <;>
    exact absurd hLow (by decide)

theorem visible_of_not_querySet
    {special : Bool}
    {c : Char}
    (hNot : querySet special c = false) :
    isControlOrSpace c = false ∧ isTabOrNewline c = false ∧
      c ≠ '#' := by
  simp only [querySet, Bool.or_eq_false_iff,
    decide_eq_false_iff_not, not_le] at hNot
  have hLow := hNot.1.1.1.1.1.1
  refine
    ⟨by simpa [isControlOrSpace] using hLow, ?_,
      hNot.1.1.1.2⟩
  by_contra hDropped
  simp only [isTabOrNewline, Bool.not_eq_false,
    Bool.or_eq_true, decide_eq_true_eq] at hDropped
  rcases hDropped with (rfl | rfl) | rfl <;>
    exact absurd hLow (by decide)

/- A letter is visible. -/
theorem visible_of_alpha
    {c : Char}
    (hAlpha : c.isAlpha = true) :
    isControlOrSpace c = false := by
  have hAscii : c.toNat < 128 := by
    apply ascii_of_isAlphanum
    rw [Char.isAlphanum, hAlpha, Bool.true_or]
  revert hAlpha
  apply of_ascii _ hAscii
  decide +kernel

variable {rules : BaseRules} {url : Url}
variable {query : List Char}

/- All that comes after the base is visible. -/
theorem visible_after_base
    (hNormal : Normal rules url)
    (hQuery : url.query = some query) :
    ∀ c ∈ '?' :: query ++
        (match url.fragment with
          | none => []
          | some fragment => '#' :: fragment),
      isControlOrSpace c = false ∧
        isTabOrNewline c = false := by
  intro c hMem
  rcases List.mem_append.mp hMem with hLeft | hRight
  · rcases List.mem_cons.mp hLeft with rfl | hLeft
    · decide
    · have hVisible :=
        visible_of_not_querySet
          (hNormal.query query hQuery c hLeft)
      exact ⟨hVisible.1, hVisible.2.1⟩
  · cases hFragment : url.fragment with
    | none =>
        rw [hFragment] at hRight
        simp at hRight
    | some fragment =>
        rw [hFragment] at hRight
        rcases List.mem_cons.mp hRight with rfl | hRight
        · decide
        · exact
            visible_of_not_fragmentSet
              (hNormal.fragment fragment hFragment c hRight)

theorem stripUrl_href
    (hNormal : Normal rules url)
    (hQuery : url.query = some query) :
    stripUrl (href url) = href url := by
  have hVisible := visible_after_base hNormal hQuery
  obtain ⟨⟨first, hFirst, hAlpha⟩, hBase⟩ :=
    rules.clean _ _ hNormal.base
  rw [href, hQuery, List.append_assoc]
  apply stripUrl_eq_self
  · intro c hHead
    rw [List.head?_append, hFirst, Option.some_or] at hHead
    rw [← Option.some.inj hHead]
    exact visible_of_alpha hAlpha
  · intro c hLast
    rw [List.getLast?_append_of_ne_nil _ (by simp)] at hLast
    exact (hVisible c (List.mem_of_getLast? hLast)).1
  · intro c hMem
    rcases List.mem_append.mp hMem with hLeft | hRight
    · exact (hBase c hLeft).2.2
    · exact (hVisible c hRight).2

/- A normal URL with a query is read back from its text. -/
theorem parse_href
    (hNormal : Normal rules url)
    (hQuery : url.query = some query) :
    parse rules (href url) = some url := by
  obtain ⟨-, hBase⟩ := rules.clean _ _ hNormal.base
  have hMark : '?' ∉ url.base :=
    fun hMem => (hBase _ hMem).1 rfl
  have hHash : '#' ∉ url.base ++ '?' :: query := by
    intro hMem
    rcases List.mem_append.mp hMem with hLeft | hRight
    · exact (hBase _ hLeft).2.1 rfl
    · rcases List.mem_cons.mp hRight with hIs | hRight
      · cases hIs
      · exact
          (visible_of_not_querySet
            (hNormal.query query hQuery _ hRight)).2.2 rfl
  have hOuter :
      cutAt '#' (href url) =
        (url.base ++ '?' :: query, url.fragment) := by
    rw [href, hQuery]
    cases url.fragment with
    | none =>
        rw [List.append_nil]
        exact cutAt_of_not_mem hHash
    | some fragment => exact cutAt_append hHash fragment
  have hSameQuery :
      encodeSet (querySet (rules.special url.base)) query =
        query :=
    encodeSet_eq_self (hNormal.query query hQuery)
  have hSameFragment :
      url.fragment.map (encodeSet fragmentSet) =
        url.fragment := by
    cases hFragment : url.fragment with
    | none => rfl
    | some fragment =>
        rw [Option.map_some,
          encodeSet_eq_self
            (hNormal.fragment fragment hFragment)]
  rw [parse, stripUrl_href hNormal hQuery, hOuter]
  simp only [cutAt_append hMark, hNormal.base,
    Option.map_some, hSameQuery, hSameFragment]
  rw [← hQuery]

/- What setting a parameter leaves of the others. -/
theorem params_setSearchParam
    (rules : Rules)
    (url : Url)
    (name value : String) :
    params rules (setSearchParam rules url name value) =
      setParam name value (params rules url) := by
  rw [params, setSearchParam, Option.getD_some,
    parse_serialize]

end Urls
