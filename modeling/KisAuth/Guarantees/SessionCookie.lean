import KisAuth.Http.PercentCoding
import KisAuth.OAuth.StatusRedirect
import KisAuth.Text.Pieces

/-
  The session cookie among the other cookies of a header: it
  is read back as long as none of the others keeps the header
  from being read at all.

  Key definitions include:
    * `IsToken`, `cookiePair`, `cookieHeader`
    * `partSets`, `Readable`, `lastSet`

  Key theorems include:
    * `parseCookieParts_eq_some_iff`
    * `session_cookie_read_iff`
-/

------------------------------------------------------------
-- Headers
------------------------------------------------------------

namespace KisAuth

/- The characters of a token. -/
def isTokenChar (c : Char) : Bool :=
  c.isAlphanum || "!#$%&'*+-.^_`|~".toList.contains c

/- A name that a cookie may have. -/
structure IsToken (name : String) : Prop where
  nonempty : name ≠ ""
  chars : ∀ c ∈ name.toList, isTokenChar c = true

/- The `name=value` part of what sets a cookie. -/
def cookiePair (setCookie : String) : List Char :=
  setCookie.toList.takeWhile (· ≠ ';')

/- The parts of a header, as a browser joins them. -/
def cookieHeader (parts : List (List Char)) : String :=
  String.ofList ([';', ' '].intercalate parts)

/- The name that a part sets and its value as sent. -/
def partSets
    (part : List Char) : Option (List Char × List Char) :=
  match cutAtEquals part with
  | none => none
  | some (name, value) =>
      if trim name = [] then none
      else some (trim name, trim value)

/- Decoding what the part sets does not throw. -/
def Readable (part : List Char) : Prop :=
  ∀ set ∈ partSets part, decodeChars set.2 ≠ none

/- The value, as sent, of the last part with this name. -/
def lastSet
    (parts : List (List Char))
    (name : String) : Option (List Char) :=
  (parts.filterMap partSets).reverse.lookup name.toList

instance : DecidablePred Readable :=
  fun part =>
    match hSets : partSets part with
    | none => isTrue (by simp [Readable, hSets])
    | some set =>
        decidable_of_iff (decodeChars set.2 ≠ none)
          (by simp [Readable, hSets])

end KisAuth

------------------------------------------------------------
-- Parsing The Parts
------------------------------------------------------------

namespace KisAuth

/- The entry that a part gives the parsed map. -/
def entryOf (part : List Char) : Option (String × String) :=
  (partSets part).bind (fun set =>
    if set.1 = "__proto__".toList then none
    else
      (decodeChars set.2).map (fun decoded =>
        (String.ofList set.1, String.ofList decoded)))

/- A part that sets nothing is passed over. -/
theorem parseCookieParts_cons_none
    {part : List Char}
    (hSets : partSets part = none)
    (parts : List (List Char)) :
    parseCookieParts (part :: parts) =
      parseCookieParts parts := by
  rw [partSets] at hSets
  rw [parseCookieParts]
  rcases hCut : cutAtEquals part with _ | ⟨name, value⟩
  · rfl
  · rw [hCut] at hSets
    simp only at hSets ⊢
    split at hSets
    · rename_i hName
      rw [if_pos hName]
    · cases hSets

theorem parseCookieParts_cons_some
    {part name value : List Char}
    (hSets : partSets part = some (name, value))
    (parts : List (List Char)) :
    parseCookieParts (part :: parts) =
      match decodeChars value, parseCookieParts parts with
      | some decoded, some entries =>
          if name = "__proto__".toList then some entries
          else
            some ((String.ofList name,
              String.ofList decoded) :: entries)
      | _, _ => none := by
  rw [partSets] at hSets
  rw [parseCookieParts]
  rcases hCut : cutAtEquals part with _ | ⟨left, right⟩
  · rw [hCut] at hSets
    cases hSets
  · rw [hCut] at hSets
    simp only at hSets ⊢
    split at hSets
    · cases hSets
    · rename_i hName
      obtain ⟨rfl, rfl⟩ :=
        Prod.mk.inj (Option.some.inj hSets)
      exact if_neg hName

theorem parseCookieParts_cons
    (part : List Char)
    (parts : List (List Char)) :
    parseCookieParts (part :: parts) =
      if Readable part then
        (parseCookieParts parts).map
          (fun entries => (entryOf part).toList ++ entries)
      else
        none := by
  rcases hSets : partSets part with _ | ⟨name, value⟩
  · have hReadable : Readable part := by
      simp [Readable, hSets]
    rw [parseCookieParts_cons_none hSets, if_pos hReadable,
      entryOf, hSets]
    cases parseCookieParts parts <;> rfl
  · rw [parseCookieParts_cons_some hSets]
    cases hDecoded : decodeChars value with
    | none =>
        have hNot : ¬ Readable part := by
          simp [Readable, hSets, hDecoded]
        rw [if_neg hNot]
    | some decoded =>
        have hReadable : Readable part := by
          simp [Readable, hSets, hDecoded]
        rw [if_pos hReadable, entryOf, hSets, Option.bind_some,
          hDecoded]
        cases parseCookieParts parts with
        | none => rfl
        | some entries =>
            simp only [Option.map_some]
            split <;> rfl

/- A header is read where each of its parts is. -/
theorem parseCookieParts_eq_some_iff
    {parts : List (List Char)}
    {entries : List (String × String)} :
    parseCookieParts parts = some entries ↔
      (∀ part ∈ parts, Readable part) ∧
        parts.filterMap entryOf = entries := by
  induction parts generalizing entries with
  | nil => simp [parseCookieParts]
  | cons part parts ih =>
      rw [parseCookieParts_cons]
      by_cases hReadable : Readable part
      · rw [if_pos hReadable, Option.map_eq_some_iff]
        simp only [ih, List.forall_mem_cons, hReadable,
          true_and, and_assoc, List.filterMap_cons]
        cases entryOf part <;> simp
      · simp [hReadable]

end KisAuth

------------------------------------------------------------
-- Tokens And Escapes
------------------------------------------------------------

namespace KisAuth

/- Tokens have none of what the header gives a meaning. -/
theorem isTokenChar_clean
    {c : Char}
    (hToken : isTokenChar c = true) :
    c ≠ ';' ∧ c ≠ '=' ∧ isJsSpace c = false := by
  have hAscii : c.toNat < 128 := by
    rcases (Bool.or_eq_true _ _).mp hToken with hAlnum | hMark
    · exact ascii_of_isAlphanum hAlnum
    · exact ascii_of_mem (by decide) hMark
  revert hToken
  apply of_ascii _ hAscii
  decide +kernel

/- Neither has an encoded value. -/
theorem encoded_clean
    {value : String}
    {c : Char}
    (hMem : c ∈ (encodeURIComponent value).toList) :
    c ≠ ';' ∧ isJsSpace c = false := by
  rcases mem_encodeURIComponent hMem with hPlain | rfl
  · have hAscii : c.toNat < 128 := by
      rcases (Bool.or_eq_true _ _).mp hPlain with
        hAlnum | hMark
      · exact ascii_of_isAlphanum hAlnum
      · exact ascii_of_mem (by decide) hMark
    revert hPlain
    apply of_ascii _ hAscii
    decide +kernel
  · decide

theorem trimmed_of_clean
    {text : List Char}
    (hClean : ∀ c ∈ text, isJsSpace c = false) :
    Trimmed text :=
  ⟨fun c hHead => hClean c (List.mem_of_mem_head? hHead),
    fun c hLast => hClean c (List.mem_of_mem_getLast? hLast)⟩

end KisAuth

------------------------------------------------------------
-- The Session's Own Part
------------------------------------------------------------

namespace KisAuth

variable {name value : String}
variable {secure : Bool} {maxAgeSeconds : Nat}

theorem IsToken.not_semicolon
    (hName : IsToken name) :
    ';' ∉ name.toList :=
  fun hMem => (isTokenChar_clean (hName.chars _ hMem)).1 rfl

theorem sessionCookieName_isToken :
    IsToken sessionCookieName where
  nonempty := by decide
  chars := List.all_eq_true.mp (by decide)

/- What a browser stores of the header that sets it. -/
theorem cookiePair_serialize
    (hName : IsToken name) :
    cookiePair
        (serializeSessionCookie name value secure
          maxAgeSeconds) =
      name.toList ++ '=' ::
        (encodeURIComponent value).toList := by
  have hPair :
      ∀ c ∈
        name.toList ++ '=' ::
          (encodeURIComponent value).toList, c ≠ ';' := by
    intro c hMem
    rcases List.mem_append.mp hMem with hLeft | hRight
    · exact (isTokenChar_clean (hName.chars c hLeft)).1
    · rcases List.mem_cons.mp hRight with rfl | hRight
      · decide
      · exact (encoded_clean hRight).1
  obtain ⟨rest, hRest⟩ :
      ∃ rest,
        (serializeSessionCookie name value secure
            maxAgeSeconds).toList =
          (name.toList ++ '=' ::
            (encodeURIComponent value).toList) ++
              ';' :: rest := by
    refine
      ⟨(" Path=/; HttpOnly; SameSite=Lax; Max-Age=" ++
        toString maxAgeSeconds ++
        (if secure then "; Secure" else "")).toList, ?_⟩
    simp [serializeSessionCookie, String.toList_append]
  rw [cookiePair, hRest]
  rw [List.takeWhile_append_of_pos (by simpa using hPair)]
  simp

theorem partSets_pair
    (hName : IsToken name) :
    partSets
        (cookiePair
          (serializeSessionCookie name value secure
            maxAgeSeconds)) =
      some (name.toList,
        (encodeURIComponent value).toList) := by
  have hEquals : '=' ∉ name.toList := fun hMem =>
    (isTokenChar_clean (hName.chars _ hMem)).2.1 rfl
  have hTrimName : trim name.toList = name.toList := by
    apply trim_eq_self
    apply trimmed_of_clean
    intro c hMem
    exact (isTokenChar_clean (hName.chars c hMem)).2.2
  have hTrimValue :
      trim (encodeURIComponent value).toList =
        (encodeURIComponent value).toList := by
    apply trim_eq_self
    apply trimmed_of_clean
    intro c hMem
    exact (encoded_clean hMem).2
  have hSome : name.toList ≠ [] := by
    simpa using hName.nonempty
  rw [cookiePair_serialize hName, partSets,
    cutAtEquals_append hEquals]
  simp only [hTrimName, hTrimValue, if_neg hSome]

end KisAuth

------------------------------------------------------------
-- Neighbours
------------------------------------------------------------

namespace KisAuth

/- Joined by `; `, all but the first have a space in front. -/
theorem intercalate_space
    (first : List Char)
    (rest : List (List Char)) :
    [';', ' '].intercalate (first :: rest) =
      [';'].intercalate
        (first :: rest.map (fun part => ' ' :: part)) := by
  induction rest generalizing first with
  | nil => rfl
  | cons next rest ih =>
      rw [List.intercalate_cons_cons, ih, List.map_cons,
        List.intercalate_cons_cons]
      cases rest with
      | nil => simp
      | cons last rest =>
          simp [List.intercalate_cons_cons]

theorem splitAtChar_cookieHeader
    {first : List Char}
    {rest : List (List Char)}
    (hClean : ∀ part ∈ first :: rest, ';' ∉ part) :
    splitAtChar ';' (cookieHeader (first :: rest)).toList =
      first :: rest.map (fun part => ' ' :: part) := by
  rw [cookieHeader, String.toList_ofList, intercalate_space]
  apply splitAtChar_intercalate
  · intro part hPart
    rcases List.mem_cons.mp hPart with rfl | hPart
    · exact hClean part List.mem_cons_self
    · obtain ⟨inner, hInner, rfl⟩ := List.mem_map.mp hPart
      have hNot := hClean inner (List.mem_cons_of_mem _ hInner)
      simpa using hNot
  · simp

/- What a part has is in the header. -/
theorem mem_cookieHeader
    {c : Char}
    {part : List Char}
    (hMem : c ∈ part)
    (before after : List (List Char)) :
    c ∈ (cookieHeader (before ++ part :: after)).toList := by
  rw [cookieHeader, String.toList_ofList]
  induction before with
  | nil =>
      cases after with
      | nil => simpa using hMem
      | cons next after =>
          rw [List.nil_append, List.intercalate_cons_cons]
          simp [hMem]
  | cons first before ih =>
      rw [List.cons_append,
        List.intercalate_cons_of_ne_nil (by simp)]
      exact List.mem_append_right _ ih

/- The space in front of a part does not matter. -/
theorem partSets_space
    (part : List Char) :
    partSets (' ' :: part) = partSets part := by
  rw [partSets, cutAtEquals]
  · rw [partSets]
    rcases cutAtEquals part with _ | ⟨name, value⟩
    · rfl
    · simp only [Option.map_some, trim_space]
  · decide

theorem readable_space
    (part : List Char) :
    Readable (' ' :: part) ↔ Readable part := by
  rw [Readable, Readable, partSets_space]

theorem entryOf_space
    (part : List Char) :
    entryOf (' ' :: part) = entryOf part := by
  rw [entryOf, entryOf, partSets_space]

/- Parsing a header, part by part. -/
theorem parseCookieHeader_eq_some_iff
    {parts : List (List Char)}
    {entries : List (String × String)}
    (hClean : ∀ part ∈ parts, ';' ∉ part)
    (hSome : cookieHeader parts ≠ "") :
    parseCookieHeader (some (cookieHeader parts)) =
        some entries ↔
      (∀ part ∈ parts, Readable part) ∧
        parts.filterMap entryOf = entries := by
  cases parts with
  | nil => exact absurd rfl hSome
  | cons first rest =>
      have hSpaced :
          (rest.map (fun part => ' ' :: part)).filterMap
              entryOf =
            rest.filterMap entryOf := by
        rw [List.filterMap_map]
        apply List.filterMap_congr
        intro part _
        exact entryOf_space part
      simp only [parseCookieHeader, if_neg hSome,
        splitAtChar_cookieHeader hClean,
        parseCookieParts_eq_some_iff, List.forall_mem_cons,
        List.forall_mem_map, readable_space,
        List.filterMap_cons, hSpaced]

theorem toList_eq_iff
    (text : String)
    (chars : List Char) :
    text.toList = chars ↔ text = String.ofList chars :=
  ⟨fun hEq => by rw [← hEq, String.ofList_toList],
    fun hEq => by rw [hEq, String.toList_ofList]⟩

/- The entry of one part, where it is read. -/
theorem lookup_entryOf
    {name : String}
    (hName : name ≠ "__proto__")
    {part : List Char}
    (hReadable : Readable part) :
    (entryOf part).toList.lookup name =
      ((partSets part).toList.lookup name.toList).bind
        (fun value =>
          (decodeChars value).map String.ofList) := by
  rw [entryOf]
  rcases hSets : partSets part with _ | ⟨other, value⟩
  · rfl
  · obtain ⟨decoded, hDecoded⟩ :=
      Option.ne_none_iff_exists'.mp
        (hReadable (other, value) hSets)
    simp only at hDecoded
    rw [Option.bind_some, hDecoded, Option.toList_some,
      List.lookup_cons]
    by_cases hSame : name.toList = other
    · have hProto : other ≠ "__proto__".toList := by
        rw [← hSame]
        exact fun hEq => hName (String.toList_injective hEq)
      rw [if_neg hProto]
      simp [← hSame, hDecoded]
    · have hOther : (name == String.ofList other) = false := by
        rw [beq_eq_false_iff_ne]
        exact fun hEq =>
          hSame ((toList_eq_iff name other).mpr hEq)
      have hOther' : (name.toList == other) = false :=
        beq_eq_false_iff_ne.mpr hSame
      split <;> simp [hOther, hOther']

/- What a readable part sets last decodes. -/
theorem decoded_of_lastSet
    {name : String}
    {parts : List (List Char)}
    {value : List Char}
    (hReadable : ∀ part ∈ parts, Readable part)
    (hLast : lastSet parts name = some value) :
    decodeChars value ≠ none := by
  rw [lastSet] at hLast
  obtain ⟨before, after, hSplit, -⟩ :=
    List.lookup_eq_some_iff.mp hLast
  have hMem :
      (name.toList, value) ∈ parts.filterMap partSets := by
    rw [← List.mem_reverse, hSplit]
    simp
  obtain ⟨part, hPart, hSets⟩ := List.mem_filterMap.mp hMem
  exact hReadable part hPart _ hSets

/- The entry of the map is the last one set. -/
theorem cookieValue_entries
    {name : String}
    (hName : name ≠ "__proto__")
    {parts : List (List Char)}
    (hReadable : ∀ part ∈ parts, Readable part) :
    cookieValue (parts.filterMap entryOf) name =
      (lastSet parts name).bind (fun value =>
        (decodeChars value).map String.ofList) := by
  induction parts with
  | nil => rfl
  | cons part parts ih =>
      have hRest :=
        ih (fun other hOther =>
          hReadable other (List.mem_cons_of_mem _ hOther))
      have hPart :=
        lookup_entryOf hName
          (hReadable part List.mem_cons_self)
      have hEntries :
          (part :: parts).filterMap entryOf =
            (entryOf part).toList ++
              parts.filterMap entryOf := by
        rw [List.filterMap_cons]
        cases entryOf part <;> rfl
      have hSets :
          (part :: parts).filterMap partSets =
            (partSets part).toList ++
              parts.filterMap partSets := by
        rw [List.filterMap_cons]
        cases partSets part <;> rfl
      rw [cookieValue, lastSet] at hRest ⊢
      rw [hEntries, hSets, List.reverse_append,
        List.reverse_append, List.lookup_append,
        List.lookup_append, hRest]
      have hSelf :
          ∀ {γ : Type} (entry : Option γ),
            entry.toList.reverse = entry.toList := by
        intro γ entry
        cases entry <;> rfl
      rw [hSelf, hSelf, hPart]
      cases hLast :
          (parts.filterMap partSets).reverse.lookup
            name.toList with
      | none => rfl
      | some value =>
          obtain ⟨decoded, hDecoded⟩ :=
            Option.ne_none_iff_exists'.mp
              (decoded_of_lastSet
                (fun other hOther =>
                  hReadable other
                    (List.mem_cons_of_mem _ hOther))
                hLast)
          simp [hDecoded]

/- The map never has an entry of this name. -/
theorem cookieValue_proto
    (parts : List (List Char)) :
    cookieValue (parts.filterMap entryOf) "__proto__" =
      none := by
  rw [cookieValue, List.lookup_eq_none_iff]
  rintro ⟨name, value⟩ hEntry
  rw [List.mem_reverse] at hEntry
  obtain ⟨part, -, hPart⟩ := List.mem_filterMap.mp hEntry
  obtain ⟨set, -, hPart⟩ := Option.bind_eq_some_iff.mp hPart
  split at hPart
  · cases hPart
  · rename_i hOther
    obtain ⟨decoded, -, hEq⟩ :=
      Option.map_eq_some_iff.mp hPart
    obtain ⟨rfl, -⟩ := Prod.mk.inj hEq
    rw [bne_iff_ne]
    exact fun hEq =>
      hOther ((toList_eq_iff _ _).mpr hEq).symm

end KisAuth

------------------------------------------------------------
-- Reading It Back
------------------------------------------------------------

namespace KisAuth

variable {name value : String}
variable {secure : Bool} {maxAgeSeconds : Nat}
variable {before after : List (List Char)}

theorem lastSet_header
    (hName : IsToken name) :
    lastSet
        (before ++
          cookiePair
              (serializeSessionCookie name value secure
                maxAgeSeconds) ::
            after)
        name =
      some ((lastSet after name).getD
        (encodeURIComponent value).toList) := by
  rw [lastSet, lastSet, List.filterMap_append,
    List.filterMap_cons, partSets_pair hName]
  simp only [List.reverse_append, List.reverse_cons,
    List.append_assoc, List.lookup_append]
  cases (after.filterMap partSets).reverse.lookup
      name.toList with
  | none => simp
  | some last => rfl

theorem decoded_getD_iff
    (last : Option (List Char)) :
    (decodeChars
          (last.getD (encodeURIComponent value).toList)).map
        String.ofList =
        some value ↔
      ∀ raw ∈ last, decodeChars raw = some value.toList := by
  cases last with
  | none =>
      rw [Option.getD_none]
      have hRead :=
        decodeURIComponent_encodeURIComponent value
      rw [decodeURIComponent] at hRead
      simp [hRead]
  | some raw =>
      rw [Option.getD_some, Option.map_eq_some_iff]
      constructor
      · rintro ⟨decoded, hDecoded, rfl⟩ other hOther
        rw [← Option.some.inj hOther, hDecoded,
          String.toList_ofList]
      · intro hAll
        exact
          ⟨value.toList, hAll raw rfl, String.ofList_toList⟩

/- The pair of the cookie is always readable. -/
theorem readable_cookiePair (hName : IsToken name) :
    Readable
      (cookiePair
        (serializeSessionCookie name value secure
          maxAgeSeconds)) := by
  have hRead := decodeURIComponent_encodeURIComponent value
  rw [decodeURIComponent, Option.map_eq_some_iff] at hRead
  obtain ⟨decoded, hDecoded, -⟩ := hRead
  simp [Readable, partSets_pair hName, hDecoded]

/- It has no mark at which the header is cut. -/
theorem semicolon_not_mem_cookiePair (hName : IsToken name) :
    ';' ∉
      cookiePair
        (serializeSessionCookie name value secure
          maxAgeSeconds) := by
  rw [cookiePair_serialize hName, List.mem_append,
    List.mem_cons, not_or, not_or]
  exact
    ⟨hName.not_semicolon, by decide,
      fun hMem => (encoded_clean hMem).1 rfl⟩

theorem cookieHeader_ne_empty
    {pair : List Char}
    {mark : Char}
    (hMark : mark ∈ pair)
    (before after : List (List Char)) :
    cookieHeader (before ++ pair :: after) ≠ "" := by
  intro hEmpty
  have hChar := mem_cookieHeader hMark before after
  rw [hEmpty] at hChar
  cases hChar

/-
  The value comes back exactly where the name can be an entry
  of the map, each neighbour is readable, and no neighbour
  after it sets the same name to something else.
-/
theorem session_cookie_read_iff
    (hName : IsToken name)
    (hParts : ∀ part ∈ before ++ after, ';' ∉ part) :
    (∃ entries,
        parseCookieHeader
            (some
              (cookieHeader
                (before ++
                  cookiePair
                      (serializeSessionCookie name value secure
                        maxAgeSeconds) ::
                    after))) =
            some entries ∧
          cookieValue entries name = some value) ↔
      name ≠ "__proto__" ∧
        (∀ part ∈ before ++ after, Readable part) ∧
        ∀ last ∈ lastSet after name,
          decodeChars last = some value.toList := by
  have hOwn :=
    @readable_cookiePair name value secure maxAgeSeconds hName
  have hMark :=
    @semicolon_not_mem_cookiePair name value secure
      maxAgeSeconds hName
  have hText :=
    @cookiePair_serialize name value secure maxAgeSeconds
      hName
  have hLast :=
    @lastSet_header name value secure maxAgeSeconds before
      after hName
  generalize
    cookiePair
        (serializeSessionCookie name value secure
          maxAgeSeconds) =
      pair at hOwn hMark hText hLast ⊢
  have hClean : ∀ part ∈ before ++ pair :: after, ';' ∉ part := by
    intro part hPart
    rcases List.mem_append.mp hPart with hBefore | hRest
    · exact hParts part (List.mem_append_left _ hBefore)
    · rcases List.mem_cons.mp hRest with rfl | hAfter
      · exact hMark
      · exact hParts part (List.mem_append_right _ hAfter)
  have hEquals : '=' ∈ pair := by simp [hText]
  have hSome := cookieHeader_ne_empty hEquals before after
  have hAll :
      (∀ part ∈ before ++ pair :: after, Readable part) ↔
        ∀ part ∈ before ++ after, Readable part := by
    rw [List.forall_mem_append, List.forall_mem_cons,
      List.forall_mem_append]
    simp only [hOwn, true_and]
  constructor
  · rintro ⟨entries, hParse, hValue⟩
    obtain ⟨hReadable, rfl⟩ :=
      (parseCookieHeader_eq_some_iff hClean hSome).mp hParse
    have hProto : name ≠ "__proto__" := by
      rintro rfl
      rw [cookieValue_proto] at hValue
      cases hValue
    rw [cookieValue_entries hProto hReadable, hLast,
      Option.bind_some, decoded_getD_iff] at hValue
    exact ⟨hProto, hAll.mp hReadable, hValue⟩
  · rintro ⟨hProto, hNeighbours, hNamesakes⟩
    have hReadable := hAll.mpr hNeighbours
    refine
      ⟨_,
        (parseCookieHeader_eq_some_iff hClean hSome).mpr
          ⟨hReadable, rfl⟩, ?_⟩
    rw [cookieValue_entries hProto hReadable, hLast,
      Option.bind_some, decoded_getD_iff]
    exact hNamesakes

/- Neighbours with escapes, without a name and empty. -/
theorem session_cookie_read_among :
    ∃ entries,
      parseCookieHeader
          (some
            (cookieHeader
              ("theme=100%25".toList ::
                cookiePair
                    (serializeSessionCookie "kisauth_session"
                      "a b;é" true 600) ::
                  ["flag".toList, [], "x=y=z".toList]))) =
          some entries ∧
        cookieValue entries "kisauth_session" = some "a b;é" :=
  (@session_cookie_read_iff "kisauth_session" "a b;é" true 600
      ["theme=100%25".toList]
      ["flag".toList, [], "x=y=z".toList]
      ⟨by decide, of_every (by decide)⟩ (by decide)).mpr
    ⟨by decide, by decide +kernel, by decide +kernel⟩

/-
  A neighbour with a bare percent sign: the whole header is
  refused.
-/
theorem session_cookie_lost :
    ¬ ∃ entries,
      parseCookieHeader
          (some
            (cookieHeader
              ["sale=50%".toList,
                cookiePair
                  (serializeSessionCookie "kisauth_session" "s1"
                    true 600)])) =
          some entries ∧
        cookieValue entries "kisauth_session" = some "s1" := by
  have hRefused :
      parseCookieHeader
          (some
            (cookieHeader
              ["sale=50%".toList,
                cookiePair
                  (serializeSessionCookie "kisauth_session" "s1"
                    true 600)])) =
        none := by
    decide +kernel
  rintro ⟨entries, hParse, -⟩
  rw [hRefused] at hParse
  cases hParse

end KisAuth
