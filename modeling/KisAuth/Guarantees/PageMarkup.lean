import KisAuth.Text.CharacterReferences
import KisAuth.Web.Page

/-
  No text that is put into a page changes its markup: the
  texts are read back as they were, and any two pages of one
  tone, with or without a way back, have the same tags.

  Key definitions include:
    * `escapeChar`, `entities`

  Key theorems include:
    * `toList_escapeHtml`, `escapeHtml_inert`
    * `decode_escapeHtml`, `segments_guarded`
    * `page_markup_fixed`
-/

------------------------------------------------------------
-- Escaped Texts
------------------------------------------------------------

namespace KisAuth

open Markup

/- What becomes of one character. -/
def escapeChar (c : Char) : List Char :=
  if c = '&' then ['&', 'a', 'm', 'p', ';']
  else if c = '<' then ['&', 'l', 't', ';']
  else if c = '>' then ['&', 'g', 't', ';']
  else if c = '"' then ['&', 'q', 'u', 'o', 't', ';']
  else if c = '\'' then ['&', '#', '3', '9', ';']
  else [c]

/- What may follow an ampersand. -/
def entities : List (List Char) :=
  [['a', 'm', 'p', ';'], ['l', 't', ';'], ['g', 't', ';'],
    ['q', 'u', 'o', 't', ';'], ['#', '3', '9', ';']]

theorem toList_replaceChar
    (c : Char)
    (replacement text : String) :
    (replaceChar c replacement text).toList =
      text.toList.flatMap (fun d =>
        if d = c then replacement.toList else [d]) := by
  rw [replaceChar, String.toList_ofList]

/-
  The five replacements one after the other are one of each
  character: none of them touches what an earlier one wrote,
  as the ampersands come first.
-/
theorem toList_escapeHtml
    (value : String) :
    (escapeHtml value).toList =
      value.toList.flatMap escapeChar := by
  simp only [escapeHtml, toList_replaceChar,
    List.flatMap_assoc]
  apply List.flatMap_congr
  intro c _
  by_cases hAmp : c = '&'
  · subst hAmp
    rfl
  by_cases hLt : c = '<'
  · subst hLt
    rfl
  by_cases hGt : c = '>'
  · subst hGt
    rfl
  by_cases hQuot : c = '"'
  · subst hQuot
    rfl
  simp only [escapeChar, if_neg hAmp, if_neg hLt, if_neg hGt,
    if_neg hQuot, List.flatMap_cons, List.flatMap_nil,
    List.append_nil]
  rfl

/- One character: a clean one, or an ampersand and an entity. -/
theorem escapeChar_cases
    (c : Char) :
    (escapeChar c = [c] ∧ c ≠ '&' ∧ Inert [c]) ∨
      ∃ entity ∈ entities, escapeChar c = '&' :: entity := by
  by_cases hAmp : c = '&'
  · subst hAmp
    exact Or.inr ⟨_, by decide, rfl⟩
  by_cases hLt : c = '<'
  · subst hLt
    exact Or.inr ⟨_, by decide, rfl⟩
  by_cases hGt : c = '>'
  · subst hGt
    exact Or.inr ⟨_, by decide, rfl⟩
  by_cases hQuot : c = '"'
  · subst hQuot
    exact Or.inr ⟨_, by decide, rfl⟩
  by_cases hApos : c = '\''
  · subst hApos
    exact Or.inr ⟨_, by decide, rfl⟩
  have hSame : escapeChar c = [c] := by
    rw [escapeChar, if_neg hAmp, if_neg hLt, if_neg hGt,
      if_neg hQuot, if_neg hApos]
  refine Or.inl ⟨hSame, hAmp, ?_⟩
  intro d hMem
  rw [List.mem_singleton.mp hMem]
  exact ⟨hLt, hGt, hQuot, hApos⟩

theorem entity_inert
    {entity : List Char}
    (hEntity : entity ∈ entities) :
    Inert entity ∧ '&' ∉ entity := by
  have hAll :
      ∀ entity ∈ entities, Inert entity ∧ '&' ∉ entity := by
    decide
  exact hAll entity hEntity

theorem escapeChar_inert
    (c : Char) :
    Inert (escapeChar c) := by
  rcases escapeChar_cases c with
    ⟨hSame, -, hInert⟩ | ⟨entity, hEntity, hEscaped⟩
  · rw [hSame]
    exact hInert
  · rw [hEscaped]
    intro d hMem
    rcases List.mem_cons.mp hMem with rfl | hMem
    · decide
    · exact (entity_inert hEntity).1 d hMem

/- None of the markup characters is left. -/
theorem escapeHtml_inert
    (value : String) :
    Inert (escapeHtml value).toList := by
  intro d hMem
  rw [toList_escapeHtml] at hMem
  obtain ⟨c, -, hChar⟩ := List.mem_flatMap.mp hMem
  exact escapeChar_inert c d hChar

/- An ampersand is the first character of what it is in. -/
theorem entity_of_escapeChar
    {c : Char}
    {before tail : List Char}
    (hSplit : escapeChar c = before ++ '&' :: tail) :
    ∃ entity ∈ entities, entity = tail := by
  rcases escapeChar_cases c with
    ⟨hSame, hAmp, -⟩ | ⟨entity, hEntity, hEscaped⟩
  · have hMem : '&' ∈ [c] := by
      rw [← hSame, hSplit]
      simp
    exact absurd (List.mem_singleton.mp hMem).symm hAmp
  · rw [hEscaped] at hSplit
    cases before with
    | nil => exact ⟨entity, hEntity, (List.cons.inj hSplit).2⟩
    | cons b before =>
        have hMem : '&' ∈ entity := by
          rw [(List.cons.inj hSplit).2]
          simp
        exact absurd hMem (entity_inert hEntity).2

/- Each ampersand that is left begins an entity. -/
theorem escapeHtml_ampersand
    (text : List Char)
    {before after : List Char}
    (hSplit :
      text.flatMap escapeChar = before ++ '&' :: after) :
    ∃ entity ∈ entities, entity <+: after := by
  induction text generalizing before with
  | nil => simp at hSplit
  | cons c text ih =>
      rw [List.flatMap_cons] at hSplit
      rcases List.append_eq_append_iff.mp hSplit with
        ⟨middle, hBefore, hRest⟩ | ⟨middle, hChar, hAfter⟩
      · exact ih hRest
      · cases middle with
        | nil => exact @ih [] hAfter.symm
        | cons d tail =>
            obtain ⟨rfl, rfl⟩ := List.cons.inj hAfter
            obtain ⟨entity, hEntity, rfl⟩ :=
              entity_of_escapeChar hChar
            exact ⟨_, hEntity, List.prefix_append _ _⟩

end KisAuth

------------------------------------------------------------
-- Reading Them Back
------------------------------------------------------------

namespace KisAuth

open Markup

variable (references : CharacterReferences)
variable (inValue : Bool)

theorem decode_escapeChar
    (c : Char)
    (rest : List Char) :
    references.decode inValue (escapeChar c ++ rest) =
      c :: references.decode inValue rest := by
  by_cases hAmp : c = '&'
  · subst hAmp
    exact
      references.decode_named inValue rest (by decide)
        (by decide) references.amp
  by_cases hLt : c = '<'
  · subst hLt
    exact
      references.decode_named inValue rest (by decide)
        (by decide) references.lt
  by_cases hGt : c = '>'
  · subst hGt
    exact
      references.decode_named inValue rest (by decide)
        (by decide) references.gt
  by_cases hQuot : c = '"'
  · subst hQuot
    exact
      references.decode_named inValue rest (by decide)
        (by decide) references.quot
  by_cases hApos : c = '\''
  · subst hApos
    exact references.decode_apostrophe inValue rest
  rw [escapeChar, if_neg hAmp, if_neg hLt, if_neg hGt,
    if_neg hQuot, if_neg hApos]
  exact references.decode_plain inValue hAmp rest

/- A browser reads each text as it was. -/
theorem decode_escapeHtml
    (value : String) :
    references.decode inValue (escapeHtml value).toList =
      value.toList := by
  rw [toList_escapeHtml]
  induction value.toList with
  | nil => rfl
  | cons c text ih =>
      rw [List.flatMap_cons, decode_escapeChar, ih]

end KisAuth

------------------------------------------------------------
-- Pages
------------------------------------------------------------

namespace KisAuth

open Markup

theorem inert_append
    {first second : List Char}
    (hFirst : Inert first)
    (hSecond : Inert second) :
    Inert (first ++ second) := by
  intro c hMem
  rcases List.mem_append.mp hMem with hLeft | hRight
  · exact hFirst c hLeft
  · exact hSecond c hRight

/- The delay is written in digits. -/
theorem inert_toString
    (n : Nat) :
    Inert (toString n).toList := by
  intro c hMem
  have hDigit : c.isDigit = true :=
    @Nat.isDigit_of_mem_toDigits 10 n c (by decide)
      (by decide) (by simpa [Nat.repr] using hMem)
  refine ⟨?_, ?_, ?_, ?_⟩ <;>
    · rintro rfl
      cases hDigit

theorem refresh_inert
    (delay : Nat)
    (url : String) :
    Inert
      (toString delay ++ ";url=" ++ escapeHtml url).toList := by
  rw [String.toList_append, String.toList_append]
  exact
    inert_append
      (inert_append (inert_toString delay) (by decide))
      (escapeHtml_inert url)

/- The rule for a hole and the texts around it. -/
theorem guarded_hole
    {before text after : String}
    {rest : List Segment}
    (hSettles : Settles before.toList)
    (hInert : Inert text.toList)
    (hSteady : ∃ c ∈ after.toList.head?, Steady c)
    (hRest : Guarded (.fixed after :: rest)) :
    Guarded (.fixed before :: .hole text :: .fixed after :: rest) :=
  ⟨hSettles, hInert, hSteady, hRest⟩

theorem guarded_fixed
    {first second : String}
    {rest : List Segment}
    (hRest : Guarded (.fixed second :: rest)) :
    Guarded (.fixed first :: .fixed second :: rest) :=
  hRest

/- The refresh tag between the texts around it. -/
theorem guarded_refresh
    {before after : String}
    {rest : List Segment}
    (refresh : Option (Nat × String))
    (hRest : Guarded (.fixed after :: rest)) :
    Guarded
      (.fixed before ::
        (refreshMeta refresh ++ .fixed after :: rest)) := by
  cases refresh with
  | none => exact guarded_fixed hRest
  | some refresh =>
      apply guarded_fixed
      apply guarded_hole (by decide +kernel)
        (refresh_inert refresh.1 refresh.2)
        ⟨'"', rfl, by decide⟩
      exact guarded_fixed hRest

/- The button and the end of the page. -/
theorem guarded_button
    (button : Option (String × String)) :
    Guarded
      (.fixed "</p>\n    " ::
        (returnButton button ++
          [.fixed "\n  </main>\n</body>\n</html>"])) := by
  cases button with
  | none => exact guarded_fixed trivial
  | some returnTo =>
      apply guarded_fixed
      apply guarded_hole (by decide +kernel)
        (escapeHtml_inert returnTo.1) ⟨'"', rfl, by decide⟩
      apply guarded_hole (by decide +kernel)
        (escapeHtml_inert returnTo.2) ⟨'<', rfl, by decide⟩
      exact guarded_fixed trivial

/- Whatever the page says, what is put in leaves no trace. -/
theorem segments_guarded
    (baseUrl : String)
    (page : Page) :
    Guarded (page.segments baseUrl) := by
  have hTitle := escapeHtml_inert page.title
  have hHeading := escapeHtml_inert page.heading
  have hMessage := escapeHtml_inert page.message
  have hQuote : Steady '"' := by decide
  have hClose : Steady '<' := by decide
  simp only [Page.segments, List.cons_append,
    List.append_assoc, List.nil_append]
  apply guarded_refresh
  -- The title, and what a preview shows of the page.
  apply guarded_hole (by decide +kernel) hTitle
    ⟨' ', rfl, by decide⟩
  iterate 2 apply guarded_fixed
  apply guarded_hole (by decide +kernel) hHeading
    ⟨'"', rfl, hQuote⟩
  apply guarded_hole (by decide +kernel) hMessage
    ⟨'"', rfl, hQuote⟩
  iterate 4 apply guarded_fixed
  apply guarded_hole (by decide +kernel) hHeading
    ⟨'"', rfl, hQuote⟩
  apply guarded_hole (by decide +kernel) hMessage
    ⟨'"', rfl, hQuote⟩
  -- The style and the card.
  iterate 8 apply guarded_fixed
  apply guarded_hole (by decide +kernel) hHeading
    ⟨'<', rfl, hClose⟩
  apply guarded_hole (by decide +kernel) hMessage
    ⟨'<', rfl, hClose⟩
  exact guarded_button page.button

/- What a browser sees of the tags, but for the holes. -/
theorem skeleton_html
    (baseUrl : String)
    (page : Page) :
    skeleton (page.html baseUrl).toList =
      skeleton
        (pageText
          ((page.segments baseUrl).map Segment.blank)) := by
  rw [Page.html, String.toList_ofList, skeleton, skeleton,
    run_blank _ (segments_guarded baseUrl page)]

end KisAuth

------------------------------------------------------------
-- One Markup
------------------------------------------------------------

namespace KisAuth

open Markup

/- The template depends on what the pages agree on only. -/
theorem blank_segments
    (baseUrl : String)
    {first second : Page}
    (hTone : first.tone = second.tone)
    (hRefresh : first.refresh.isSome = second.refresh.isSome)
    (hButton : first.button.isSome = second.button.isSome) :
    (first.segments baseUrl).map Segment.blank =
      (second.segments baseUrl).map Segment.blank := by
  have hMeta :
      (refreshMeta first.refresh).map Segment.blank =
        (refreshMeta second.refresh).map Segment.blank := by
    cases hFirst : first.refresh <;>
      cases hSecond : second.refresh <;>
        simp [hFirst, hSecond] at hRefresh
    · rfl
    · simp only [refreshMeta, List.map_cons, List.map_nil,
        Segment.blank]
  have hReturn :
      (returnButton first.button).map Segment.blank =
        (returnButton second.button).map Segment.blank := by
    cases hFirst : first.button <;>
      cases hSecond : second.button <;>
        simp [hFirst, hSecond] at hButton
    · rfl
    · simp only [returnButton, List.map_cons, List.map_nil,
        Segment.blank]
  simp only [Page.segments, List.map_append, List.map_cons,
    List.map_nil, Segment.blank, hMeta, hReturn, hTone]

/-
  Escaping is undone by any browser and leaves nothing that
  could be markup; and the tags of a page, their attributes
  and how these are delimited depend only on the tone, on the
  base URL and on whether the page goes back.
-/
theorem page_markup_fixed
    (references : CharacterReferences)
    (inValue : Bool)
    (value baseUrl : String)
    {first second : PageOptions}
    (hTone : first.tone = second.tone)
    (hReturn :
      first.returnTo.isSome = second.returnTo.isSome) :
    references.decode inValue (escapeHtml value).toList =
        value.toList ∧
      Inert (escapeHtml value).toList ∧
      (∀ before after,
        (escapeHtml value).toList = before ++ '&' :: after →
          ∃ entity ∈ entities, entity <+: after) ∧
      skeleton ((renderPage first).html baseUrl).toList =
        skeleton
          ((renderPage second).html baseUrl).toList := by
  refine
    ⟨decode_escapeHtml references inValue value,
      escapeHtml_inert value, ?_, ?_⟩
  · intro before after hSplit
    rw [toList_escapeHtml] at hSplit
    exact escapeHtml_ampersand value.toList hSplit
  · rw [skeleton_html, skeleton_html]
    have hBlank :=
      @blank_segments baseUrl (renderPage first)
        (renderPage second) hTone
        (by simpa [renderPage] using hReturn)
        (by simpa [renderPage] using hReturn)
    rw [hBlank]

/- A page whose texts are markup, beside one of plain texts. -/
theorem page_markup_fixed_hostile :
    Inert (escapeHtml "\"><script>'&lt;").toList ∧
      skeleton
          ((renderPage
            { title := "</title>"
              heading := "<h1 onclick='x'>"
              message := "\" autofocus \""
              tone := .error }).html
              "https://auth.example/").toList =
        skeleton
          ((renderPage
            { title := "Expired"
              heading := "This link expired"
              message := "Please try again."
              tone := .error }).html
              "https://auth.example/").toList :=
  have hBoth :=
    @page_markup_fixed CharacterReferences.basic true
      "\"><script>'&lt;" "https://auth.example/"
      { title := "</title>"
        heading := "<h1 onclick='x'>"
        message := "\" autofocus \""
        tone := .error }
      { title := "Expired"
        heading := "This link expired"
        message := "Please try again."
        tone := .error }
      rfl rfl
  ⟨hBoth.2.1, hBoth.2.2.2⟩

end KisAuth
