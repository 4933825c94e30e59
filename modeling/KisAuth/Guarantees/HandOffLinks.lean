import KisAuth.Guarantees.CodeDelivery
import KisAuth.Guarantees.PageMarkup
import KisAuth.Guarantees.StatusPage
import KisAuth.Web.HandOff

/-
  The app receives exactly the code and the state: through
  the redirect to the status page, the query that the server
  decodes, and the links of the page.

  Key definitions include:
    * `Receives`, `ReachesApp`, `TellsFailure`

  Key theorems include:
    * `target_reads_back`, `status_hands_off`
    * `app_receives_code_and_state`
    * `callbacks_reach_app`
-/

------------------------------------------------------------
-- Links As A Browser Reads Them
------------------------------------------------------------

namespace KisAuth

open Markup

variable (references : CharacterReferences)

/- A text without references in front of another. -/
theorem decode_append_plain
    {inValue : Bool}
    {text : List Char}
    (hPlain : ∀ c ∈ text, c ≠ '&')
    (rest : List Char) :
    references.decode inValue (text ++ rest) =
      text ++ references.decode inValue rest := by
  induction text with
  | nil => rfl
  | cons c text ih =>
      rw [List.cons_append,
        references.decode_plain inValue
          (hPlain c List.mem_cons_self),
        ih (fun d hMem => hPlain d (List.mem_cons_of_mem _ hMem)),
        List.cons_append]

theorem isDigit_toString
    {n : Nat}
    {c : Char}
    (hMem : c ∈ (toString n).toList) :
    c.isDigit = true :=
  @Nat.isDigit_of_mem_toDigits 10 n c (by decide) (by decide)
    (by simpa [Nat.repr] using hMem)

/- What the refresh tag says, decoded. -/
theorem decode_refresh
    (delay : Nat)
    (url : String) :
    references.decode true
        (toString delay ++ ";url=" ++ escapeHtml url).toList =
      (toString delay).toList ++
        ";url=".toList ++ url.toList := by
  have hPlain :
      ∀ c ∈ (toString delay).toList ++ ";url=".toList,
        c ≠ '&' := by
    intro c hMem
    rcases List.mem_append.mp hMem with hDelay | hMark
    · rintro rfl
      exact absurd (isDigit_toString hDelay) (by decide)
    · rintro rfl
      exact absurd hMark (by decide)
  rw [String.toList_append, String.toList_append,
    decode_append_plain references hPlain, decode_escapeHtml]

/- A letter is neither a space nor a quote. -/
theorem letter_plain
    {c : Char}
    (hLetter : c.isAlpha = true) :
    isSpace c = false ∧ c ≠ '"' ∧ c ≠ '\'' := by
  have hAscii : c.toNat < 128 := by
    apply ascii_of_isAlphanum
    rw [Char.isAlphanum, hLetter, Bool.true_or]
  revert hLetter
  apply of_ascii _ hAscii
  decide +kernel

/- After `url=`, a URL that begins with a letter is all. -/
theorem refreshUrl_of_letter
    {c : Char}
    (hLetter : c.isAlpha = true)
    (rest : List Char) :
    refreshUrl ("url=".toList ++ c :: rest) = c :: rest := by
  obtain ⟨hSpace, hDouble, hSingle⟩ := letter_plain hLetter
  have hSkip :
      (c :: rest).dropWhile isSpace = c :: rest := by
    rw [List.dropWhile_cons_of_neg]
    simpa using hSpace
  have hQuote : unquote (c :: rest) = c :: rest := by
    rw [unquote]
    · rintro later hEq
      exact hDouble (List.cons.inj hEq).1
    · rintro later hEq
      exact hSingle (List.cons.inj hEq).1
  have hUnfold :
      refreshUrl ("url=".toList ++ c :: rest) =
        unquote ((c :: rest).dropWhile isSpace) :=
    rfl
  rw [hUnfold, hSkip, hQuote]

theorem toString_cons
    (n : Nat) :
    ∃ c rest, (toString n).toList = c :: rest ∧
      c.isDigit = true := by
  cases hDigits : (toString n).toList with
  | nil =>
      simp at hDigits
  | cons c rest =>
      refine ⟨c, rest, rfl, ?_⟩
      apply @isDigit_toString n c
      rw [hDigits]
      exact List.mem_cons_self

/- The tag leads to the URL after the delay. -/
theorem refreshTarget_delay
    {c : Char}
    (delay : Nat)
    (hLetter : c.isAlpha = true)
    (rest : List Char) :
    refreshTarget
        ((toString delay).toList ++
          ";url=".toList ++ c :: rest) =
      some (c :: rest) := by
  obtain ⟨first, others, hDelay, hDigit⟩ := toString_cons delay
  have hSpace : isSpace first = false := by
    have hAscii : first.toNat < 128 := by
      apply ascii_of_isAlphanum
      rw [Char.isAlphanum, hDigit, Bool.or_true]
    revert hDigit
    apply of_ascii _ hAscii
    decide +kernel
  have hSkip :
      ((toString delay).toList ++
          ";url=".toList ++ c :: rest).dropWhile isSpace =
        (toString delay).toList ++ ";url=".toList ++
          c :: rest := by
    rw [hDelay, List.cons_append, List.cons_append,
      List.dropWhile_cons_of_neg]
    simpa using hSpace
  have hTime :
      ((toString delay).toList ++
          ";url=".toList ++ c :: rest).takeWhile
        Char.isDigit ≠ [] := by
    rw [hDelay, List.cons_append, List.cons_append,
      List.takeWhile_cons_of_pos hDigit]
    simp
  have hDrop :
      ((toString delay).toList ++
          ";url=".toList ++ c :: rest).dropWhile
        (fun c => c.isDigit || c = '.') =
        ";url=".toList ++ c :: rest := by
    rw [List.append_assoc, List.dropWhile_append_of_pos]
    · rfl
    · intro d hMem
      rw [isDigit_toString hMem, Bool.true_or]
  rw [refreshTarget]
  simp only [hSkip, hDrop,
    if_neg (fun hNone => hTime (And.left hNone))]
  have hUrl := refreshUrl_of_letter hLetter rest
  exact congrArg some hUrl

end KisAuth

------------------------------------------------------------
-- The Way Of The Target
------------------------------------------------------------

namespace KisAuth

open FormUrlencoded Interaction Markup

variable {P : Platform} {rules : Urls.Rules}
variable {cfg : KisAuthConfig}

/-
  The URL has the code and the state, and all else that the
  registered one has.
-/
structure Receives
    (rules : Urls.Rules)
    (registered : Urls.Url)
    (code state : String)
    (url : Urls.Url) : Prop where
  code : valuesOf "code" (Urls.params rules url) = [code]
  state : valuesOf "state" (Urls.params rules url) = [state]
  others :
    (Urls.params rules url).filter
        (fun p => p.1 ≠ "code" && p.1 ≠ "state") =
      (Urls.params rules registered).filter
        (fun p => p.1 ≠ "code" && p.1 ≠ "state")
  base : url.base = registered.base
  fragment : url.fragment = registered.fragment

/- The redirect URI with both parameters set. -/
def targetUrl
    (rules : Urls.Rules)
    (registered : Urls.Url)
    (code state : String) : Urls.Url :=
  Urls.setSearchParam rules
    (Urls.setSearchParam rules registered "code" code)
    "state" state

theorem receives_targetUrl
    (registered : Urls.Url)
    (code state : String) :
    Receives rules registered code state
      (targetUrl rules registered code state) where
  code := by
    rw [targetUrl, Urls.params_setSearchParam,
      valuesOf_setParam_of_ne (by decide),
      Urls.params_setSearchParam, valuesOf_setParam]
  state := by
    rw [targetUrl, Urls.params_setSearchParam,
      valuesOf_setParam]
  others := by
    rw [targetUrl, Urls.params_setSearchParam,
      filter_setParam (by simp), Urls.params_setSearchParam,
      filter_setParam (by simp)]
  base := rfl
  fragment := rfl

/- A normal URL with a parameter set is read back. -/
theorem parse_href_set
    {url : Urls.Url}
    (hNormal : Urls.Normal rules.toBaseRules url)
    (name value : String) :
    Urls.parse rules.toBaseRules
        (Urls.href (Urls.setSearchParam rules url name value)) =
      some (Urls.setSearchParam rules url name value) :=
  Urls.parse_href (Urls.normal_setSearchParam hNormal name value)
    rfl

theorem target_reads_back
    {registered : Urls.Url}
    (hNormal : Urls.Normal rules.toBaseRules registered)
    (code state : String) :
    Urls.parse rules.toBaseRules
        (Urls.href (targetUrl rules registered code state)) =
      some (targetUrl rules registered code state) :=
  parse_href_set
    (Urls.normal_setSearchParam hNormal "code" code) _ _

/- It begins with a letter, as every base does. -/
theorem href_letter
    {url : Urls.Url}
    (hNormal : Urls.Normal rules.toBaseRules url) :
    ∃ c rest, Urls.href url = c :: rest ∧ c.isAlpha = true := by
  obtain ⟨⟨c, hHead, hLetter⟩, -⟩ :=
    rules.clean _ _ hNormal.base
  obtain ⟨rest, hBase⟩ := List.head?_eq_some_iff.mp hHead
  rw [Urls.href, hBase]
  exact ⟨c, _, rfl, hLetter⟩

end KisAuth

------------------------------------------------------------
-- The Redirect And The Page
------------------------------------------------------------

namespace KisAuth

open FormUrlencoded Interaction Markup

variable {P : Platform} {rules : Urls.Rules}
variable {cfg : KisAuthConfig}

/- The status page with an outcome and where to go on. -/
def statusUrl
    (rules : Urls.Rules)
    (status : Urls.Url)
    (outcome target : String) : Urls.Url :=
  Urls.setSearchParam rules
    (Urls.setSearchParam rules status "state" outcome)
    "client_redirect" target

/- What the server decodes of the request for it. -/
theorem statusQueryOf_statusUrl
    (status : Urls.Url)
    (outcome target : String) :
    statusQueryOf rules (statusUrl rules status outcome target) =
      ⟨some outcome, some target⟩ := by
  have hState :
      valuesOf "state"
          (Urls.params rules
            (statusUrl rules status outcome target)) =
        [outcome] := by
    rw [statusUrl, Urls.params_setSearchParam,
      valuesOf_setParam_of_ne (by decide),
      Urls.params_setSearchParam, valuesOf_setParam]
  have hTarget :
      valuesOf "client_redirect"
          (Urls.params rules
            (statusUrl rules status outcome target)) =
        [target] := by
    rw [statusUrl, Urls.params_setSearchParam,
      valuesOf_setParam]
  rw [statusQueryOf, lookup_eq_head, lookup_eq_head, hState,
    hTarget]
  rfl

/- A redirect to the status page goes on to the target. -/
theorem redirectToStatus_location
    {Q : Platform}
    {outcome redirectUri location : String}
    {parameters : List (String × String)}
    (hRedirect :
      redirectToStatus Q cfg outcome redirectUri parameters =
        .ret (.redirect location none)) :
    ∃ target,
      Q.parseUrl redirectUri = some target ∧
        statusRedirectUrl Q cfg outcome
            (Q.href (setSearchParams Q target parameters)) =
          some location := by
  unfold redirectToStatus at hRedirect
  cases hTarget : Q.parseUrl redirectUri with
  | none => simp [hTarget, orCrash, crash] at hRedirect
  | some target =>
      refine ⟨target, rfl, ?_⟩
      cases hLocation :
          statusRedirectUrl Q cfg outcome
            (Q.href (setSearchParams Q target parameters)) with
      | none =>
          simp [hTarget, hLocation, orCrash, crash] at hRedirect
      | some wrapped =>
          simp only [hTarget, hLocation, orCrash, Prog.bind_eq,
            Prog.bind_ret, Prog.pure_eq, Prog.ret.injEq,
            Response.redirect.injEq, and_true] at hRedirect
          rw [hRedirect]

/- The address of the status page with what it is told. -/
theorem statusRedirectUrl_location
    {outcome target location : String}
    (hLocation :
      statusRedirectUrl (P.withUrls rules) cfg outcome target =
        some location) :
    ∃ status,
      Urls.Normal rules.toBaseRules status ∧
        location =
          String.ofList
            (Urls.href
              (statusUrl rules status outcome target)) := by
  rcases Option.map_eq_some_iff.mp hLocation with
    ⟨status, hStatus, rfl⟩
  exact ⟨status, rules.resolve_normal _ _ _ hStatus, rfl⟩

/- The page for such a request links to the target. -/
theorem status_hands_off
    {outcome : String}
    {target : Urls.Url}
    (hOutcome : outcome ∉ inheritedNames)
    (hTarget :
      Urls.parse rules.toBaseRules (Urls.href target) =
        some target)
    (hSome : Urls.href target ≠ []) :
    ∃ page,
      WebController.status (P.withUrls rules)
          ⟨some outcome,
            some (String.ofList (Urls.href target))⟩ =
          .ret (.page page) ∧
        page.button =
          some (String.ofList (Urls.href target),
            "Return to KIS") ∧
        page.refresh =
          some (2, String.ofList (Urls.href target)) := by
  have hCopy :
      pageCopy (some outcome) =
        some (declaredCopy (some outcome)) := by
    apply pageCopy_eq_declaredCopy
    intro name hName hIs
    rw [Option.some.inj hIs] at hOutcome
    exact hOutcome hName
  have hText :
      truthyText (some (String.ofList (Urls.href target))) =
        some (String.ofList (Urls.href target)) := by
    rw [truthyText_eq_some_iff]
    refine ⟨rfl, fun hEmpty => hSome ?_⟩
    rw [← String.toList_ofList (l := Urls.href target), hEmpty]
    rfl
  have hHandOff :
      handOffOf (P.withUrls rules)
          (some (String.ofList (Urls.href target))) =
        some
          { url := String.ofList (Urls.href target)
            label := "Return to KIS" } := by
    have hParse :
        (P.withUrls rules).parseUrl
            (String.ofList (Urls.href target)) =
          some target := by
      have hUnfold :
          (P.withUrls rules).parseUrl
              (String.ofList (Urls.href target)) =
            Urls.parse rules.toBaseRules
              (String.ofList (Urls.href target)).toList :=
        rfl
      rw [hUnfold, String.toList_ofList, hTarget]
    rw [handOffOf, hText]
    simp only [hParse]
    rfl
  rw [status_eq, hCopy, hHandOff]
  exact ⟨_, rfl, rfl, rfl⟩

end KisAuth

------------------------------------------------------------
-- Following A Link
------------------------------------------------------------

namespace KisAuth

open Interaction Markup

theorem buttonHref_segments
    {page : Page}
    {url label : String}
    (baseUrl : String)
    (hButton : page.button = some (url, label)) :
    buttonHref (page.segments baseUrl) =
      some (escapeHtml url) := by
  simp only [buttonHref, Page.segments, hButton, returnButton,
    List.cons_append, List.append_assoc, List.nil_append]
  cases page.refresh with
  | none =>
      simp [refreshMeta, holeAfter]
  | some refresh =>
      simp [refreshMeta, holeAfter]

theorem refreshContent_segments
    {page : Page}
    {delay : Nat}
    {url : String}
    (baseUrl : String)
    (hRefresh : page.refresh = some (delay, url)) :
    refreshContent (page.segments baseUrl) =
      some (toString delay ++ ";url=" ++ escapeHtml url) := by
  simp [refreshContent, Page.segments, hRefresh, refreshMeta,
    holeAfter]

variable {P : Platform} {rules : Urls.Rules}
variable {cfg : KisAuthConfig}

/-
  The location is a page whose button and whose refresh tag
  both lead to the registered URL with exactly the code and
  the state set.
-/
def ReachesApp
    (P : Platform)
    (rules : Urls.Rules)
    (cfg : KisAuthConfig)
    (references : CharacterReferences)
    (registered : Urls.Url)
    (code state location : String) : Prop :=
  ∃ landed page href content target,
    Urls.parse rules.toBaseRules location.toList =
        some landed ∧
      WebController.status (P.withUrls rules)
          (statusQueryOf rules landed) =
        .ret (.page page) ∧
      buttonHref (page.segments cfg.baseUrl) = some href ∧
      refreshContent (page.segments cfg.baseUrl) =
        some content ∧
      refreshTarget (references.decode true content.toList) =
        some target ∧
      (∃ url,
        Urls.parse rules.toBaseRules
            (references.decode true href.toList) =
          some url ∧
        Receives rules registered code state url) ∧
      ∃ url,
        Urls.parse rules.toBaseRules target = some url ∧
          Receives rules registered code state url

theorem statusRedirectUrl_reachesApp
    {redirectUri outcome code state location : String}
    {registered : Urls.Url}
    (references : CharacterReferences)
    (hRegistered :
      Urls.parse rules.toBaseRules redirectUri.toList =
        some registered)
    (hOutcome : outcome ∉ inheritedNames)
    (hLocation :
      statusRedirectUrl (P.withUrls rules) cfg outcome
          (String.ofList
            (Urls.href
              (targetUrl rules registered code state))) =
        some location) :
    ReachesApp P rules cfg references registered code state
      location := by
  have hNormal := Urls.normal_parse hRegistered
  obtain ⟨status, hStatus, rfl⟩ :=
    statusRedirectUrl_location hLocation
  have hTarget := target_reads_back hNormal code state
  have hReceives :=
    @receives_targetUrl rules registered code state
  obtain ⟨first, rest, hHref, hLetter⟩ :=
    href_letter
      (Urls.normal_setSearchParam
        (Urls.normal_setSearchParam hNormal "code" code)
        "state" state)
  rw [← targetUrl] at hHref
  obtain ⟨page, hPage, hButton, hRefresh⟩ :=
    @status_hands_off P rules outcome
      (targetUrl rules registered code state) hOutcome
      hTarget (by simp [hHref])
  refine
    ⟨statusUrl rules status outcome
        (String.ofList
          (Urls.href (targetUrl rules registered code state))),
      page, _, _, first :: rest, ?_, ?_,
      buttonHref_segments cfg.baseUrl hButton,
      refreshContent_segments cfg.baseUrl hRefresh, ?_,
      ⟨_, ?_, hReceives⟩, _, ?_, hReceives⟩
  · rw [String.toList_ofList]
    exact
      parse_href_set
        (Urls.normal_setSearchParam hStatus "state" outcome)
        _ _
  · rw [statusQueryOf_statusUrl]
    exact hPage
  · have hBack :
        (String.ofList
            (Urls.href
              (targetUrl rules registered code state))).toList =
          first :: rest := by
      rw [String.toList_ofList, hHref]
    rw [decode_refresh, hBack]
    exact refreshTarget_delay 2 hLetter rest
  · rw [decode_escapeHtml, String.toList_ofList]
    exact hTarget
  · rw [← hHref]
    exact hTarget

/-
  After the callback has redirected, the browser asks for a
  page whose button and whose refresh tag both lead to the
  registered URL with exactly the code and the state set.
-/
theorem app_receives_code_and_state
    {redirectUri outcome code state location : String}
    {registered : Urls.Url}
    (references : CharacterReferences)
    (hRegistered :
      Urls.parse rules.toBaseRules redirectUri.toList =
        some registered)
    (hOutcome : outcome ∉ inheritedNames)
    (hRedirect :
      redirectToStatus (P.withUrls rules) cfg outcome
          redirectUri [("code", code), ("state", state)] =
        .ret (.redirect location none)) :
    ∃ landed page href content target,
      Urls.parse rules.toBaseRules location.toList =
          some landed ∧
        WebController.status (P.withUrls rules)
            (statusQueryOf rules landed) =
          .ret (.page page) ∧
        buttonHref (page.segments cfg.baseUrl) = some href ∧
        refreshContent (page.segments cfg.baseUrl) =
          some content ∧
        refreshTarget (references.decode true content.toList) =
          some target ∧
        (∃ url,
          Urls.parse rules.toBaseRules
              (references.decode true href.toList) =
            some url ∧
          Receives rules registered code state url) ∧
        ∃ url,
          Urls.parse rules.toBaseRules target = some url ∧
            Receives rules registered code state url := by
  obtain ⟨parsed, hParsed, hLocation⟩ :=
    redirectToStatus_location hRedirect
  obtain rfl : registered = parsed :=
    Option.some.inj (hRegistered.symm.trans hParsed)
  exact
    statusRedirectUrl_reachesApp references hRegistered
      hOutcome hLocation

/- No page of the status route has an inherited name. -/
theorem declared_not_inherited
    {state : String}
    (hState : state ∈ pageStates.map Prod.fst) :
    state ∉ inheritedNames := by
  revert state
  decide

/- The location leads to the target with no code set. -/
def TellsFailure
    (P : Platform)
    (cfg : KisAuthConfig)
    (target : P.Url)
    (location : String) : Prop :=
  ∃ state params,
    (∀ param ∈ params,
      param.1 ∈ ["error", "state", "provider_subject"]) ∧
      statusRedirectUrl P cfg state
          (P.href (setSearchParams P target params)) =
        some location

/-
  In every run, a redirect of a callback tells the app of its
  session of a failure, or reaches it with the code or ticket
  that was stored and with the state of the session: that is
  what confirmAndRedirect and finalizeRegistration end with.
-/
theorem callbacks_reach_app
    {later earlier : History}
    {thread : Nat}
    {q : Request}
    {callback : Callback}
    {location : String}
    {cookie : Option String}
    (references : CharacterReferences)
    (run : Run (P.withUrls rules) cfg)
    (hSplit :
      run.history =
        later ++
          .respond thread (.ok (.redirect location cookie)) ::
            earlier)
    (hArrive : Entry.arrive thread q ∈ earlier)
    (hCallback : q.callback = some callback) :
    ∃ sessionId session registered,
      ReadsSession callback.req (answersOf thread earlier)
          sessionId session ∧
        Urls.parse rules.toBaseRules
            session.redirectUri.toList =
          some registered ∧
        (TellsFailure (P.withUrls rules) cfg registered
            location ∨
          ∃ code value ttl,
            value.isGrant ∧
              ⟨.redisSet (grantKey value code) value ttl,
                  .ok ()⟩ ∈
                answersOf thread earlier ∧
              ReachesApp P rules cfg references registered code
                session.clientState location) := by
  have hRecorded := run.recorded
  rw [hSplit] at hRecorded
  rcases redirect_handsOff hRecorded hArrive hCallback with
    ⟨sessionId, session, registered, state, params, hReads,
      hRegistered, hState, hDelivers, hLocation⟩
  refine
    ⟨sessionId, session, registered, hReads, hRegistered, ?_⟩
  cases hDelivers with
  | failure params hParams =>
      exact Or.inl ⟨state, params, hParams, hLocation⟩
  | grant code value ttl hGrant hStored =>
      right
      refine ⟨code, value, ttl, hGrant, hStored, ?_⟩
      exact
        statusRedirectUrl_reachesApp references hRegistered
          (declared_not_inherited hState) hLocation

/- A base that is clean and names a host is as it should be. -/
def plainBase (text : List Char) : Option (List Char) :=
  if Urls.CleanBase text ∧
      ((Urls.cutAt ':' text).2.map (List.take 2)) =
        some ['/', '/'] then
    some text
  else
    none

theorem plainBase_cases
    {text base : List Char}
    (hBase : plainBase text = some base) :
    Urls.CleanBase base ∧ plainBase base = some base := by
  have hSame : text = base ∧ Urls.CleanBase text := by
    rw [plainBase] at hBase
    split at hBase
    · rename_i hText
      exact ⟨Option.some.inj hBase, hText.1⟩
    · cases hBase
  obtain ⟨rfl, hClean⟩ := hSame
  exact ⟨hClean, hBase⟩

/- The path of such a base, after its host. -/
def plainPath (base : List Char) : List Char :=
  (((Urls.cutAt ':' base).2.getD []).drop 2).dropWhile
    (· ≠ '/')

def plainBases : Urls.BaseRules where
  parseBase := plainBase
  special := fun base => "http".toList.isPrefixOf base
  pathname := plainPath
  clean := fun _ _ hBase => (plainBase_cases hBase).1
  again := fun _ _ hBase => (plainBase_cases hBase).2

/- A path against a URL takes the place of its path. -/
def plainUrls : Urls.Rules where
  toBaseRules := plainBases
  reader := FormUrlencoded.Utf8Reader.lenient
  resolve := fun text against =>
    (plainBase
      (against.take
          (against.length - (plainPath against).length) ++
        text)).map
      (fun base => ⟨base, none, none⟩)
  resolve_normal := by
    intro text against url hUrl
    obtain ⟨base, hBase, rfl⟩ := Option.map_eq_some_iff.mp hUrl
    exact
      ⟨(plainBase_cases hBase).2, by simp, by simp⟩

/- A redirect to the status page, where both URLs parse. -/
theorem redirectToStatus_to
    {Q : Platform}
    {outcome redirectUri : String}
    {parameters : List (String × String)}
    {target status : Q.Url}
    (hTarget : Q.parseUrl redirectUri = some target)
    (hStatus : Q.parseUrlAt "/status" cfg.baseUrl = some status) :
    ∃ location,
      redirectToStatus Q cfg outcome redirectUri parameters =
        .ret (.redirect location none) := by
  unfold redirectToStatus statusRedirectUrl
  simp only [hTarget, hStatus, orCrash, Prog.bind_eq,
    Prog.bind_ret, Option.map_some, Prog.pure_eq]
  exact ⟨_, rfl⟩

/-
  A redirect URI with a parameter and a fragment, and a state
  with what each of the encodings gives a meaning.
-/
theorem app_receives_awkward_state :
    ∃ location landed page href content target,
      redirectToStatus (Platform.bare.withUrls plainUrls)
          testConfig "registration_continue"
          "https://app.example/cb?code=old&x=1#top"
          [("code", "t-1"), ("state", "a&b+c %\"é;#='")] =
        .ret (.redirect location none) ∧
      Urls.parse plainBases location.toList = some landed ∧
      WebController.status (Platform.bare.withUrls plainUrls)
          (statusQueryOf plainUrls landed) =
        .ret (.page page) ∧
      buttonHref (page.segments testConfig.baseUrl) =
        some href ∧
      refreshContent (page.segments testConfig.baseUrl) =
        some content ∧
      refreshTarget
          (CharacterReferences.basic.decode true
            content.toList) =
        some target ∧
      (∃ url,
        Urls.parse plainBases
            (CharacterReferences.basic.decode true
              href.toList) =
          some url ∧
        Receives plainUrls
          ⟨"https://app.example/cb".toList,
            some "code=old&x=1".toList, some "top".toList⟩
          "t-1" "a&b+c %\"é;#='" url) ∧
      ∃ url,
        Urls.parse plainBases target = some url ∧
          Receives plainUrls
            ⟨"https://app.example/cb".toList,
              some "code=old&x=1".toList, some "top".toList⟩
            "t-1" "a&b+c %\"é;#='" url := by
  have hRegistered :
      Urls.parse plainUrls.toBaseRules
          "https://app.example/cb?code=old&x=1#top".toList =
        some
          ⟨"https://app.example/cb".toList,
            some "code=old&x=1".toList, some "top".toList⟩ := by
    decide +kernel
  have hStatus :
      (Platform.bare.withUrls plainUrls).parseUrlAt "/status"
          testConfig.baseUrl =
        some
          ⟨"http://localhost:4100/status".toList, none,
            none⟩ := by
    have hResolved :
        plainUrls.resolve "/status".toList
            testConfig.baseUrl.toList =
          some
            ⟨"http://localhost:4100/status".toList, none,
              none⟩ := by
      decide +kernel
    exact hResolved
  obtain ⟨location, hRedirect⟩ :=
    @redirectToStatus_to testConfig
      (Platform.bare.withUrls plainUrls)
      "registration_continue"
      "https://app.example/cb?code=old&x=1#top"
      [("code", "t-1"), ("state", "a&b+c %\"é;#='")] _ _
      hRegistered hStatus
  obtain ⟨landed, page, href, content, target, hAll⟩ :=
    app_receives_code_and_state CharacterReferences.basic
      hRegistered (by decide) hRedirect
  exact
    ⟨location, landed, page, href, content, target,
      hRedirect, hAll⟩

end KisAuth
