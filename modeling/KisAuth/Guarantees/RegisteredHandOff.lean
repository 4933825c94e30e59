import KisAuth.Guarantees.SessionCompletion
import KisAuth.Provenance.Tenants

/-
  Where the service sends browsers.

  A redirect stays on the site, or goes to the authorization
  endpoint of Google or of the session's tenant. A callback
  names a registered redirect URI to the status page. But
  the status page hands off to whatever complete URL it is
  asked for.

  Key definitions include:
    * `ToClient`, `ToEndpoint`, `Permitted`
    * `SentOnly`, `StatusPermitted`

  Key theorems include:
    * `callback_names_client`
    * `sent_only_iff`, `sent_anywhere`
-/

------------------------------------------------------------
-- Permitted Targets
------------------------------------------------------------

namespace KisAuth

open Interaction

/-
  The text is an absolute path of a site. A second slash
  would start a host, and so would what a browser reads as
  one or leaves out.
-/
def isSitePath (path : String) : Bool :=
  match path.toList with
  | ['/'] => true
  | '/' :: c :: _ =>
      !(['/', '\\', '\t', '\n', '\r'].contains c)
  | _ => false

variable (P : Platform) (cfg : KisAuthConfig)

/- The target is a page of the service itself. -/
def OnSite (location : String) : Prop :=
  isSitePath location = true ∨
    ∃ path url params,
      isSitePath path = true ∧
        P.parseUrlAt path cfg.baseUrl = some url ∧
        location = P.href (setSearchParams P url params)

/- The target is Google's authorization endpoint. -/
def ToGoogle (location : String) : Prop :=
  ∃ url params,
    P.parseUrl googleAuthUrl = some url ∧
      location = P.href (setSearchParams P url params)

/-
  The target is the authorization endpoint of the tenant of
  the session that the thread's own request read. It is from
  the discovery document that the tenant's configuration
  names, and both are what the request resolved, as they
  were fetched for the tenant.
-/
def ToEndpoint
    (history : History)
    (thread : Nat)
    (location : String) : Prop :=
  ∃ partnerSlug req sessionId session config doc fetcher
      fetcher' url params,
    Entry.arrive thread (.enterpriseStart partnerSlug req) ∈
        history ∧
      ReadsSession req (answersOf thread history) sessionId
        session ∧
      (∃ minter query created,
        Minted P cfg history minter query sessionId created ∧
          SameSession session created) ∧
      session.partnerSlug = some partnerSlug ∧
      ConfigResolved P cfg (answersOf thread history)
        partnerSlug config ∧
      ConfigFetched P cfg (answersOf fetcher history)
        partnerSlug config ∧
      DocResolved (answersOf thread history)
        config.discoveryUrl doc ∧
      DocFetched (answersOf fetcher' history)
        config.discoveryUrl doc ∧
      P.parseUrl doc.authorizationEndpoint = some url ∧
      location = P.href (setSearchParams P url params)

/-
  The target is a redirect URI with parameters set for the
  client. When a session for it was created, the URI was
  registered for an active client.
-/
def ToClient
    (history : History)
    (location : String) : Prop :=
  ∃ minter query sessionId created client target params,
    Minted P cfg history minter query sessionId created ∧
      Entry.answer minter
          ⟨.selectClient created.clientId,
            .ok (some client)⟩ ∈ history ∧
      client.status = .active ∧
      created.redirectUri ∈ client.allowedRedirectUris ∧
      P.parseUrl created.redirectUri = some target ∧
      (∀ param ∈ params, param.1 ∈ clientParams) ∧
      location = P.href (setSearchParams P target params)

/- What the request of a thread may send its browser to. -/
def Permitted
    (history : History)
    (thread : Nat)
    (location : String) : Prop :=
  OnSite P cfg location ∨ ToGoogle P location ∨
    ToEndpoint P cfg history thread location ∨
    ToClient P cfg history location

/- The URLs a response sends the browser to. -/
def Response.targets : Response → List String
| .redirect location _ => [location]
| .page shown => shown.targets
| _ => []

/- A response sends the browser to permitted targets only. -/
def SentOnly
    (entry : ServiceEntry)
    (earlier : History) : Prop :=
  ∀ thread response,
    entry = .respond thread (.ok response) →
      ∀ location ∈ response.targets,
        Permitted P cfg earlier thread location

/-
  A request for a status page that there is names no URL, or
  a permitted one.
-/
def StatusPermitted
    (entry : ServiceEntry)
    (earlier : History) : Prop :=
  ∀ thread outcome query url,
    entry = .respond thread outcome →
      Entry.arrive thread (.status query) ∈ earlier →
        (pageCopy query.state).isSome = true →
          Request.handOff P (.status query) = some url →
            Permitted P cfg earlier thread (P.href url)

end KisAuth

------------------------------------------------------------
-- Redirects
------------------------------------------------------------

namespace KisAuth

open Interaction Store

variable {P : Platform} {cfg : KisAuthConfig}
variable {history : History}
variable {thread : Nat} {req : BrowserRequest}
variable {location : String}

theorem startLocation_onSite
    (partnerSlug : Option String) :
    isSitePath (OAuthController.startLocation partnerSlug) =
      true := by
  unfold OAuthController.startLocation
  cases truthyText partnerSlug with
  | none => decide
  | some slug => simp [isSitePath]

/- The session of a hand-off was approved for its client. -/
theorem toClient_of_session
    {sessionId : String}
    {session : OAuthSession}
    {target : P.Url}
    {params : List (String × String)}
    (hRecorded : Recorded P cfg history)
    (hReads :
      ReadsSession req (answersOf thread history) sessionId
        session)
    (hTarget : P.parseUrl session.redirectUri = some target)
    (hParams : ∀ param ∈ params, param.1 ∈ clientParams) :
    ToClient P cfg history
      (P.href (setSearchParams P target params)) := by
  rcases session_read_origin hRecorded
      (mem_of_past hReads.read) with
    ⟨minter, query, created, hMinted, hSame⟩
  have hUri := hSame.fields.2.1
  have hAgain := hMinted
  rcases hAgain.position with
    ⟨later, earlier, ttl, other, hSplit, _, hCreated⟩
  rcases hCreated.approved with
    ⟨client, hSelect, hAllowed, _⟩
  unfold isRedirectUriAllowed at hAllowed
  simp only [Bool.and_eq_true, decide_eq_true_eq,
    List.contains_iff_mem] at hAllowed
  refine
    ⟨minter, query, sessionId, created, client, target,
      params, hMinted, ?_, hAllowed.1, hAllowed.2, ?_,
      hParams, rfl⟩
  · rw [hSplit]
    exact List.mem_append_right _
      (List.mem_cons_of_mem _ (mem_of_past hSelect))
  · rw [← hUri]
    exact hTarget

/- What a callback's redirect names to the status page. -/
theorem handsOff_client
    (hRecorded : Recorded P cfg history)
    (hHandsOff :
      HandsOff P cfg req (answersOf thread history)
        location) :
    ∃ state clientTarget,
      statusRedirectUrl P cfg state clientTarget =
          some location ∧
        ToClient P cfg history clientTarget := by
  rcases hHandsOff with
    ⟨sessionId, session, target, state, params, hReads,
      hTarget, _, hParams, hLocation⟩
  exact
    ⟨state, _, hLocation,
      toClient_of_session hRecorded hReads hTarget
        hParams.params⟩

theorem statusRedirectUrl_onSite
    {state clientTarget : String}
    (hLocation :
      statusRedirectUrl P cfg state clientTarget =
        some location) :
    OnSite P cfg location := by
  unfold statusRedirectUrl at hLocation
  rcases Option.map_eq_some_iff.mp hLocation with
    ⟨url, hUrl, rfl⟩
  exact Or.inr ⟨"/status", url, _, by decide, hUrl, rfl⟩

/- Every redirect of a route goes to a permitted target. -/
theorem sentTo_permitted
    {q : Request}
    (hRecorded : Recorded P cfg history)
    (hArrive : Entry.arrive thread q ∈ history)
    (hSent :
      SentTo P cfg (answersOf thread history) location q) :
    Permitted P cfg history thread location := by
  have hHandOff :
      ∀ {browser : BrowserRequest},
        HandsOff P cfg browser (answersOf thread history)
            location →
          Permitted P cfg history thread location := by
    intro browser hHandsOff
    rcases handsOff_client hRecorded hHandsOff with
      ⟨state, clientTarget, hLocation, _⟩
    exact Or.inl (statusRedirectUrl_onSite hLocation)
  cases q with
  | authorize query browser =>
      have hStart :
          location =
            OAuthController.startLocation
              query.partnerSlug := hSent
      left
      left
      rw [hStart]
      exact startLocation_onSite query.partnerSlug
  | googleStart browser => exact Or.inr (Or.inl hSent)
  | enterpriseStart partnerSlug browser =>
      rcases hSent with
        ⟨sessionId, session, config, doc, url, params, hReads,
          hSlug, hConfig, hDoc, hUrl, hLocation⟩
      rcases session_read_origin hRecorded
          (mem_of_past hReads.read) with
        ⟨minter, query, created, hMinted, hSame⟩
      rcases config_origin hRecorded hConfig with
        ⟨fetcher, hFetched⟩
      rcases doc_origin hRecorded hDoc with
        ⟨fetcher', hFetched'⟩
      right
      right
      left
      exact
        ⟨partnerSlug, browser, sessionId, session, config,
          doc, fetcher, fetcher', url, params, hArrive,
          hReads, ⟨minter, query, created, hMinted, hSame⟩,
          hSlug, hConfig, hFetched, hDoc, hFetched', hUrl,
          hLocation⟩
  | googleCallback query browser => exact hHandOff hSent
  | enterpriseCallback partnerSlug query browser =>
      exact hHandOff hSent
  | authorizationExchange post => exact absurd hSent id
  | registrationExchange post => exact absurd hSent id
  | identityLink post => exact absurd hSent id
  | status query => exact absurd hSent id
  | welcome => exact absurd hSent id
  | jwks => exact absurd hSent id
  | healthz => exact absurd hSent id
  | readyz => exact absurd hSent id

end KisAuth

------------------------------------------------------------
-- The Status Page
------------------------------------------------------------

namespace KisAuth

open Interaction Store Prog

variable {P : Platform} {cfg : KisAuthConfig}

/- A status page is answered exactly when there is one. -/
def StatusOutcome
    (query : StatusQuery) :
    Except HttpError Response → Prop
| .ok response =>
    (pageCopy query.state).isSome = true ∧
      ∃ page, response = .page page
| .error _ => pageCopy query.state = none

theorem Recorded.status_outcome
    {later earlier : History}
    {thread : Nat}
    {query : StatusQuery}
    {outcome : Except HttpError Response}
    (hRecorded :
      Recorded P cfg
        (later ++ .respond thread outcome :: earlier))
    (hArrive : Entry.arrive thread (.status query) ∈ earlier) :
    StatusOutcome query outcome := by
  have hObeys :
      Obeys (fun _ _ => True)
        (fun _ outcome => StatusOutcome query outcome)
        (handler P cfg (.status query)) [] := by
    unfold handler WebController.status
    apply Obeys.andThen
    cases hCopy : pageCopy query.state with
    | none => exact hCopy
    | some copy => exact ⟨by rw [hCopy]; rfl, _, rfl⟩
  rcases hRecorded.conforms.split.1 with
    ⟨_, served, hServed, hReaches⟩
  have hSame :=
    hRecorded.drop.tail.request_unique hArrive hServed
  subst hSame
  exact hObeys.final_of_reaches hReaches

end KisAuth

------------------------------------------------------------
-- Every Response
------------------------------------------------------------

namespace KisAuth

open Interaction

variable {P : Platform} {cfg : KisAuthConfig}

/-
  What a callback names to the status page is a registered
  redirect URI with parameters set.
-/
theorem callback_names_client
    (run : Run P cfg) :
    Always
      (fun entry earlier =>
        ∀ thread q callback location setCookie,
          entry =
              .respond thread
                (.ok (.redirect location setCookie)) →
            Entry.arrive thread q ∈ earlier →
              q.callback = some callback →
                ∃ state clientTarget,
                  statusRedirectUrl P cfg state
                        clientTarget =
                      some location ∧
                    ToClient P cfg earlier clientTarget)
      run.history := by
  apply run.recorded.always
  intro later entry earlier hRecorded thread q callback
    location setCookie hEntry hArrive hCallback
  subst hEntry
  have hEarlier : Recorded P cfg earlier :=
    hRecorded.drop.tail
  rcases hRecorded.ended_of_arrive (List.mem_append_right _
      (List.mem_cons_of_mem _ hArrive)) with
    ⟨_, _, hSent⟩
  cases q with
  | googleCallback query browser =>
      exact handsOff_client hEarlier hSent
  | enterpriseCallback partnerSlug query browser =>
      exact handsOff_client hEarlier hSent
  | _ => simp [Request.callback] at hCallback

variable {later earlier : History}
variable {entry : ServiceEntry}

/- The status page sends the browser where it is asked to. -/
theorem statusPermitted_of_sentOnly
    (hRecorded : Recorded P cfg (later ++ entry :: earlier))
    (hSent : SentOnly P cfg entry earlier) :
    StatusPermitted P cfg entry earlier := by
  intro thread outcome query url hEntry hArrive hCopy hHandOff
  subst hEntry
  rcases hRecorded.ended_of_arrive (List.mem_append_right _
      (List.mem_cons_of_mem _ hArrive)) with
    ⟨_, hOutcome⟩
  have hStatus := hRecorded.status_outcome hArrive
  cases outcome with
  | error error =>
      have hNone : pageCopy query.state = none := hStatus
      rw [hNone] at hCopy
      simp at hCopy
  | ok response =>
      rcases hStatus with ⟨_, page, rfl⟩
      have hTargets := hOutcome.2
      simp only [Answered, hHandOff] at hTargets
      apply hSent thread (.page page) rfl
      have hMem : P.href url ∈ page.targets := by
        rw [hTargets]
        exact List.mem_cons_self
      exact hMem

/- Only the status page can send it anywhere else. -/
theorem sentOnly_of_statusPermitted
    (hRecorded : Recorded P cfg (later ++ entry :: earlier))
    (hPermitted : StatusPermitted P cfg entry earlier) :
    SentOnly P cfg entry earlier := by
  intro thread response hEntry location hLocation
  subst hEntry
  rcases hRecorded.ended with
    ⟨q, hEarlier, hArrive, _, hAnswered⟩
  cases response with
  | redirect target setCookie =>
      have hTarget : location = target := by
        simpa [Response.targets] using hLocation
      subst hTarget
      exact sentTo_permitted hEarlier hArrive hAnswered
  | page page =>
      have hTargets :
          location ∈ page.targets := hLocation
      simp only [Answered] at hAnswered
      rw [hAnswered] at hTargets
      cases hHandOff : q.handOff P with
      | none => simp [hHandOff] at hTargets
      | some url =>
          have hHref : location = P.href url := by
            simpa [hHandOff] using hTargets
          rw [hHref]
          cases q with
          | status query =>
              exact hPermitted thread _ query url rfl hArrive
                (hRecorded.status_outcome hArrive).1 hHandOff
          | _ => simp [Request.handOff] at hHandOff
  | token token => simp [Response.targets] at hLocation
  | linked identityId =>
      simp [Response.targets] at hLocation
  | data => simp [Response.targets] at hLocation

/-
  A response sends the browser to permitted targets only,
  exactly when it is no status page that was asked for
  another one.
-/
theorem sent_only_iff
    (run : Run P cfg) :
    Always
      (fun entry earlier =>
        SentOnly P cfg entry earlier ↔
          StatusPermitted P cfg entry earlier)
      run.history := by
  apply run.recorded.always
  intro later entry earlier hRecorded
  constructor
  · exact statusPermitted_of_sentOnly hRecorded
  · exact sentOnly_of_statusPermitted hRecorded

end KisAuth

------------------------------------------------------------
-- Anyone's Page
------------------------------------------------------------

namespace KisAuth

open Interaction

/- Setting parameters keeps the start of a URL. -/
theorem setSearchParams_prefix
    (url : String)
    (params : List (String × String)) :
    url.toList <+:
      (setSearchParams flowPlatform url params : String).toList :=
    by
  induction params generalizing url with
  | nil => exact List.prefix_rfl
  | cons param params ih =>
      have hSet :
          url.toList <+:
            (appendParam url param.1 param.2).toList := by
        simp [appendParam, List.append_assoc]
      exact hSet.trans (ih _)

/- A link to the status page that names a foreign site. -/
def foreignQuery : StatusQuery where
  state := none
  clientRedirect := some "https://evil.test/"

def foreignActions : FlowActions :=
  [.arrive (.status foreignQuery), .run 0 .none]

/- The page that is shown. -/
def foreignPage : Page :=
  renderPage
    { invalidRequestPage with
      returnTo :=
        some
          { url := "https://evil.test/"
            label := "Return to KIS" } }

theorem foreign_history :
    (flowRun foreignActions).map (fun state => state.history) =
      some
        [.respond 0 (.ok (.page foreignPage)),
          .arrive 0 (.status foreignQuery)] := by
  rfl

/- A URL that begins differently was not made from another. -/
theorem foreign_of_prefix
    {url location : String}
    {params : List (String × String)}
    (hForeign : ¬url.toList <+: "https://evil.test/".toList)
    (hLocation :
      location =
        flowPlatform.href
          (setSearchParams flowPlatform url params)) :
    location ≠ "https://evil.test/" := by
  intro hEvil
  apply hForeign
  rw [← hEvil, hLocation]
  exact setSearchParams_prefix url params

/- No page of the site and no known endpoint is meant. -/
theorem foreign_not_permitted :
    ¬Permitted flowPlatform testConfig
      [.arrive 0 (.status foreignQuery)] 0
      "https://evil.test/" := by
  have hNoSession :
      ∀ {minter query sessionId created},
        ¬Minted flowPlatform testConfig
          [.arrive 0 (.status foreignQuery)] minter query
            sessionId created := by
    intro minter query sessionId created hMinted
    rcases hMinted.position with
      ⟨later, earlier, ttl, other, hSplit, _⟩
    have hMem :
        Entry.answer minter
            ⟨.redisSet (sessionKey sessionId)
              (.session created) ttl, .ok ()⟩ ∈
          later ++
            .answer minter
                ⟨.redisSet (sessionKey sessionId)
                  (.session created) ttl, .ok ()⟩ ::
              earlier :=
      List.mem_append_right _ List.mem_cons_self
    rw [← hSplit] at hMem
    simp at hMem
  rintro (hSite | hGoogle | hEndpoint | hClient)
  · rcases hSite with hPath | hBase
    · revert hPath
      decide
    · rcases hBase with
        ⟨path, url, params, _, hUrl, hLocation⟩
      have hJoined : testConfig.baseUrl ++ path = url :=
        Option.some.inj hUrl
      refine foreign_of_prefix ?_ hLocation rfl
      intro hPrefix
      rw [← hJoined, String.toList_append] at hPrefix
      have hBasePrefix :=
        (List.prefix_append _ _).trans hPrefix
      revert hBasePrefix
      decide
  · rcases hGoogle with ⟨url, params, hUrl, hLocation⟩
    have hSame : googleAuthUrl = url := Option.some.inj hUrl
    subst hSame
    exact foreign_of_prefix (by decide) hLocation rfl
  · rcases hEndpoint with
      ⟨partnerSlug, req, sessionId, session, config, doc,
        fetcher, fetcher', url, params, _, _,
        ⟨minter, query, created, hMinted, _⟩, _⟩
    exact hNoSession hMinted
  · rcases hClient with
      ⟨minter, query, sessionId, created, client, target,
        params, hMinted, _⟩
    exact hNoSession hMinted

/- The status page sends the browser there all the same. -/
theorem sent_anywhere :
    ∃ run : Run flowPlatform testConfig,
      ¬Always (SentOnly flowPlatform testConfig)
        run.history := by
  rcases Option.map_eq_some_iff.mp foreign_history with
    ⟨state, hRun, hHistory⟩
  refine ⟨⟨flowClients, state, Reachable.of_run hRun⟩, ?_⟩
  intro hAlways
  unfold Run.history at hAlways
  rw [hHistory] at hAlways
  apply foreign_not_permitted
  apply hAlways.1 0 (.page foreignPage) rfl
  decide

end KisAuth
