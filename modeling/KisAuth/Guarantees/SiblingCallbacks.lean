import KisAuth.Guarantees.SessionCompletion
import KisAuth.Guarantees.SiblingWorlds
import KisAuth.OAuth.ProviderCalls

/-
  The callback of a tenant does what the Google callback
  does, under the renaming.

  Both are one callback with parameters, around what they
  ask the provider. That is compared by what it tells only:
  a failure, or an identity.

  Key definitions include:
    * `Sibling`, `googleCallback`, `tenantCallback`
    * `RenamedCode`, `SameResponse`, `CallbackRun`

  Key theorems include:
    * `googleCallback_program`, `tenantCallback_program`
    * `renamed_enter`, `renamed_finish`
    * `googleCallback_told`, `tenantCallback_told`
    * `callbacks_agree`
-/

------------------------------------------------------------
-- One Callback
------------------------------------------------------------

namespace KisAuth

open Interaction

/- What tells the two callbacks apart. -/
structure Sibling where
  policy : RateLimitPolicy
  serves : OAuthSession → Bool
  metadata : List (String × JsValue)
  provider : String
  subject : String → String
  registrationPurpose : String
  partnerSlug : Option String

def googleSibling : Sibling where
  policy := RateLimits.oauthGoogleCallback
  serves := fun _ => true
  metadata := []
  provider := "google"
  subject := id
  registrationPurpose := "registration"
  partnerSlug := none

def tenantSibling (slug : String) : Sibling where
  policy := RateLimits.oauthEnterpriseCallback
  serves := fun session =>
    decide (session.partnerSlug = some slug)
  metadata := OidcEnterpriseController.tenantMetadata slug
  provider := oidcProvider
  subject := compositeOidcSubject slug
  registrationPurpose := "enterprise_sso_registration"
  partnerSlug := some slug

/- A callback the provider is asked about. -/
structure AcceptedCallback where
  sessionId : String
  session : OAuthSession
  code : String
  codeVerifier : String

variable (P : Platform) (cfg : KisAuthConfig)

/- What a callback does with the session it found. -/
def enterSession
    (sibling : Sibling)
    (query : CallbackQuery)
    (req : BrowserRequest) :
    Option (String × OAuthSession) →
      KisM (Response ⊕ AcceptedCallback)
| none => badRequest
| some (sessionId, session) =>
    match truthyText query.error with
    | some error =>
        if sibling.serves session = true ∧
            query.state = some session.state then do
          let response ←
            cancelCallback P cfg sessionId session error
              req.ip sibling.metadata
          return .inl response
        else
          badRequest
    | none =>
        match acceptedCode query session with
        | none => badRequest
        | some (code, codeVerifier) =>
            if sibling.serves session = true then
              return .inr {
                sessionId := sessionId
                session := session
                code := code
                codeVerifier := codeVerifier }
            else
              badRequest

/- Up to where the provider is asked. -/
def enterCallback
    (sibling : Sibling)
    (query : CallbackQuery)
    (req : BrowserRequest) :
    KisM (Response ⊕ AcceptedCallback) := do
  enforceRateLimit sibling.policy req.ip
  let sessionId ← sessionIdOf req
  let found ← sessionOf sessionId
  enterSession P cfg sibling query req found

/- From what the provider told. -/
def finishCallback
    (sibling : Sibling)
    (req : BrowserRequest)
    (asked : AcceptedCallback) :
    Except ProviderFailure VerifiedIdToken → KisM Response
| .error failure =>
    failCallback P cfg asked.sessionId asked.session failure
      req.ip sibling.metadata
| .ok identity =>
    finalizeIdentity P cfg
      { provider := sibling.provider
        verifiedIdentity :=
          { sub := sibling.subject identity.sub
            email := identity.email
            emailVerified := identity.emailVerified }
        session := asked.session
        sessionId := asked.sessionId
        ip := req.ip }
      sibling.registrationPurpose sibling.partnerSlug

/- A callback, with the provider asked in between. -/
abbrev ProviderCallback :=
  Consulting Eff Eff.Res HttpError AcceptedCallback
    (Except ProviderFailure VerifiedIdToken) Response

def googleCallback
    (query : CallbackQuery)
    (req : BrowserRequest) : ProviderCallback where
  enter := enterCallback P cfg googleSibling query req
  consult := fun asked =>
    OAuthController.verifiedIdentity cfg asked.code
      asked.codeVerifier asked.session.nonce
  finish := finishCallback P cfg googleSibling req

/- A tenant's provider is resolved first. -/
def tenantCallback
    (slug : String)
    (query : CallbackQuery)
    (req : BrowserRequest) : ProviderCallback where
  enter := enterCallback P cfg (tenantSibling slug) query req
  consult := fun asked => do
    let config ←
      OidcEnterpriseController.resolveOrFail P cfg slug
        asked.session.clientId asked.sessionId req.ip
    let doc ←
      OidcEnterpriseController.discoverOrFail slug
        config.discoveryUrl asked.session.clientId
        asked.sessionId req.ip
    OidcEnterpriseController.verifiedIdentity P cfg slug
      asked.code asked.codeVerifier asked.session.nonce config
      doc
  finish := finishCallback P cfg (tenantSibling slug) req

end KisAuth

------------------------------------------------------------
-- The Callbacks Of The Controllers
------------------------------------------------------------

namespace KisAuth

open Interaction

variable {P : Platform} {cfg : KisAuthConfig}

/- Entering, taken apart to where the session is found. -/
theorem program_of_enter
    (parts : ProviderCallback)
    (sibling : Sibling)
    (query : CallbackQuery)
    (req : BrowserRequest)
    (hEnter :
      parts.enter = enterCallback P cfg sibling query req) :
    parts.program =
      (enforceRateLimit sibling.policy req.ip).bind
        (fun _ =>
          (sessionIdOf req).bind (fun sessionId =>
            (sessionOf sessionId).bind (fun found =>
              (enterSession P cfg sibling query req
                found).bind parts.goOn))) := by
  unfold Consulting.program
  rw [hEnter]
  unfold enterCallback
  simp only [Prog.bind_eq, Prog.bind_assoc]

/- A cancelled callback returns what it returned. -/
theorem cancel_goOn
    (parts : ProviderCallback)
    (program : KisM Response) :
    (do
        let response ← program
        return Sum.inl response :
          KisM (Response ⊕ AcceptedCallback)).bind
        parts.goOn =
      program := by
  simp only [Prog.bind_eq, Prog.pure_eq, Prog.bind_assoc,
    Prog.bind_ret]
  exact Prog.bind_ret_right program

theorem googleCallback_program
    (query : CallbackQuery)
    (req : BrowserRequest) :
    (googleCallback P cfg query req).program =
      OAuthController.callback P cfg query req := by
  rw [program_of_enter _ googleSibling query req rfl]
  unfold OAuthController.callback
  simp only [Prog.bind_eq]
  congr 1
  funext _
  congr 1
  funext sessionId
  congr 1
  funext found
  cases found with
  | none => rfl
  | some found =>
      rcases found with ⟨sessionId, session⟩
      unfold enterSession
      cases hError : truthyText query.error with
      | some error =>
          by_cases hState :
              query.state = some session.state
          · simp only [googleSibling, true_and, if_pos hState]
            exact cancel_goOn _ _
          · simp only [googleSibling, true_and, if_neg hState]
            rfl
      | none =>
          cases hAccepted : acceptedCode query session with
          | none =>
              simp only [hAccepted]
              rfl
          | some accepted =>
              simp only [hAccepted, googleSibling, if_true]
              rfl

theorem tenantCallback_program
    (slug : String)
    (query : CallbackQuery)
    (req : BrowserRequest) :
    (tenantCallback P cfg slug query req).program =
      OidcEnterpriseController.callback P cfg slug query
        req := by
  rw [program_of_enter _ (tenantSibling slug) query req rfl]
  unfold OidcEnterpriseController.callback
  simp only [Prog.bind_eq]
  congr 1
  funext _
  congr 1
  funext sessionId
  congr 1
  funext found
  cases found with
  | none => rfl
  | some found =>
      rcases found with ⟨sessionId, session⟩
      unfold enterSession
      cases hError : truthyText query.error with
      | some error =>
          by_cases hState :
              session.partnerSlug = some slug ∧
                query.state = some session.state
          · simp only [tenantSibling, decide_eq_true_eq,
              if_pos hState]
            exact cancel_goOn _ _
          · simp only [tenantSibling, decide_eq_true_eq,
              if_neg hState]
            rfl
      | none =>
          cases hAccepted : acceptedCode query session with
          | none =>
              simp only [hAccepted]
              rfl
          | some accepted =>
              simp only [hAccepted]
              by_cases hServes :
                  session.partnerSlug = some slug
              · simp only [tenantSibling, decide_eq_true_eq,
                  if_pos hServes]
                show
                  Prog.bind
                      ((tenantCallback P cfg slug query
                        req).consult _)
                      (finishCallback P cfg _ req _) =
                    _
                unfold tenantCallback
                simp only [Prog.bind_eq, Prog.bind_assoc]
                rfl
              · simp only [tenantSibling, decide_eq_true_eq,
                  if_neg hServes]
                rfl

end KisAuth

------------------------------------------------------------
-- Alike Calls
------------------------------------------------------------

namespace KisAuth

open Interaction

variable {P : Platform} {cfg : KisAuthConfig}
variable {slug : String}
variable {req : BrowserRequest}
variable {α β : Type}

/- Code of the two callbacks, alike under the renaming. -/
abbrev RenamedCode
    (slug : String)
    (req : BrowserRequest)
    (ends : Except HttpError α → Except HttpError β → Prop) :
    KisM α → KisM β → Prop :=
  InStep (RenamedCall slug req) (RenamedAnswer slug req) ends

/- Code that ends alike, and what follows it. -/
theorem RenamedCode.andThen
    {α' β' : Type}
    {same : α → α' → Prop}
    {ends : Except HttpError β → Except HttpError β' → Prop}
    {first : KisM α}
    {first' : KisM α'}
    {next : α → KisM β}
    {next' : α' → KisM β'}
    (hFirst :
      RenamedCode slug req (SameResult same) first first')
    (hError : ∀ error, ends (.error error) (.error error))
    (hNext :
      ∀ value value',
        same value value' →
          RenamedCode slug req ends (next value)
            (next' value')) :
    RenamedCode slug req ends (first >>= next)
      (first' >>= next') := by
  apply InStep.andThen hFirst
  · intro value value' hSame
    cases hSame with
    | ok hValue => exact hNext value value' hValue
  · intro error error' hSame
    cases hSame with
    | error error => exact hError error

/- The same for code that ends equally. -/
theorem RenamedCode.andThenSame
    {β' : Type}
    {ends : Except HttpError β → Except HttpError β' → Prop}
    {first first' : KisM α}
    {next : α → KisM β}
    {next' : α → KisM β'}
    (hFirst :
      RenamedCode slug req (SameResult Eq) first first')
    (hError : ∀ error, ends (.error error) (.error error))
    (hNext :
      ∀ value,
        RenamedCode slug req ends (next value)
          (next' value)) :
    RenamedCode slug req ends (first >>= next)
      (first' >>= next') := by
  apply hFirst.andThen hError
  rintro value _ rfl
  exact hNext value

theorem renamed_set
    {family : KeyFamily}
    {value value' : RedisValue}
    (hSession : family ≠ .session)
    (hValue : RenamedValue slug value value')
    (id : String)
    (ttlSeconds : ℚ) :
    RenamedCode slug req (SameResult Eq)
      (Redis.set (storeKey family id) value ttlSeconds)
      (Redis.set (storeKey family id) value' ttlSeconds) := by
  refine
    ⟨.set family id value value' ttlSeconds hSession hValue,
      ?_⟩
  intro result result' hResult
  have hEq : result = result' := hResult
  subst hEq
  cases result with
  | ok done => exact .ok rfl
  | error error => exact .error _

theorem renamed_delete
    (sessionId : String) :
    RenamedCode slug req (SameResult Eq)
      (OAuthSessionStore.delete sessionId)
      (OAuthSessionStore.delete sessionId) :=
  ⟨.del .session sessionId, fun _ _ _ => .ok rfl⟩

theorem renamed_emit
    (event : SecurityEvent)
    (metadata : List (String × JsValue)) :
    RenamedCode slug req (SameResult Eq) (emit event)
      (emit { event with metadata := metadata }) :=
  ⟨.emit event metadata, fun _ _ _ => .ok rfl⟩

theorem renamed_randomId :
    RenamedCode slug req (SameResult Eq) randomId randomId :=
  ⟨.random, fun _ _ hEq => .ok hEq⟩

theorem renamed_rateLimit :
    RenamedCode slug req (SameResult Eq)
      (enforceRateLimit googleSibling.policy req.ip)
      (enforceRateLimit (tenantSibling slug).policy
        req.ip) := by
  refine ⟨.hit 60, ?_⟩
  intro hits hits' hAdmitted
  have hAlike :
      decide (hits ≤ googleSibling.policy.limit) =
        decide (hits' ≤ (tenantSibling slug).policy.limit) :=
    decide_eq_decide.mpr hAdmitted
  show
    RenamedCode slug req (SameResult Eq)
      (if decide (hits ≤ googleSibling.policy.limit) = true
        then .ret ()
        else .throw (.tooManyRequests rateLimitError))
      (if
          decide
              (hits' ≤ (tenantSibling slug).policy.limit) =
            true
        then .ret ()
        else .throw (.tooManyRequests rateLimitError))
  rw [hAlike]
  split
  · exact .ok rfl
  · exact .error _

end KisAuth

------------------------------------------------------------
-- Alike Stores
------------------------------------------------------------

namespace KisAuth

open Interaction

variable {P : Platform} {cfg : KisAuthConfig}
variable {slug : String}
variable {req : BrowserRequest}

/- Challenges are not renamed. -/
theorem asChallenge_renamed
    {found found' : Option RedisValue}
    (hFound : Option.Rel (RenamedValue slug) found found') :
    ChallengeStore.asChallenge found =
      ChallengeStore.asChallenge found' := by
  cases hFound with
  | none => rfl
  | some hValue =>
      cases hValue with
      | same value => rfl
      | session session => rfl
      | ticket ticket => rfl

theorem renamed_getChallenge
    (id : String) :
    RenamedCode slug req (SameResult Eq)
      (ChallengeStore.getChallenge id)
      (ChallengeStore.getChallenge id) := by
  refine ⟨.get .challenge id (by decide), ?_⟩
  intro found found' hFound
  exact .ok (asChallenge_renamed hFound.1)

theorem renamed_markChallengeUsed
    (id : String) :
    RenamedCode slug req (SameResult Eq)
      (ChallengeStore.markChallengeUsed id)
      (ChallengeStore.markChallengeUsed id) := by
  refine ⟨.get .challenge id (by decide), ?_⟩
  intro found found' hFound
  simp only [Prog.bind_ret]
  rw [asChallenge_renamed hFound.1]
  cases ChallengeStore.asChallenge found' with
  | none => exact .ok rfl
  | some record =>
      refine ⟨.ttl .challenge id (by decide), ?_⟩
      intro ttl ttl' hTtl
      have hEq : ttl = ttl' := hTtl
      subst hEq
      show
        RenamedCode slug req (SameResult Eq)
          (if ttl ≤ 0 then .ret () else _)
          (if ttl ≤ 0 then .ret () else _)
      split
      · exact .ok rfl
      · exact
          renamed_set (by decide) (.same _) id _

theorem renamed_createChallenge
    (id : String)
    (record : ChallengeRecord)
    (ttlSeconds : ℚ) :
    RenamedCode slug req (SameResult Eq)
      (ChallengeStore.createChallenge id record ttlSeconds)
      (ChallengeStore.createChallenge id record
        ttlSeconds) :=
  renamed_set (by decide) (.same _) id ttlSeconds

theorem renamed_issueAuthorizationCode
    (payload : AuthorizationCodePayload)
    (ttlSeconds : ℚ) :
    RenamedCode slug req (SameResult Eq)
      (ChallengeStore.issueAuthorizationCode payload
        ttlSeconds)
      (ChallengeStore.issueAuthorizationCode payload
        ttlSeconds) := by
  refine renamed_randomId.andThenSame (fun _ => .error _) ?_
  intro code
  refine
    RenamedCode.andThenSame ?_ (fun _ => .error _)
      (fun _ => .ok rfl)
  exact
    renamed_set (by decide) (.same _) code
      ttlSeconds

theorem renamed_issueRegistrationTicket
    (ticket : RegistrationTicketPayload)
    (ttlSeconds : ℚ) :
    RenamedCode slug req (SameResult Eq)
      (ChallengeStore.issueRegistrationTicket
        (googleTicket ticket) ttlSeconds)
      (ChallengeStore.issueRegistrationTicket
        (tenantTicket slug ticket) ttlSeconds) := by
  refine renamed_randomId.andThenSame (fun _ => .error _) ?_
  intro code
  refine
    RenamedCode.andThenSame ?_ (fun _ => .error _)
      (fun _ => .ok rfl)
  exact
    renamed_set (by decide) (.ticket ticket) code
      ttlSeconds

theorem renamed_find
    (subject : String) :
    RenamedCode slug req
      (SameResult (Option.Rel (RenamedIdentity slug)))
      (IdentityService.findByProviderSubject "google" subject)
      (IdentityService.findByProviderSubject oidcProvider
        (compositeOidcSubject slug subject)) := by
  refine ⟨.find subject, ?_⟩
  intro result result' hResult
  have hSame :
      SameResult (Option.Rel (RenamedIdentity slug)) result
        result' :=
    hResult
  cases hSame with
  | ok hFound => exact .ok hFound
  | error error => exact .error _

theorem renamed_touch
    (id : String) :
    RenamedCode slug req (SameResult Eq)
      (IdentityService.touchLastAuthenticated id)
      (IdentityService.touchLastAuthenticated id) := by
  refine ⟨.touch id, ?_⟩
  intro result result' hResult
  have hEq : result = result' := hResult
  subst hEq
  cases result with
  | ok done => exact .ok rfl
  | error error => exact .error _

end KisAuth

------------------------------------------------------------
-- Alike Links
------------------------------------------------------------

namespace KisAuth

open Interaction

variable {slug : String}
variable {req : BrowserRequest}

/- Both link, to renamed identities, or neither does. -/
inductive RenamedLink (slug : String) :
    LinkResult → LinkResult → Prop where
  | ok
      {identity identity' : AuthIdentity}
      (hSame : RenamedIdentity slug identity identity') :
      RenamedLink slug (.ok identity) (.ok identity')
  | alreadyLinked :
      RenamedLink slug .alreadyLinked .alreadyLinked

theorem renamed_link
    (args : NewIdentity) :
    RenamedCode slug req (SameResult (RenamedLink slug))
      (IdentityService.link (googleIdentity args))
      (IdentityService.link (tenantIdentity slug args)) := by
  refine
    (renamed_find args.providerSubject).andThen
      (fun _ => .error _) ?_
  intro found found' hFound
  cases hFound with
  | none =>
      refine ⟨.insert args, ?_⟩
      intro result result' hResult
      have hSame :
          SameResult (RenamedIdentity slug) result result' :=
        hResult
      cases hSame with
      | ok hIdentity => exact .ok (.ok hIdentity)
      | error error =>
          cases error with
          | uniqueViolation => exact .ok .alreadyLinked
          | invalidText => exact .error _
  | @some existing existing' hExisting =>
      dsimp only
      by_cases hUser :
          existing.kisUserId ≠ (googleIdentity args).kisUserId
      · have hUser' :
            existing'.kisUserId ≠
              (tenantIdentity slug args).kisUserId := by
          rw [hExisting.kisUserId_eq]
          exact hUser
        rw [if_pos hUser, if_pos hUser']
        exact .ok .alreadyLinked
      · have hUser' :
            ¬existing'.kisUserId ≠
              (tenantIdentity slug args).kisUserId := by
          rw [hExisting.kisUserId_eq]
          exact hUser
        rw [if_neg hUser, if_neg hUser', hExisting.id_eq]
        refine ⟨.update _ _ _, ?_⟩
        intro result result' hResult
        have hSame :
            SameResult (Option.Rel (RenamedIdentity slug))
              result result' :=
          hResult
        cases hSame with
        | ok hRow =>
            cases hRow with
            | some hIdentity => exact .ok (.ok hIdentity)
            | none => exact .error _
        | error error => exact .error _

end KisAuth

------------------------------------------------------------
-- Alike Responses
------------------------------------------------------------

namespace KisAuth

open Interaction

/- The redirect of a subject that is not linked. -/
def notLinkedRedirect
    (P : Platform)
    (cfg : KisAuthConfig)
    (redirectUri clientState subject : String) :
    KisM Response :=
  redirectToStatus P cfg "not_linked" redirectUri
    [("error", "not_linked"),
      ("provider_subject", subject),
      ("state", clientState)]

/- Equal responses, but for the subject one may name. -/
inductive SameResponse
    (P : Platform)
    (cfg : KisAuthConfig)
    (slug : String) :
    Except HttpError Response →
      Except HttpError Response → Prop where
  | same (outcome : Except HttpError Response) :
      SameResponse P cfg slug outcome outcome
  | notLinked
      (redirectUri clientState subject : String)
      (outcome outcome' : Except HttpError Response)
      (hGoogle :
        notLinkedRedirect P cfg redirectUri clientState
            subject =
          Prog.ofOutcome outcome)
      (hTenant :
        notLinkedRedirect P cfg redirectUri clientState
            (compositeOidcSubject slug subject) =
          Prog.ofOutcome outcome') :
      SameResponse P cfg slug outcome outcome'

variable {P : Platform} {cfg : KisAuthConfig}
variable {slug : String}
variable {req : BrowserRequest}

/- Whether a redirect fails depends on where it goes. -/
theorem redirectToStatus_ended
    (P : Platform)
    (cfg : KisAuthConfig)
    (redirectUri : String) :
    (∀ state params,
        redirectToStatus P cfg state redirectUri params =
          .throw .internal) ∨
      ∀ state params,
        ∃ response,
          redirectToStatus P cfg state redirectUri params =
            .ret response := by
  unfold redirectToStatus statusRedirectUrl
  cases P.parseUrl redirectUri with
  | none => exact Or.inl (fun _ _ => rfl)
  | some target =>
      cases P.parseUrlAt "/status" cfg.baseUrl with
      | none => exact Or.inl (fun _ _ => rfl)
      | some page => exact Or.inr (fun _ _ => ⟨_, rfl⟩)

theorem renamed_redirect
    (state redirectUri : String)
    (params : List (String × String)) :
    RenamedCode slug req (SameResponse P cfg slug)
      (redirectToStatus P cfg state redirectUri params)
      (redirectToStatus P cfg state redirectUri params) := by
  rcases redirectToStatus_ended P cfg redirectUri with
    hThrown | hReturned
  · rw [hThrown state params]
    exact .same _
  · rcases hReturned state params with ⟨response, hEq⟩
    rw [hEq]
    exact .same _

theorem renamed_notLinked
    (redirectUri clientState subject : String) :
    RenamedCode slug req (SameResponse P cfg slug)
      (notLinkedRedirect P cfg redirectUri clientState
        subject)
      (notLinkedRedirect P cfg redirectUri clientState
        (compositeOidcSubject slug subject)) := by
  rcases redirectToStatus_ended P cfg redirectUri with
    hThrown | hReturned
  · unfold notLinkedRedirect
    rw [hThrown, hThrown]
    exact .same _
  · rcases hReturned "not_linked" _ with ⟨response, hEq⟩
    rcases hReturned "not_linked" _ with ⟨response', hEq'⟩
    have hSame :
        SameResponse P cfg slug (.ok response)
          (.ok response') :=
      .notLinked redirectUri clientState subject _ _ hEq hEq'
    unfold notLinkedRedirect
    rw [hEq, hEq']
    exact hSame

end KisAuth

------------------------------------------------------------
-- Alike Outcomes
------------------------------------------------------------

namespace KisAuth

open Interaction

variable {P : Platform} {cfg : KisAuthConfig}
variable {slug : String}
variable {req : BrowserRequest}

theorem renamed_confirm
    (challengeId redirectUri clientState : String)
    (successState : String) :
    RenamedCode slug req (SameResponse P cfg slug)
      (OAuthOutcomeService.confirmAndRedirect P cfg
        challengeId redirectUri clientState successState)
      (OAuthOutcomeService.confirmAndRedirect P cfg
        challengeId redirectUri clientState
        successState) := by
  refine
    (renamed_getChallenge challengeId).andThenSame
      (fun _ => .same _) ?_
  intro record
  cases confirmedPayload record redirectUri with
  | none => exact .same _
  | some payload =>
      refine
        (renamed_markChallengeUsed challengeId).andThenSame
          (fun _ => .same _) ?_
      intro _
      refine
        (renamed_issueAuthorizationCode payload
          cfg.authCodeTtlSeconds).andThenSame
          (fun _ => .same _) ?_
      intro authCode
      exact renamed_redirect _ _ _

/- What the Google callback finalizes with. -/
def googleArgs (args : OutcomeArgs) : OutcomeArgs :=
  { args with provider := "google" }

/- The same of the tenant's. -/
def tenantArgs
    (slug : String)
    (args : OutcomeArgs) : OutcomeArgs :=
  { args with
    provider := oidcProvider
    verifiedIdentity :=
      { args.verifiedIdentity with
        sub :=
          compositeOidcSubject slug args.verifiedIdentity.sub }
    session :=
      { args.session with partnerSlug := some slug } }

theorem renamed_finalizeLink
    (args : OutcomeArgs) :
    RenamedCode slug req (SameResponse P cfg slug)
      (OAuthOutcomeService.finalizeLink P cfg
        (googleArgs args))
      (OAuthOutcomeService.finalizeLink P cfg
        (tenantArgs slug args)) := by
  unfold OAuthOutcomeService.finalizeLink
  dsimp only [googleArgs, tenantArgs]
  cases hUser : truthyText args.session.linkKisUserId with
  | none =>
      exact
        (renamed_delete args.sessionId).andThenSame
          (fun _ => .same _) (fun _ => SameResponse.same _)
  | some kisUserId =>
      refine
        (renamed_link
          { provider := "google"
            providerSubject := args.verifiedIdentity.sub
            kisUserId := kisUserId
            providerEmail := args.verifiedIdentity.email
            providerEmailVerified :=
              some args.verifiedIdentity.emailVerified }).andThen
          (fun _ => .same _) ?_
      intro result result' hResult
      refine
        (renamed_delete args.sessionId).andThenSame
          (fun _ => .same _) ?_
      intro _
      cases hResult with
      | alreadyLinked =>
          exact
            (renamed_emit _ _).andThenSame (fun _ => .same _)
              (fun _ => renamed_redirect _ _ _)
      | @ok identity identity' hIdentity =>
          refine
            (renamed_emit _ _).andThenSame
              (fun _ => .same _) ?_
          intro _
          refine
            renamed_randomId.andThenSame (fun _ => .same _) ?_
          intro challengeId
          rw [hIdentity.id_eq]
          exact
            (renamed_createChallenge _ _ _).andThenSame
              (fun _ => .same _)
              (fun _ => renamed_confirm _ _ _ _)

theorem renamed_finalizeRegistration
    {identity identity' : Option AuthIdentity}
    (args : OutcomeArgs)
    (hIdentity :
      Option.Rel (RenamedIdentity slug) identity identity') :
    RenamedCode slug req (SameResponse P cfg slug)
      (OAuthOutcomeService.finalizeRegistration P cfg
        (googleArgs args) identity "registration" none)
      (OAuthOutcomeService.finalizeRegistration P cfg
        (tenantArgs slug args) identity'
        "enterprise_sso_registration" (some slug)) := by
  unfold OAuthOutcomeService.finalizeRegistration
  refine
    (renamed_delete args.sessionId).andThenSame
      (fun _ => .same _) ?_
  intro _
  cases hIdentity with
  | @some identity identity' hSame =>
      dsimp only
      rw [hSame.kisUserId_eq]
      exact
        (renamed_emit _ _).andThenSame (fun _ => .same _)
          (fun _ => renamed_redirect _ _ _)
  | none =>
      refine
        (renamed_issueRegistrationTicket
          { clientId := args.session.clientId
            purpose := "registration"
            provider := "google"
            providerSubject := args.verifiedIdentity.sub
            providerEmail := args.verifiedIdentity.email
            providerEmailVerified :=
              args.verifiedIdentity.emailVerified
            partnerSlug := none
            redirectUri := args.session.redirectUri }
          cfg.authCodeTtlSeconds).andThenSame
          (fun _ => .same _) ?_
      intro ticket
      exact
        (renamed_emit _ _).andThenSame (fun _ => .same _)
          (fun _ => renamed_redirect _ _ _)

theorem renamed_finalizeReturningUser
    {identity identity' : Option AuthIdentity}
    (args : OutcomeArgs)
    (hIdentity :
      Option.Rel (RenamedIdentity slug) identity identity') :
    RenamedCode slug req (SameResponse P cfg slug)
      (OAuthOutcomeService.finalizeReturningUser P cfg
        (googleArgs args) identity)
      (OAuthOutcomeService.finalizeReturningUser P cfg
        (tenantArgs slug args) identity') := by
  unfold OAuthOutcomeService.finalizeReturningUser
  cases hIdentity with
  | none =>
      refine
        (renamed_delete args.sessionId).andThenSame
          (fun _ => .same _) ?_
      intro _
      exact
        (renamed_emit _ _).andThenSame (fun _ => .same _)
          (fun _ => renamed_notLinked _ _ _)
  | @some identity identity' hSame =>
      dsimp only
      rw [hSame.kisUserId_eq, hSame.id_eq]
      refine
        (renamed_touch identity.id).andThenSame
          (fun _ => .same _) ?_
      intro _
      refine
        (renamed_emit _ _).andThenSame (fun _ => .same _) ?_
      intro _
      refine
        renamed_randomId.andThenSame (fun _ => .same _) ?_
      intro challengeId
      refine
        (renamed_createChallenge _ _ _).andThenSame
          (fun _ => .same _) ?_
      intro _
      exact
        (renamed_delete args.sessionId).andThenSame
          (fun _ => .same _)
          (fun _ => renamed_confirm _ _ _ _)

end KisAuth

------------------------------------------------------------
-- Alike Callbacks
------------------------------------------------------------

namespace KisAuth

open Interaction

variable {P : Platform} {cfg : KisAuthConfig}
variable {slug : String}
variable {req : BrowserRequest}

theorem renamed_finalizeIdentity
    (args : OutcomeArgs) :
    RenamedCode slug req (SameResponse P cfg slug)
      (finalizeIdentity P cfg (googleArgs args)
        "registration" none)
      (finalizeIdentity P cfg (tenantArgs slug args)
        "enterprise_sso_registration" (some slug)) := by
  have hPurpose :
      (tenantArgs slug args).session.purpose =
        (googleArgs args).session.purpose :=
    rfl
  unfold finalizeIdentity
  rw [hPurpose]
  by_cases hLink : (googleArgs args).session.purpose = "link"
  · rw [if_pos hLink, if_pos hLink]
    exact renamed_finalizeLink args
  · rw [if_neg hLink, if_neg hLink]
    refine
      (renamed_find args.verifiedIdentity.sub).andThen
        (fun _ => .same _) ?_
    intro found found' hFound
    by_cases hRegister :
        (googleArgs args).session.purpose = "registration"
    · rw [if_pos hRegister, if_pos hRegister]
      exact renamed_finalizeRegistration args hFound
    · rw [if_neg hRegister, if_neg hRegister]
      exact renamed_finalizeReturningUser args hFound

/- The provider is asked about the same callback. -/
def SameAsked
    (slug : String)
    (asked asked' : AcceptedCallback) : Prop :=
  asked' =
    { asked with
      session :=
        { asked.session with partnerSlug := some slug } }

theorem renamed_finish
    {asked asked' : AcceptedCallback}
    (hAsked : SameAsked slug asked asked')
    (told : Except ProviderFailure VerifiedIdToken) :
    RenamedCode slug req (SameResponse P cfg slug)
      (finishCallback P cfg googleSibling req asked told)
      (finishCallback P cfg (tenantSibling slug) req asked'
        told) := by
  rw [hAsked]
  cases told with
  | error failure =>
      refine
        (renamed_emit _ _).andThenSame (fun _ => .same _) ?_
      intro _
      exact
        (renamed_delete asked.sessionId).andThenSame
          (fun _ => .same _)
          (fun _ => renamed_redirect _ _ _)
  | ok identity =>
      let args : OutcomeArgs :=
        { provider := "google"
          verifiedIdentity :=
            { sub := identity.sub
              email := identity.email
              emailVerified := identity.emailVerified }
          session := asked.session
          sessionId := asked.sessionId
          ip := req.ip }
      exact renamed_finalizeIdentity args

/- The session of the cookie, in either world. -/
inductive FoundAlike (slug : String) :
    Option (String × OAuthSession) →
      Option (String × OAuthSession) → Prop where
  | none : FoundAlike slug none none
  | some
      (sessionId : String)
      (session : OAuthSession)
      (partnerSlug : Option String) :
      FoundAlike slug
        (some
          (sessionId,
            { session with partnerSlug := partnerSlug }))
        (some
          (sessionId,
            { session with partnerSlug := some slug }))

/- What is stored for the session of the cookie. -/
theorem foundAlike_of_renamed
    {sessionId : String}
    {found found' : Option RedisValue}
    (hFound : Option.Rel (RenamedValue slug) found found')
    (hSlug :
      ∀ session,
        found' = some (.session session) →
          session.partnerSlug = some slug) :
    FoundAlike slug
      ((OAuthSessionStore.asSession found).map
        (fun session => (sessionId, session)))
      ((OAuthSessionStore.asSession found').map
        (fun session => (sessionId, session))) := by
  cases hFound with
  | none => exact .none
  | @some value value' hValue =>
      cases hValue with
      | ticket ticket => exact .none
      | session session => exact .some _ _ none
      | same =>
          cases value with
          | session session =>
              have hSession :
                  session =
                    { session with
                      partnerSlug := some slug } := by
                rw [← hSlug session rfl]
              have hSame :
                  FoundAlike slug
                    (some
                      (sessionId,
                        { session with
                          partnerSlug :=
                            session.partnerSlug }))
                    (some
                      (sessionId,
                        { session with
                          partnerSlug := some slug })) :=
                .some sessionId session session.partnerSlug
              rw [← hSession] at hSame
              exact hSame
          | _ => exact .none

theorem renamed_sessionOf
    {sessionId : Option String}
    (hCookie : sessionCookie req = some sessionId) :
    RenamedCode slug req (SameResult (FoundAlike slug))
      (sessionOf sessionId) (sessionOf sessionId) := by
  cases sessionId with
  | none => exact .ok .none
  | some sessionId =>
      unfold sessionOf
      by_cases hEmpty : sessionId = ""
      · simp only [if_pos hEmpty]
        exact .ok .none
      · simp only [if_neg hEmpty]
        refine ⟨.get .session sessionId (by decide), ?_⟩
        rintro found found' ⟨hFound, hMinted⟩
        have hSlug :
            ∀ session,
              found' = some (.session session) →
                session.partnerSlug = some slug :=
          fun session hSession =>
            hMinted sessionId session hCookie rfl hSession
        exact .ok (foundAlike_of_renamed hFound hSlug)

theorem renamed_cancel
    (sessionId : String)
    (session : OAuthSession)
    (partnerSlug partnerSlug' : Option String)
    (error : String)
    (metadata metadata' : List (String × JsValue)) :
    RenamedCode slug req (SameResponse P cfg slug)
      (cancelCallback P cfg sessionId
        { session with partnerSlug := partnerSlug } error
        req.ip metadata)
      (cancelCallback P cfg sessionId
        { session with partnerSlug := partnerSlug' } error
        req.ip metadata') := by
  refine
    (renamed_delete sessionId).andThenSame
      (fun _ => .same _) ?_
  intro _
  exact
    (renamed_emit _ _).andThenSame (fun _ => .same _)
      (fun _ => renamed_redirect _ _ _)

theorem renamed_enterSession
    {found found' : Option (String × OAuthSession)}
    (hFound : FoundAlike slug found found')
    (query : CallbackQuery) :
    RenamedCode slug req
      (EnterAlike (SameResponse P cfg slug) (SameAsked slug))
      (enterSession P cfg googleSibling query req found)
      (enterSession P cfg (tenantSibling slug) query req
        found') := by
  cases hFound with
  | none => exact SameResponse.same _
  | some sessionId session partnerSlug =>
      unfold enterSession
      cases truthyText query.error with
      | some error =>
          simp only [googleSibling, tenantSibling,
            decide_true, true_and]
          by_cases hState : query.state = some session.state
          · rw [if_pos hState, if_pos hState]
            exact
              InStep.andThen
                (renamed_cancel sessionId session partnerSlug
                  (some slug) error _ _)
                (fun _ _ hSame => hSame)
                (fun _ _ hSame => hSame)
          · rw [if_neg hState, if_neg hState]
            exact SameResponse.same _
      | none =>
          have hAccepted :
              acceptedCode query
                  { session with partnerSlug := some slug } =
                acceptedCode query
                  { session with
                    partnerSlug := partnerSlug } :=
            rfl
          dsimp only
          rw [hAccepted]
          cases
              acceptedCode query
                { session with partnerSlug := partnerSlug }
            with
          | none => exact SameResponse.same _
          | some accepted =>
              simp only [googleSibling, tenantSibling,
                decide_true, if_true]
              exact rfl

theorem renamed_enter
    (query : CallbackQuery) :
    RenamedCode slug req
      (EnterAlike (SameResponse P cfg slug) (SameAsked slug))
      (enterCallback P cfg googleSibling query req)
      (enterCallback P cfg (tenantSibling slug) query
        req) := by
  refine
    renamed_rateLimit.andThenSame
      (fun _ => SameResponse.same _) ?_
  intro _
  unfold sessionIdOf
  cases hCookie : sessionCookie req with
  | none => exact SameResponse.same _
  | some sessionId =>
      exact
        (renamed_sessionOf hCookie).andThen
          (fun _ => SameResponse.same _)
          (fun _ _ hFound =>
            renamed_enterSession hFound query)

end KisAuth

------------------------------------------------------------
-- Asking The Provider
------------------------------------------------------------

namespace KisAuth

open Interaction Prog

variable {P : Platform} {cfg : KisAuthConfig}
variable {past : Past}

theorem reachesNoStore_of_outbound
    {effect : Eff}
    (hOutbound : Outbound effect) :
    reachesNoStore effect := by
  cases effect with
  | redisSet key value ttl => exact hOutbound.elim
  | redisSetNx key ttl => exact hOutbound.elim
  | redisGet key => exact hOutbound.elim
  | redisTtl key => exact hOutbound.elim
  | redisDel key => exact hOutbound.elim
  | redisConsume key => exact hOutbound.elim
  | redisIncr key window => exact hOutbound.elim
  | selectClient id => exact hOutbound.elim
  | selectIdentity provider subject => exact hOutbound.elim
  | selectIdentityById id => exact hOutbound.elim
  | insertIdentity args => exact hOutbound.elim
  | updateIdentity email verified id => exact hOutbound.elim
  | touchIdentity id => exact hOutbound.elim
  | _ => rfl

/- No store was reached. -/
def NoStoreReached (past : Past) : Prop :=
  ∀ answer ∈ past, reachesNoStore answer.effect

/- Code that reaches no store before it ends in a value. -/
abbrev Discreet
    {α : Type}
    (program : KisM α)
    (past : Past) : Prop :=
  Obeys (fun _ _ => True) (TellsQuietly reachesNoStore)
    program past

theorem discreet_andThen
    {α β : Type}
    {program : KisM α}
    {next : α → KisM β}
    (hAsks : AsksOnly program)
    (hPast : NoStoreReached past)
    (hNext :
      ∀ later value,
        NoStoreReached later → Discreet (next value) later) :
    Discreet (program >>= next) past := by
  apply obeys_after_quiet (hAsks past)
  · exact fun _ _ _ => trivial
  · intro later value hLater
    apply hNext later value
    rcases hLater with ⟨new, rfl, hNew⟩
    intro answer hMem
    rcases List.mem_append.mp hMem with hMem | hMem
    · exact reachesNoStore_of_outbound (hNew answer hMem)
    · exact hPast answer hMem
  · exact fun _ _ _ => trivial

/- Code that only asks, at the end. -/
theorem discreet_of_asksOnly
    {α : Type}
    {program : KisM α}
    (hAsks : AsksOnly program)
    (hPast : NoStoreReached past) :
    Discreet program past := by
  rw [← bind_ret_right program, ← bind_eq]
  exact discreet_andThen hAsks hPast (fun _ _ hLater => hLater)

theorem googleCallback_discreet
    (query : CallbackQuery)
    (req : BrowserRequest) :
    (googleCallback P cfg query req).Discreet
      reachesNoStore :=
  fun _ =>
    discreet_of_asksOnly (asksOnly_googleIdentity _ _ _)
      (List.forall_mem_nil _)

theorem discreet_resolveOrFail
    {α : Type}
    {next : OidcPartnerConfig → KisM α}
    (slug clientId sessionId ip : String)
    (hPast : NoStoreReached past)
    (hNext :
      ∀ later config,
        NoStoreReached later →
          Discreet (next config) later) :
    Discreet
      (OidcEnterpriseController.resolveOrFail P cfg slug
          clientId sessionId ip >>= next)
      past := by
  unfold OidcEnterpriseController.resolveOrFail
  simp only [bind_eq, bind_assoc]
  apply discreet_andThen (asksOnly_resolve slug) hPast
  intro later resolved hLater
  cases resolved with
  | ok config => exact hNext later config hLater
  | error failure =>
      exact ⟨trivial, fun _ => ⟨trivial, fun _ => trivial⟩⟩

theorem discreet_discoverOrFail
    {α : Type}
    {next : OidcDiscoveryDocument → KisM α}
    (slug discoveryUrl clientId sessionId ip : String)
    (hPast : NoStoreReached past)
    (hNext :
      ∀ later doc,
        NoStoreReached later → Discreet (next doc) later) :
    Discreet
      (OidcEnterpriseController.discoverOrFail slug
          discoveryUrl clientId sessionId ip >>= next)
      past := by
  unfold OidcEnterpriseController.discoverOrFail
  simp only [bind_eq, bind_assoc]
  apply discreet_andThen
    (asksOnly_fetchDiscovery discoveryUrl) hPast
  intro later doc hLater
  cases doc with
  | some doc => exact hNext later doc hLater
  | none =>
      exact ⟨trivial, fun _ => ⟨trivial, fun _ => trivial⟩⟩

/- Only a tenant that is not resolved loses its session. -/
theorem tenantCallback_discreet
    (slug : String)
    (query : CallbackQuery)
    (req : BrowserRequest) :
    (tenantCallback P cfg slug query req).Discreet
      reachesNoStore := by
  intro asked
  apply discreet_resolveOrFail _ _ _ _
    (List.forall_mem_nil _)
  intro later config hLater
  apply discreet_discoverOrFail _ _ _ _ _ hLater
  intro last doc hLast
  exact
    discreet_of_asksOnly
      (asksOnly_enterpriseIdentity _ _ _ _ _ _) hLast

end KisAuth

------------------------------------------------------------
-- Runs Of The Callbacks
------------------------------------------------------------

namespace KisAuth

open Interaction Prog

variable {P : Platform} {cfg : KisAuthConfig}
variable {query : CallbackQuery}
variable {req : BrowserRequest}
variable {world final : World}
variable {outcome : Except HttpError Response}

/- A callback alone, with what its provider told. -/
abbrev CallbackRun
    (P : Platform)
    (cfg : KisAuthConfig)
    (callback : ProviderCallback)
    (told : Except ProviderFailure VerifiedIdToken)
    (world : World)
    (trace : List (Stamped Nat Eff Eff.Res))
    (outcome : Except HttpError Response)
    (final : World) : Prop :=
  callback.Runs (worldSemantics P cfg) passes World.clock told
    world trace outcome final

/- Code that does not throw. -/
abbrev Returns {α : Type} (program : KisM α) : Prop :=
  ∀ past : Past,
    Obeys (fun _ _ => True)
      (fun _ outcome => ∃ value, outcome = .ok value)
      program past

theorem verifyOidcIdToken_returns
    (idToken : JsValue)
    (expected : IdTokenExpectation) :
    Returns (verifyOidcIdToken idToken expected) := by
  intro past
  unfold verifyOidcIdToken
  split
  · refine ⟨trivial, fun payload => ?_⟩
    simp only [bind_ret]
    split
    · exact ⟨_, rfl⟩
    · exact ⟨_, rfl⟩
  · exact ⟨_, rfl⟩

theorem googleIdentity_returns
    (code codeVerifier nonce : String) :
    Returns
      (OAuthController.verifiedIdentity cfg code codeVerifier
        nonce) := by
  intro past
  refine ⟨trivial, fun reply => ?_⟩
  simp only [pure_eq, bind_ret]
  cases idTokenOf reply with
  | error failure => exact ⟨_, rfl⟩
  | ok idToken => exact verifyOidcIdToken_returns _ _ _

theorem enterpriseIdentity_returns
    (slug code codeVerifier nonce : String)
    (config : OidcPartnerConfig)
    (doc : OidcDiscoveryDocument) :
    Returns
      (OidcEnterpriseController.verifiedIdentity P cfg slug
        code codeVerifier nonce config doc) := by
  intro past
  unfold OidcEnterpriseController.verifiedIdentity
  split
  · exact ⟨_, rfl⟩
  · refine ⟨trivial, fun reply => ?_⟩
    simp only [pure_eq, bind_ret]
    cases idTokenOf reply with
    | error failure => exact ⟨_, rfl⟩
    | ok idToken =>
        dsimp only
        unfold OidcIdTokenService.verify
        split
        · exact ⟨_, rfl⟩
        · exact verifyOidcIdToken_returns _ _ _

/- Every run of the Google callback is such a run. -/
theorem googleCallback_told
    {trace : List (Stamped Nat Eff Eff.Res)}
    (hSolo :
      Solo (worldSemantics P cfg) passes World.clock world
        (OAuthController.callback P cfg query req) trace
        outcome final) :
    ∃ told trace',
      CallbackRun P cfg (googleCallback P cfg query req) told
        world trace' outcome final := by
  rw [← googleCallback_program] at hSolo
  rcases Consulting.runs_of_solo hSolo with
    hRuns | hRuns | ⟨asked, _, during, error, _, hConsult⟩
  · exact ⟨.error .tokenExchange, trace, hRuns _⟩
  · exact hRuns
  · rcases
        (googleIdentity_returns asked.code asked.codeVerifier
          asked.session.nonce []).final_of_reaches
          hConsult.reaches with
      ⟨told, hTold⟩
    cases hTold

/- The tenant's configuration or discovery document failed. -/
def TenantFailed
    (P : Platform)
    (cfg : KisAuthConfig)
    (slug : String)
    (req : BrowserRequest)
    (error : HttpError)
    (final : World) : Prop :=
  ∃ clientId sessionId asked during,
    Solo (worldSemantics P cfg) passes World.clock asked
        (OidcEnterpriseController.resolveOrFail P cfg slug
          clientId sessionId req.ip)
        during (.error error) final ∨
      ∃ discoveryUrl,
        Solo (worldSemantics P cfg) passes World.clock asked
          (OidcEnterpriseController.discoverOrFail slug
            discoveryUrl clientId sessionId req.ip)
          during (.error error) final

/- So is every run of a tenant's that it does not end. -/
theorem tenantCallback_told
    {slug : String}
    {trace : List (Stamped Nat Eff Eff.Res)}
    (hSolo :
      Solo (worldSemantics P cfg) passes World.clock world
        (OidcEnterpriseController.callback P cfg slug query
          req)
        trace outcome final) :
    (∃ told trace',
        CallbackRun P cfg (tenantCallback P cfg slug query req)
          told world trace' outcome final) ∨
      ∃ error,
        outcome = .error error ∧
          TenantFailed P cfg slug req error final := by
  rw [← tenantCallback_program] at hSolo
  rcases Consulting.runs_of_solo hSolo with
    hRuns | hRuns | ⟨asked, _, during, error, rfl, hConsult⟩
  · exact Or.inl ⟨.error .tokenExchange, trace, hRuns _⟩
  · exact Or.inl hRuns
  · refine Or.inr ⟨error, rfl, ?_⟩
    rcases Solo.bind_cases hConsult with
      ⟨config, _, _, _, _, _, hRest⟩ | ⟨_, hEq, hFailed⟩
    · rcases Solo.bind_cases hRest with
        ⟨doc, _, _, _, _, _, hVerify⟩ | ⟨_, hEq, hFailed⟩
      · rcases
            (enterpriseIdentity_returns slug asked.code
              asked.codeVerifier asked.session.nonce config doc
              []).final_of_reaches hVerify.reaches with
          ⟨told, hTold⟩
        cases hTold
      · cases hEq
        exact ⟨_, _, _, _, Or.inr ⟨_, hFailed⟩⟩
    · cases hEq
      exact ⟨_, _, _, _, Or.inl hFailed⟩

end KisAuth

------------------------------------------------------------
-- The Callbacks Agree
------------------------------------------------------------

namespace KisAuth

open Interaction

variable {P : Platform} {cfg : KisAuthConfig}

/-
  Told the same by their providers, with the same choices at
  the same times, the Google callback and the callback of a
  tenant respond alike, make corresponding calls and leave
  corresponding worlds.
-/
theorem callbacks_agree
    {slug : String}
    {query : CallbackQuery}
    {req : BrowserRequest}
    {told : Except ProviderFailure VerifiedIdToken}
    {google google' tenant tenant' : World}
    {trace trace' : List (Stamped Nat Eff Eff.Res)}
    {outcome outcome' : Except HttpError Response}
    (hSlug : isPartnerSlug slug = true)
    (hWorlds : SiblingWorlds slug req google tenant)
    (hGoogle :
      CallbackRun P cfg (googleCallback P cfg query req) told
        google trace outcome google')
    (hTenant :
      CallbackRun P cfg (tenantCallback P cfg slug query req)
        told tenant trace' outcome' tenant')
    (hChoices : SameChoices ChosenAlike trace trace') :
    (googleCallback P cfg query req).program =
        OAuthController.callback P cfg query req ∧
      (tenantCallback P cfg slug query req).program =
        OidcEnterpriseController.callback P cfg slug query
          req ∧
      SameResponse P cfg slug outcome outcome' ∧
      SameCalls (RenamedCall slug req)
        (RenamedAnswer slug req) trace trace' ∧
      SiblingWorlds slug req google' tenant' := by
  rcases
      (siblingWorlds_correspond hSlug).consulted
        (googleCallback_discreet query req)
        (tenantCallback_discreet slug query req)
        (renamed_enter query)
        (fun _ _ hAsked => renamed_finish hAsked told)
        hWorlds hGoogle hTenant hChoices with
    ⟨hCalls, hResponse, hFinal⟩
  exact
    ⟨googleCallback_program query req,
      tenantCallback_program slug query req, hResponse,
      hCalls, hFinal⟩

/- A user comes back from the provider. -/
def returningSession
    (partnerSlug : Option String) : OAuthSession where
  clientId := "kis-web"
  redirectUri := "https://kis.test/cb"
  purpose := "recovery"
  state := "st"
  nonce := "no"
  clientState := "app"
  codeVerifier := some "v1"
  linkKisUserId := none
  partnerSlug := partnerSlug

/- The identity the user is linked with. -/
def returningRow
    (provider providerSubject : String) : AuthIdentityRow where
  id := "11111111-1111-1111-1111-111111111111"
  provider := provider
  providerSubject := providerSubject
  kisUserId := "22222222-2222-2222-2222-222222222222"
  providerEmail := none
  providerEmailVerified := false
  status := .active
  lastAuthenticatedAt := none

/- With a tenant that was resolved before. -/
def returningWorld
    (partnerSlug : Option String)
    (row : AuthIdentityRow) : World :=
  { World.empty flowClients with
    redis := fun key =>
      if key = sessionKey "s1" then
        some
          ⟨.session (returningSession partnerSlug),
            some 600000⟩
      else
        none
    tables :=
      { identities := [row]
        clients := flowClients }
    ssoCache := fun _ =>
      some
        ({ partnerId := "7"
           partnerSlug := "acme"
           provider := "oidc"
           issuer := "https://idp.test"
           clientId := "kis"
           clientSecret := "secret"
           discoveryUrl := "https://idp.test/.well-known" },
          60000)
    discoveryCache := fun _ =>
      some
        ({ authorizationEndpoint := "https://idp.test/auth"
           tokenEndpoint := "https://idp.test/token"
           jwksUri := "https://idp.test/keys"
           issuer := none },
          300000) }

def returningQuery : CallbackQuery where
  code := some "c1"
  state := some "st"
  error := none

def returningUser : VerifiedIdToken where
  sub := "g1"
  email := none
  emailVerified := false

/- The provider's answers, and what the callback draws. -/
def returningAnswers : List External :=
  [.reply
      (some
        { status := 200
          body := some (.obj [("id_token", .str "t")]) }),
    .payload
      (some
        { iss := .str "https://idp.test"
          aud := .str "kis"
          nonce := .str "no"
          sub := .str "g1"
          email := .undefined
          emailVerified := .undefined }),
    .none, .none, .none, .random "ch", .none, .none, .none,
    .none, .none, .none, .random "code", .none]

theorem returningWorlds_siblings :
    SiblingWorlds "acme" flowBrowser
      (returningWorld none (returningRow "google" "g1"))
      (returningWorld (some "acme")
        (returningRow oidcProvider "acme:g1")) where
  stored := by
    intro family id _
    unfold returningWorld
    dsimp only
    split
    · exact
        .some ⟨rfl, .session (returningSession none)⟩
    · exact .none
  minted := by
    intro key sessionId session _ _ hValue
    unfold returningWorld at hValue
    dsimp only at hValue
    split at hValue
    · rw [Option.map_some, Option.some.injEq,
        RedisValue.session.injEq] at hValue
      rw [← hValue]
      rfl
    · simp at hValue
  rows := .cons ⟨⟨.renamed "g1", rfl⟩, rfl⟩ .nil

/- The callbacks alone, each in its world. -/
def returningGoogle :=
  (googleCallback flowPlatform testConfig returningQuery
    flowBrowser).alone
    (worldSemantics flowPlatform testConfig) World.clock
    (.none :: .none :: returningAnswers)
    (returningWorld none (returningRow "google" "g1"))

def returningTenant :=
  (tenantCallback flowPlatform testConfig "acme"
    returningQuery flowBrowser).alone
    (worldSemantics flowPlatform testConfig) World.clock
    (.none :: .none :: .none :: .none :: .none :: .none ::
      returningAnswers)
    (returningWorld (some "acme")
      (returningRow oidcProvider "acme:g1"))

/- Both find the user, and hand out a code. -/
theorem returning_user_agrees :
    ∃ google google' tenant tenant' trace trace' outcome
        outcome',
      CallbackRun flowPlatform testConfig
          (googleCallback flowPlatform testConfig
            returningQuery flowBrowser)
          (.ok returningUser) google trace outcome google' ∧
        CallbackRun flowPlatform testConfig
          (tenantCallback flowPlatform testConfig "acme"
            returningQuery flowBrowser)
          (.ok returningUser) tenant trace' outcome'
          tenant' ∧
        trace.length = 14 ∧
        SameResponse flowPlatform testConfig "acme" outcome
          outcome' ∧
        SameCalls (RenamedCall "acme" flowBrowser)
          (RenamedAnswer "acme" flowBrowser) trace trace' ∧
        SiblingWorlds "acme" flowBrowser google' tenant' := by
  have hBoth :
      (returningGoogle.bind fun left =>
          returningTenant.map fun right =>
            (left.1, right.1, left.2.1.length,
              decide
                (SameChoices ChosenAlike left.2.1
                  right.2.1))) =
        some
          (.ok returningUser, .ok returningUser, 14, true) := by
    decide +kernel
  rcases Option.bind_eq_some_iff.mp hBoth with
    ⟨⟨told, trace, outcome, google'⟩, hGoogle, hTenant⟩
  rcases Option.map_eq_some_iff.mp hTenant with
    ⟨⟨told', trace', outcome', tenant'⟩, hTenant, hTold⟩
  simp only [Prod.mk.injEq, decide_eq_true_eq] at hTold
  rcases hTold with ⟨rfl, rfl, hLength, hChoices⟩
  have hGoogleRun :
      CallbackRun flowPlatform testConfig
        (googleCallback flowPlatform testConfig
          returningQuery flowBrowser)
        (.ok returningUser)
        (returningWorld none (returningRow "google" "g1"))
        trace outcome google' :=
    .of_alone hGoogle
  have hTenantRun :
      CallbackRun flowPlatform testConfig
        (tenantCallback flowPlatform testConfig "acme"
          returningQuery flowBrowser)
        (.ok returningUser)
        (returningWorld (some "acme")
          (returningRow oidcProvider "acme:g1"))
        trace' outcome' tenant' :=
    .of_alone hTenant
  have hAgree :=
    callbacks_agree (by decide) returningWorlds_siblings
      hGoogleRun hTenantRun hChoices
  exact
    ⟨_, google', _, tenant', trace, trace', outcome,
      outcome', hGoogleRun, hTenantRun, hLength,
      hAgree.2.2⟩

end KisAuth
