import KisAuth.Interaction.Confined
import KisAuth.Service.RunProtocol

/-
  What a request does once its limits have let it pass: it
  counts no more hits, and is refused with one of the few
  errors of its route.

  Key definitions include:
    * `Uncounted`, `Unlimited`
    * `Request.refusals`
    * `BrowserRoute`, `RedemptionRoute`

  Key theorems include:
    * `unlimited_finalizeIdentity`
    * `browser_route`
    * `exchange_route`, `registrationExchange_route`
-/

------------------------------------------------------------
-- Beyond The Limits
------------------------------------------------------------

namespace KisAuth

open Interaction Prog

/- Calls that count no hit. -/
def Uncounted : Eff → Prop
| .redisIncr _ _ => False
| _ => True

/- Code that counts none, and throws only these errors. -/
abbrev Unlimited
    {α : Type}
    (errors : HttpError → Prop)
    (program : KisM α) : Prop :=
  Confined Uncounted errors program

/-
  The errors of a route, besides that of its limits: what its
  controller refuses with, and an error nobody handles.
-/
def Request.refusals : Request → List HttpError
| .authorize _ _ => [.badRequest genericError, .internal]
| .googleStart _ => [.badRequest genericError, .internal]
| .googleCallback _ _ =>
    [.badRequest genericError, .internal]
| .enterpriseStart _ _ =>
    [.badRequest genericError, .internal]
| .enterpriseCallback _ _ _ =>
    [.badRequest genericError, .internal]
| .authorizationExchange _ =>
    [.badRequest genericError, .unauthorized genericError,
      .internal]
| .registrationExchange _ =>
    [.badRequest genericError, .unauthorized genericError,
      .internal]
| .identityLink _ =>
    [.badRequest linkError, .unauthorized linkError,
      .conflict linkError, .internal]
| .status _ => [.internal]
| _ => []

end KisAuth

------------------------------------------------------------
-- Small Services
------------------------------------------------------------

namespace KisAuth

open Interaction Prog

variable {P : Platform} {cfg : KisAuthConfig}
variable {errors : HttpError → Prop}
variable (hInternal : errors .internal)

section

include hInternal

theorem unlimited_orCrash
    {α : Type}
    (value : Option α) :
    Unlimited errors (orCrash value) := by
  cases value with
  | none => exact hInternal
  | some value => trivial

theorem unlimited_orSqlCrash
    {α : Type}
    (result : Except SqlError α) :
    Unlimited errors (orSqlCrash result) := by
  cases result with
  | error error => exact hInternal
  | ok value => trivial

theorem unlimited_set
    (key : String)
    (value : RedisValue)
    (ttlSeconds : ℚ) :
    Unlimited errors (Redis.set key value ttlSeconds) := by
  refine confined_perform (by trivial) (fun result => ?_)
  cases result with
  | error error => exact hInternal
  | ok done => trivial

theorem unlimited_setNx
    (key : String)
    (ttlSeconds : ℚ) :
    Unlimited errors (Redis.setNx key ttlSeconds) := by
  refine confined_perform (by trivial) (fun result => ?_)
  cases result with
  | error error => exact hInternal
  | ok claimed => trivial

theorem unlimited_update
    {sessionId : String}
    (session : OAuthSession) :
    Unlimited errors
      (OAuthSessionStore.update sessionId session) :=
  confined_perform (by trivial)
    (fun _ => unlimited_set hInternal _ _ _)

theorem unlimited_markChallengeUsed (challengeId : String) :
    Unlimited errors
      (ChallengeStore.markChallengeUsed challengeId) := by
  refine
    confined_perform
      (by trivial) (fun raw => ?_)
  split
  · trivial
  · refine
      confined_perform
        (by trivial)
        (fun ttl => ?_)
    split
    · trivial
    · exact unlimited_set hInternal _ _ _

theorem unlimited_redirectToStatus
    (state redirectUri : String)
    (params : List (String × String)) :
    Unlimited errors
      (redirectToStatus P cfg state redirectUri params) := by
  apply confined_bind (unlimited_orCrash hInternal _)
  intro target
  apply confined_bind (unlimited_orCrash hInternal _)
  intro url
  trivial

theorem unlimited_findByProviderSubject
    (provider providerSubject : String) :
    Unlimited errors
      (IdentityService.findByProviderSubject provider
        providerSubject) :=
  confined_perform (by trivial)
    (fun _ => unlimited_orSqlCrash hInternal _)

theorem unlimited_link (args : NewIdentity) :
    Unlimited errors (IdentityService.link args) := by
  apply confined_bind
    (unlimited_findByProviderSubject hInternal _ _)
  intro existing
  cases existing with
  | some existing =>
      dsimp only
      split
      · trivial
      · refine confined_perform (by trivial) (fun rows => ?_)
        apply confined_bind (unlimited_orSqlCrash hInternal _)
        intro row
        cases row with
        | none => exact hInternal
        | some row => trivial
  | none =>
      refine confined_perform (by trivial) (fun result => ?_)
      match result with
      | .ok row => trivial
      | .error .uniqueViolation => trivial
      | .error .invalidText => exact hInternal

theorem unlimited_linkUser
    (query : AuthorizeQuery)
    (purpose : String)
    (req : BrowserRequest)
    (hBad : errors (.badRequest genericError)) :
    Unlimited errors
      (OAuthController.linkUser P cfg query purpose req) := by
  unfold OAuthController.linkUser
  split
  · split
    · exact hBad
    · next ticket hTicket =>
        apply confined_bind
        · unfold LinkTicketService.verifyAndConsume
          split
          · trivial
          · refine confined_perform (by trivial) (fun now => ?_)
            dsimp only
            split
            · trivial
            · exact hInternal
            · split
              · trivial
              · apply confined_bind
                  (unlimited_setNx hInternal _ _)
                intro claimed
                split
                · trivial
                · trivial
        · intro verified
          cases verified with
          | ok kisUserId => trivial
          | refused reason =>
              exact
                confined_perform (by trivial) (fun _ => hBad)
  · trivial

end

end KisAuth

------------------------------------------------------------
-- Outcomes
------------------------------------------------------------

namespace KisAuth

open Interaction Prog

variable {P : Platform} {cfg : KisAuthConfig}
variable {errors : HttpError → Prop}
variable (hInternal : errors .internal)
variable (hBad : errors (.badRequest genericError))

section

include hInternal hBad

theorem unlimited_confirmAndRedirect
    (challengeId redirectUri clientState state : String) :
    Unlimited errors
      (OAuthOutcomeService.confirmAndRedirect P cfg
        challengeId redirectUri clientState state) := by
  refine
    confined_perform
      (by trivial) (fun raw => ?_)
  dsimp only
  split
  · exact hBad
  · apply confined_bind
      (unlimited_markChallengeUsed hInternal _)
    intro marked
    apply confined_bind
    · refine confined_perform (by trivial) (fun code => ?_)
      exact
        confined_bind (unlimited_set hInternal _ _ _)
          (fun _ => by trivial)
    · exact fun code =>
        unlimited_redirectToStatus hInternal _ _ _

theorem unlimited_finalizeLink
    {args : OutcomeArgs} :
    Unlimited errors
      (OAuthOutcomeService.finalizeLink P cfg args) := by
  unfold OAuthOutcomeService.finalizeLink
  split
  · exact
      confined_perform (by trivial)
        (fun _ => hBad)
  · apply confined_bind (unlimited_link hInternal _)
    intro result
    refine
      confined_perform (by trivial)
        (fun _ => ?_)
    cases result with
    | alreadyLinked =>
        exact
          confined_perform (by trivial) (fun _ =>
            unlimited_redirectToStatus hInternal _ _ _)
    | ok identity =>
        refine confined_perform (by trivial) (fun _ => ?_)
        refine confined_perform (by trivial) (fun _ => ?_)
        exact
          confined_bind (unlimited_set hInternal _ _ _)
            (fun _ =>
              unlimited_confirmAndRedirect hInternal hBad _ _
                _ _)

omit hBad in
theorem unlimited_finalizeRegistration
    {args : OutcomeArgs}
    (identity : Option AuthIdentity)
    (registrationPurpose : String)
    (partnerSlug : Option String) :
    Unlimited errors
      (OAuthOutcomeService.finalizeRegistration P cfg args
        identity registrationPurpose partnerSlug) := by
  refine
    confined_perform (by trivial)
      (fun _ => ?_)
  cases identity with
  | some identity =>
      exact
        confined_perform (by trivial) (fun _ =>
          unlimited_redirectToStatus hInternal _ _ _)
  | none =>
      apply confined_bind
      · refine confined_perform (by trivial) (fun code => ?_)
        exact
          confined_bind (unlimited_set hInternal _ _ _)
            (fun _ => by trivial)
      · exact fun ticket =>
          confined_perform (by trivial) (fun _ =>
            unlimited_redirectToStatus hInternal _ _ _)

theorem unlimited_finalizeReturningUser
    {args : OutcomeArgs}
    (identity : Option AuthIdentity) :
    Unlimited errors
      (OAuthOutcomeService.finalizeReturningUser P cfg args
        identity) := by
  cases identity with
  | none =>
      refine
        confined_perform (by trivial)
          (fun _ => ?_)
      exact
        confined_perform (by trivial) (fun _ =>
          unlimited_redirectToStatus hInternal _ _ _)
  | some identity =>
      apply confined_bind
      · exact
          confined_perform (by trivial) (fun _ =>
            unlimited_orSqlCrash hInternal _)
      · intro touched
        refine confined_perform (by trivial) (fun _ => ?_)
        refine confined_perform (by trivial) (fun _ => ?_)
        apply confined_bind (unlimited_set hInternal _ _ _)
        intro created
        exact
          confined_perform (by trivial)
            (fun _ =>
              unlimited_confirmAndRedirect hInternal hBad _ _ _
                _)

theorem unlimited_finalizeIdentity
    {args : OutcomeArgs}
    (registrationPurpose : String)
    (partnerSlug : Option String) :
    Unlimited errors
      (finalizeIdentity P cfg args registrationPurpose
        partnerSlug) := by
  unfold finalizeIdentity
  split
  · exact unlimited_finalizeLink hInternal hBad
  · apply confined_bind
      (unlimited_findByProviderSubject hInternal _ _)
    intro identity
    split
    · exact
        unlimited_finalizeRegistration hInternal _ _ _
    · exact
        unlimited_finalizeReturningUser hInternal hBad _

omit hBad in
theorem unlimited_cancelCallback
    {sessionId : String}
    (session : OAuthSession)
    (error ip : String)
    (metadata : List (String × JsValue)) :
    Unlimited errors
      (cancelCallback P cfg sessionId session error ip
        metadata) := by
  refine
    confined_perform (by trivial)
      (fun _ => ?_)
  exact
    confined_perform (by trivial) (fun _ =>
      unlimited_redirectToStatus hInternal _ _ _)

omit hBad in
theorem unlimited_failCallback
    {sessionId : String}
    (session : OAuthSession)
    (failure : ProviderFailure)
    (ip : String)
    (metadata : List (String × JsValue)) :
    Unlimited errors
      (failCallback P cfg sessionId session failure ip
        metadata) := by
  refine confined_perform (by trivial) (fun _ => ?_)
  exact
    confined_perform (by trivial)
      (fun _ => unlimited_redirectToStatus hInternal _ _ _)

end

end KisAuth

------------------------------------------------------------
-- Providers
------------------------------------------------------------

namespace KisAuth

open Interaction Prog

variable {P : Platform} {cfg : KisAuthConfig}
variable {errors : HttpError → Prop}
variable (hInternal : errors .internal)
variable (hBad : errors (.badRequest genericError))

section

include hInternal

theorem unlimited_resolveReply (reply : Option FetchReply) :
    Unlimited errors (resolveReply reply) := by
  unfold resolveReply
  split
  · trivial
  · split
    · trivial
    · split
      · trivial
      · exact hInternal
      · split
        · trivial
        · trivial

theorem unlimited_requestPartnerConfig
    (partnerSlug : String) :
    Unlimited errors
      (requestPartnerConfig P cfg partnerSlug) := by
  apply confined_bind (unlimited_orCrash hInternal _)
  intro base
  refine confined_perform (by trivial) (fun now => ?_)
  refine confined_perform (by trivial) (fun nonce => ?_)
  apply confined_bind (unlimited_orCrash hInternal _)
  intro headers
  exact
    confined_perform (by trivial)
      (unlimited_resolveReply hInternal)

theorem unlimited_resolve (partnerSlug : String) :
    Unlimited errors
      (OidcProviderResolverService.resolve P cfg
        partnerSlug) := by
  refine confined_perform (by trivial) (fun cached => ?_)
  refine confined_perform (by trivial) (fun readAt => ?_)
  split
  · trivial
  · split
    · trivial
    · apply confined_bind
        (unlimited_requestPartnerConfig hInternal partnerSlug)
      intro resolved
      cases resolved with
      | error failure => trivial
      | ok config =>
          refine confined_perform (by trivial) (fun now => ?_)
          exact
            confined_perform (by trivial) (fun _ => by trivial)

omit hInternal in
theorem unlimited_fetchDiscovery (discoveryUrl : String) :
    Unlimited errors
      (OidcDiscoveryService.fetchDiscovery discoveryUrl) := by
  refine confined_perform (by trivial) (fun cached => ?_)
  refine confined_perform (by trivial) (fun readAt => ?_)
  split
  · trivial
  · refine confined_perform (by trivial) (fun reply => ?_)
    split
    · trivial
    · refine confined_perform (by trivial) (fun now => ?_)
      exact
        confined_perform (by trivial) (fun _ => by trivial)

omit hInternal in
theorem unlimited_verifyOidcIdToken
    (idToken : JsValue)
    (expected : IdTokenExpectation) :
    Unlimited errors (verifyOidcIdToken idToken expected) := by
  unfold verifyOidcIdToken
  split
  · refine confined_perform (by trivial) (fun payload => ?_)
    split
    · trivial
    · trivial
  · trivial

omit hInternal in
theorem unlimited_googleIdentity
    (code codeVerifier nonce : String) :
    Unlimited errors
      (OAuthController.verifiedIdentity cfg code codeVerifier
        nonce) := by
  apply confined_bind
  · exact confined_perform (by trivial) (fun _ => by trivial)
  · intro exchanged
    cases exchanged with
    | error failure => trivial
    | ok idToken => exact unlimited_verifyOidcIdToken _ _

omit hInternal in
theorem unlimited_enterpriseIdentity
    (partnerSlug code codeVerifier nonce : String)
    (config : OidcPartnerConfig)
    (doc : OidcDiscoveryDocument) :
    Unlimited errors
      (OidcEnterpriseController.verifiedIdentity P cfg
        partnerSlug code codeVerifier nonce config doc) := by
  unfold OidcEnterpriseController.verifiedIdentity
  split
  · trivial
  · apply confined_bind
    · exact
        confined_perform (by trivial) (fun _ => by trivial)
    · intro exchanged
      cases exchanged with
      | error failure => trivial
      | ok idToken =>
          dsimp only
          unfold OidcIdTokenService.verify
          split
          · trivial
          · exact unlimited_verifyOidcIdToken _ _

include hBad

theorem unlimited_resolveOrFail
    {sessionId : String}
    (partnerSlug clientId ip : String) :
    Unlimited errors
      (OidcEnterpriseController.resolveOrFail P cfg
        partnerSlug clientId sessionId ip) := by
  apply confined_bind (unlimited_resolve hInternal partnerSlug)
  intro resolved
  cases resolved with
  | ok config => trivial
  | error failure =>
      refine confined_perform (by trivial) (fun _ => ?_)
      exact
        confined_perform (by trivial)
          (fun _ => hBad)

omit hInternal in
theorem unlimited_discoverOrFail
    {sessionId : String}
    (partnerSlug discoveryUrl clientId ip : String) :
    Unlimited errors
      (OidcEnterpriseController.discoverOrFail partnerSlug
        discoveryUrl clientId sessionId ip) := by
  apply confined_bind (unlimited_fetchDiscovery discoveryUrl)
  intro doc
  cases doc with
  | some doc => trivial
  | none =>
      refine confined_perform (by trivial) (fun _ => ?_)
      exact
        confined_perform (by trivial)
          (fun _ => hBad)

end

end KisAuth

------------------------------------------------------------
-- Routes
------------------------------------------------------------

namespace KisAuth

open Interaction Prog

variable {P : Platform} {cfg : KisAuthConfig}

/- What follows the limits of a redemption. -/
theorem unlimited_checkRedemption
    {errors : HttpError → Prop}
    (hInternal : errors .internal)
    (hBad : errors (.badRequest genericError))
    (hUnsigned : errors (.unauthorized genericError))
    (route : Redemption)
    (post : InternalPost)
    (clientId : JsValue) :
    Unlimited errors (checkRedemption route post clientId) := by
  apply confined_bind
  · exact
      confined_perform (by trivial)
        (fun _ => unlimited_orCrash hInternal _)
  · intro verification
    cases verification with
    | fail reason =>
        exact confined_perform (by trivial) (fun _ => hUnsigned)
    | ok =>
        apply confined_bind (unlimited_orCrash hInternal _)
        intro code
        apply confined_bind (unlimited_orCrash hInternal _)
        intro redirectUri
        split
        · trivial
        · exact hBad

theorem unlimited_sign
    {errors : HttpError → Prop}
    (hInternal : errors .internal)
    (claims : AuthorizationClaims)
    (expiresInSeconds : ℚ) :
    Unlimited errors
      (AuthorizationJwtService.sign P cfg claims
        expiresInSeconds) := by
  unfold AuthorizationJwtService.sign
  split
  case isFalse => exact hInternal
  refine confined_perform (by trivial) (fun now => ?_)
  refine confined_perform (by trivial) (fun jti => ?_)
  split
  · trivial
  · exact hInternal

theorem unlimited_identityLink (post : InternalPost) :
    Unlimited
      (fun error =>
        error ∈ (Request.identityLink post).refusals)
      (IdentityLinkController.link P post) := by
  have hInternal :
      HttpError.internal ∈
        (Request.identityLink post).refusals := by
    simp [Request.refusals]
  apply confined_bind
  · exact
      confined_perform (by trivial)
        (fun _ => unlimited_orCrash hInternal _)
  · intro verification
    cases verification with
    | fail reason =>
        simp [Confined, Request.refusals]
    | ok =>
        apply confined_bind (unlimited_orCrash hInternal _)
        intro provider
        split
        · simp [Confined, Request.refusals]
        · apply confined_bind (unlimited_link hInternal _)
          intro result
          cases result with
          | alreadyLinked =>
              refine
                confined_perform (by trivial) (fun _ => ?_)
              simp [Confined, Request.refusals]
          | ok row =>
              exact
                confined_perform (by trivial)
                  (fun _ => by trivial)

end KisAuth

------------------------------------------------------------
-- Browser Routes
------------------------------------------------------------

namespace KisAuth

open Interaction Prog

/- The two refusals that every route of a browser has. -/
theorem browser_refusals
    {q : Request}
    {req : BrowserRequest}
    (hBrowser : q.browser = some req) :
    .internal ∈ q.refusals ∧
      .badRequest genericError ∈ q.refusals := by
  cases q with
  | authorize query _ => simp [Request.refusals]
  | googleStart _ => simp [Request.refusals]
  | googleCallback query _ => simp [Request.refusals]
  | enterpriseStart partnerSlug _ => simp [Request.refusals]
  | enterpriseCallback partnerSlug query _ =>
      simp [Request.refusals]
  | _ => cases hBrowser

/- A route that counts its address and goes on. -/
def BrowserRoute
    (P : Platform)
    (cfg : KisAuthConfig)
    (q : Request)
    (req : BrowserRequest) : Prop :=
  ∃ policy program,
    q.limits P = [(policy, req.ip)] ∧
      handler P cfg q =
        (enforceRateLimit policy req.ip >>= fun _ =>
          program) ∧
      Unlimited (fun error => error ∈ q.refusals) program

variable {P : Platform} {cfg : KisAuthConfig} {q : Request}
variable {errors : HttpError → Prop}

/- Code that goes on with the session of the cookie, or not. -/
theorem unlimited_withSession
    {req : BrowserRequest}
    {next : Option (String × OAuthSession) → KisM Response}
    (hInternal : errors .internal)
    (hNone : Unlimited errors (next none))
    (hSome :
      ∀ sessionId session,
        Unlimited errors (next (some (sessionId, session)))) :
    Unlimited errors
      (do
        let sessionId ← sessionIdOf req
        let found ← sessionOf sessionId
        next found) := by
  unfold sessionIdOf
  cases hCookie : sessionCookie req with
  | none => exact hInternal
  | some cookie =>
      cases cookie with
      | none => exact hNone
      | some sessionId =>
          simp only [orCrash, bind_eq, bind_ret, sessionOf]
          split
          · exact hNone
          · refine
              confined_perform (by trivial) (fun raw => ?_)
            cases OAuthSessionStore.asSession raw with
            | none => exact hNone
            | some session => exact hSome _ _

theorem authorize_route
    (query : AuthorizeQuery)
    (req : BrowserRequest) :
    BrowserRoute P cfg (.authorize query req) req := by
  rcases browser_refusals (q := .authorize query req) rfl with
    ⟨hInternal, hBad⟩
  refine ⟨_, _, rfl, rfl, ?_⟩
  apply confined_bind
  · exact
      confined_perform (by trivial)
        (fun _ => unlimited_orSqlCrash hInternal _)
  · intro client
    split
    · split
      · apply confined_bind
          (unlimited_linkUser hInternal query _ req hBad)
        intro linkKisUserId
        refine confined_perform (by trivial) (fun state => ?_)
        refine confined_perform (by trivial) (fun nonce => ?_)
        apply confined_bind
        · refine confined_perform (by trivial) (fun id => ?_)
          exact
            confined_bind (unlimited_set hInternal _ _ _)
              (fun _ => by trivial)
        · exact fun sessionId => by trivial
      · exact hBad
    · exact hBad

theorem googleStart_route (req : BrowserRequest) :
    BrowserRoute P cfg (.googleStart req) req := by
  rcases browser_refusals (q := .googleStart req) rfl with
    ⟨hInternal, hBad⟩
  refine ⟨_, _, rfl, rfl, ?_⟩
  apply unlimited_withSession hInternal
  · exact hBad
  · intro sessionId session
    refine confined_perform (by trivial) (fun code => ?_)
    apply confined_bind (unlimited_update hInternal _)
    intro updated
    exact
      confined_bind (unlimited_orCrash hInternal _)
        (fun _ => by trivial)

theorem googleCallback_route
    (query : CallbackQuery)
    (req : BrowserRequest) :
    BrowserRoute P cfg (.googleCallback query req) req := by
  rcases
    browser_refusals (q := .googleCallback query req)
      rfl with
    ⟨hInternal, hBad⟩
  refine ⟨_, _, rfl, rfl, ?_⟩
  apply unlimited_withSession hInternal
  · cases truthyText query.error <;> exact hBad
  · intro sessionId session
    cases truthyText query.error with
    | some error =>
        dsimp only
        split
        · exact unlimited_cancelCallback hInternal _ _ _ _
        · exact hBad
    | none =>
        dsimp only
        split
        · exact hBad
        · apply confined_bind (unlimited_googleIdentity _ _ _)
          intro verified
          cases verified with
          | error failure =>
              exact
                unlimited_failCallback hInternal _ _ _ _
          | ok identity =>
              exact
                unlimited_finalizeIdentity hInternal hBad
                  _ _

theorem enterpriseStart_route
    (partnerSlug : String)
    (req : BrowserRequest) :
    BrowserRoute P cfg (.enterpriseStart partnerSlug req)
      req := by
  rcases
    browser_refusals (q := .enterpriseStart partnerSlug req)
      rfl with
    ⟨hInternal, hBad⟩
  refine ⟨_, _, rfl, rfl, ?_⟩
  apply unlimited_withSession hInternal
  · exact hBad
  · intro sessionId session
    dsimp only
    split
    · apply confined_bind
        (unlimited_resolveOrFail hInternal hBad _ _ _)
      intro config
      apply confined_bind
        (unlimited_discoverOrFail hBad _ _ _ _)
      intro doc
      refine confined_perform (by trivial) (fun code => ?_)
      apply confined_bind (unlimited_update hInternal _)
      intro updated
      apply confined_bind (unlimited_orCrash hInternal _)
      intro url
      exact
        confined_bind (unlimited_orCrash hInternal _)
          (fun _ => by trivial)
    · exact hBad

theorem enterpriseCallback_route
    (partnerSlug : String)
    (query : CallbackQuery)
    (req : BrowserRequest) :
    BrowserRoute P cfg
      (.enterpriseCallback partnerSlug query req) req := by
  rcases
    browser_refusals (q := .enterpriseCallback partnerSlug query req)
      rfl with
    ⟨hInternal, hBad⟩
  refine ⟨_, _, rfl, rfl, ?_⟩
  apply unlimited_withSession hInternal
  · cases truthyText query.error <;> exact hBad
  · intro sessionId session
    cases truthyText query.error with
    | some error =>
        dsimp only
        split
        · exact unlimited_cancelCallback hInternal _ _ _ _
        · exact hBad
    | none =>
        dsimp only
        split
        · exact hBad
        · split
          · apply confined_bind
              (unlimited_resolveOrFail hInternal hBad _ _
                _)
            intro config
            apply confined_bind
              (unlimited_discoverOrFail hBad _ _ _ _)
            intro doc
            apply confined_bind
              (unlimited_enterpriseIdentity _ _ _ _ _ _)
            intro verified
            cases verified with
            | error failure =>
                exact
                  unlimited_failCallback hInternal _ _ _ _
            | ok identity =>
                exact
                  unlimited_finalizeIdentity hInternal hBad
                    _ _
          · exact hBad

/- Every request of a browser is served so. -/
theorem browser_route
    {req : BrowserRequest}
    (hBrowser : q.browser = some req) :
    BrowserRoute P cfg q req := by
  cases q with
  | authorize query _ =>
      cases hBrowser
      exact authorize_route query req
  | googleStart _ =>
      cases hBrowser
      exact googleStart_route req
  | googleCallback query _ =>
      cases hBrowser
      exact googleCallback_route query req
  | enterpriseStart partnerSlug _ =>
      cases hBrowser
      exact enterpriseStart_route partnerSlug req
  | enterpriseCallback partnerSlug query _ =>
      cases hBrowser
      exact enterpriseCallback_route partnerSlug query req
  | _ => cases hBrowser

end KisAuth

------------------------------------------------------------
-- Redemptions
------------------------------------------------------------

namespace KisAuth

open Interaction Prog

variable {P : Platform} {cfg : KisAuthConfig}

/- What an admitted redemption does. -/
def RedemptionRoute
    (P : Platform)
    (cfg : KisAuthConfig)
    (q : Request)
    (route : Redemption)
    (post : InternalPost) : Prop :=
  ∃ next,
    handler P cfg q = (admitRedemption P route post >>= next) ∧
      ∀ body,
        Unlimited (fun error => error ∈ q.refusals)
          (next body)

theorem exchange_route (post : InternalPost) :
    RedemptionRoute P cfg (.authorizationExchange post)
      authorizationRedemption post := by
  have hInternal :
      HttpError.internal ∈
        (Request.authorizationExchange post).refusals := by
    simp [Request.refusals]
  have hBad :
      HttpError.badRequest genericError ∈
        (Request.authorizationExchange post).refusals := by
    simp [Request.refusals]
  refine ⟨_, rfl, fun body => ?_⟩
  apply confined_bind (unlimited_orCrash hInternal _)
  intro code
  refine confined_perform (by trivial) (fun raw => ?_)
  dsimp only
  split
  · exact confined_perform (by trivial) (fun _ => hBad)
  · split
    · apply confined_bind
      · exact
          confined_perform (by trivial)
            (fun _ => unlimited_orSqlCrash hInternal _)
      · intro identity
        split
        · exact
            confined_perform (by trivial) (fun _ => hBad)
        · apply confined_bind (unlimited_sign hInternal _ _)
          intro token
          exact
            confined_perform (by trivial)
              (fun _ => by trivial)
    · exact confined_perform (by trivial) (fun _ => hBad)

theorem registrationExchange_route (post : InternalPost) :
    RedemptionRoute P cfg (.registrationExchange post)
      registrationRedemption post := by
  have hInternal :
      HttpError.internal ∈
        (Request.registrationExchange post).refusals := by
    simp [Request.refusals]
  have hBad :
      HttpError.badRequest genericError ∈
        (Request.registrationExchange post).refusals := by
    simp [Request.refusals]
  refine ⟨_, rfl, fun body => ?_⟩
  apply confined_bind (unlimited_orCrash hInternal _)
  intro code
  refine confined_perform (by trivial) (fun raw => ?_)
  dsimp only
  split
  · exact confined_perform (by trivial) (fun _ => hBad)
  · split
    · apply confined_bind (unlimited_sign hInternal _ _)
      intro token
      exact
        confined_perform (by trivial) (fun _ => by trivial)
    · exact confined_perform (by trivial) (fun _ => hBad)

end KisAuth
