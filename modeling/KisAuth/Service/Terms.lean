import KisAuth.Service.Protocol

/-
  On what terms a request stores, counts and asks.

  This adds to the protocol what it leaves open: for how long
  a value is stored, a hit counted and a nonce claimed, that
  a session gets a code verifier the request has drawn
  itself, which requests go out to Django and to the
  providers, which session is looked at or removed, and which
  cookie is set.

  Key definitions include:
    * `KeyFamily.term`, `KeepsTerm`, `ClaimsTicket`
    * `Outgoing`, `VerifiesWith`, `OnTerms`
    * `Departs`, `StartOutcome`
    * `OwnSession`, `SetsCookie`
    * `Conducted`, `Concluded`
-/

------------------------------------------------------------
-- Times And Verifiers
------------------------------------------------------------

namespace KisAuth

open Interaction

/- The store a value belongs to. -/
def RedisValue.family : RedisValue → KeyFamily
| .session _ => .session
| .challenge _ => .challenge
| .code _ => .code
| .ticket _ => .regTicket
| .claimed => .linkNonce
| .count _ => .rateLimit

/-
  How many seconds a store keeps a value. A claimed nonce is
  kept for what its ticket has left.
-/
def KeyFamily.term
    (cfg : KisAuthConfig) : KeyFamily → Option ℚ
| .session => some sessionTtlSeconds
| .challenge => some cfg.challengeTtlSeconds
| .code => some cfg.authCodeTtlSeconds
| .regTicket => some cfg.authCodeTtlSeconds
| .linkNonce => none
| .rateLimit => some 60

/-
  A write is for the term of the store, or for the time that
  Redis said the key has left.
-/
def KeepsTerm
    (cfg : KisAuthConfig)
    (past : Past)
    (key : String)
    (value : RedisValue)
    (ttlSeconds : ℚ) : Prop :=
  value.family.term cfg = some ttlSeconds ∨
    ∃ left : ℤ,
      0 < left ∧
        ⟨.redisTtl key, left⟩ ∈ past ∧ ttlSeconds = left

/-
  A nonce is claimed for the time its ticket had left when
  the clock was read, and for a second at least.
-/
def ClaimsTicket
    (P : Platform)
    (cfg : KisAuthConfig)
    (q : Request)
    (past : Past)
    (key : String)
    (ttlSeconds : ℚ) : Prop :=
  ∃ query req ticket payload exp clock,
    q = .authorize query req ∧
      query.linkTicket = some ticket ∧
      readTicket P cfg.internalHmacSecret ticket =
        .ok payload ∧
      payload.exp = .finite exp ∧
      ⟨.dateNow, clock⟩ ∈ past ∧
      (wholeSeconds clock : ℚ) < exp ∧
      key = linkNonceKey payload.nonce ∧
      ttlSeconds = max 1 (exp - wholeSeconds clock)

/- The code verifier of a session that is written. -/
def RedisValue.codeVerifier : RedisValue → Option String
| .session found => found.codeVerifier
| _ => none

end KisAuth

------------------------------------------------------------
-- Outgoing Requests
------------------------------------------------------------

namespace KisAuth

open Interaction

/- The exchange of a code at Google. -/
def googleTokenRequest
    (cfg : KisAuthConfig)
    (code codeVerifier : String) : FetchRequest where
  method := "POST"
  url := googleTokenUrl
  form :=
    [("code", code),
      ("client_id", cfg.googleClientId),
      ("client_secret", cfg.googleClientSecret),
      ("redirect_uri", cfg.googleRedirectUri),
      ("grant_type", "authorization_code"),
      ("code_verifier", codeVerifier)]

/- The exchange of a code at a tenant's provider. -/
def tenantTokenRequest
    (config : OidcPartnerConfig)
    (doc : OidcDiscoveryDocument)
    (redirectUri code codeVerifier : String) :
    FetchRequest where
  method := "POST"
  url := doc.tokenEndpoint
  form :=
    [("code", code),
      ("client_id", config.clientId),
      ("client_secret", config.clientSecret),
      ("redirect_uri", redirectUri),
      ("grant_type", "authorization_code"),
      ("code_verifier", codeVerifier)]

/- The route of a tenant, on a session of that tenant. -/
def AtTenant
    (q : Request)
    (past : Past)
    (partnerSlug : String) : Prop :=
  ∃ req sessionId session,
    (q = .enterpriseStart partnerSlug req ∨
        ∃ query, q = .enterpriseCallback partnerSlug query req) ∧
      ReadsSession req past sessionId session ∧
      session.partnerSlug = some partnerSlug

/-
  A callback with a code and the session of its cookie, on
  the route of the session's tenant.
-/
structure Exchanging
    (q : Request)
    (past : Past)
    (callback : Callback)
    (sessionId : String)
    (session : OAuthSession)
    (code codeVerifier : String) : Prop where
  serves : q.callback = some callback
  reads : ReadsSession callback.req past sessionId session
  accepted :
    acceptedCode callback.query session =
      some (code, codeVerifier)
  tenant :
    ∀ partnerSlug,
      callback.tenant = some partnerSlug →
        session.partnerSlug = some partnerSlug

/- The keys that the token of a callback is verified with. -/
def VerifiesWith
    (P : Platform)
    (cfg : KisAuthConfig)
    (q : Request)
    (past : Past)
    (jwksUri : String)
    (issuer : List String)
    (audience : String) : Prop :=
  ∃ callback sessionId session code codeVerifier,
    Exchanging q past callback sessionId session code
        codeVerifier ∧
      Trusted P cfg past callback.tenant jwksUri issuer
        audience

/- The exchange at the provider of a callback's route. -/
def TokenRequest
    (P : Platform)
    (cfg : KisAuthConfig)
    (past : Past)
    (tenant : Option String)
    (code codeVerifier : String)
    (request : FetchRequest) : Prop :=
  match tenant with
  | none => request = googleTokenRequest cfg code codeVerifier
  | some partnerSlug =>
      ∃ config doc redirectUri,
        ConfigResolved P cfg past partnerSlug config ∧
          DocResolved past config.discoveryUrl doc ∧
          OidcEnterpriseController.enterpriseRedirectUri P cfg
              partnerSlug =
            some redirectUri ∧
          request =
            tenantTokenRequest config doc redirectUri code
              codeVerifier

/- The signed request for a tenant's configuration. -/
def SignedConfigRequest
    (P : Platform)
    (cfg : KisAuthConfig)
    (partnerSlug : String)
    (request : FetchRequest) : Prop :=
  ∃ base headers now nonce,
    P.parseUrl cfg.djangoSsoConfigUrl = some base ∧
      signedInternalHeaders P "GET"
          (P.href
            (P.setSearchParam base "partner_slug" partnerSlug))
          .undefined cfg.internalHmacSecret now nonce =
        some headers ∧
      request =
        { method := "GET"
          url :=
            P.href
              (P.setSearchParam base "partner_slug"
                partnerSlug)
          headers := some headers }

/- What each outgoing request is sent for. -/
inductive Outgoing
    (P : Platform)
    (cfg : KisAuthConfig)
    (q : Request)
    (past : Past) : FetchRequest → Prop where
  | tenantConfig
      (partnerSlug : String)
      (request : FetchRequest)
      (hTenant : AtTenant q past partnerSlug)
      (hRequest :
        SignedConfigRequest P cfg partnerSlug request) :
      Outgoing P cfg q past request
  | discovery
      (partnerSlug : String)
      (config : OidcPartnerConfig)
      (hTenant : AtTenant q past partnerSlug)
      (hConfig :
        ConfigResolved P cfg past partnerSlug config) :
      Outgoing P cfg q past
        { method := "GET", url := config.discoveryUrl }
  | token
      (callback : Callback)
      (sessionId : String)
      (session : OAuthSession)
      (code codeVerifier : String)
      (request : FetchRequest)
      (hExchanging :
        Exchanging q past callback sessionId session code
          codeVerifier)
      (hRequest :
        TokenRequest P cfg past callback.tenant code
          codeVerifier request) :
      Outgoing P cfg q past request

/- The terms of each call. -/
def OnTerms
    (P : Platform)
    (cfg : KisAuthConfig)
    (q : Request)
    (past : Past) : Eff → Prop
| .redisSet key value ttlSeconds =>
    KeepsTerm cfg past key value ttlSeconds ∧
      ∀ codeVerifier,
        value.codeVerifier = some codeVerifier →
          ⟨.random, codeVerifier⟩ ∈ past
| .redisSetNx key ttlSeconds =>
    ClaimsTicket P cfg q past key ttlSeconds
| .redisIncr _ windowSeconds => windowSeconds = 60
| .fetch request => Outgoing P cfg q past request
| .jwtVerify _ jwksUri issuer audience =>
    VerifiesWith P cfg q past jwksUri issuer audience
| _ => True

end KisAuth

------------------------------------------------------------
-- Where A Start Leads
------------------------------------------------------------

namespace KisAuth

open Interaction

/-
  The browser is sent to a provider with the state and nonce
  of its session and the challenge of the code verifier that
  was stored in it.
-/
def Departs
    (P : Platform)
    (past : Past)
    (req : BrowserRequest)
    (clientId redirectUri endpoint location : String) : Prop :=
  ∃ sessionId session codeVerifier ttlSeconds url,
    ReadsSession req past sessionId session ∧
      ⟨.random, codeVerifier⟩ ∈ past ∧
      ⟨.redisSet (sessionKey sessionId)
          (.session
            { session with codeVerifier := some codeVerifier })
          ttlSeconds,
        .ok ()⟩ ∈ past ∧
      P.parseUrl endpoint = some url ∧
      location =
        P.href (setSearchParams P url
          (authorizationParams P session clientId redirectUri
            codeVerifier))

/- The provider a start leads to. -/
def DepartsFrom
    (P : Platform)
    (cfg : KisAuthConfig)
    (past : Past)
    (location : String) : Request → Prop
| .googleStart req =>
    Departs P past req cfg.googleClientId
      cfg.googleRedirectUri googleAuthUrl location
| .enterpriseStart partnerSlug req =>
    ∃ config doc redirectUri,
      ConfigResolved P cfg past partnerSlug config ∧
        DocResolved past config.discoveryUrl doc ∧
        OidcEnterpriseController.enterpriseRedirectUri P cfg
            partnerSlug =
          some redirectUri ∧
        Departs P past req config.clientId redirectUri
          doc.authorizationEndpoint location
| _ => True

/- What a route that redirects has done before. -/
def StartOutcome
    (P : Platform)
    (cfg : KisAuthConfig)
    (q : Request)
    (past : Past) : Except HttpError Response → Prop
| .ok (.redirect location _) =>
    DepartsFrom P cfg past location q
| _ => True

end KisAuth

------------------------------------------------------------
-- Sessions And Cookies
------------------------------------------------------------

namespace KisAuth

/- The request of a browser, with its cookies. -/
def Request.browser : Request → Option BrowserRequest
| .authorize _ req => some req
| .googleStart req => some req
| .googleCallback _ req => some req
| .enterpriseStart _ req => some req
| .enterpriseCallback _ _ req => some req
| _ => none

/- The session that the cookies of a request name. -/
def Request.held (q : Request) : Option String :=
  q.browser.bind (fun req => (sessionCookie req).join)

theorem callback_browser
    {q : Request}
    {callback : Callback}
    (hCallback : q.callback = some callback) :
    q.browser = some callback.req := by
  cases q with
  | googleCallback query req =>
      cases hCallback
      rfl
  | enterpriseCallback partnerSlug query req =>
      cases hCallback
      rfl
  | _ => cases hCallback

theorem held_of_cookie
    {q : Request}
    {req : BrowserRequest}
    {sessionId : String}
    (hBrowser : q.browser = some req)
    (hCookie : sessionCookie req = some (some sessionId)) :
    q.held = some sessionId := by
  simp [Request.held, hBrowser, hCookie]

/- Calls that look at or remove no session but this one. -/
def OwnSession (held : Option String) : Eff → Prop
| .redisGet key =>
    ∀ sessionId, key = sessionKey sessionId →
      held = some sessionId
| .redisTtl key =>
    ∀ sessionId, key = sessionKey sessionId →
      held = some sessionId
| .redisDel key =>
    ∀ sessionId, key = sessionKey sessionId →
      held = some sessionId
| _ => True

/- The key of another store is the key of no session. -/
theorem ownSession_other
    {held : Option String}
    {family : KeyFamily}
    (hFamily : family ≠ .session)
    (id sessionId : String)
    (hKey : storeKey family id = sessionKey sessionId) :
    held = some sessionId :=
  absurd ((storeKey_inj _ _ _ _).mp hKey).1 hFamily

/- The key of the own session is the key of no other. -/
theorem ownSession_self
    {held : Option String}
    {sessionId : String}
    (hHeld : held = some sessionId)
    (other : String)
    (hKey : sessionKey sessionId = sessionKey other) :
    held = some other := by
  rw [hHeld, ((storeKey_inj _ _ _ _).mp hKey).2]

/- The header that sets a cookie, if the response has one. -/
def Response.setCookie : Response → Option String
| .redirect _ cookie => cookie
| _ => none

/- The `Set-Cookie` header of a session. -/
def cookieOf
    (cfg : KisAuthConfig)
    (sessionId : String) : String :=
  serializeSessionCookie sessionCookieName sessionId
    (decide (cfg.nodeEnv = "production")) 600

/- A cookie is set for the session that was just stored. -/
def SetsCookie
    (cfg : KisAuthConfig)
    (past : Past) : Except HttpError Response → Prop
| .ok response =>
    ∀ cookie,
      response.setCookie = some cookie →
        ∃ sessionId session ttl,
          ⟨.random, sessionId⟩ ∈ past ∧
            ⟨.redisSet (sessionKey sessionId)
                (.session session) ttl, .ok ()⟩ ∈ past ∧
            cookie = cookieOf cfg sessionId
| .error _ => True

end KisAuth

------------------------------------------------------------
-- All Of It
------------------------------------------------------------

namespace KisAuth

/- A call that is allowed, on the terms, on its own session. -/
structure Conducted
    (P : Platform)
    (cfg : KisAuthConfig)
    (q : Request)
    (past : Past)
    (effect : Eff) : Prop where
  allowed : Allowed P cfg q past effect
  terms : OnTerms P cfg q past effect
  own : OwnSession q.held effect

/- An end that is allowed, leads on and sets its cookie. -/
structure Concluded
    (P : Platform)
    (cfg : KisAuthConfig)
    (q : Request)
    (past : Past)
    (outcome : Except HttpError Response) : Prop where
  ends : Outcome P cfg q past outcome
  start : StartOutcome P cfg q past outcome
  cookie : SetsCookie cfg past outcome

end KisAuth
