import KisAuth.OAuth.OAuthController
import KisAuth.OAuth.Tenant

/-
  The routes of an enterprise tenant, named by its slug.

  Key definitions include:
    * `OidcEnterpriseController.resolveOrFail`
    * `OidcEnterpriseController.discoverOrFail`
    * `OidcEnterpriseController.start`
    * `OidcEnterpriseController.callback`
-/

------------------------------------------------------------
-- Tenant Configuration
------------------------------------------------------------

namespace KisAuth

namespace OidcEnterpriseController

variable (P : Platform) (cfg : KisAuthConfig)

/- The redirect URI registered with the tenant's provider. -/
def enterpriseRedirectUri
    (partnerSlug : String) : Option String :=
  (P.parseUrlAt
    ("/oauth/enterprise/" ++ encodeURIComponent partnerSlug ++
      "/callback")
    cfg.baseUrl).map P.href

/- The metadata of every event of these routes. -/
def tenantMetadata
    (partnerSlug : String) : List (String × JsValue) :=
  [("provider", .str oidcProvider),
    ("partner_slug", .str partnerSlug)]

/- The event of a tenant whose configuration failed. -/
def configFailed
    (partnerSlug clientId reason ip : String) :
    SecurityEvent where
  eventType := "oauth.enterprise_config_failed"
  outcome := .failure
  clientId := .str clientId
  reason := .str reason
  ip := .str ip
  metadata := tenantMetadata partnerSlug

def resolveOrFail
    (partnerSlug clientId sessionId ip : String) :
    KisM OidcPartnerConfig := do
  let resolved ←
    OidcProviderResolverService.resolve P cfg partnerSlug
  match resolved with
  | .ok config => return config
  | .error failure =>
      emit (configFailed partnerSlug clientId
        ("sso_config_" ++ failure.reason) ip)
      OAuthSessionStore.delete sessionId
      badRequest

/- The discovery document, or the end of the session. -/
def discoverOrFail
    (partnerSlug discoveryUrl clientId sessionId ip : String) :
    KisM OidcDiscoveryDocument := do
  let doc ← OidcDiscoveryService.fetchDiscovery discoveryUrl
  match doc with
  | some doc => return doc
  | none =>
      emit (configFailed partnerSlug clientId
        "discovery_failed" ip)
      OAuthSessionStore.delete sessionId
      badRequest

end OidcEnterpriseController

end KisAuth

------------------------------------------------------------
-- Routes
------------------------------------------------------------

namespace KisAuth

namespace OidcEnterpriseController

variable (P : Platform) (cfg : KisAuthConfig)

/- A session is walked through its own tenant's routes only. -/
def start
    (partnerSlug : String)
    (req : BrowserRequest) : KisM Response := do
  enforceRateLimit RateLimits.oauthEnterpriseStart req.ip
  let sessionId ← sessionIdOf req
  let found ← sessionOf sessionId
  match found with
  | none => badRequest
  | some (sessionId, session) =>
      if session.partnerSlug = some partnerSlug then
        let config ←
          resolveOrFail P cfg partnerSlug session.clientId
            sessionId req.ip
        let doc ←
          discoverOrFail partnerSlug config.discoveryUrl
            session.clientId sessionId req.ip
        let codeVerifier ← randomId
        OAuthSessionStore.update sessionId
          { session with codeVerifier := some codeVerifier }
        let url ← orCrash (P.parseUrl doc.authorizationEndpoint)
        let redirectUri ←
          orCrash (enterpriseRedirectUri P cfg partnerSlug)
        return .redirect
          (P.href (setSearchParams P url
            (authorizationParams P session config.clientId
              redirectUri codeVerifier)))
          none
      else
        badRequest

/- Exchange the code and verify the token it stands for. -/
def verifiedIdentity
    (partnerSlug code codeVerifier nonce : String)
    (config : OidcPartnerConfig)
    (doc : OidcDiscoveryDocument) :
    KisM (Except ProviderFailure VerifiedIdToken) :=
  match enterpriseRedirectUri P cfg partnerSlug with
  | none => return .error .tokenExchange
  | some redirectUri => do
      let exchanged ←
        OidcTokenExchangeService.exchangeCodeForIdToken {
          tokenEndpoint := doc.tokenEndpoint
          code := code
          codeVerifier := codeVerifier
          clientId := config.clientId
          clientSecret := config.clientSecret
          redirectUri := redirectUri }
      match exchanged with
      | .error failure => return .error failure
      | .ok idToken =>
          OidcIdTokenService.verify P idToken doc.jwksUri
            config.issuer config.clientId nonce

def callback
    (partnerSlug : String)
    (query : CallbackQuery)
    (req : BrowserRequest) : KisM Response := do
  enforceRateLimit RateLimits.oauthEnterpriseCallback req.ip
  let sessionId ← sessionIdOf req
  let found ← sessionOf sessionId
  match truthyText query.error, found with
  | _, none => badRequest
  | some error, some (sessionId, session) =>
      if session.partnerSlug = some partnerSlug ∧
          query.state = some session.state then
        cancelCallback P cfg sessionId session error req.ip
          (tenantMetadata partnerSlug)
      else
        badRequest
  | none, some (sessionId, session) =>
      match acceptedCode query session with
      | none => badRequest
      | some (code, codeVerifier) =>
          if session.partnerSlug = some partnerSlug then
            let config ←
              resolveOrFail P cfg partnerSlug session.clientId
                sessionId req.ip
            let doc ←
              discoverOrFail partnerSlug config.discoveryUrl
                session.clientId sessionId req.ip
            let verified ←
              verifiedIdentity P cfg partnerSlug code
                codeVerifier session.nonce config doc
            match verified with
            | .error failure =>
                failCallback P cfg sessionId session failure
                  req.ip (tenantMetadata partnerSlug)
            | .ok identity =>
                finalizeIdentity P cfg
                  { provider := oidcProvider
                    verifiedIdentity :=
                      { sub :=
                          compositeOidcSubject partnerSlug
                            identity.sub
                        email := identity.email
                        emailVerified :=
                          identity.emailVerified }
                    session := session
                    sessionId := sessionId
                    ip := req.ip }
                  "enterprise_sso_registration"
                  (some partnerSlug)
          else
            badRequest

end OidcEnterpriseController

end KisAuth
