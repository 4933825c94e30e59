import KisAuth.Clients.ClientService
import KisAuth.OAuth.Callback
import KisAuth.Security.LinkTicket
import KisAuth.Security.RateLimit

/-
  The entry point of every browser flow, and the Google
  routes.

  Key definitions include:
    * `OAuthController.authorize`
    * `OAuthController.start`, `OAuthController.callback`
-/

------------------------------------------------------------
-- Authorize
------------------------------------------------------------

namespace KisAuth

/- The characters of a partner slug. -/
def isSlugChar (c : Char) : Bool :=
  ('a' ≤ c && c ≤ 'z') || c.isDigit || c == '-'

/- `PARTNER_SLUG_PATTERN`, /^[a-z0-9-]{1,64}$/. -/
def isPartnerSlug (slug : String) : Bool :=
  decide (1 ≤ slug.toList.length) &&
    decide (slug.toList.length ≤ 64) &&
    slug.toList.all isSlugChar

namespace OAuthController

variable (P : Platform) (cfg : KisAuthConfig)

/- The user a link ticket names, for purpose='link' only. -/
def linkUser
    (query : AuthorizeQuery)
    (purpose : String)
    (req : BrowserRequest) : KisM (Option String) :=
  if purpose = "link" then
    match truthyText query.linkTicket with
    | none => badRequest
    | some linkTicket => do
        let verified ←
          LinkTicketService.verifyAndConsume P
            cfg.internalHmacSecret linkTicket
        match verified with
        | .ok kisUserId => return some kisUserId
        | .refused reason =>
            emit {
              eventType := "link.failed"
              outcome := .failure
              clientId :=
                (query.clientId.map JsValue.str).getD
                  .undefined
              reason := .str ("link_ticket_" ++ reason.reason)
              ip := .str req.ip }
            badRequest
  else
    return none

/- Where the browser goes after /authorize. -/
def startLocation (partnerSlug : Option String) : String :=
  match truthyText partnerSlug with
  | some slug =>
      "/oauth/enterprise/" ++ encodeURIComponent slug ++
        "/start"
  | none => "/oauth/google/start"

/- An absent client or redirect URI counts as empty text. -/
def authorize
    (query : AuthorizeQuery)
    (req : BrowserRequest) : KisM Response := do
  enforceRateLimit RateLimits.authorize req.ip
  let clientId := query.clientId.getD ""
  let redirectUri := query.redirectUri.getD ""
  let client ← ClientService.findByClientId clientId
  match client, query.purpose, truthyText query.state with
  | some client, some purpose, some clientState =>
      if isRedirectUriAllowed client redirectUri &&
          isPurposeAllowed client purpose &&
          query.partnerSlug.all isPartnerSlug then
        let linkKisUserId ← linkUser P cfg query purpose req
        let state ← randomId
        let nonce ← randomId
        let sessionId ← OAuthSessionStore.create {
          clientId := clientId
          redirectUri := redirectUri
          purpose := purpose
          state := state
          nonce := nonce
          clientState := clientState
          codeVerifier := none
          linkKisUserId := truthyText linkKisUserId
          partnerSlug := truthyText query.partnerSlug }
        return .redirect (startLocation query.partnerSlug)
          (some (serializeSessionCookie sessionCookieName
            sessionId (decide (cfg.nodeEnv = "production"))
            600))
      else
        -- All refusals look alike.
        badRequest
  | _, _, _ => badRequest

end OAuthController

end KisAuth

------------------------------------------------------------
-- Google
------------------------------------------------------------

namespace KisAuth

def googleAuthUrl : String :=
  "https://accounts.google.com/o/oauth2/v2/auth"

/- The query of an authorization request. -/
def authorizationParams
    (P : Platform)
    (session : OAuthSession)
    (clientId redirectUri codeVerifier : String) :
    List (String × String) :=
  [("client_id", clientId),
    ("redirect_uri", redirectUri),
    ("response_type", "code"),
    ("scope", "openid email profile"),
    ("state", session.state),
    ("nonce", session.nonce),
    ("code_challenge", P.sha256Base64url codeVerifier),
    ("code_challenge_method", "S256")]

namespace OAuthController

variable (P : Platform) (cfg : KisAuthConfig)

def start (req : BrowserRequest) : KisM Response := do
  enforceRateLimit RateLimits.oauthGoogleStart req.ip
  let sessionId ← sessionIdOf req
  let found ← sessionOf sessionId
  match found with
  | none => badRequest
  | some (sessionId, session) =>
      let codeVerifier ← randomId
      OAuthSessionStore.update sessionId
        { session with codeVerifier := some codeVerifier }
      let url ← orCrash (P.parseUrl googleAuthUrl)
      return .redirect
        (P.href (setSearchParams P url
          (authorizationParams P session cfg.googleClientId
            cfg.googleRedirectUri codeVerifier)))
        none

/- Exchange the code and verify the token it stands for. -/
def verifiedIdentity
    (code codeVerifier nonce : String) :
    KisM (Except ProviderFailure VerifiedIdToken) := do
  let exchanged ←
    GoogleTokenExchangeService.exchangeCodeForIdToken cfg
      code codeVerifier
  match exchanged with
  | .error failure => return .error failure
  | .ok idToken =>
      GoogleIdTokenService.verify cfg idToken nonce

def callback
    (query : CallbackQuery)
    (req : BrowserRequest) : KisM Response := do
  enforceRateLimit RateLimits.oauthGoogleCallback req.ip
  let sessionId ← sessionIdOf req
  let found ← sessionOf sessionId
  match truthyText query.error, found with
  | _, none => badRequest
  | some error, some (sessionId, session) =>
      if query.state = some session.state then
        cancelCallback P cfg sessionId session error req.ip []
      else
        badRequest
  | none, some (sessionId, session) =>
      match acceptedCode query session with
      | none => badRequest
      | some (code, codeVerifier) =>
          let verified ←
            verifiedIdentity cfg code codeVerifier
              session.nonce
          match verified with
          | .error failure =>
              failCallback P cfg sessionId session failure
                req.ip []
          | .ok identity =>
              finalizeIdentity P cfg
                { provider := "google"
                  verifiedIdentity :=
                    { sub := identity.sub
                      email := identity.email
                      emailVerified :=
                        identity.emailVerified }
                  session := session
                  sessionId := sessionId
                  ip := req.ip }
                "registration" none

end OAuthController

end KisAuth
