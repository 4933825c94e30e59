import KisAuth.Runtime.Effect

/-
  The configuration of enterprise tenants and their
  discovery documents, both cached in the process.

  Key definitions include:
    * `OidcProviderResolverService.resolve`
    * `OidcDiscoveryService.fetchDiscovery`
    * `oidcProvider`, `compositeOidcSubject`
-/

------------------------------------------------------------
-- Identity Keys
------------------------------------------------------------

namespace KisAuth

/- The provider of every enterprise identity. -/
def oidcProvider : String :=
  "oidc"

def compositeOidcSubject (partnerSlug sub : String) : String :=
  partnerSlug ++ ":" ++ sub

end KisAuth

------------------------------------------------------------
-- Tenant Configuration
------------------------------------------------------------

namespace KisAuth

inductive ResolveFailure where
  | notFound
  | misconfigured
  | unauthorized
  | unavailable
  | requestFailed
  deriving DecidableEq

def ResolveFailure.reason : ResolveFailure → String
| .notFound => "not_found"
| .misconfigured => "misconfigured"
| .unauthorized => "unauthorized"
| .unavailable => "unavailable"
| .requestFailed => "request_failed"

def ssoCacheTtlMs : Nat :=
  60000

/- The failure an error status stands for. -/
def statusFailure (reply : FetchReply) :
    Option ResolveFailure :=
  if reply.status = 404 then some .notFound
  else if reply.status = 409 then some .misconfigured
  else if reply.status = 401 then some .unauthorized
  else if reply.status = 503 then some .unavailable
  else if reply.ok then none
  else some .requestFailed

/- The configuration in a complete body. -/
def partnerConfigOf (body : JsValue) :
    Option OidcPartnerConfig :=
  let text (name : String) : Option String :=
    (body.member name).bind JsValue.asString
  match text "partner_id", text "partner_slug",
      text "issuer", text "client_id", text "client_secret",
      text "discovery_url" with
  | some partnerId, some partnerSlug, some issuer,
      some clientId, some clientSecret, some discoveryUrl =>
      some {
        partnerId := partnerId
        partnerSlug := partnerSlug
        provider := (text "provider").getD "oidc"
        issuer := issuer
        clientId := clientId
        clientSecret := clientSecret
        discoveryUrl := discoveryUrl }
  | _, _, _, _, _, _ => none

/- The cached entry while it is fresh. -/
def freshEntry {α : Type}
    (cached : Option (α × Nat))
    (now : Nat) : Option α :=
  match cached with
  | some (value, expiresAt) =>
      if now < expiresAt then some value else none
  | none => none

/- What a reply from Django resolves to. -/
def resolveReply (reply : Option FetchReply) :
    KisM (Except ResolveFailure OidcPartnerConfig) :=
  match reply with
  | none => return .error .requestFailed
  | some reply =>
      match statusFailure reply with
      | some failure => return .error failure
      | none =>
          match reply.body with
          | none => return .error .requestFailed
          | some .null =>
              -- Destructuring `null` throws a TypeError.
              crash
          | some body =>
              match partnerConfigOf body with
              | some config => return .ok config
              | none => return .error .misconfigured

/- Ask Django for a tenant's configuration. -/
def requestPartnerConfig
    (P : Platform)
    (cfg : KisAuthConfig)
    (partnerSlug : String) :
    KisM (Except ResolveFailure OidcPartnerConfig) := do
  let base ← orCrash (P.parseUrl cfg.djangoSsoConfigUrl)
  let url :=
    P.href (P.setSearchParam base "partner_slug" partnerSlug)
  let now ← dateNow
  let nonce ← randomId
  let headers ←
    orCrash (signedInternalHeaders P "GET" url .undefined
      cfg.internalHmacSecret now nonce)
  let reply ← doFetch {
    method := "GET"
    url := url
    headers := some headers }
  resolveReply reply

def OidcProviderResolverService.resolve
    (P : Platform)
    (cfg : KisAuthConfig)
    (partnerSlug : String) :
    KisM (Except ResolveFailure OidcPartnerConfig) := do
  let cached ← call (.ssoCacheGet partnerSlug)
  let readAt ← dateNow
  match freshEntry cached readAt with
  | some config => return .ok config
  | none =>
      if cfg.djangoSsoConfigUrl = "" then
        return .error .unavailable
      else
        let resolved ← requestPartnerConfig P cfg partnerSlug
        match resolved with
        | .error failure => return .error failure
        | .ok config =>
            let now ← dateNow
            call (.ssoCacheSet partnerSlug config
              (now + ssoCacheTtlMs))
            return .ok config

end KisAuth

------------------------------------------------------------
-- Discovery Documents
------------------------------------------------------------

namespace KisAuth

def discoveryCacheTtlMs : Nat :=
  5 * 60 * 1000

/- The document in a complete reply. -/
def discoveryDocOf (reply : Option FetchReply) :
    Option OidcDiscoveryDocument :=
  match reply with
  | none => none
  | some reply =>
      if reply.ok then
        reply.body.bind (fun body =>
          let text (name : String) : Option String :=
            (body.member name).bind JsValue.asString
          match text "authorization_endpoint",
              text "token_endpoint", text "jwks_uri" with
          | some authorizationEndpoint, some tokenEndpoint,
              some jwksUri =>
              some {
                authorizationEndpoint :=
                  authorizationEndpoint
                tokenEndpoint := tokenEndpoint
                jwksUri := jwksUri
                issuer := text "issuer" }
          | _, _, _ => none)
      else
        none

/- The document, or `none` where the service throws. -/
def OidcDiscoveryService.fetchDiscovery
    (discoveryUrl : String) :
    KisM (Option OidcDiscoveryDocument) := do
  let cached ← call (.discoveryCacheGet discoveryUrl)
  let readAt ← dateNow
  match freshEntry cached readAt with
  | some doc => return some doc
  | none =>
      let reply ← doFetch {
        method := "GET"
        url := discoveryUrl }
      match discoveryDocOf reply with
      | none => return none
      | some doc =>
          let now ← dateNow
          call (.discoveryCacheSet discoveryUrl doc
            (now + discoveryCacheTtlMs))
          return some doc

end KisAuth
