import KisAuth.Runtime.Effect

/-
  Exchanging a provider's code for an ID token, and
  verifying the token.

  Key definitions include:
    * `checkPayload`, `verifyOidcIdToken`
    * `GoogleTokenExchangeService.exchangeCodeForIdToken`
    * `OidcTokenExchangeService.exchangeCodeForIdToken`
    * `GoogleIdTokenService.verify`
    * `OidcIdTokenService.verify`
-/

------------------------------------------------------------
-- Token Exchange
------------------------------------------------------------

namespace KisAuth

/- What a callback tells apart when a provider fails it. -/
inductive ProviderFailure where
  | tokenExchange
  | idTokenVerification
  deriving DecidableEq

def ProviderFailure.reason : ProviderFailure → String
| .tokenExchange => "token_exchange_failed"
| .idTokenVerification => "id_token_verification_failed"

/-
  The `id_token` of a token endpoint's reply. A failed
  request, an error status, a body that is not JSON and a
  missing token all fail the exchange.
-/
def idTokenOf (reply : Option FetchReply) :
    Except ProviderFailure JsValue :=
  match reply with
  | none => .error .tokenExchange
  | some reply =>
      if reply.ok then
        match reply.body.bind (JsValue.member "id_token") with
        | some idToken =>
            if idToken.truthy then .ok idToken
            else .error .tokenExchange
        | none => .error .tokenExchange
      else
        .error .tokenExchange

def googleTokenUrl : String :=
  "https://oauth2.googleapis.com/token"

def GoogleTokenExchangeService.exchangeCodeForIdToken
    (cfg : KisAuthConfig)
    (code codeVerifier : String) :
    KisM (Except ProviderFailure JsValue) := do
  let reply ← doFetch {
    method := "POST"
    url := googleTokenUrl
    form :=
      [("code", code),
        ("client_id", cfg.googleClientId),
        ("client_secret", cfg.googleClientSecret),
        ("redirect_uri", cfg.googleRedirectUri),
        ("grant_type", "authorization_code"),
        ("code_verifier", codeVerifier)] }
  return idTokenOf reply

/- What the enterprise exchange is called with. -/
structure OidcTokenExchangeArgs where
  tokenEndpoint : String
  code : String
  codeVerifier : String
  clientId : String
  clientSecret : String
  redirectUri : String

def OidcTokenExchangeService.exchangeCodeForIdToken
    (args : OidcTokenExchangeArgs) :
    KisM (Except ProviderFailure JsValue) := do
  let reply ← doFetch {
    method := "POST"
    url := args.tokenEndpoint
    form :=
      [("code", args.code),
        ("client_id", args.clientId),
        ("client_secret", args.clientSecret),
        ("redirect_uri", args.redirectUri),
        ("grant_type", "authorization_code"),
        ("code_verifier", args.codeVerifier)] }
  return idTokenOf reply

end KisAuth

------------------------------------------------------------
-- Verification
------------------------------------------------------------

namespace KisAuth

/- What an accepted payload says about the user. -/
def verifiedOf (payload : IdTokenPayload) (sub : String) :
    VerifiedIdToken where
  sub := sub
  email := payload.email.asString
  emailVerified :=
    match payload.emailVerified with
    | .bool true => true
    | _ => false

/-
  The checks after the library's own: the nonce is the
  expected one and the subject is a non-empty string.
-/
def checkPayload
    (expectedNonce : String)
    (payload : IdTokenPayload) : Option VerifiedIdToken :=
  if payload.nonce.asString = some expectedNonce then
    match payload.sub with
    | .str sub =>
        if sub = "" then none
        else some (verifiedOf payload sub)
    | _ => none
  else
    none

/- What the checks say about an accepted payload. -/
theorem checkPayload_spec
    {expectedNonce : String}
    {payload : IdTokenPayload}
    {token : VerifiedIdToken}
    (hCheck : checkPayload expectedNonce payload = some token) :
    payload.nonce = .str expectedNonce ∧
      payload.sub = .str token.sub ∧
      token.sub ≠ "" ∧
      token = verifiedOf payload token.sub := by
  unfold checkPayload at hCheck
  split at hCheck
  · next hNonce =>
      rw [JsValue.asString_eq_some_iff] at hNonce
      split at hCheck
      · next sub hSub =>
          split at hCheck
          · simp at hCheck
          · next hEmpty =>
              rw [Option.some.injEq] at hCheck
              subst hCheck
              exact ⟨hNonce, hSub, hEmpty, rfl⟩
      · simp at hCheck
  · simp at hCheck

/- What a token is verified against. -/
structure IdTokenExpectation where
  jwksUri : String
  issuer : List String
  audience : String
  nonce : String

def verifyOidcIdToken
    (idToken : JsValue)
    (expected : IdTokenExpectation) :
    KisM (Except ProviderFailure VerifiedIdToken) :=
  match idToken with
  | .str text => do
      let payload ←
        call (.jwtVerify text expected.jwksUri
          expected.issuer expected.audience)
      match payload.bind (checkPayload expected.nonce) with
      | some verified => return .ok verified
      | none => return .error .idTokenVerification
  | _ =>
      -- The library throws for a token that is no string.
      return .error .idTokenVerification

def googleJwksUrl : String :=
  "https://www.googleapis.com/oauth2/v3/certs"

def googleIssuers : List String :=
  ["https://accounts.google.com", "accounts.google.com"]

def GoogleIdTokenService.verify
    (cfg : KisAuthConfig)
    (idToken : JsValue)
    (expectedNonce : String) :
    KisM (Except ProviderFailure VerifiedIdToken) :=
  verifyOidcIdToken idToken
    { jwksUri := googleJwksUrl
      issuer := googleIssuers
      audience := cfg.googleClientId
      nonce := expectedNonce }

/-
  A key set address that is no URL throws before the token
  is looked at, which is not a verification failure.
-/
def OidcIdTokenService.verify
    (P : Platform)
    (idToken : JsValue)
    (jwksUri issuer audience expectedNonce : String) :
    KisM (Except ProviderFailure VerifiedIdToken) :=
  match P.parseUrl jwksUri with
  | none => return .error .tokenExchange
  | some _ =>
      verifyOidcIdToken idToken
        { jwksUri := jwksUri
          issuer := [issuer]
          audience := audience
          nonce := expectedNonce }

end KisAuth
