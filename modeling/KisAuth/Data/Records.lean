import KisAuth.Data.JsValue

/-
  The records the service keeps and exchanges.

  Key definitions include:
    * `OAuthSession`, `ChallengeRecord`
    * `AuthorizationCodePayload`
    * `RegistrationTicketPayload`, `RedisValue`
    * `AuthIdentity`, `RegisteredClient`
    * `AuthorizationClaims`, `AuthorizationJwt`
    * `OidcPartnerConfig`, `OidcDiscoveryDocument`
    * `IdTokenPayload`, `VerifiedIdToken`
    * `SecurityEvent`
-/

------------------------------------------------------------
-- Records Kept In Redis
------------------------------------------------------------

namespace KisAuth

/-
  The in-flight browser request. The purpose is the string
  the caller named: nothing converts it to a closed list.
-/
structure OAuthSession where
  clientId : String
  redirectUri : String
  purpose : String
  state : String
  nonce : String
  clientState : String
  codeVerifier : Option String
  linkKisUserId : Option String
  partnerSlug : Option String
  deriving DecidableEq

structure ChallengeRecord where
  purpose : String
  clientId : String
  kisUserId : Option String
  authIdentityId : Option String
  attemptCount : Nat
  maxAttempts : ℚ
  used : Bool
  deriving DecidableEq

structure AuthorizationCodePayload where
  purpose : String
  clientId : String
  kisUserId : String
  authIdentityId : String
  redirectUri : String
  deriving DecidableEq

structure RegistrationTicketPayload where
  clientId : String
  purpose : String
  provider : String
  providerSubject : String
  providerEmail : Option String
  providerEmailVerified : Bool
  partnerSlug : Option String
  redirectUri : String
  deriving DecidableEq

/-
  What is stored under a Redis key. The records are kept as
  the values their JSON text stands for; a claimed link
  ticket nonce is stored as "1" and a rate limit as a count.
-/
inductive RedisValue where
  | session (session : OAuthSession)
  | challenge (record : ChallengeRecord)
  | code (payload : AuthorizationCodePayload)
  | ticket (payload : RegistrationTicketPayload)
  | claimed
  | count (hits : Nat)
  deriving DecidableEq

end KisAuth

------------------------------------------------------------
-- Identities And Clients
------------------------------------------------------------

namespace KisAuth

inductive IdentityStatus where
  | active
  | revoked
  deriving DecidableEq

structure AuthIdentity where
  id : String
  provider : String
  providerSubject : String
  kisUserId : String
  providerEmail : Option String
  providerEmailVerified : Bool
  status : IdentityStatus
  deriving DecidableEq

/-
  The parameters of the INSERT of one identity. The last one
  is absent where it is no text the database reads a boolean
  from.
-/
structure NewIdentity where
  provider : String
  providerSubject : String
  kisUserId : String
  providerEmail : Option String
  providerEmailVerified : Option Bool
  deriving DecidableEq

inductive ClientStatus where
  | active
  | disabled
  deriving DecidableEq

structure RegisteredClient where
  clientId : String
  name : String
  status : ClientStatus
  allowedRedirectUris : List String
  allowedScopes : List String
  allowedPurposes : List String
  deriving DecidableEq

end KisAuth

------------------------------------------------------------
-- Tokens
------------------------------------------------------------

namespace KisAuth

/- The claims a token is signed from. -/
structure AuthorizationClaims where
  sub : Option String
  aud : String
  purpose : String
  authIdentityId : Option String
  providerSubject : Option String
  providerEmail : Option String
  providerEmailVerified : Bool
  provider : Option String
  partnerSlug : Option String
  deriving DecidableEq

/- The header and payload of a signed token. -/
structure AuthorizationJwt where
  kid : String
  iss : String
  aud : String
  iat : Nat
  exp : ℚ
  jti : String
  sub : Option String
  purpose : String
  authIdentityId : Option String
  providerSubject : Option String
  providerEmail : Option String
  providerEmailVerified : Bool
  provider : Option String
  partnerSlug : Option String
  deriving DecidableEq

/- The payload of an ID token whose signature verified. -/
structure IdTokenPayload where
  iss : JsValue
  aud : JsValue
  nonce : JsValue
  sub : JsValue
  email : JsValue
  emailVerified : JsValue

structure VerifiedIdToken where
  sub : String
  email : Option String
  emailVerified : Bool
  deriving DecidableEq

end KisAuth

------------------------------------------------------------
-- Tenants And Events
------------------------------------------------------------

namespace KisAuth

structure OidcPartnerConfig where
  partnerId : String
  partnerSlug : String
  provider : String
  issuer : String
  clientId : String
  clientSecret : String
  discoveryUrl : String
  deriving DecidableEq

structure OidcDiscoveryDocument where
  authorizationEndpoint : String
  tokenEndpoint : String
  jwksUri : String
  issuer : Option String
  deriving DecidableEq

inductive EventOutcome where
  | success
  | failure
  deriving DecidableEq

/- A security event. Absent fields are `undefined`. -/
structure SecurityEvent where
  eventType : String
  outcome : EventOutcome
  kisUserId : JsValue := .undefined
  clientId : JsValue := .undefined
  reason : JsValue := .undefined
  ip : JsValue := .undefined
  metadata : List (String × JsValue) := []

end KisAuth
