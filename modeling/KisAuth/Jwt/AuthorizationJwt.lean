import KisAuth.Runtime.Effect

/-
  The signed token an exchange returns.

  Key definitions include:
    * `normalizePem`
    * `AuthorizationJwtService.sign`
-/

------------------------------------------------------------
-- PEM Texts
------------------------------------------------------------

namespace KisAuth

/- A newline in place of each backslash and n. -/
def unescapeNewlines : List Char → List Char
| '\\' :: 'n' :: rest => '\n' :: unescapeNewlines rest
| c :: rest => c :: unescapeNewlines rest
| [] => []

/-
  `pem.includes('\\n') ? pem.replace(/\\n/g, '\n') : pem`: a
  text without the sequence is replaced by itself.
-/
def normalizePem (pem : String) : String :=
  String.ofList (unescapeNewlines pem.toList)

end KisAuth

------------------------------------------------------------
-- Signing
------------------------------------------------------------

namespace KisAuth

def issuerBase : String :=
  "kisauth.kingdomimpactventures.org"

/-
  Sign the claims. Absent claims stay absent, and so do an
  empty `provider`, `partner_slug` and `sub`. It throws
  where the configured key is no PKCS#8 key, or none that
  the algorithm signs with.
-/
def AuthorizationJwtService.sign
    (P : Platform)
    (cfg : KisAuthConfig)
    (claims : AuthorizationClaims)
    (expiresInSeconds : ℚ) : KisM AuthorizationJwt :=
  if P.importPKCS8 (normalizePem cfg.jwtPrivateKeyPem) then do
    let clock ← dateNow
    let now := clock / 1000
    let jti ← randomId
    if P.signsRS256 (normalizePem cfg.jwtPrivateKeyPem) then
      return {
        kid := cfg.jwtKid
        iss := issuerBase
        aud := claims.aud
        iat := now
        exp := now + expiresInSeconds
        jti := jti
        sub := truthyText claims.sub
        purpose := claims.purpose
        authIdentityId := claims.authIdentityId
        providerSubject := claims.providerSubject
        providerEmail := claims.providerEmail
        providerEmailVerified := claims.providerEmailVerified
        provider := truthyText claims.provider
        partnerSlug := truthyText claims.partnerSlug }
    else
      crash
  else
    crash

end KisAuth
