import KisAuth.Data.JsValue

/-
  What the service takes from outside its own source: the
  runtime's parsers, URLs and digests, and its own
  configuration.

  Every definition and theorem is stated for an arbitrary
  platform. What a result needs of it is a hypothesis of
  that result.

  Key definitions include:
    * `Platform`, `Platform.bare`
    * `KisAuthConfig`, `testConfig`
-/

------------------------------------------------------------
-- Platform And Configuration
------------------------------------------------------------

namespace KisAuth

/-
  The runtime functions the service calls. A parser gives
  `none` where the runtime throws. Numbers are the exact
  values of the doubles they stand for, and `number` gives
  `none` where the runtime gives no finite number. The
  database client renders a parameter that is no string as
  text, from which the database may read a boolean. The JWT
  library may not read a text as a private key, or not sign
  with the key it reads. The call stack suffices for values
  nested to some depth, when they are serialised and when
  their arrays are joined.
-/
structure Platform where
  Url : Type
  parseUrl : String → Option Url
  parseUrlAt : String → String → Option Url
  setSearchParam : Url → String → String → Url
  href : Url → String
  pathname : Url → String
  searchParams : Url → String
  sha256Hex : String → String
  sha256Base64url : String → String
  hmacSha256Hex : String → String → String
  jsonParse : String → Option JsValue
  sqlText : JsValue → String
  sqlBoolean : JsValue → Option Bool
  number : String → Option ℚ
  base64urlDecode : String → String
  toUpperCase : String → String
  importPKCS8 : String → Bool
  signsRS256 : String → Bool
  stringifyDepth : Nat
  joinDepth : Nat

/-
  A platform that knows no text, and signs with any key. A
  concrete run fills in what the runtime gives on the texts
  it uses.
-/
def Platform.bare : Platform where
  Url := String
  parseUrl := fun _ => none
  parseUrlAt := fun _ _ => none
  setSearchParam := fun url _ _ => url
  href := id
  pathname := id
  searchParams := fun _ => ""
  sha256Hex := fun _ => ""
  sha256Base64url := fun _ => ""
  hmacSha256Hex := fun _ _ => ""
  jsonParse := fun _ => none
  sqlText := fun _ => ""
  sqlBoolean := fun _ => none
  number := fun _ => none
  base64urlDecode := fun _ => ""
  toUpperCase := id
  importPKCS8 := fun _ => true
  signsRS256 := fun _ => true
  stringifyDepth := 3000
  joinDepth := 3000

/- The environment the service was started with. -/
structure KisAuthConfig where
  nodeEnv : String
  baseUrl : String
  googleClientId : String
  googleClientSecret : String
  googleRedirectUri : String
  jwtPrivateKeyPem : String
  jwtKid : String
  internalHmacSecret : String
  internalSignatureMaxSkewSeconds : ℚ
  djangoSsoConfigUrl : String
  challengeTtlSeconds : ℚ
  authCodeTtlSeconds : ℚ
  challengeMaxAttempts : ℚ

/- A local configuration with the default limits. -/
def testConfig : KisAuthConfig where
  nodeEnv := "test"
  baseUrl := "http://localhost:4100"
  googleClientId := "test-google-client"
  googleClientSecret := "test-google-secret"
  googleRedirectUri :=
    "http://localhost:4100/oauth/google/callback"
  jwtPrivateKeyPem := "test-private-key"
  jwtKid := "kid-test"
  internalHmacSecret := "test-secret"
  internalSignatureMaxSkewSeconds := 300
  djangoSsoConfigUrl :=
    "https://django.internal.test/api/v1/kis-auth/sso-config/"
  challengeTtlSeconds := 30
  authCodeTtlSeconds := 60
  challengeMaxAttempts := 5

end KisAuth
