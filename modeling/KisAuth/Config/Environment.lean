import KisAuth.Config.PreviousKeys
import KisAuth.Data.Platform

/-
  The environment variables the service is configured with.

  Reading them stops at the first required one that is
  missing. What was read is kept for the process, so later
  changes of the environment are not seen.

  Key definitions include:
    * `Env.required`, `Env.optional`, `Env.int`
    * `readConfig`, `loadConfig`
    * `printEnvCheck`, `verifyProductionEnv`
-/

------------------------------------------------------------
-- Variables
------------------------------------------------------------

namespace KisAuth

/- `process.env`. -/
abbrev Env := String → Option String

/- The value of a variable that is not blank. -/
def Env.setValue (env : Env) (name : String) : Option String :=
  match env name with
  | none => none
  | some value =>
      if value = "" ∨ trim value.toList = [] then none
      else some value

def missingVariable (name : String) : String :=
  "Missing required environment variable: " ++ name

def Env.required (env : Env) (name : String) :
    Except String String :=
  match env.setValue name with
  | some value => .ok value
  | none => .error (missingVariable name)

def Env.optional
    (env : Env)
    (name fallback : String) : String :=
  (env.setValue name).getD fallback

/- A blank text is the number zero, and so it is not absent. -/
def Env.int
    (env : Env)
    (P : Platform)
    (name : String)
    (fallback : ℚ) : ℚ :=
  match env name with
  | none => fallback
  | some raw =>
      if raw = "" then fallback
      else (P.number raw).getD fallback

end KisAuth

------------------------------------------------------------
-- Loading
------------------------------------------------------------

namespace KisAuth

/- What is configured besides what the routes read. -/
structure LoadedConfig extends KisAuthConfig where
  port : ℚ
  databaseUrl : String
  redisUrl : String
  jwtPublicKeyPem : String
  jwtPreviousKeys : List PreviousKey
  djangoSecurityEventUrl : String

def readConfig
    (P : Platform)
    (buffer : BufferText)
    (env : Env) : Except String LoadedConfig := do
  let baseUrl ← env.required "KISAUTH_BASE_URL"
  let googleClientId ← env.required "GOOGLE_OAUTH_CLIENT_ID"
  let googleClientSecret ←
    env.required "GOOGLE_OAUTH_CLIENT_SECRET"
  let googleRedirectUri ←
    env.required "GOOGLE_OAUTH_REDIRECT_URI"
  let databaseUrl ← env.required "KISAUTH_DATABASE_URL"
  let redisUrl ← env.required "KISAUTH_REDIS_URL"
  let jwtPrivateKeyPem ←
    env.required "KISAUTH_JWT_PRIVATE_KEY"
  let jwtPublicKeyPem ← env.required "KISAUTH_JWT_PUBLIC_KEY"
  let jwtKid ← env.required "KISAUTH_JWT_KID"
  let jwtPreviousKeys ←
    parsePreviousKeys buffer (env "KISAUTH_JWT_PREVIOUS_KEYS")
  let internalHmacSecret ←
    env.required "KISAUTH_INTERNAL_HMAC_SECRET"
  return {
    nodeEnv := env.optional "NODE_ENV" "development"
    port := env.int P "PORT" 4100
    baseUrl := baseUrl
    googleClientId := googleClientId
    googleClientSecret := googleClientSecret
    googleRedirectUri := googleRedirectUri
    databaseUrl := databaseUrl
    redisUrl := redisUrl
    jwtPrivateKeyPem := jwtPrivateKeyPem
    jwtPublicKeyPem := jwtPublicKeyPem
    jwtKid := jwtKid
    jwtPreviousKeys := jwtPreviousKeys
    internalHmacSecret := internalHmacSecret
    internalSignatureMaxSkewSeconds :=
      env.int P "INTERNAL_SIGNATURE_MAX_SKEW_SECONDS" 300
    djangoSecurityEventUrl :=
      env.optional "DJANGO_SECURITY_EVENT_URL" ""
    djangoSsoConfigUrl :=
      env.optional "DJANGO_SSO_CONFIG_URL" ""
    challengeTtlSeconds :=
      env.int P "KISAUTH_CHALLENGE_TTL_SECONDS" 30
    authCodeTtlSeconds :=
      env.int P "KISAUTH_AUTH_CODE_TTL_SECONDS" 60
    challengeMaxAttempts :=
      env.int P "KISAUTH_CHALLENGE_MAX_ATTEMPTS" 5 }

/- The configuration, and what `cached` is afterwards. -/
def loadConfig
    (P : Platform)
    (buffer : BufferText)
    (env : Env)
    (cached : Option LoadedConfig) :
    Except String LoadedConfig × Option LoadedConfig :=
  match cached with
  | some config => (.ok config, some config)
  | none =>
      match readConfig P buffer env with
      | .ok config => (.ok config, some config)
      | .error message => (.error message, none)

def resetConfigCacheForTests : Option LoadedConfig :=
  none

end KisAuth

------------------------------------------------------------
-- Checks Before A Deployment
------------------------------------------------------------

namespace KisAuth

def requiredVarNames : List String :=
  ["KISAUTH_BASE_URL", "GOOGLE_OAUTH_CLIENT_ID",
    "GOOGLE_OAUTH_CLIENT_SECRET",
    "GOOGLE_OAUTH_REDIRECT_URI", "KISAUTH_DATABASE_URL",
    "KISAUTH_REDIS_URL", "KISAUTH_JWT_PRIVATE_KEY",
    "KISAUTH_JWT_PUBLIC_KEY", "KISAUTH_JWT_KID",
    "KISAUTH_INTERNAL_HMAC_SECRET"]

def Env.isSet (env : Env) (name : String) : Bool :=
  (env.setValue name).isSome

/- The line of one variable, without its value. -/
def checkLine (env : Env) (name : String) : String :=
  name ++ "=" ++ (if env.isSet name then "SET" else "NOT SET")

/- The lines `printEnvCheck` logs. -/
def printEnvCheck (env : Env) : List String :=
  requiredVarNames.map (checkLine env)

/- What a script printed, and how it exited. -/
structure ScriptResult where
  output : List String
  errors : List String
  exitCode : Nat
  deriving DecidableEq

/- One round of the loop: its line, and one missing more. -/
def checkNext
    (env : Env)
    (done : List String × Nat)
    (name : String) : List String × Nat :=
  (done.1 ++ [checkLine env name],
    if env.isSet name then done.2 else done.2 + 1)

/- `scripts/verify-production-env.js`. -/
def verifyProductionEnv (env : Env) : ScriptResult :=
  let (lines, missing) :=
    requiredVarNames.foldl (checkNext env) ([], 0)
  if 0 < missing then
    { output := lines
      errors :=
        ["\n" ++ toString missing ++
          " required variable(s) missing."]
      exitCode := 1 }
  else
    { output :=
        lines ++ ["\nAll required variables are set."]
      errors := []
      exitCode := 0 }

end KisAuth
