import KisAuth.Redis.Keys
import KisAuth.Runtime.Effect
import KisAuth.Text.Tree

/-
  The fixed-window rate limiter and the limits of the
  routes.

  Key definitions include:
    * `LimitScope`, `RateLimiter.check`
    * `enforceRateLimit`

  Key theorems include:
    * `rateLimitKey_inj`
-/

------------------------------------------------------------
-- Rate Limits
------------------------------------------------------------

namespace KisAuth

structure RateLimitResult where
  allowed : Bool
  count : Nat
  limit : Nat

structure RateLimitPolicy where
  scope : String
  limit : Nat
  windowSeconds : Nat
  deriving DecidableEq

namespace RateLimits

def authorize : RateLimitPolicy :=
  ⟨"authorize", 30, 60⟩

def oauthGoogleStart : RateLimitPolicy :=
  ⟨"oauth_google_start", 30, 60⟩

def oauthGoogleCallback : RateLimitPolicy :=
  ⟨"oauth_google_callback", 10, 60⟩

def exchangePerClient : RateLimitPolicy :=
  ⟨"exchange_client", 120, 60⟩

def exchangePerIp : RateLimitPolicy :=
  ⟨"exchange_ip", 60, 60⟩

def registrationExchangePerClient : RateLimitPolicy :=
  ⟨"registration_exchange_client", 60, 60⟩

def registrationExchangePerIp : RateLimitPolicy :=
  ⟨"registration_exchange_ip", 30, 60⟩

def oauthEnterpriseStart : RateLimitPolicy :=
  ⟨"oauth_enterprise_start", 30, 60⟩

def oauthEnterpriseCallback : RateLimitPolicy :=
  ⟨"oauth_enterprise_callback", 10, 60⟩

end RateLimits

/- What a rate limit counts for: a text without a colon. -/
structure LimitScope where
  text : String
  plain : ':' ∉ text.toList
  deriving DecidableEq

def rateLimitError : String :=
  "Too many requests. Please try again shortly."

def rateLimitKey (scope identifier : String) : String :=
  storeKey .rateLimit (scope ++ ":" ++ identifier)

/- One counter counts for one scope and one identifier. -/
theorem rateLimitKey_inj
    {scope scope' identifier identifier' : String}
    (hScope : ':' ∉ scope.toList)
    (hScope' : ':' ∉ scope'.toList)
    (hEq :
      rateLimitKey scope identifier =
        rateLimitKey scope' identifier') :
    scope = scope' ∧ identifier = identifier' :=
  Text.mark_append_inj hScope hScope'
    ((storeKey_inj _ _ _ _).mp hEq).2

def RateLimiter.check
    (scope identifier : String)
    (limit windowSeconds : Nat) : KisM RateLimitResult := do
  let count ←
    Redis.incr (rateLimitKey scope identifier) windowSeconds
  return {
    allowed := decide (count ≤ limit)
    count := count
    limit := limit }

/- Refuse the request once the policy's limit is used up. -/
def enforceRateLimit
    (policy : RateLimitPolicy)
    (identifier : String) : KisM Unit := do
  let result ←
    RateLimiter.check policy.scope identifier policy.limit
      policy.windowSeconds
  if result.allowed then
    return ()
  else
    .throw (.tooManyRequests rateLimitError)

end KisAuth
