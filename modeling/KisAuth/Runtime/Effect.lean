import KisAuth.Interaction.Prog
import KisAuth.Runtime.Postgres
import KisAuth.Security.InternalSigning

/-
  What the service does to the world outside its own code,
  one call each: a Redis command or script, an SQL
  statement, a clock reading, a random value, a network
  request. Calls of different requests may be interleaved in
  any order.

  Key definitions include:
    * `FetchRequest`, `FetchReply`
    * `HttpError`, `Eff`, `KisM`
-/

------------------------------------------------------------
-- Effects
------------------------------------------------------------

namespace KisAuth

open Interaction

/- Redis refuses an expiry that is no positive integer. -/
inductive RedisError where
  | invalidExpire
  deriving DecidableEq

/- An outgoing request. -/
structure FetchRequest where
  method : String
  url : String
  headers : Option InternalHeaders := none
  form : List (String × String) := []

/- Its reply: the status, and the body where it is JSON. -/
structure FetchReply where
  status : Nat
  body : Option JsValue

/- `response.ok`. -/
def FetchReply.ok (reply : FetchReply) : Bool :=
  200 ≤ reply.status && reply.status < 300

/- The calls. -/
inductive Eff where
  | redisSet
      (key : String) (value : RedisValue) (ttlSeconds : ℚ)
  | redisSetNx (key : String) (ttlSeconds : ℚ)
  | redisGet (key : String)
  | redisTtl (key : String)
  | redisDel (key : String)
  | redisConsume (key : String)
  | redisIncr (key : String) (windowSeconds : Nat)
  | selectClient (clientId : String)
  | selectIdentity (provider providerSubject : String)
  | selectIdentityById (id : String)
  | insertIdentity (row : NewIdentity)
  | updateIdentity
      (providerEmail : Option String)
      (providerEmailVerified : Option Bool)
      (id : String)
  | touchIdentity (id : String)
  | dateNow
  | random
  | verifySignature (request : SignedRequest)
  | fetch (request : FetchRequest)
  | jwtVerify
      (idToken jwksUri : String)
      (issuer : List String)
      (audience : String)
  | ssoCacheGet (partnerSlug : String)
  | ssoCacheSet
      (partnerSlug : String)
      (config : OidcPartnerConfig)
      (expiresAt : Nat)
  | discoveryCacheGet (discoveryUrl : String)
  | discoveryCacheSet
      (discoveryUrl : String)
      (doc : OidcDiscoveryDocument)
      (expiresAt : Nat)
  | emit (event : SecurityEvent)

/-
  What each call is answered with. A network request has no
  reply when it fails, and `jwtVerify` no payload when the
  library rejects the token.
-/
@[reducible] def Eff.Res : Eff → Type
| .redisSet _ _ _ => Except RedisError Unit
| .redisSetNx _ _ => Except RedisError Bool
| .redisGet _ => Option RedisValue
| .redisTtl _ => Int
| .redisDel _ => Unit
| .redisConsume _ => Option RedisValue
| .redisIncr _ _ => Nat
| .selectClient _ =>
    Except SqlError (Option RegisteredClient)
| .selectIdentity _ _ =>
    Except SqlError (Option AuthIdentity)
| .selectIdentityById _ =>
    Except SqlError (Option AuthIdentity)
| .insertIdentity _ => Except SqlError AuthIdentity
| .updateIdentity _ _ _ =>
    Except SqlError (Option AuthIdentity)
| .touchIdentity _ => Except SqlError Unit
| .dateNow => Nat
| .random => String
| .verifySignature _ => Option VerifyResult
| .fetch _ => Option FetchReply
| .jwtVerify _ _ _ _ => Option IdTokenPayload
| .ssoCacheGet _ => Option (OidcPartnerConfig × Nat)
| .ssoCacheSet _ _ _ => Unit
| .discoveryCacheGet _ =>
    Option (OidcDiscoveryDocument × Nat)
| .discoveryCacheSet _ _ _ => Unit
| .emit _ => Unit

/- The ways a handler fails. -/
inductive HttpError where
  | badRequest (message : String)
  | unauthorized (message : String)
  | conflict (message : String)
  | tooManyRequests (message : String)
  | internal
  deriving DecidableEq

/- Code of the service. -/
abbrev KisM := Prog Eff Eff.Res HttpError

/- Make one call. -/
def call (effect : Eff) : KisM effect.Res :=
  Prog.perform effect

/- The answers a piece of code has received. -/
abbrev Past := List (Answer Eff Eff.Res)

/- An unhandled exception. -/
def crash {α : Type} : KisM α :=
  .throw .internal

/- The value, or an exception where the runtime throws. -/
def orCrash {α : Type} : Option α → KisM α
| some value => .ret value
| none => crash

end KisAuth

------------------------------------------------------------
-- Calls
------------------------------------------------------------

namespace KisAuth

open Interaction

namespace Redis

/- `SET key value EX ttl`. -/
def set
    (key : String)
    (value : RedisValue)
    (ttlSeconds : ℚ) : KisM Unit := do
  let result ← call (.redisSet key value ttlSeconds)
  match result with
  | .ok _ => return ()
  | .error _ => crash

/- `SET key 1 EX ttl NX`: whether the key was free. -/
def setNx (key : String) (ttlSeconds : ℚ) : KisM Bool := do
  let result ← call (.redisSetNx key ttlSeconds)
  match result with
  | .ok claimed => return claimed
  | .error _ => crash

def get (key : String) : KisM (Option RedisValue) :=
  call (.redisGet key)

/- `TTL key`, in whole seconds. -/
def ttl (key : String) : KisM Int :=
  call (.redisTtl key)

def del (key : String) : KisM Unit :=
  call (.redisDel key)

/- The script that reads a key and deletes it. -/
def consume (key : String) : KisM (Option RedisValue) :=
  call (.redisConsume key)

/- The script that counts a hit. -/
def incr (key : String) (windowSeconds : Nat) : KisM Nat :=
  call (.redisIncr key windowSeconds)

end Redis

/- A statement whose error is not handled. -/
def orSqlCrash {α : Type} : Except SqlError α → KisM α
| .ok value => .ret value
| .error _ => crash

/- `Date.now()`, in milliseconds. -/
def dateNow : KisM Nat :=
  call .dateNow

/- A random identifier, of the runtime's secure source. -/
def randomId : KisM String :=
  call .random

def doFetch (request : FetchRequest) :
    KisM (Option FetchReply) :=
  call (.fetch request)

/- Emit a security event. Nothing waits for it. -/
def emit (event : SecurityEvent) : KisM Unit :=
  call (.emit event)

end KisAuth
