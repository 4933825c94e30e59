import KisAuth.Redis.Keys
import KisAuth.Runtime.Effect

/-
  In-flight browser sessions.

  Key definitions include:
    * `OAuthSessionStore.create`, `OAuthSessionStore.get`
    * `OAuthSessionStore.update`, `OAuthSessionStore.delete`
-/

------------------------------------------------------------
-- Sessions
------------------------------------------------------------

namespace KisAuth

def sessionKey (sessionId : String) : String :=
  storeKey .session sessionId

def sessionTtlSeconds : Int :=
  600

namespace OAuthSessionStore

def create (session : OAuthSession) : KisM String := do
  let sessionId ← randomId
  Redis.set (sessionKey sessionId) (.session session)
    sessionTtlSeconds
  return sessionId

/- The session a stored value stands for. -/
def asSession : Option RedisValue → Option OAuthSession
| some (.session session) => some session
| _ => none

def get (sessionId : String) :
    KisM (Option OAuthSession) := do
  let raw ← Redis.get (sessionKey sessionId)
  return asSession raw

/- Write a session back under the same identifier. -/
def update
    (sessionId : String)
    (session : OAuthSession) : KisM Unit := do
  let ttl ← Redis.ttl (sessionKey sessionId)
  Redis.set (sessionKey sessionId) (.session session)
    (if 0 < ttl then ttl else sessionTtlSeconds)

def delete (sessionId : String) : KisM Unit :=
  Redis.del (sessionKey sessionId)

end OAuthSessionStore

end KisAuth
