import KisAuth.Redis.Keys
import KisAuth.Runtime.Effect

/-
  Challenges, authorization codes and registration tickets.

  Key definitions include:
    * `ChallengeStore.createChallenge` and its siblings
    * `ChallengeStore.issueAuthorizationCode`
    * `ChallengeStore.consumeAuthorizationCode`
    * `ChallengeStore.issueRegistrationTicket`
    * `ChallengeStore.consumeRegistrationTicket`
-/

------------------------------------------------------------
-- Challenges
------------------------------------------------------------

namespace KisAuth

def challengeKey (id : String) : String :=
  storeKey .challenge id

def codeKey (code : String) : String :=
  storeKey .code code

def regTicketKey (code : String) : String :=
  storeKey .regTicket code

namespace ChallengeStore

def createChallenge
    (id : String)
    (record : ChallengeRecord)
    (ttlSeconds : ℚ) : KisM Unit :=
  Redis.set (challengeKey id) (.challenge record) ttlSeconds

/- The record a stored value stands for. -/
def asChallenge : Option RedisValue → Option ChallengeRecord
| some (.challenge record) => some record
| _ => none

def getChallenge (id : String) :
    KisM (Option ChallengeRecord) := do
  let raw ← Redis.get (challengeKey id)
  return asChallenge raw

def incrementAttempts (id : String) :
    KisM (Option Nat) := do
  let key := challengeKey id
  let raw ← Redis.get key
  match asChallenge raw with
  | none => return none
  | some record =>
      let record :=
        { record with
          attemptCount := record.attemptCount + 1 }
      let ttl ← Redis.ttl key
      if ttl ≤ 0 then
        return none
      else
        Redis.set key (.challenge record) ttl
        return some record.attemptCount

def markChallengeUsed (id : String) : KisM Unit := do
  let key := challengeKey id
  let raw ← Redis.get key
  match asChallenge raw with
  | none => return ()
  | some record =>
      let ttl ← Redis.ttl key
      if ttl ≤ 0 then
        return ()
      else
        Redis.set key
          (.challenge { record with used := true }) ttl

def deleteChallenge (id : String) : KisM Unit :=
  Redis.del (challengeKey id)

end ChallengeStore

end KisAuth

------------------------------------------------------------
-- Codes And Tickets
------------------------------------------------------------

namespace KisAuth

namespace ChallengeStore

/- Mint a single-use authorization code. -/
def issueAuthorizationCode
    (payload : AuthorizationCodePayload)
    (ttlSeconds : ℚ) : KisM String := do
  let code ← randomId
  Redis.set (codeKey code) (.code payload) ttlSeconds
  return code

/- The payload a stored value stands for. -/
def asCode :
    Option RedisValue → Option AuthorizationCodePayload
| some (.code payload) => some payload
| _ => none

def consumeAuthorizationCode (code : String) :
    KisM (Option AuthorizationCodePayload) := do
  let raw ← Redis.consume (codeKey code)
  return asCode raw

/- Mint a single-use registration ticket. -/
def issueRegistrationTicket
    (payload : RegistrationTicketPayload)
    (ttlSeconds : ℚ) : KisM String := do
  let code ← randomId
  Redis.set (regTicketKey code) (.ticket payload) ttlSeconds
  return code

/- The payload a stored value stands for. -/
def asTicket :
    Option RedisValue → Option RegistrationTicketPayload
| some (.ticket payload) => some payload
| _ => none

def consumeRegistrationTicket (code : String) :
    KisM (Option RegistrationTicketPayload) := do
  let raw ← Redis.consume (regTicketKey code)
  return asTicket raw

end ChallengeStore

end KisAuth
