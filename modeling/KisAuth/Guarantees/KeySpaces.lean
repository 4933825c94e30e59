import KisAuth.OAuth.SessionStore
import KisAuth.Redis.ChallengeStore
import KisAuth.Runtime.AlikeWorlds
import KisAuth.Security.LinkTicket
import KisAuth.Security.RateLimit
import KisAuth.Service.Chronicle

/-
  The stores that share one Redis keep to their own records.

  A record is named by its store and its identifier, and its
  key determines both. Every command of a store operation
  uses the key of a record that the operation is about, so it
  neither changes nor depends on what any other record holds.

  Key definitions include:
    * `RecordId`, `RecordId.key`
    * `StoreCall`, `StoreCall.IsAbout`
    * `LeavesAlone`

  Key theorems include:
    * `RecordId.key_injective`
    * `storeCall_keys`, `leavesAlone_of_ne`
    * `key_spaces_apart`
-/

------------------------------------------------------------
-- Records And Their Keys
------------------------------------------------------------

namespace KisAuth

/- A store and the identifier of one of its records. -/
inductive RecordId where
  | session (id : String)
  | challenge (id : String)
  | code (id : String)
  | regTicket (id : String)
  | linkNonce (id : String)
  | rateLimit (scope : LimitScope) (id : String)

def RecordId.key : RecordId → String
| .session id => sessionKey id
| .challenge id => challengeKey id
| .code id => codeKey id
| .regTicket id => regTicketKey id
| .linkNonce id => linkNonceKey id
| .rateLimit scope id => rateLimitKey scope.text id

/- The store a record is in. -/
def RecordId.family : RecordId → KeyFamily
| .session _ => .session
| .challenge _ => .challenge
| .code _ => .code
| .regTicket _ => .regTicket
| .linkNonce _ => .linkNonce
| .rateLimit _ _ => .rateLimit

/- What follows the prefix of the store in the key. -/
def RecordId.suffix : RecordId → String
| .session id => id
| .challenge id => id
| .code id => id
| .regTicket id => id
| .linkNonce id => id
| .rateLimit scope id => scope.text ++ ":" ++ id

theorem RecordId.key_eq
    (record : RecordId) :
    record.key = storeKey record.family record.suffix := by
  cases record <;> rfl

/- Within one store, the suffix tells the records apart. -/
theorem RecordId.eq_of_suffix
    {left right : RecordId}
    (hFamily : left.family = right.family)
    (hSuffix : left.suffix = right.suffix) :
    left = right := by
  cases left
  case rateLimit scope id =>
    cases right
    case rateLimit scope' id' =>
      rcases Text.mark_append_inj scope.plain scope'.plain
        hSuffix with ⟨hScope, hId⟩
      cases scope
      cases scope'
      simp only at hScope
      subst hScope
      rw [hId]
    all_goals simp [RecordId.family] at hFamily
  all_goals
    cases right <;>
      simp_all [RecordId.family, RecordId.suffix]

/- No two records have one key. -/
theorem RecordId.key_injective :
    Function.Injective RecordId.key := by
  intro left right hKey
  rw [left.key_eq, right.key_eq, storeKey_inj] at hKey
  exact RecordId.eq_of_suffix hKey.1 hKey.2

end KisAuth

------------------------------------------------------------
-- Operations Of The Stores
------------------------------------------------------------

namespace KisAuth

open Interaction Prog

/- Every operation of every store. -/
inductive StoreCall where
  | createSession (session : OAuthSession)
  | getSession (sessionId : String)
  | updateSession
      (sessionId : String) (session : OAuthSession)
  | deleteSession (sessionId : String)
  | createChallenge
      (id : String)
      (record : ChallengeRecord)
      (ttlSeconds : ℚ)
  | getChallenge (id : String)
  | incrementAttempts (id : String)
  | markChallengeUsed (id : String)
  | deleteChallenge (id : String)
  | issueAuthorizationCode
      (payload : AuthorizationCodePayload) (ttlSeconds : ℚ)
  | consumeAuthorizationCode (code : String)
  | issueRegistrationTicket
      (payload : RegistrationTicketPayload) (ttlSeconds : ℚ)
  | consumeRegistrationTicket (code : String)
  | verifyAndConsume (ticket secret : String)
  | check
      (scope : LimitScope) (identifier : String)
      (limit windowSeconds : Nat)

/- What the operation does, without what it returns. -/
def StoreCall.run (P : Platform) : StoreCall → KisM Unit
| .createSession session => do
    let _ ← OAuthSessionStore.create session
| .getSession sessionId => do
    let _ ← OAuthSessionStore.get sessionId
| .updateSession sessionId session =>
    OAuthSessionStore.update sessionId session
| .deleteSession sessionId =>
    OAuthSessionStore.delete sessionId
| .createChallenge id record ttlSeconds =>
    ChallengeStore.createChallenge id record ttlSeconds
| .getChallenge id => do
    let _ ← ChallengeStore.getChallenge id
| .incrementAttempts id => do
    let _ ← ChallengeStore.incrementAttempts id
| .markChallengeUsed id =>
    ChallengeStore.markChallengeUsed id
| .deleteChallenge id =>
    ChallengeStore.deleteChallenge id
| .issueAuthorizationCode payload ttlSeconds => do
    let _ ←
      ChallengeStore.issueAuthorizationCode payload ttlSeconds
| .consumeAuthorizationCode code => do
    let _ ← ChallengeStore.consumeAuthorizationCode code
| .issueRegistrationTicket payload ttlSeconds => do
    let _ ←
      ChallengeStore.issueRegistrationTicket payload
        ttlSeconds
| .consumeRegistrationTicket code => do
    let _ ← ChallengeStore.consumeRegistrationTicket code
| .verifyAndConsume ticket secret => do
    let _ ←
      LinkTicketService.verifyAndConsume P secret ticket
| .check scope identifier limit windowSeconds => do
    let _ ←
      RateLimiter.check scope.text identifier limit
        windowSeconds

/-
  The record an operation is about: the one it is given, the
  one whose identifier it has drawn, or the nonce of the
  ticket it is given.
-/
def StoreCall.IsAbout
    (P : Platform)
    (past : Past)
    (record : RecordId) : StoreCall → Prop
| .createSession _ =>
    ∃ id, ⟨.random, id⟩ ∈ past ∧ record = .session id
| .getSession sessionId => record = .session sessionId
| .updateSession sessionId _ => record = .session sessionId
| .deleteSession sessionId => record = .session sessionId
| .createChallenge id _ _ => record = .challenge id
| .getChallenge id => record = .challenge id
| .incrementAttempts id => record = .challenge id
| .markChallengeUsed id => record = .challenge id
| .deleteChallenge id => record = .challenge id
| .issueAuthorizationCode _ _ =>
    ∃ id, ⟨.random, id⟩ ∈ past ∧ record = .code id
| .consumeAuthorizationCode code => record = .code code
| .issueRegistrationTicket _ _ =>
    ∃ id, ⟨.random, id⟩ ∈ past ∧ record = .regTicket id
| .consumeRegistrationTicket code =>
    record = .regTicket code
| .verifyAndConsume ticket secret =>
    ∃ payload,
      readTicket P secret ticket = .ok payload ∧
        record = .linkNonce payload.nonce
| .check scope identifier _ _ =>
    record = .rateLimit scope identifier

/- A Redis command on a record the operation is about. -/
def KeepsToOwn
    (P : Platform)
    (storeCall : StoreCall)
    (past : Past)
    (effect : Eff) : Prop :=
  ∀ key ∈ redisKey effect,
    ∃ record,
      storeCall.IsAbout P past record ∧ key = record.key

variable {P : Platform} {storeCall : StoreCall} {past : Past}

theorem keepsToOwn_of_key
    {effect : Eff}
    {record : RecordId}
    (hAbout : storeCall.IsAbout P past record)
    (hKey : redisKey effect = some record.key) :
    KeepsToOwn P storeCall past effect := by
  intro key hMem
  rw [hKey, Option.mem_some_iff] at hMem
  exact ⟨record, hAbout, hMem.symm⟩

theorem keepsToOwn_of_none
    {effect : Eff}
    (hKey : redisKey effect = none) :
    KeepsToOwn P storeCall past effect := by
  intro key hMem
  simp [hKey] at hMem

/- The claim of a nonce, once the ticket is read. -/
theorem keepsToOwn_claimed
    {ticket secret : String} :
    (StoreCall.run P (.verifyAndConsume ticket secret)).Obeys
      (KeepsToOwn P (.verifyAndConsume ticket secret))
      (fun _ _ => True) [] := by
  simp only [StoreCall.run,
    LinkTicketService.verifyAndConsume]
  cases hTicket : readTicket P secret ticket with
  | error reason => trivial
  | ok payload =>
      refine ⟨keepsToOwn_of_none rfl, fun clock => ?_⟩
      cases hExpiry : payload.exp with
      | infinite negative => cases negative <;> trivial
      | finite seconds =>
          simp only [bind_ret]
          by_cases hExpired :
              seconds ≤ ((wholeSeconds clock : Nat) : ℚ)
          · rw [if_pos hExpired]
            trivial
          · rw [if_neg hExpired]
            refine
              ⟨keepsToOwn_of_key ⟨payload, hTicket, rfl⟩ rfl,
                fun result => ?_⟩
            cases result with
            | error error => trivial
            | ok claimed => cases claimed <;> trivial

/- What is done with the answer calls nothing more. -/
theorem keepsToOwn_then
    {α β : Type}
    {program : KisM α}
    {answer : α → β}
    (hProgram :
      program.Obeys (KeepsToOwn P storeCall)
        (fun _ _ => True) past) :
    (program >>= fun value => .ret (answer value)).Obeys
      (KeepsToOwn P storeCall) (fun _ _ => True) past := by
  rw [bind_eq, obeys_bind]
  refine hProgram.mono (fun _ _ hOwn => hOwn) ?_
  intro later outcome _
  cases outcome <;> trivial

theorem keepsToOwn_set
    (record : RecordId)
    {value : RedisValue}
    {ttlSeconds : ℚ}
    (hAbout : storeCall.IsAbout P past record) :
    (Redis.set record.key value ttlSeconds).Obeys
      (KeepsToOwn P storeCall) (fun _ _ => True) past := by
  refine ⟨keepsToOwn_of_key hAbout rfl, fun result => ?_⟩
  cases result <;> trivial

/- A value is written under an identifier that was drawn. -/
theorem keepsToOwn_issued
    (space : String → RecordId)
    {value : RedisValue}
    {ttlSeconds : ℚ}
    (hAbout :
      ∀ id,
        storeCall.IsAbout P [⟨.random, id⟩] (space id)) :
    (randomId >>= fun id =>
      Redis.set (space id).key value ttlSeconds >>=
        fun _ => .ret id).Obeys
      (KeepsToOwn P storeCall) (fun _ _ => True) [] :=
  ⟨keepsToOwn_of_none rfl,
    fun id => keepsToOwn_then (keepsToOwn_set _ (hAbout id))⟩

/- A record is written back, unless it is about to go. -/
theorem keepsToOwn_writtenBack
    {α : Type}
    (record : RecordId)
    {gone : α}
    {back : ℤ → KisM α}
    (hAbout : storeCall.IsAbout P past record)
    (hBack :
      ∀ ttl,
        (back ttl).Obeys (KeepsToOwn P storeCall)
          (fun _ _ => True)
          (⟨.redisTtl record.key, ttl⟩ :: past)) :
    (Redis.ttl record.key >>= fun ttl =>
      if ttl ≤ 0 then .ret gone else back ttl).Obeys
      (KeepsToOwn P storeCall) (fun _ _ => True) past := by
  refine ⟨keepsToOwn_of_key hAbout rfl, fun ttl => ?_⟩
  simp only [bind_ret]
  by_cases hClosing : ttl ≤ 0
  · rw [if_pos hClosing]
    trivial
  · rw [if_neg hClosing]
    exact hBack ttl

/- Every command of an operation is on its own record. -/
theorem storeCall_keys
    (P : Platform)
    (storeCall : StoreCall) :
    (storeCall.run P).Obeys (KeepsToOwn P storeCall)
      (fun _ _ => True) [] := by
  cases storeCall with
  | createSession session =>
      exact
        keepsToOwn_then
          (keepsToOwn_issued .session
            fun id => ⟨id, List.mem_cons_self, rfl⟩)
  | getSession sessionId =>
      exact ⟨keepsToOwn_of_key rfl rfl, fun _ => trivial⟩
  | updateSession sessionId session =>
      exact
        ⟨keepsToOwn_of_key rfl rfl,
          fun ttl => keepsToOwn_set (.session sessionId) rfl⟩
  | deleteSession sessionId =>
      exact ⟨keepsToOwn_of_key rfl rfl, fun _ => trivial⟩
  | createChallenge id record ttlSeconds =>
      exact keepsToOwn_set (.challenge id) rfl
  | getChallenge id =>
      exact ⟨keepsToOwn_of_key rfl rfl, fun _ => trivial⟩
  | incrementAttempts id =>
      apply keepsToOwn_then
      refine ⟨keepsToOwn_of_key rfl rfl, fun raw => ?_⟩
      simp only [bind_ret]
      cases ChallengeStore.asChallenge raw with
      | none => trivial
      | some record =>
          exact
            keepsToOwn_writtenBack (.challenge id) rfl
              fun ttl =>
                keepsToOwn_then
                  (keepsToOwn_set (.challenge id) rfl)
  | markChallengeUsed id =>
      refine ⟨keepsToOwn_of_key rfl rfl, fun raw => ?_⟩
      simp only [bind_ret]
      cases ChallengeStore.asChallenge raw with
      | none => trivial
      | some record =>
          exact
            keepsToOwn_writtenBack (.challenge id) rfl
              fun ttl => keepsToOwn_set (.challenge id) rfl
  | deleteChallenge id =>
      exact ⟨keepsToOwn_of_key rfl rfl, fun _ => trivial⟩
  | issueAuthorizationCode payload ttlSeconds =>
      exact
        keepsToOwn_then
          (keepsToOwn_issued .code
            fun id => ⟨id, List.mem_cons_self, rfl⟩)
  | consumeAuthorizationCode code =>
      exact ⟨keepsToOwn_of_key rfl rfl, fun _ => trivial⟩
  | issueRegistrationTicket payload ttlSeconds =>
      exact
        keepsToOwn_then
          (keepsToOwn_issued .regTicket
            fun id => ⟨id, List.mem_cons_self, rfl⟩)
  | consumeRegistrationTicket code =>
      exact ⟨keepsToOwn_of_key rfl rfl, fun _ => trivial⟩
  | verifyAndConsume ticket secret =>
      exact keepsToOwn_claimed
  | check scope identifier limit windowSeconds =>
      exact ⟨keepsToOwn_of_key rfl rfl, fun _ => trivial⟩

end KisAuth

------------------------------------------------------------
-- Records Left Alone
------------------------------------------------------------

namespace KisAuth

open Interaction Store

/-
  A command leaves a record alone: what is under its key
  stays, and the answer and all other keys are the same
  whatever is under it.
-/
structure LeavesAlone
    (P : Platform)
    (cfg : KisAuthConfig)
    (effect : Eff)
    (record : RecordId) : Prop where
  kept :
    ∀ world ext value world',
      World.exec P cfg world effect ext =
          some (value, world') →
        world'.redis record.key = world.redis record.key
  unread :
    ∀ world ext value world' item,
      World.exec P cfg world effect ext =
          some (value, world') →
        ∃ base',
          World.exec P cfg
              (world.withRedis
                (world.redis.write record.key item))
              effect ext =
            some (value, base') ∧
          ∀ key, key ≠ record.key →
            base'.redis key = world'.redis key

variable {P : Platform} {cfg : KisAuthConfig}
variable {world world' : World}

/- What a command changes is under its own key. -/
theorem redisKey_of_touchOf
    {effect : Eff}
    {value : effect.Res}
    {key : String}
    (hTouch : touchOf ⟨effect, value⟩ key ≠ none) :
    redisKey effect = some key := by
  unfold touchOf at hTouch
  split at hTouch
  case h_6 => exact absurd rfl hTouch
  all_goals
    next hSame =>
      rw [Answer.mk.injEq] at hSame
      rcases hSame with ⟨rfl, _⟩
      simp only [ne_eq, ite_eq_right_iff, reduceCtorEq,
        imp_false, not_not] at hTouch
      rw [hTouch]
      rfl

/- A Redis command changes at most its own key. -/
theorem execRedis_keeps
    {effect : Eff}
    {value : effect.Res}
    {key : String}
    (hKey : redisKey effect ≠ some key)
    (hExec :
      world.execRedis effect = some (value, world')) :
    world'.redis key = world.redis key := by
  rcases execRedis_cases hExec with
    ⟨rfl, _⟩ | ⟨written, item, rfl, hTouch⟩
  · rfl
  · have hTouched :
        touchOf ⟨effect, value⟩ written ≠ none := by
      rw [hTouch, if_pos rfl]
      simp
    apply Expiring.write_of_ne
    rintro rfl
    exact hKey (redisKey_of_touchOf hTouched)

/- A command on another key leaves the record alone. -/
theorem leavesAlone_of_ne
    {effect : Eff}
    {record : RecordId}
    (hKey : redisKey effect ≠ some record.key) :
    LeavesAlone P cfg effect record where
  kept := by
    intro world ext value world' hExec
    unfold World.exec at hExec
    split at hExec
    · exact execRedis_keeps hKey hExec
    · rw [(execSql_frame hExec).1]
    · rw [(execOther_frame hExec).1]
  unread := by
    intro world ext value world' item hExec
    have hAlike :
        Alike (· = record.key) world
          (world.withRedis
            (world.redis.write record.key item)) :=
      { rest := rfl
        redis := fun key hNe => Expiring.write_of_ne hNe
        nonces := fun _ _ => rfl }
    have hApart :
        ∀ key ∈ redisKey effect, ¬key = record.key := by
      rintro key hMem rfl
      exact hKey hMem
    rcases hAlike.exec hApart hExec with
      ⟨base', hBase, hAfter⟩
    exact ⟨base', hBase, hAfter.redis⟩

/-
  Two records have one key only if they are one record, and
  a command of an operation is on the record the operation
  is about and leaves every other record alone.
-/
theorem key_spaces_apart
    (P : Platform)
    (cfg : KisAuthConfig) :
    (∀ left right : RecordId,
        left.key = right.key → left = right) ∧
      ∀ storeCall past effect next,
        (StoreCall.run P storeCall).Reaches past
            (.call effect next) →
          redisKey effect ≠ none →
            ∃ record : RecordId,
              storeCall.IsAbout P past record ∧
                redisKey effect = some record.key ∧
                  ∀ other, other ≠ record →
                    LeavesAlone P cfg effect other := by
  refine ⟨fun _ _ hKey => RecordId.key_injective hKey, ?_⟩
  intro storeCall past effect next hReaches hRedis
  rcases Option.ne_none_iff_exists'.mp hRedis with
    ⟨key, hKey⟩
  rcases
      (storeCall_keys P storeCall).guard_of_reaches hReaches
        key hKey with
    ⟨record, hAbout, rfl⟩
  refine ⟨record, hAbout, hKey, fun other hOther => ?_⟩
  apply leavesAlone_of_ne
  rw [hKey]
  intro hSame
  exact
    hOther
      (RecordId.key_injective (Option.some.inj hSame)).symm

end KisAuth
