import KisAuth.Interaction.System
import KisAuth.Runtime.Effect
import KisAuth.Runtime.Postgres
import KisAuth.Store.Expiring

/-
  The world the service runs in, and how it answers each
  call.

  Redis keys expire exactly at their deadline. Random values
  never repeat. Network replies and the payloads of verified
  ID tokens are supplied by the scheduler, so they may be
  anything at any time.

  Key definitions include:
    * `World`, `External`, `EnvOp`
    * `World.exec`, `World.env`, `worldSemantics`

  Key theorems include:
    * `execRedis_frame`, `execSql_frame`
    * `execOther_frame`, `env_frame`
    * `execSql_insert`, `execSql_update`, `execSql_touch`
-/

------------------------------------------------------------
-- The World
------------------------------------------------------------

namespace KisAuth

open Interaction Store

/- The shared state, with the clock in milliseconds. -/
structure World where
  clock : Nat
  redis : Expiring String RedisValue
  tables : Tables
  nonceCache : NonceCache
  ssoCache : String → Option (OidcPartnerConfig × Nat)
  discoveryCache :
    String → Option (OidcDiscoveryDocument × Nat)
  randoms : List String

/- A world without sessions, identities or cached values. -/
def World.empty
    (clients : String → Option RegisteredClient) : World where
  clock := 0
  redis := fun _ => none
  tables := { identities := [], clients := clients }
  nonceCache := []
  ssoCache := fun _ => none
  discoveryCache := fun _ => none
  randoms := []

/-
  What the scheduler supplies with a step: nothing, a random
  value, the time a call took, a network reply or a verified
  payload.
-/
inductive External where
  | none
  | random (value : String)
  | elapsed (milliseconds : Nat)
  | reply (reply : Option FetchReply)
  | payload (payload : Option IdTokenPayload)

/-
  What happens without a request: time passes, an operator
  changes the status of an identity or the client registry.
-/
inductive EnvOp where
  | tick (milliseconds : Nat)
  | setIdentityStatus (id : String) (status : IdentityStatus)
  | setClient
      (clientId : String) (client : Option RegisteredClient)

/- An expiry Redis accepts, in whole seconds. -/
def validExpire (now : Nat) (ttlSeconds : ℚ) : Option Nat :=
  if ttlSeconds.den = 1 ∧ 0 < ttlSeconds.num ∧
      now + ttlSeconds.num.toNat * 1000 < 2 ^ 63 then
    some (now + ttlSeconds.num.toNat * 1000)
  else
    none

/- It ends that many seconds from now. -/
theorem validExpire_spec
    {now deadline : Nat}
    {ttlSeconds : ℚ}
    (hValid : validExpire now ttlSeconds = some deadline) :
    (deadline : ℚ) = now + ttlSeconds * 1000 := by
  unfold validExpire at hValid
  split at hValid
  · next hTtl =>
      rcases hTtl with ⟨hDen, hNum, _⟩
      simp only [Option.some.injEq] at hValid
      have hInt : (ttlSeconds.num.toNat : ℤ) = ttlSeconds.num :=
        Int.toNat_of_nonneg hNum.le
      have hTtlEq : (ttlSeconds.num : ℚ) = ttlSeconds :=
        Rat.coe_int_num_of_den_eq_one hDen
      have hNat : (ttlSeconds.num.toNat : ℚ) = ttlSeconds := by
        rw [← hTtlEq]
        exact_mod_cast hInt
      rw [← hValid]
      push_cast
      rw [hNat]
  · simp at hValid

/-
  `TTL`: the remaining seconds, rounded to the nearest, `-1`
  for a key without a deadline and `-2` for no key.
-/
def remainingTtl
    (now : Nat) : Option (Item RedisValue) → Int
| none => -2
| some item =>
    match item.deadline with
    | none => -1
    | some deadline => ((deadline - now + 500) / 1000 : Nat)

/- The count a rate limit key holds. -/
def hitsOf : Option (Item RedisValue) → Nat
| some { value := .count hits, .. } => hits
| _ => 0

/- Store one count more, keeping the window that is open. -/
def countHit
    (now windowSeconds : Nat)
    (found : Option (Item RedisValue)) : Item RedisValue :=
  { value := .count (hitsOf found + 1)
    deadline :=
      match found with
      | some item => item.deadline
      | none => some (now + windowSeconds * 1000) }

namespace World

variable (P : Platform) (cfg : KisAuthConfig)

/- Replace the Redis store. -/
def withRedis
    (world : World)
    (redis : Expiring String RedisValue) : World :=
  { world with redis := redis }

/- Replace the identity rows. -/
def withTables (world : World) (tables : Tables) : World :=
  { world with tables := tables }

/- Record a random value as used. -/
def draw (world : World) (value : String) : World :=
  { world with randoms := value :: world.randoms }

/- The answer to a Redis call, and the world after it. -/
def execRedis (world : World) :
    (effect : Eff) → Option (effect.Res × World)
| .redisSet key value ttlSeconds =>
    match validExpire world.clock ttlSeconds with
    | none => some (.error .invalidExpire, world)
    | some deadline =>
        some (.ok (), world.withRedis
          (world.redis.put key ⟨value, some deadline⟩))
| .redisSetNx key ttlSeconds =>
    match validExpire world.clock ttlSeconds with
    | none => some (.error .invalidExpire, world)
    | some deadline =>
        match world.redis.find world.clock key with
        | some _ => some (.ok false, world)
        | none =>
            some (.ok true, world.withRedis
              (world.redis.put key
                ⟨.claimed, some deadline⟩))
| .redisGet key =>
    some (world.redis.read world.clock key, world)
| .redisTtl key =>
    some
      (remainingTtl world.clock
        (world.redis.find world.clock key), world)
| .redisDel key =>
    some ((), world.withRedis (world.redis.remove key))
| .redisConsume key =>
    some
      (world.redis.read world.clock key,
        world.withRedis (world.redis.remove key))
| .redisIncr key windowSeconds =>
    let found := world.redis.find world.clock key
    some
      (hitsOf found + 1,
        world.withRedis (world.redis.put key
          (countHit world.clock windowSeconds found)))
| _ => none

/- The answer to an SQL statement, and the world after. -/
def execSql (world : World) (ext : External) :
    (effect : Eff) → Option (effect.Res × World)
| .selectClient clientId =>
    some (world.tables.selectClient clientId, world)
| .selectIdentity provider providerSubject =>
    some
      (world.tables.selectIdentity provider
        providerSubject, world)
| .selectIdentityById id =>
    some (world.tables.selectIdentityById id, world)
| .insertIdentity row =>
    match world.tables.checkInsert row, ext with
    | .error error, _ => some (.error error, world)
    | .ok row, .random id =>
        -- The row's id is a random uuid of the database.
        if id ∈ world.randoms ∨ uuidIn id ≠ some id then
          none
        else
          let stored := Tables.newRow row id world.clock
          some
            (.ok stored.toAuthIdentity,
              (world.withTables
                (world.tables.addRow stored)).draw id)
    | .ok _, _ => none
| .updateIdentity providerEmail providerEmailVerified id =>
    match uuidIn id with
    | none => some (.error .invalidText, world)
    | some id =>
        let tables := world.tables.modifyRow id
          (Tables.withEmail providerEmail
            (providerEmailVerified.getD false) world.clock)
        if providerEmail.all validText &&
            providerEmailVerified.isSome then
          some
            (.ok ((tables.findRow id).map
                AuthIdentityRow.toAuthIdentity),
              world.withTables tables)
        else
          some (.error .invalidText, world)
| .touchIdentity id =>
    match uuidIn id with
    | none => some (.error .invalidText, world)
    | some id =>
        some
          (.ok (), world.withTables
            (world.tables.modifyRow id
              (Tables.touched world.clock)))
| _ => none

/- The answer to any other call. -/
def execOther (world : World) (ext : External) :
    (effect : Eff) → Option (effect.Res × World)
| .dateNow => some (world.clock, world)
| .random =>
    match ext with
    | .random value =>
        if value ∈ world.randoms then none
        else some (value, world.draw value)
    | _ => none
| .verifySignature request =>
    match ext with
    | .elapsed milliseconds =>
        -- The clock is read at the start and at the end.
        let now := world.clock + milliseconds
        let result :=
          verifyInternalSignature P cfg.internalHmacSecret
            cfg.internalSignatureMaxSkewSeconds
            world.clock now request world.nonceCache
        some
          (result.1,
            { world with
              clock := now
              nonceCache := result.2 })
    | _ => none
| .fetch _ =>
    match ext with
    | .reply reply => some (reply, world)
    | _ => none
| .jwtVerify _ _ _ _ =>
    match ext with
    | .payload payload => some (payload, world)
    | _ => none
| .ssoCacheGet partnerSlug =>
    some (world.ssoCache partnerSlug, world)
| .ssoCacheSet partnerSlug config expiresAt =>
    some
      ((),
        { world with
          ssoCache := fun other =>
            if other = partnerSlug then
              some (config, expiresAt)
            else
              world.ssoCache other })
| .discoveryCacheGet discoveryUrl =>
    some (world.discoveryCache discoveryUrl, world)
| .discoveryCacheSet discoveryUrl doc expiresAt =>
    some
      ((),
        { world with
          discoveryCache := fun other =>
            if other = discoveryUrl then
              some (doc, expiresAt)
            else
              world.discoveryCache other })
| .emit _ => some ((), world)
| _ => none

/- Whether a call goes to Redis or to the database. -/
inductive Backend where
  | redis
  | sql
  | other
  deriving DecidableEq

def backend : Eff → Backend
| .redisSet _ _ _ => .redis
| .redisSetNx _ _ => .redis
| .redisGet _ => .redis
| .redisTtl _ => .redis
| .redisDel _ => .redis
| .redisConsume _ => .redis
| .redisIncr _ _ => .redis
| .selectClient _ => .sql
| .selectIdentity _ _ => .sql
| .selectIdentityById _ => .sql
| .insertIdentity _ => .sql
| .updateIdentity _ _ _ => .sql
| .touchIdentity _ => .sql
| _ => .other

/- The answer to a call, and the world after it. -/
def exec
    (world : World)
    (effect : Eff)
    (ext : External) : Option (effect.Res × World) :=
  match backend effect with
  | .redis => world.execRedis effect
  | .sql => world.execSql ext effect
  | .other => world.execOther P cfg ext effect

/- One operation of the environment. -/
def env (world : World) : EnvOp → Option World
| .tick milliseconds =>
    some { world with clock := world.clock + milliseconds }
| .setIdentityStatus id status =>
    some (world.withTables
      (world.tables.modifyRow id (Tables.withStatus status)))
| .setClient clientId client =>
    some (world.withTables
      { world.tables with
        clients := fun other =>
          if other = clientId then client
          else world.tables.clients other })

end World

/- The world as a semantics of the calls. -/
def worldSemantics
    (P : Platform)
    (cfg : KisAuthConfig) :
    Semantics Eff Eff.Res World External EnvOp where
  exec := World.exec P cfg
  env := World.env

end KisAuth

------------------------------------------------------------
-- What Calls Leave Alone
------------------------------------------------------------

namespace KisAuth

variable {P : Platform} {cfg : KisAuthConfig}
variable {world world' : World}

/- A Redis command leaves all but the store as it is. -/
theorem execRedis_frame
    {effect : Eff}
    {value : effect.Res}
    (hExec :
      world.execRedis effect = some (value, world')) :
    world' = world.withRedis world'.redis := by
  unfold World.execRedis at hExec
  split at hExec
  all_goals
    try split at hExec
    all_goals try split at hExec
    all_goals
      simp only [Option.some.injEq, Prod.mk.injEq,
        reduceCtorEq] at hExec
    all_goals exact hExec.2 ▸ rfl

/-
  A statement leaves all but the tables as they are, and the
  clients in them.
-/
theorem execSql_frame
    {ext : External}
    {effect : Eff}
    {value : effect.Res}
    (hExec :
      world.execSql ext effect = some (value, world')) :
    world'.redis = world.redis ∧
      world'.nonceCache = world.nonceCache ∧
      world'.clock = world.clock ∧
      world'.tables.clients = world.tables.clients := by
  unfold World.execSql at hExec
  split at hExec
  all_goals
    try split at hExec
    all_goals try split at hExec
    all_goals
      simp only [Option.some.injEq, Prod.mk.injEq,
        reduceCtorEq] at hExec
    all_goals exact hExec.2 ▸ ⟨rfl, rfl, rfl, rfl⟩

/- Other calls leave both stores, and may take time. -/
theorem execOther_frame
    {ext : External}
    {effect : Eff}
    {value : effect.Res}
    (hExec :
      world.execOther P cfg ext effect =
        some (value, world')) :
    world'.redis = world.redis ∧
      world'.tables = world.tables ∧
      world.clock ≤ world'.clock := by
  unfold World.execOther at hExec
  split at hExec
  all_goals
    try split at hExec
    all_goals try split at hExec
    all_goals
      simp only [Option.some.injEq, Prod.mk.injEq,
        reduceCtorEq] at hExec
    all_goals
      rcases hExec with ⟨_, rfl⟩
      exact ⟨rfl, rfl, by simp [World.draw]⟩

/- Any other call but a verification takes none. -/
theorem execOther_still
    {ext : External}
    {effect : Eff}
    {value : effect.Res}
    (hOther : ∀ request, effect ≠ .verifySignature request)
    (hExec :
      world.execOther P cfg ext effect =
        some (value, world')) :
    world'.redis = world.redis ∧
      world'.nonceCache = world.nonceCache ∧
      world'.clock = world.clock := by
  unfold World.execOther at hExec
  split at hExec
  case h_3 request => exact absurd rfl (hOther request)
  all_goals
    try split at hExec
    all_goals try split at hExec
    all_goals
      simp only [Option.some.injEq, Prod.mk.injEq,
        reduceCtorEq] at hExec
    all_goals exact hExec.2 ▸ ⟨rfl, rfl, rfl⟩

/- Calls to other backends are no Redis commands. -/
theorem execRedis_eq_none
    {effect : Eff}
    (hBackend : World.backend effect ≠ .redis)
    (world : World) :
    world.execRedis effect = none := by
  cases effect with
  | redisSet key value ttl => exact absurd rfl hBackend
  | redisSetNx key ttl => exact absurd rfl hBackend
  | redisGet key => exact absurd rfl hBackend
  | redisTtl key => exact absurd rfl hBackend
  | redisDel key => exact absurd rfl hBackend
  | redisConsume key => exact absurd rfl hBackend
  | redisIncr key window => exact absurd rfl hBackend
  | _ => rfl

/- What the environment does is no Redis command. -/
theorem env_frame
    {op : EnvOp}
    (hEnv : world.env op = some world') :
    world'.redis = world.redis ∧
      world.clock ≤ world'.clock := by
  cases op with
  | tick milliseconds =>
      simp only [World.env, Option.some.injEq] at hEnv
      subst hEnv
      exact ⟨rfl, Nat.le_add_right _ _⟩
  | setIdentityStatus id status =>
      simp only [World.env, Option.some.injEq] at hEnv
      subst hEnv
      exact ⟨rfl, Nat.le_refl _⟩
  | setClient clientId client =>
      simp only [World.env, Option.some.injEq] at hEnv
      subst hEnv
      exact ⟨rfl, Nat.le_refl _⟩

end KisAuth

------------------------------------------------------------
-- What Statements Do
------------------------------------------------------------

namespace KisAuth

variable {world world' : World}

/- An INSERT is refused, or it adds its row. -/
theorem execSql_insert
    {args : NewIdentity}
    {value : Except SqlError AuthIdentity}
    {ext : External}
    (hExec :
      world.execSql ext (.insertIdentity args) =
        some (value, world')) :
    (∃ error,
        world.tables.checkInsert args = .error error ∧
          value = .error error ∧ world' = world) ∨
      ∃ accepted id,
        world.tables.checkInsert args = .ok accepted ∧
          id ∉ world.randoms ∧
          uuidIn id = some id ∧
          value =
            .ok (Tables.newRow accepted id
              world.clock).toAuthIdentity ∧
          world' =
            (world.withTables
              (world.tables.addRow
                (Tables.newRow accepted id
                  world.clock))).draw id := by
  simp only [World.execSql] at hExec
  cases hCheck : world.tables.checkInsert args with
  | error error =>
      simp only [hCheck, Option.some.injEq, Prod.mk.injEq]
        at hExec
      exact
        Or.inl ⟨error, rfl, hExec.1.symm, hExec.2.symm⟩
  | ok accepted =>
      simp only [hCheck] at hExec
      cases ext with
      | random id =>
          simp only at hExec
          split at hExec
          · simp at hExec
          · next hId =>
              simp only [Option.some.injEq, Prod.mk.injEq]
                at hExec
              rw [not_or, not_not] at hId
              exact
                Or.inr
                  ⟨accepted, id, rfl, hId.1, hId.2,
                    hExec.1.symm, hExec.2.symm⟩
      | _ => simp at hExec

/- An UPDATE is refused, or it changes the row it names. -/
theorem execSql_update
    {email : Option String}
    {verified : Option Bool}
    {id : String}
    {value : Except SqlError (Option AuthIdentity)}
    {ext : External}
    (hExec :
      world.execSql ext (.updateIdentity email verified id) =
        some (value, world')) :
    ((uuidIn id = none ∨
          (email.all validText && verified.isSome) =
            false) ∧
        value = .error .invalidText ∧ world' = world) ∨
      ∃ canonical,
        uuidIn id = some canonical ∧
          value =
            .ok (((world.tables.modifyRow canonical
                (Tables.withEmail email
                  (verified.getD false)
                  world.clock)).findRow canonical).map
              AuthIdentityRow.toAuthIdentity) ∧
          world' =
            world.withTables
              (world.tables.modifyRow canonical
                (Tables.withEmail email
                  (verified.getD false) world.clock)) := by
  simp only [World.execSql] at hExec
  cases hId : uuidIn id with
  | none =>
      simp only [hId, Option.some.injEq, Prod.mk.injEq]
        at hExec
      exact
        Or.inl
          ⟨Or.inl rfl, hExec.1.symm, hExec.2.symm⟩
  | some canonical =>
      simp only [hId] at hExec
      split at hExec
      · simp only [Option.some.injEq, Prod.mk.injEq]
          at hExec
        exact
          Or.inr
            ⟨canonical, rfl, hExec.1.symm, hExec.2.symm⟩
      · next hStorable =>
          simp only [Option.some.injEq, Prod.mk.injEq]
            at hExec
          exact
            Or.inl
              ⟨Or.inr (Bool.eq_false_iff.mpr hStorable),
                hExec.1.symm, hExec.2.symm⟩

/- So does the UPDATE that counts a use. -/
theorem execSql_touch
    {id : String}
    {value : Except SqlError Unit}
    {ext : External}
    (hExec :
      world.execSql ext (.touchIdentity id) =
        some (value, world')) :
    (uuidIn id = none ∧
        value = .error .invalidText ∧ world' = world) ∨
      ∃ canonical,
        uuidIn id = some canonical ∧
          value = .ok () ∧
          world' =
            world.withTables
              (world.tables.modifyRow canonical
                (Tables.touched world.clock)) := by
  simp only [World.execSql] at hExec
  cases hId : uuidIn id with
  | none =>
      simp only [hId, Option.some.injEq, Prod.mk.injEq]
        at hExec
      exact Or.inl ⟨rfl, hExec.1.symm, hExec.2.symm⟩
  | some canonical =>
      simp only [hId, Option.some.injEq, Prod.mk.injEq]
        at hExec
      exact
        Or.inr ⟨canonical, rfl, hExec.1.symm, hExec.2.symm⟩

end KisAuth
