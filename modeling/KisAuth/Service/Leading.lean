import KisAuth.Interaction.Possible
import KisAuth.Service.Handler
import Mathlib.Data.Fintype.EquivFin

/-
  How single calls are answered, and the worlds they leave:
  the rules from which the ways of whole routes are composed.

  Key definitions include:
    * `World.hit`, `World.store`, `World.drop`
    * `Leading`, `SameBeside`, `StoredUntil`

  Key theorems include:
    * `leads_enforceRateLimit`, `leads_set`
    * `SameBeside.trans`, `StoredUntil.kept`
-/

------------------------------------------------------------
-- Calls That Are Answered
------------------------------------------------------------

namespace KisAuth

open Interaction Prog Store

/- The world after a hit on a counter. -/
def World.hit
    (world : World)
    (key : String)
    (windowSeconds : Nat) : World :=
  world.withRedis
    (world.redis.put key
      (countHit world.clock windowSeconds
        (world.redis.find world.clock key)))

/- The world after a value is stored until a deadline. -/
def World.store
    (world : World)
    (key : String)
    (value : RedisValue)
    (deadline : Nat) : World :=
  world.withRedis (world.redis.put key ⟨value, some deadline⟩)

/- The world after a key is deleted. -/
def World.drop (world : World) (key : String) : World :=
  world.withRedis (world.redis.remove key)

variable {P : Platform} {cfg : KisAuthConfig}
variable {world : World}

/- Some answers of the world lead the code there. -/
abbrev Leading
    (P : Platform)
    (cfg : KisAuthConfig)
    {α : Type}
    (program : KisM α)
    (world : World)
    (value : α)
    (last : World) : Prop :=
  Leads (worldSemantics P cfg) program world value last

theorem leads_incr (key : String) (windowSeconds : Nat) :
    Leading P cfg (Redis.incr key windowSeconds) world
      (hitsOf (world.redis.find world.clock key) + 1)
      (world.hit key windowSeconds) :=
  leads_perform .none rfl

theorem leads_get (key : String) :
    Leading P cfg (Redis.get key) world
      (world.redis.read world.clock key) world :=
  leads_perform .none rfl

theorem leads_ttl (key : String) :
    Leading P cfg (Redis.ttl key) world
      (remainingTtl world.clock
        (world.redis.find world.clock key))
      world :=
  leads_perform .none rfl

theorem leads_del (key : String) :
    Leading P cfg (Redis.del key) world () (world.drop key) :=
  leads_perform .none rfl

theorem leads_consume (key : String) :
    Leading P cfg (Redis.consume key) world
      (world.redis.read world.clock key) (world.drop key) :=
  leads_perform .none rfl

theorem leads_set
    {key : String}
    {value : RedisValue}
    {ttlSeconds : ℚ}
    {deadline : Nat}
    (hValid :
      validExpire world.clock ttlSeconds = some deadline) :
    Leading P cfg (Redis.set key value ttlSeconds) world ()
      (world.store key value deadline) := by
  have hExec :
      (worldSemantics P cfg).exec world
          (.redisSet key value ttlSeconds) .none =
        some (.ok (), world.store key value deadline) := by
    simp [worldSemantics, World.exec, World.backend,
      World.execRedis, hValid, World.store]
  exact (leads_perform .none hExec).bind (leads_ret _ _)

theorem leads_random
    {value : String}
    (hFresh : value ∉ world.randoms) :
    Leading P cfg randomId world value (world.draw value) := by
  have hExec :
      (worldSemantics P cfg).exec world .random
          (.random value) =
        some (value, world.draw value) := by
    simp [worldSemantics, World.exec, World.backend,
      World.execOther, hFresh]
  exact leads_perform (.random value) hExec

theorem leads_dateNow :
    Leading P cfg dateNow world world.clock world :=
  leads_perform .none rfl

theorem leads_emit (event : SecurityEvent) :
    Leading P cfg (emit event) world () world :=
  leads_perform .none rfl

theorem leads_fetch
    (request : FetchRequest)
    (reply : Option FetchReply) :
    Leading P cfg (doFetch request) world reply world :=
  leads_perform (.reply reply) rfl

theorem leads_orCrash
    {α : Type}
    {found : Option α}
    {value : α}
    (hFound : found = some value) :
    Leading P cfg (orCrash found) world value world := by
  subst hFound
  exact leads_ret _ _

theorem leads_findByClientId
    {clientId : String}
    {client : RegisteredClient}
    (hClient :
      world.tables.selectClient clientId =
        .ok (some client)) :
    Leading P cfg (ClientService.findByClientId clientId) world
      (some client) world := by
  have hExec :
      (worldSemantics P cfg).exec world
          (.selectClient clientId) .none =
        some (.ok (some client), world) := by
    simp [worldSemantics, World.exec, World.backend,
      World.execSql, hClient]
  exact (leads_perform .none hExec).bind (leads_ret _ _)

theorem leads_findByProviderSubject
    {provider providerSubject : String}
    {found : Option AuthIdentity}
    (hFound :
      world.tables.selectIdentity provider providerSubject =
        .ok found) :
    Leading P cfg
      (IdentityService.findByProviderSubject provider
        providerSubject)
      world found world := by
  have hExec :
      (worldSemantics P cfg).exec world
          (.selectIdentity provider providerSubject) .none =
        some (.ok found, world) := by
    simp [worldSemantics, World.exec, World.backend,
      World.execSql, hFound]
  exact (leads_perform .none hExec).bind (leads_ret _ _)

theorem leads_findById
    {id : String}
    {found : Option AuthIdentity}
    (hFound :
      world.tables.selectIdentityById id = .ok found) :
    Leading P cfg (IdentityService.findById id) world found
      world := by
  have hExec :
      (worldSemantics P cfg).exec world
          (.selectIdentityById id) .none =
        some (.ok found, world) := by
    simp [worldSemantics, World.exec, World.backend,
      World.execSql, hFound]
  exact (leads_perform .none hExec).bind (leads_ret _ _)

/- A limit that is not used up lets the request pass. -/
theorem leads_enforceRateLimit
    {policy : RateLimitPolicy}
    {identifier : String}
    (hLimit :
      hitsOf
            (world.redis.find world.clock
              (rateLimitKey policy.scope identifier)) <
          policy.limit) :
    Leading P cfg (enforceRateLimit policy identifier) world ()
      (world.hit (rateLimitKey policy.scope identifier)
        policy.windowSeconds) := by
  have hCheck :
      Leading P cfg
        (RateLimiter.check policy.scope identifier policy.limit
          policy.windowSeconds)
        world
        { allowed := true
          count :=
            hitsOf
                (world.redis.find world.clock
                  (rateLimitKey policy.scope identifier)) +
              1
          limit := policy.limit }
        (world.hit (rateLimitKey policy.scope identifier)
          policy.windowSeconds) := by
    have hAllowed :
        decide
            (hitsOf
                (world.redis.find world.clock
                  (rateLimitKey policy.scope identifier)) +
                1 ≤
              policy.limit) =
          true :=
      decide_eq_true hLimit
    rw [← hAllowed]
    exact (leads_incr _ _).bind (leads_ret _ _)
  exact hCheck.bind (leads_ret _ _)

end KisAuth

------------------------------------------------------------
-- What A Request Leaves Alone
------------------------------------------------------------

namespace KisAuth

open Interaction Prog Store

/- The worlds differ under these keys, or in the tables. -/
structure SameBeside
    (keys : List String)
    (world world' : World) : Prop where
  clock : world'.clock = world.clock
  nonceCache : world'.nonceCache = world.nonceCache
  redis :
    ∀ key, key ∉ keys → world'.redis key = world.redis key

variable {P : Platform} {cfg : KisAuthConfig}
variable {world world' : World} {keys : List String}

theorem SameBeside.refl (world : World) : SameBeside [] world world where
  clock := rfl
  nonceCache := rfl
  redis := fun _ _ => rfl

theorem SameBeside.draw
    (hKept : SameBeside keys world world')
    (value : String) :
    SameBeside keys world (world'.draw value) where
  clock := hKept.clock
  nonceCache := hKept.nonceCache
  redis := hKept.redis

theorem SameBeside.write
    (hKept : SameBeside keys world world')
    (key : String)
    (item : Option (Item RedisValue)) :
    SameBeside (key :: keys) world
      (world'.withRedis (world'.redis.write key item)) where
  clock := hKept.clock
  nonceCache := hKept.nonceCache
  redis := by
    intro other hOther
    rw [List.mem_cons, not_or] at hOther
    rw [← hKept.redis other hOther.2]
    exact Expiring.write_of_ne hOther.1

theorem SameBeside.withTables
    (hKept : SameBeside keys world world')
    (tables : Tables) :
    SameBeside keys world (world'.withTables tables) where
  clock := hKept.clock
  nonceCache := hKept.nonceCache
  redis := hKept.redis

theorem SameBeside.trans
    {keys' : List String}
    {world'' : World}
    (hFirst : SameBeside keys world world')
    (hNext : SameBeside keys' world' world'') :
    SameBeside (keys' ++ keys) world world'' where
  clock := hNext.clock.trans hFirst.clock
  nonceCache := hNext.nonceCache.trans hFirst.nonceCache
  redis := by
    intro key hKey
    rw [List.mem_append, not_or] at hKey
    rw [hNext.redis key hKey.1, hFirst.redis key hKey.2]

/- What is live under another key stays so. -/
theorem SameBeside.find
    (hKept : SameBeside keys world world')
    {key : String}
    (hKey : key ∉ keys) :
    world'.redis.find world'.clock key =
      world.redis.find world.clock key := by
  unfold Expiring.find
  rw [hKept.redis key hKey, hKept.clock]

/- A record is stored until a time that has not come. -/
structure StoredUntil
    (world : World)
    (key : String)
    (value : RedisValue)
    (deadline : Nat) : Prop where
  item : world.redis key = some ⟨value, some deadline⟩
  live : world.clock < deadline

section StoredUntil

variable {key : String} {value : RedisValue}
variable {deadline : Nat}

theorem StoredUntil.store
    (hLive : world.clock < deadline) :
    StoredUntil (world.store key value deadline) key value
      deadline where
  item := if_pos rfl
  live := hLive

theorem StoredUntil.find
    (hStored : StoredUntil world key value deadline) :
    world.redis.find world.clock key =
      some ⟨value, some deadline⟩ := by
  unfold Expiring.find
  rw [hStored.item]
  exact if_pos (decide_eq_true hStored.live)

theorem StoredUntil.read
    (hStored : StoredUntil world key value deadline) :
    world.redis.read world.clock key = some value := by
  unfold Expiring.read
  rw [hStored.find]
  rfl

/- `TTL` tells the whole seconds that are left. -/
theorem StoredUntil.ttl
    {seconds : Nat}
    (hStored :
      StoredUntil world key value
        (world.clock + seconds * 1000)) :
    remainingTtl world.clock
        (world.redis.find world.clock key) =
      (seconds : Int) := by
  rw [hStored.find]
  unfold remainingTtl
  simp only
  congr 1
  omega

/- What is written elsewhere leaves it. -/
theorem StoredUntil.kept
    (hStored : StoredUntil world key value deadline)
    (hKept : SameBeside keys world world')
    (hKey : key ∉ keys) :
    StoredUntil world' key value deadline where
  item := by
    rw [hKept.redis key hKey]
    exact hStored.item
  live := by
    rw [hKept.clock]
    exact hStored.live

theorem StoredUntil.drop
    {other : String}
    (hStored : StoredUntil world key value deadline)
    (hNe : key ≠ other) :
    StoredUntil (world.drop other) key value deadline :=
  hStored.kept ((SameBeside.refl world).write other none)
    (by simpa using hNe)

end StoredUntil

/- Counters of different limits are different. -/
theorem counters_ne
    {scope scope' : String}
    (hScope : ':' ∉ scope.toList)
    (hScope' : ':' ∉ scope'.toList)
    (hNe : scope ≠ scope')
    (identifier identifier' : String) :
    rateLimitKey scope identifier ≠
      rateLimitKey scope' identifier' :=
  fun hEq => hNe (rateLimitKey_inj hScope hScope' hEq).1

/- A counter is no other record. -/
theorem counter_ne_record
    {family : KeyFamily}
    (hFamily : KeyFamily.rateLimit ≠ family)
    (scope identifier id : String) :
    rateLimitKey scope identifier ≠ storeKey family id :=
  fun hEq => hFamily ((storeKey_inj _ _ _ _).mp hEq).1

/- There is always a text that was not drawn. -/
theorem exists_fresh (used : List String) :
    ∃ text, text ∉ used ∧ text ≠ "" := by
  rcases Infinite.exists_notMem_finset ("" :: used).toFinset
    with ⟨text, hText⟩
  rw [List.mem_toFinset, List.mem_cons, not_or] at hText
  exact ⟨text, hText.2, hText.1⟩

/- The clock has not come near its end. -/
def AllowsTtl (world : World) (seconds : Nat) : Prop :=
  world.clock + seconds * 1000 < 2 ^ 63

theorem validExpire_nat
    {seconds : Nat}
    (hPositive : 0 < seconds)
    (hAllows : AllowsTtl world seconds) :
    validExpire world.clock (seconds : ℚ) =
      some (world.clock + seconds * 1000) := by
  have hNum : ((seconds : ℚ).num).toNat = seconds := by simp
  unfold validExpire
  rw [hNum, if_pos]
  exact ⟨by simp, by simpa using hPositive, hAllows⟩

end KisAuth
