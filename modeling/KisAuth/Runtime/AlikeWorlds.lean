import KisAuth.Runtime.World
import KisAuth.Security.Verification

/-
  Worlds that differ in some Redis keys, and in nonces that
  are due to be forgotten.

  Calls that use none of these keys are answered alike in
  both, and keep them alike.

  Key definitions include:
    * `redisKey`, `Alike`

  Key theorems include:
    * `verify_alike`, `Alike.refused`
    * `Alike.exec`
-/

------------------------------------------------------------
-- Nonces To Be Forgotten
------------------------------------------------------------

namespace KisAuth

/- What is forgotten early is forgotten later anyway. -/
theorem purge_purge
    {earlier now : ℚ}
    (hLe : earlier ≤ now)
    (cache : NonceCache) :
    purge now (purge earlier cache) = purge now cache := by
  unfold purge
  rw [List.filter_filter]
  apply List.filter_congr
  intro entry _
  by_cases hLive : now < entry.2
  · simp [hLive, lt_of_le_of_lt hLe hLive]
  · simp [hLive]

/- Memories that agree on what is not to be forgotten yet. -/
def SameMemory (now : ℚ) (cache base : NonceCache) : Prop :=
  ∀ instant, now ≤ instant →
    purge instant cache = purge instant base

theorem SameMemory.later
    {now instant : ℚ}
    {cache base : NonceCache}
    (hSame : SameMemory now cache base)
    (hLe : now ≤ instant) :
    SameMemory instant cache base :=
  fun _ hLater => hSame _ (hLe.trans hLater)

theorem SameMemory.purge
    {now : ℚ}
    {cache base : NonceCache}
    (hSame : SameMemory now cache base) :
    SameMemory now (KisAuth.purge now cache) base := by
  intro instant hLe
  rw [purge_purge hLe]
  exact hSame instant hLe

variable {P : Platform} {secret : String}
variable {maxSkewSeconds : ℚ}

/- A verification answers alike from both memories. -/
theorem verify_alike
    {call : VerifyCall}
    {cache base : NonceCache}
    (hSame : SameMemory call.now cache base) :
    (call.verify P secret maxSkewSeconds cache).1 =
        (call.verify P secret maxSkewSeconds base).1 ∧
      SameMemory call.now
        (call.verify P secret maxSkewSeconds cache).2
        (call.verify P secret maxSkewSeconds base).2 := by
  have hNow := hSame call.now (le_refl _)
  unfold VerifyCall.verify verifyInternalSignature
  cases headerTexts call.request.headers with
  | none => exact ⟨rfl, hSame⟩
  | some texts =>
      cases hNumber : P.number texts.timestamp with
      | none =>
          simp only [hNumber]
          exact ⟨trivial, hSame⟩
      | some ts =>
          simp only [hNumber, hNow]
          split
          · exact ⟨rfl, hSame⟩
          · exact ⟨rfl, fun _ _ => rfl⟩

/- One that is refused leaves nothing to be remembered. -/
theorem verify_refused_alike
    {call : VerifyCall}
    {cache base : NonceCache}
    (hSame : SameMemory call.now cache base)
    (hRefused :
      (call.verify P secret maxSkewSeconds cache).1 ≠
        some .ok) :
    SameMemory call.now
      (call.verify P secret maxSkewSeconds cache).2 base := by
  rcases verify_refused hRefused with hKept | hPurged
  · rw [hKept]
    exact hSame
  · rw [hPurged]
    exact hSame.purge

end KisAuth

------------------------------------------------------------
-- Alike Worlds
------------------------------------------------------------

namespace KisAuth

open Store

/- The key of a Redis command. -/
def redisKey : Eff → Option String
| .redisSet key _ _ => some key
| .redisSetNx key _ => some key
| .redisGet key => some key
| .redisTtl key => some key
| .redisDel key => some key
| .redisConsume key => some key
| .redisIncr key _ => some key
| _ => none

/- Replace the store and the memory of a world. -/
def World.withMemory
    (world : World)
    (redis : Expiring String RedisValue)
    (nonceCache : NonceCache) : World :=
  { world with
    redis := redis
    nonceCache := nonceCache }

/-
  The base world is the world, but for Redis keys in `K` and
  for nonces that the next verification forgets.
-/
structure Alike
    (K : String → Prop)
    (world base : World) : Prop where
  rest :
    base = world.withMemory base.redis base.nonceCache
  redis : ∀ key, ¬K key → base.redis key = world.redis key
  nonces :
    SameMemory world.clock world.nonceCache base.nonceCache

variable {K : String → Prop} {world world' base : World}

theorem Alike.refl
    (K : String → Prop)
    (world : World) : Alike K world world where
  rest := rfl
  redis := fun _ _ => rfl
  nonces := fun _ _ => rfl

theorem Alike.clock
    (hAlike : Alike K world base) :
    base.clock = world.clock := by
  rw [hAlike.rest]
  rfl

/- A live item under a key of both. -/
theorem Alike.find
    {key : String}
    (hAlike : Alike K world base)
    (hKey : ¬K key) :
    base.redis.find world.clock key =
      world.redis.find world.clock key := by
  unfold Expiring.find
  rw [hAlike.redis key hKey]

theorem Alike.read
    {key : String}
    (hAlike : Alike K world base)
    (hKey : ¬K key) :
    base.redis.read world.clock key =
      world.redis.read world.clock key := by
  unfold Expiring.read
  rw [hAlike.find hKey]

/- The same change of one key in both. -/
theorem Alike.write
    (hAlike : Alike K world base)
    (key : String)
    (item : Option (Item RedisValue)) :
    Alike K
      (world.withRedis (world.redis.write key item))
      (base.withRedis (base.redis.write key item)) where
  rest := by
    have hRest := hAlike.rest
    rw [hRest]
    rfl
  redis := by
    intro other hOther
    unfold World.withRedis Expiring.write
    simp only [hAlike.redis other hOther]
  nonces := hAlike.nonces

/- Changes of a key that is not compared. -/
theorem Alike.writeApart
    {key : String}
    (hAlike : Alike K world base)
    (hKey : K key)
    (item item' : Option (Item RedisValue)) :
    Alike K
      (world.withRedis (world.redis.write key item))
      (base.withRedis (base.redis.write key item')) where
  rest := by
    have hRest := hAlike.rest
    rw [hRest]
    rfl
  redis := by
    intro other hOther
    have hNe : other ≠ key := by
      rintro rfl
      exact hOther hKey
    simp only [World.withRedis, Expiring.write_of_ne hNe]
    exact hAlike.redis other hOther
  nonces := hAlike.nonces

/- Such a change in the world only. -/
theorem Alike.writeExtra
    {key : String}
    (hAlike : Alike K world base)
    (hKey : K key)
    (item : Option (Item RedisValue)) :
    Alike K (world.withRedis (world.redis.write key item))
      base where
  rest := hAlike.rest
  redis := by
    intro other hOther
    have hNe : other ≠ key := by
      rintro rfl
      exact hOther hKey
    simp only [World.withRedis, Expiring.write_of_ne hNe]
    exact hAlike.redis other hOther
  nonces := hAlike.nonces

/- A Redis command on a key of both. -/
theorem Alike.execRedis
    {effect : Eff}
    {value : effect.Res}
    (hAlike : Alike K world base)
    (hKey : ∀ key ∈ redisKey effect, ¬K key)
    (hExec :
      world.execRedis effect = some (value, world')) :
    ∃ base',
      base.execRedis effect = some (value, base') ∧
        Alike K world' base' := by
  have hClock := hAlike.clock
  cases effect with
  | redisSet key stored ttl =>
      simp only [World.execRedis, hClock] at hExec ⊢
      split at hExec
      · simp only [Option.some.injEq, Prod.mk.injEq] at hExec
        rcases hExec with ⟨rfl, rfl⟩
        exact ⟨base, rfl, hAlike⟩
      · simp only [Option.some.injEq, Prod.mk.injEq] at hExec
        rcases hExec with ⟨rfl, rfl⟩
        exact ⟨_, rfl, hAlike.write _ (some _)⟩
  | redisSetNx key ttl =>
      have hFind := hAlike.find (hKey key rfl)
      simp only [World.execRedis, hClock, hFind] at hExec ⊢
      split at hExec
      · simp only [Option.some.injEq, Prod.mk.injEq] at hExec
        rcases hExec with ⟨rfl, rfl⟩
        exact ⟨base, rfl, hAlike⟩
      · split at hExec
        · simp only [Option.some.injEq, Prod.mk.injEq]
            at hExec
          rcases hExec with ⟨rfl, rfl⟩
          exact ⟨base, rfl, hAlike⟩
        · simp only [Option.some.injEq, Prod.mk.injEq]
            at hExec
          rcases hExec with ⟨rfl, rfl⟩
          exact ⟨_, rfl, hAlike.write _ (some _)⟩
  | redisGet key =>
      simp only [World.execRedis, Option.some.injEq,
        Prod.mk.injEq] at hExec
      rcases hExec with ⟨rfl, rfl⟩
      refine ⟨base, ?_, hAlike⟩
      simp [World.execRedis, hClock,
        hAlike.read (hKey key rfl)]
  | redisTtl key =>
      simp only [World.execRedis, Option.some.injEq,
        Prod.mk.injEq] at hExec
      rcases hExec with ⟨rfl, rfl⟩
      refine ⟨base, ?_, hAlike⟩
      simp [World.execRedis, hClock,
        hAlike.find (hKey key rfl)]
  | redisDel key =>
      simp only [World.execRedis, Option.some.injEq,
        Prod.mk.injEq] at hExec
      rcases hExec with ⟨-, rfl⟩
      exact ⟨_, rfl, hAlike.write key none⟩
  | redisConsume key =>
      simp only [World.execRedis, Option.some.injEq,
        Prod.mk.injEq] at hExec
      rcases hExec with ⟨rfl, rfl⟩
      refine ⟨_, ?_, hAlike.write key none⟩
      simp [World.execRedis, hClock,
        hAlike.read (hKey key rfl),
        Expiring.remove_eq_write]
  | redisIncr key window =>
      simp only [World.execRedis, Option.some.injEq,
        Prod.mk.injEq] at hExec
      rcases hExec with ⟨rfl, rfl⟩
      refine ⟨_, ?_, hAlike.write key (some _)⟩
      simp [World.execRedis, hClock,
        hAlike.find (hKey key rfl), Expiring.put_eq_write]
  | _ => simp [World.execRedis] at hExec

/- A statement that both databases answer. -/
theorem execSql_withMemory
    (world : World)
    (redis : Expiring String RedisValue)
    (nonceCache : NonceCache)
    (ext : External)
    (effect : Eff) :
    (world.withMemory redis nonceCache).execSql ext effect =
      (world.execSql ext effect).map (fun answered =>
        (answered.1,
          answered.2.withMemory redis nonceCache)) := by
  cases effect with
  | insertIdentity row =>
      simp only [World.execSql, World.withMemory]
      cases world.tables.checkInsert row with
      | error error => rfl
      | ok accepted =>
          cases ext with
          | random id =>
              by_cases hUsed :
                  id ∈ world.randoms ∨ uuidIn id ≠ some id
              · simp [hUsed]
              · simp only [hUsed, if_false]
                rfl
          | _ => rfl
  | updateIdentity email verified id =>
      simp only [World.execSql, World.withMemory]
      cases uuidIn id with
      | none => rfl
      | some id =>
          simp only
          split
          · rfl
          · rfl
  | touchIdentity id =>
      simp only [World.execSql, World.withMemory]
      cases uuidIn id with
      | none => rfl
      | some id => rfl
  | _ => rfl

theorem Alike.execSql
    {effect : Eff}
    {value : effect.Res}
    {ext : External}
    (hAlike : Alike K world base)
    (hExec :
      world.execSql ext effect = some (value, world')) :
    ∃ base',
      base.execSql ext effect = some (value, base') ∧
        Alike K world' base' := by
  rcases execSql_frame hExec with
    ⟨hRedis, hNonces, hClock, _⟩
  refine
    ⟨world'.withMemory base.redis base.nonceCache, ?_, ?_⟩
  · rw [hAlike.rest, execSql_withMemory, hExec]
    rfl
  · exact
      { rest := rfl
        redis := by
          rw [hRedis]
          exact hAlike.redis
        nonces := by
          rw [hNonces, hClock]
          exact hAlike.nonces }

/- Any other call but a verification. -/
theorem execOther_withMemory
    {P : Platform}
    {cfg : KisAuthConfig}
    {effect : Eff}
    (world : World)
    (redis : Expiring String RedisValue)
    (nonceCache : NonceCache)
    (ext : External)
    (hOther : ∀ request, effect ≠ .verifySignature request) :
    (world.withMemory redis nonceCache).execOther P cfg ext
        effect =
      (world.execOther P cfg ext effect).map
        (fun answered =>
          (answered.1,
            answered.2.withMemory redis nonceCache)) := by
  cases effect with
  | random =>
      simp only [World.execOther, World.withMemory]
      cases ext with
      | random value =>
          by_cases hUsed : value ∈ world.randoms
          · simp [hUsed]
          · simp only [hUsed, if_false]
            rfl
      | _ => rfl
  | verifySignature request => exact absurd rfl (hOther _)
  | fetch request => cases ext <;> rfl
  | jwtVerify idToken jwksUri issuer audience =>
      cases ext <;> rfl
  | _ => rfl

theorem Alike.execOther
    {P : Platform}
    {cfg : KisAuthConfig}
    {effect : Eff}
    {value : effect.Res}
    {ext : External}
    (hAlike : Alike K world base)
    (hOther : ∀ request, effect ≠ .verifySignature request)
    (hExec :
      world.execOther P cfg ext effect =
        some (value, world')) :
    ∃ base',
      base.execOther P cfg ext effect = some (value, base') ∧
        Alike K world' base' := by
  rcases execOther_still hOther hExec with
    ⟨hRedis, hNonces, hClock⟩
  refine
    ⟨world'.withMemory base.redis base.nonceCache, ?_, ?_⟩
  · rw [hAlike.rest, execOther_withMemory _ _ _ _ hOther,
      hExec]
    rfl
  · exact
      { rest := rfl
        redis := by
          rw [hRedis]
          exact hAlike.redis
        nonces := by
          rw [hNonces, hClock]
          exact hAlike.nonces }

end KisAuth

------------------------------------------------------------
-- Verifications And Time
------------------------------------------------------------

namespace KisAuth

open Interaction Store

variable {P : Platform} {cfg : KisAuthConfig}
variable {K : String → Prop} {world world' base : World}

/- A verification, as a call with its two readings. -/
def verifyCall
    (world : World)
    (milliseconds : Nat)
    (request : SignedRequest) : VerifyCall where
  checkedAt := world.clock
  now := (world.clock + milliseconds : Nat)
  request := request

/- The world after a verification. -/
def World.verified
    (P : Platform)
    (cfg : KisAuthConfig)
    (world : World)
    (milliseconds : Nat)
    (request : SignedRequest) : World :=
  { world with
    clock := world.clock + milliseconds
    nonceCache :=
      ((verifyCall world milliseconds request).verify P
        cfg.internalHmacSecret
        cfg.internalSignatureMaxSkewSeconds
        world.nonceCache).2 }

theorem execOther_verify
    {ext : External}
    {request : SignedRequest}
    {value : Option VerifyResult}
    (hExec :
      world.execOther P cfg ext (.verifySignature request) =
        some (value, world')) :
    ∃ milliseconds,
      ext = .elapsed milliseconds ∧
        value =
          ((verifyCall world milliseconds request).verify P
            cfg.internalHmacSecret
            cfg.internalSignatureMaxSkewSeconds
            world.nonceCache).1 ∧
        world' =
          world.verified P cfg milliseconds request := by
  simp only [World.execOther] at hExec
  split at hExec
  · next milliseconds =>
      simp only [Option.some.injEq, Prod.mk.injEq] at hExec
      rcases hExec with ⟨rfl, rfl⟩
      refine ⟨milliseconds, rfl, ?_, ?_⟩
      · simp [VerifyCall.verify, verifyCall]
      · simp [World.verified, VerifyCall.verify, verifyCall]
  · simp at hExec

theorem SameMemory.elapsed
    {cache cache' : NonceCache}
    (hSame : SameMemory world.clock cache cache')
    (milliseconds : Nat) :
    SameMemory (world.clock + milliseconds : Nat) cache
      cache' := by
  apply hSame.later
  push_cast
  simp

/- A verification in both worlds. -/
theorem Alike.verify
    {ext : External}
    {request : SignedRequest}
    {value : Option VerifyResult}
    (hAlike : Alike K world base)
    (hExec :
      world.execOther P cfg ext (.verifySignature request) =
        some (value, world')) :
    ∃ base',
      base.execOther P cfg ext (.verifySignature request) =
          some (value, base') ∧
        Alike K world' base' := by
  rcases execOther_verify hExec with
    ⟨milliseconds, rfl, hValue, rfl⟩
  have hMemory := hAlike.nonces.elapsed milliseconds
  have hBoth :=
    @verify_alike P cfg.internalHmacSecret
      cfg.internalSignatureMaxSkewSeconds
      (verifyCall world milliseconds request) _ _ hMemory
  have hCall :
      verifyCall base milliseconds request =
        verifyCall world milliseconds request := by
    unfold verifyCall
    rw [hAlike.clock]
  refine ⟨base.verified P cfg milliseconds request, ?_, ?_⟩
  · rw [hValue, hBoth.1, ← hCall]
    simp [World.execOther, World.verified, VerifyCall.verify,
      verifyCall]
  · exact
      { rest := by
          have hRest := hAlike.rest
          rw [hRest]
          rfl
        redis := hAlike.redis
        nonces := by
          simp only [World.verified, hCall]
          exact hBoth.2 }

/- A call that uses none of the keys, in both worlds. -/
theorem Alike.exec
    {effect : Eff}
    {value : effect.Res}
    {ext : External}
    (hAlike : Alike K world base)
    (hKey : ∀ key ∈ redisKey effect, ¬K key)
    (hExec :
      world.exec P cfg effect ext = some (value, world')) :
    ∃ base',
      base.exec P cfg effect ext = some (value, base') ∧
        Alike K world' base' := by
  unfold World.exec at hExec ⊢
  split at hExec
  · exact hAlike.execRedis hKey hExec
  · exact hAlike.execSql hExec
  · by_cases hVerify :
        ∃ request, effect = .verifySignature request
    · rcases hVerify with ⟨request, rfl⟩
      exact hAlike.verify hExec
    · apply hAlike.execOther _ hExec
      rintro request rfl
      exact hVerify ⟨request, rfl⟩

/- What the environment does, in both worlds. -/
theorem Alike.env
    {op : EnvOp}
    (hAlike : Alike K world base)
    (hEnv : world.env op = some world') :
    ∃ base',
      base.env op = some base' ∧ Alike K world' base' := by
  have hRest := hAlike.rest
  cases op with
  | tick milliseconds =>
      simp only [World.env, Option.some.injEq] at hEnv
      subst hEnv
      refine ⟨_, rfl, ?_⟩
      exact
        { rest := by
            rw [hRest]
            rfl
          redis := hAlike.redis
          nonces := hAlike.nonces.elapsed milliseconds }
  | setIdentityStatus id status =>
      simp only [World.env, Option.some.injEq] at hEnv
      subst hEnv
      refine ⟨_, rfl, ?_⟩
      exact
        { rest := by
            rw [hRest]
            rfl
          redis := hAlike.redis
          nonces := hAlike.nonces }
  | setClient clientId client =>
      simp only [World.env, Option.some.injEq] at hEnv
      subst hEnv
      refine ⟨_, rfl, ?_⟩
      exact
        { rest := by
            rw [hRest]
            rfl
          redis := hAlike.redis
          nonces := hAlike.nonces }

/-
  A verification that is refused, in the world only: the base
  world lets the time pass that it took.
-/
theorem Alike.refused
    {ext : External}
    {request : SignedRequest}
    {value : Option VerifyResult}
    (hAlike : Alike K world base)
    (hRefused : value ≠ some .ok)
    (hExec :
      world.execOther P cfg ext (.verifySignature request) =
        some (value, world')) :
    ∃ milliseconds base',
      ext = .elapsed milliseconds ∧
        base.env (.tick milliseconds) = some base' ∧
        Alike K world' base' := by
  rcases execOther_verify hExec with
    ⟨milliseconds, rfl, rfl, rfl⟩
  refine ⟨milliseconds, _, rfl, rfl, ?_⟩
  have hMemory := hAlike.nonces.elapsed milliseconds
  exact
    { rest := by
        have hRest := hAlike.rest
        rw [hRest]
        rfl
      redis := hAlike.redis
      nonces := by
        exact
          @verify_refused_alike P cfg.internalHmacSecret
            cfg.internalSignatureMaxSkewSeconds
            (verifyCall world milliseconds request) _ _
            hMemory hRefused }

end KisAuth
