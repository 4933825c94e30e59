import KisAuth.Interaction.Footprint
import KisAuth.Runtime.AlikeWorlds
import KisAuth.Service.Handler

/-
  Answers that leave the stores as they were.

  The stores are the Redis keys other than the counters of
  the rate limits, the identity rows, and the nonces that a
  verification may still remember.

  Key definitions include:
    * `KeepsStores`, `Inert`, `InertCall`

  Key theorems include:
    * `keepsStores_of_inert`
-/

------------------------------------------------------------
-- Inert Answers
------------------------------------------------------------

namespace KisAuth

open Interaction

/- A key that counts the hits of a rate limit. -/
def IsCounter (key : String) : Prop :=
  ∃ text, key = storeKey .rateLimit text

/-
  Sessions, challenges, codes, tickets, link nonces,
  identity rows and accepted nonces are what they were.
-/
structure KeepsStores (world world' : World) : Prop where
  redis :
    ∀ key, ¬IsCounter key →
      world'.redis key = world.redis key
  rows : world'.tables.identities = world.tables.identities
  nonces :
    SameMemory world'.clock world'.nonceCache
      world.nonceCache

/-
  The call stored nothing: it only read, counted, or was
  refused.
-/
def Inert : Answer Eff Eff.Res → Prop
| ⟨.redisSet _ _ _, .ok _⟩ => False
| ⟨.redisSetNx _ _, .ok true⟩ => False
| ⟨.redisDel _, _⟩ => False
| ⟨.redisConsume _, _⟩ => False
| ⟨.redisIncr key _, _⟩ => IsCounter key
| ⟨.insertIdentity _, .ok _⟩ => False
| ⟨.updateIdentity _ _ _, .ok _⟩ => False
| ⟨.touchIdentity _, .ok _⟩ => False
| ⟨.verifySignature _, some .ok⟩ => False
| _ => True

/- Every answer to the call is inert. -/
def InertCall (effect : Eff) : Prop :=
  ∀ value, Inert ⟨effect, value⟩

theorem isCounter_rateLimitKey
    (scope identifier : String) :
    IsCounter (rateLimitKey scope identifier) :=
  ⟨_, rfl⟩

theorem KeepsStores.refl (world : World) :
    KeepsStores world world where
  redis := fun _ _ => rfl
  rows := rfl
  nonces := fun _ _ => rfl

end KisAuth

------------------------------------------------------------
-- What They Leave
------------------------------------------------------------

namespace KisAuth

open Interaction Store

variable {P : Platform} {cfg : KisAuthConfig}
variable {world world' : World}

/- Only a counter is written. -/
theorem keepsStores_writeCounter
    {key : String}
    (hKey : IsCounter key)
    (item : Option (Item RedisValue)) :
    KeepsStores world
      (world.withRedis (world.redis.write key item)) where
  redis := by
    intro other hOther
    have hNe : other ≠ key := by
      rintro rfl
      exact hOther hKey
    exact Expiring.write_of_ne hNe
  rows := rfl
  nonces := fun _ _ => rfl

theorem keepsStores_execRedis
    {effect : Eff}
    {value : effect.Res}
    (hInert : Inert ⟨effect, value⟩)
    (hExec :
      world.execRedis effect = some (value, world')) :
    KeepsStores world world' := by
  cases effect with
  | redisSet key stored ttl =>
      simp only [World.execRedis] at hExec
      split at hExec
      · rw [Option.some.injEq, Prod.mk.injEq] at hExec
        rw [← hExec.2]
        exact KeepsStores.refl world
      · rw [Option.some.injEq, Prod.mk.injEq] at hExec
        rw [← hExec.1] at hInert
        exact hInert.elim
  | redisSetNx key ttl =>
      simp only [World.execRedis] at hExec
      split at hExec
      · rw [Option.some.injEq, Prod.mk.injEq] at hExec
        rw [← hExec.2]
        exact KeepsStores.refl world
      · split at hExec
        · rw [Option.some.injEq, Prod.mk.injEq] at hExec
          rw [← hExec.2]
          exact KeepsStores.refl world
        · rw [Option.some.injEq, Prod.mk.injEq] at hExec
          rw [← hExec.1] at hInert
          exact hInert.elim
  | redisGet key =>
      rw [World.execRedis, Option.some.injEq,
        Prod.mk.injEq] at hExec
      rw [← hExec.2]
      exact KeepsStores.refl world
  | redisTtl key =>
      rw [World.execRedis, Option.some.injEq,
        Prod.mk.injEq] at hExec
      rw [← hExec.2]
      exact KeepsStores.refl world
  | redisDel key => exact hInert.elim
  | redisConsume key => exact hInert.elim
  | redisIncr key window =>
      simp only [World.execRedis, Expiring.put_eq_write,
        Option.some.injEq, Prod.mk.injEq] at hExec
      rw [← hExec.2]
      exact keepsStores_writeCounter hInert _
  | _ => simp [World.execRedis] at hExec

theorem keepsStores_execSql
    {ext : External}
    {effect : Eff}
    {value : effect.Res}
    (hInert : Inert ⟨effect, value⟩)
    (hExec :
      world.execSql ext effect = some (value, world')) :
    KeepsStores world world' := by
  cases effect with
  | insertIdentity args =>
      rcases execSql_insert hExec with
        ⟨_, _, _, rfl⟩ | ⟨_, _, _, _, _, rfl, _⟩
      · exact KeepsStores.refl _
      · exact hInert.elim
  | updateIdentity email verified id =>
      rcases execSql_update hExec with
        ⟨_, _, rfl⟩ | ⟨_, _, rfl, _⟩
      · exact KeepsStores.refl _
      · exact hInert.elim
  | touchIdentity id =>
      rcases execSql_touch hExec with
        ⟨_, _, rfl⟩ | ⟨_, _, rfl, _⟩
      · exact KeepsStores.refl _
      · exact hInert.elim
  | selectClient clientId =>
      rw [World.execSql, Option.some.injEq, Prod.mk.injEq]
        at hExec
      rw [← hExec.2]
      exact KeepsStores.refl world
  | selectIdentity provider providerSubject =>
      rw [World.execSql, Option.some.injEq, Prod.mk.injEq]
        at hExec
      rw [← hExec.2]
      exact KeepsStores.refl world
  | selectIdentityById id =>
      rw [World.execSql, Option.some.injEq, Prod.mk.injEq]
        at hExec
      rw [← hExec.2]
      exact KeepsStores.refl world
  | _ => simp [World.execSql] at hExec

/- A verification that accepts nothing remembers nothing. -/
theorem keepsStores_verify
    {ext : External}
    {request : SignedRequest}
    {value : Option VerifyResult}
    (hRefused : value ≠ some .ok)
    (hExec :
      world.execOther P cfg ext (.verifySignature request) =
        some (value, world')) :
    KeepsStores world world' := by
  cases ext with
  | elapsed milliseconds =>
      simp only [World.execOther, Option.some.injEq,
        Prod.mk.injEq] at hExec
      rcases hExec with ⟨hValue, rfl⟩
      let verifyCall : VerifyCall :=
        ⟨world.clock, (world.clock + milliseconds : Nat),
          request⟩
      have hCall :
          (verifyCall.verify P cfg.internalHmacSecret
              cfg.internalSignatureMaxSkewSeconds
              world.nonceCache).1 ≠ some .ok := by
        intro hAccepted
        apply hRefused
        rw [← hValue]
        simpa [verifyCall, VerifyCall.verify] using hAccepted
      have hSame :
          SameMemory verifyCall.now _ world.nonceCache :=
        verify_refused_alike (fun _ _ => rfl) hCall
      exact
        { redis := fun _ _ => rfl
          rows := rfl
          nonces := by
            simpa [verifyCall, VerifyCall.verify] using hSame }
  | _ => simp [World.execOther] at hExec

theorem keepsStores_execOther
    {ext : External}
    {effect : Eff}
    {value : effect.Res}
    (hInert : Inert ⟨effect, value⟩)
    (hExec :
      world.execOther P cfg ext effect =
        some (value, world')) :
    KeepsStores world world' := by
  by_cases hVerify :
      ∃ request, effect = .verifySignature request
  · rcases hVerify with ⟨request, rfl⟩
    apply keepsStores_verify _ hExec
    rintro rfl
    exact hInert
  · have hOther :
        ∀ request, effect ≠ .verifySignature request :=
      fun request hEq => hVerify ⟨request, hEq⟩
    rcases execOther_frame hExec with ⟨hRedis, hTables, _⟩
    rcases execOther_still hOther hExec with
      ⟨_, hNonces, _⟩
    exact
      { redis := fun key _ => congrFun hRedis key
        rows := by rw [hTables]
        nonces := fun _ _ => by rw [hNonces] }

/- An inert answer leaves the stores as they were. -/
theorem keepsStores_of_inert
    {ext : External}
    {effect : Eff}
    {value : effect.Res}
    (hExec :
      world.exec P cfg effect ext = some (value, world'))
    (hInert : Inert ⟨effect, value⟩) :
    KeepsStores world world' := by
  unfold World.exec at hExec
  split at hExec
  · exact keepsStores_execRedis hInert hExec
  · exact keepsStores_execSql hInert hExec
  · exact keepsStores_execOther hInert hExec

/-
  Where a thread was given inert answers only, each of its
  steps left the stores as they were.
-/
theorem leaves_stores
    {handle : Request → KisM Response}
    {start : World}
    {thread : Nat}
    {final : ServiceState}
    (hInert :
      ∀ answer ∈ answersOf thread final.history,
        Inert answer) :
    Leaves (worldSemantics P cfg) handle start thread final
      KeepsStores := by
  apply leaves_of_answers KeepsStores.refl _ hInert
  intro world ext effect value world' hExec hAnswer
  exact keepsStores_of_inert hExec hAnswer

end KisAuth
