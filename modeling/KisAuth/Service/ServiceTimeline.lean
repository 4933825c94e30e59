import KisAuth.Interaction.Timeline
import KisAuth.Provenance.Record

/-
  The clock of each step of a run.

  With its clock, a run determines what Redis holds at each
  of its moments: the store is the replay of the commands
  that were answered.

  Key definitions include:
    * `TimedRun`, `itemsAt`
    * `Replays`

  Key theorems include:
    * `Run.timedRun`
    * `TimedRun.replayed`
    * `itemsAt_untouched`, `itemsAt_removed`, `itemsAt_set`
-/

------------------------------------------------------------
-- Timed Runs
------------------------------------------------------------

namespace KisAuth

open Interaction Store

/- One entry, with the clock when it was recorded. -/
abbrev ServiceMoment :=
  Moment Nat Eff Eff.Res HttpError Request Response EnvOp

/- What has happened and when, newest first. -/
abbrev Timeline := List ServiceMoment

/- A run, with the clock of each of its steps. -/
structure TimedRun
    (P : Platform)
    (cfg : KisAuthConfig) where
  clients : String → Option RegisteredClient
  timeline : Timeline
  state : ServiceState
  timed :
    Timed (worldSemantics P cfg) (handler P cfg) World.clock
      (World.empty clients) timeline state

variable {P : Platform} {cfg : KisAuthConfig}

def TimedRun.run (run : TimedRun P cfg) : Run P cfg where
  clients := run.clients
  state := run.state
  reachable := run.timed.reachable

theorem TimedRun.entriesOf_eq (run : TimedRun P cfg) :
    entriesOf run.timeline = run.run.history :=
  run.timed.entriesOf_eq

/- Every run is a timed run without its clock. -/
theorem Run.timedRun (run : Run P cfg) :
    ∃ timed : TimedRun P cfg, timed.run = run := by
  rcases run.reachable.timed World.clock with
    ⟨timeline, hTimed⟩
  exact ⟨⟨run.clients, timeline, run.state, hTimed⟩, rfl⟩

end KisAuth

------------------------------------------------------------
-- Redis, Replayed
------------------------------------------------------------

namespace KisAuth

open Interaction Store

/- A world with this clock and these items in Redis. -/
def redisWorld
    (clock : Nat)
    (items : Expiring String RedisValue) : World :=
  { World.empty (fun _ => none) with
    clock := clock
    redis := items }

/- What an entry leaves of the items in Redis. -/
def redisAfter
    (clock : Nat)
    (items : Expiring String RedisValue) :
    ServiceEntry → Expiring String RedisValue
| .answer _ answer =>
    match (redisWorld clock items).execRedis answer.effect with
    | some (_, world) => world.redis
    | none => items
| _ => items

/- The items in Redis after a timeline. -/
def itemsAt : Timeline → Expiring String RedisValue
| [] => fun _ => none
| moment :: earlier =>
    redisAfter moment.stamp (itemsAt earlier) moment.entry

/-
  A moment is no earlier than those before it, and a Redis
  command is answered from the items there are.
-/
structure Replays
    (moment : ServiceMoment)
    (earlier : Timeline) : Prop where
  later : ∀ other ∈ earlier, other.stamp ≤ moment.stamp
  redis :
    ∀ thread effect value,
      moment.entry = .answer thread ⟨effect, value⟩ →
        World.backend effect = .redis →
          ∃ world,
            (redisWorld moment.stamp
                (itemsAt earlier)).execRedis effect =
              some (value, world)

variable {P : Platform} {cfg : KisAuthConfig}
variable {world world' : World}

/- A Redis command needs the clock and the items only. -/
theorem execRedis_redisWorld
    (world : World)
    (effect : Eff) :
    (redisWorld world.clock world.redis).execRedis effect =
      (world.execRedis effect).map (fun answered =>
        (answered.1,
          redisWorld world.clock answered.2.redis)) := by
  cases effect with
  | redisSet key stored ttl =>
      simp only [World.execRedis, redisWorld]
      cases validExpire world.clock ttl with
      | none => rfl
      | some deadline => rfl
  | redisSetNx key ttl =>
      simp only [World.execRedis, redisWorld]
      cases validExpire world.clock ttl with
      | none => rfl
      | some deadline =>
          cases world.redis.find world.clock key with
          | none => rfl
          | some item => rfl
  | _ => rfl

/- An answered call, as the replay sees it. -/
theorem exec_replayed
    {ext : External}
    {effect : Eff}
    {value : effect.Res}
    (hExec :
      world.exec P cfg effect ext = some (value, world'))
    (thread : Nat) :
    world'.redis =
        redisAfter world.clock world.redis
          (.answer thread ⟨effect, value⟩) ∧
      world.clock ≤ world'.clock ∧
      (World.backend effect = .redis →
        ∃ after,
          (redisWorld world.clock world.redis).execRedis
              effect =
            some (value, after)) := by
  unfold World.exec at hExec
  cases hBackend : World.backend effect with
  | redis =>
      simp only [hBackend] at hExec
      have hReplay := execRedis_redisWorld world effect
      rw [hExec, Option.map_some] at hReplay
      have hClock : world'.clock = world.clock := by
        rw [execRedis_frame hExec]
        rfl
      refine ⟨?_, hClock.ge, ?_⟩
      · simp only [redisAfter, hReplay]
        rfl
      · intro _
        exact ⟨_, hReplay⟩
  | sql =>
      simp only [hBackend] at hExec
      rcases execSql_frame hExec with ⟨hRedis, _, hClock, _⟩
      have hNone :
          ∀ replayed : World,
            replayed.execRedis effect = none :=
        execRedis_eq_none (by simp [hBackend])
      refine ⟨?_, hClock.ge, by simp⟩
      simp only [redisAfter, hNone]
      exact hRedis
  | other =>
      simp only [hBackend] at hExec
      rcases execOther_frame hExec with ⟨hRedis, _, hClock⟩
      have hNone :
          ∀ replayed : World,
            replayed.execRedis effect = none :=
        execRedis_eq_none (by simp [hBackend])
      refine ⟨?_, hClock, by simp⟩
      simp only [redisAfter, hNone]
      exact hRedis

end KisAuth

------------------------------------------------------------
-- Timed Runs Replay
------------------------------------------------------------

namespace KisAuth

open Interaction Store

variable {P : Platform} {cfg : KisAuthConfig}

/- A world that is what the replay of the timeline gives. -/
structure Replayed
    (world : World)
    (timeline : Timeline) : Prop where
  redis : world.redis = itemsAt timeline
  clock : ∀ moment ∈ timeline, moment.stamp ≤ world.clock
  always : Always Replays timeline

/- It stays so at an entry that is no Redis command. -/
theorem Replayed.cons
    {world world' : World}
    {timeline : Timeline}
    {entry : ServiceEntry}
    (hReplayed : Replayed world timeline)
    (hRedis :
      world'.redis =
        redisAfter world.clock (itemsAt timeline) entry)
    (hClock : world.clock ≤ world'.clock)
    (hAnswered :
      ∀ thread effect value,
        entry = .answer thread ⟨effect, value⟩ →
          World.backend effect = .redis →
            ∃ after,
              (redisWorld world.clock
                  (itemsAt timeline)).execRedis effect =
                some (value, after)) :
    Replayed world' (⟨world.clock, entry⟩ :: timeline) where
  redis := hRedis
  clock := by
    intro moment hMem
    rcases List.mem_cons.mp hMem with rfl | hMem
    · exact hClock
    · exact (hReplayed.clock moment hMem).trans hClock
  always := ⟨⟨hReplayed.clock, hAnswered⟩, hReplayed.always⟩

/- What Redis holds is the replay of its commands. -/
theorem TimedRun.replayed (run : TimedRun P cfg) :
    Replayed run.state.world run.timeline := by
  apply Timed.invariant Replayed _ _ _ _ run.timed
  · exact ⟨rfl, by simp, trivial⟩
  · intro world timeline entry hNoAnswer _ hReplayed
    apply hReplayed.cons _ (Nat.le_refl _)
    · intro thread effect value hEntry
      exact absurd hEntry (hNoAnswer _ _)
    · cases entry with
      | answer thread answer => exact absurd rfl (hNoAnswer _ _)
      | arrive thread request => exact hReplayed.redis
      | respond thread outcome => exact hReplayed.redis
      | env op => exact hReplayed.redis
  · intro world timeline thread effect ext value world' hExec
      hReplayed
    rcases exec_replayed hExec thread with
      ⟨hRedis, hClock, hAnswered⟩
    rw [hReplayed.redis] at hRedis hAnswered
    apply hReplayed.cons hRedis hClock
    rintro other effect' value' hEntry hBackend
    rw [Entry.answer.injEq] at hEntry
    rcases hEntry with ⟨_, hAnswer⟩
    cases hAnswer
    exact hAnswered hBackend
  · intro world timeline op world' hEnv hReplayed
    rcases env_frame hEnv with ⟨hRedis, hClock⟩
    apply hReplayed.cons _ hClock
    · intro thread effect value hEntry
      simp at hEntry
    · rw [hRedis]
      exact hReplayed.redis

end KisAuth

------------------------------------------------------------
-- What A Moment Does To A Key
------------------------------------------------------------

namespace KisAuth

open Interaction Store

variable {moment : ServiceMoment} {earlier : Timeline}
variable {key : String}

/- A moment changes what is under one key, or nothing. -/
theorem itemsAt_cases (hReplays : Replays moment earlier) :
    (itemsAt (moment :: earlier) = itemsAt earlier ∧
        ∀ other, touch moment.entry other = none) ∨
      ∃ changed item,
        itemsAt (moment :: earlier) =
            (itemsAt earlier).write changed item ∧
          ∀ other,
            touch moment.entry other =
              if other = changed then
                some (item.map Item.value)
              else none := by
  rcases moment with ⟨stamp, entry⟩
  cases entry with
  | arrive thread request => exact Or.inl ⟨rfl, fun _ => rfl⟩
  | respond thread outcome => exact Or.inl ⟨rfl, fun _ => rfl⟩
  | env op => exact Or.inl ⟨rfl, fun _ => rfl⟩
  | answer thread answer =>
      rcases answer with ⟨effect, value⟩
      by_cases hBackend : World.backend effect = .redis
      · rcases hReplays.redis thread effect value rfl hBackend
          with ⟨after, hExec⟩
        have hItems :
            itemsAt (⟨stamp, .answer thread ⟨effect, value⟩⟩ ::
                earlier) =
              after.redis := by
          simp only [itemsAt, redisAfter]
          rw [hExec]
        rw [hItems]
        rcases execRedis_cases hExec with
          ⟨rfl, hTouch⟩ | ⟨changed, item, rfl, hTouch⟩
        · exact Or.inl ⟨rfl, hTouch⟩
        · exact Or.inr ⟨changed, item, rfl, hTouch⟩
      · left
        constructor
        · simp only [itemsAt, redisAfter]
          rw [execRedis_eq_none hBackend]
        · intro other
          cases effect with
          | redisSet key stored ttl => exact absurd rfl hBackend
          | redisSetNx key ttl => exact absurd rfl hBackend
          | redisDel key => exact absurd rfl hBackend
          | redisConsume key => exact absurd rfl hBackend
          | redisIncr key window => exact absurd rfl hBackend
          | _ => rfl

/- An entry that leaves a key alone leaves its item. -/
theorem itemsAt_untouched
    (hReplays : Replays moment earlier)
    (hTouch : touch moment.entry key = none) :
    itemsAt (moment :: earlier) key = itemsAt earlier key := by
  rcases itemsAt_cases hReplays with
    ⟨hSame, _⟩ | ⟨changed, item, hItems, hTouches⟩
  · rw [hSame]
  · have hNe : key ≠ changed := by
      rintro rfl
      simp [hTouches] at hTouch
    rw [hItems, Expiring.write_of_ne hNe]

/- An entry that removes a key leaves no item. -/
theorem itemsAt_removed
    (hReplays : Replays moment earlier)
    (hTouch : touch moment.entry key = some none) :
    itemsAt (moment :: earlier) key = none := by
  rcases itemsAt_cases hReplays with
    ⟨_, hNone⟩ | ⟨changed, item, hItems, hTouches⟩
  · simp [hNone] at hTouch
  · rw [hTouches] at hTouch
    split at hTouch
    · next hKey =>
        subst hKey
        rw [hItems, Expiring.write_self]
        simpa using hTouch
    · simp at hTouch

/- A SET that succeeds stores its value until its expiry. -/
theorem itemsAt_set
    {thread : Nat}
    {value : RedisValue}
    {ttlSeconds : ℚ}
    (hReplays : Replays moment earlier)
    (hEntry :
      moment.entry =
        .answer thread
          ⟨.redisSet key value ttlSeconds, .ok ()⟩) :
    ∃ deadline,
      validExpire moment.stamp ttlSeconds = some deadline ∧
        itemsAt (moment :: earlier) key =
          some ⟨value, some deadline⟩ := by
  rcases hReplays.redis thread _ _ hEntry rfl with
    ⟨after, hExec⟩
  simp only [World.execRedis, redisWorld] at hExec
  cases hExpire : validExpire moment.stamp ttlSeconds with
  | none => simp [hExpire] at hExec
  | some deadline =>
      refine ⟨deadline, rfl, ?_⟩
      simp [itemsAt, hEntry, redisAfter, World.execRedis,
        redisWorld, hExpire, World.withRedis, Expiring.put]

/- A value that is read is one there is. -/
theorem item_of_read
    {thread : Nat}
    {value : RedisValue}
    (hReplays : Replays moment earlier)
    (hEntry :
      moment.entry =
        .answer thread ⟨.redisGet key, some value⟩) :
    ∃ item,
      itemsAt earlier key = some item ∧
        item.live moment.stamp = true ∧
        item.value = value := by
  rcases hReplays.redis thread _ _ hEntry rfl with
    ⟨after, hExec⟩
  simp only [World.execRedis, redisWorld, Option.some.injEq,
    Prod.mk.injEq] at hExec
  exact Expiring.exists_item_of_read hExec.1

end KisAuth
