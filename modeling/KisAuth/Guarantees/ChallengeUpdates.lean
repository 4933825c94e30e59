import KisAuth.Guarantees.SessionCompletion
import KisAuth.Interaction.Linearization
import KisAuth.Redis.ChallengeStore
import KisAuth.Runtime.World
import Mathlib.Data.List.Pairwise

/-
  Updates of one challenge.

  Any number of callers increment the attempts of a challenge,
  mark it used, delete it or read it, in any interleaving of
  the Redis commands. An update is a GET, a TTL and a SET of
  the whole record, so it can overwrite what happened since
  its GET. Where it overwrites nothing, the calls are
  linearizable.

  Key definitions include:
    * `ChallengeCall`, `ChallengeRun`
    * `LiveChallenge`, `Serves`, `Fades`
    * `OverwritesNothing`, `ChallengeUpdates`

  Key theorems include:
    * `challengeCall_obeys`
    * `serves_of_answer`
    * `challenge_updates_linearizable`
-/

------------------------------------------------------------
-- Callers
------------------------------------------------------------

namespace KisAuth

open Interaction Prog Store

/- The calls on a challenge, and what they return. -/
inductive ChallengeCall where
  | increment
  | markUsed
  | delete
  | get
  deriving DecidableEq

inductive ChallengeReply where
  | attempts (count : Option Nat)
  | done
  | found (record : Option ChallengeRecord)
  deriving DecidableEq

def challengeCall (id : String) :
    ChallengeCall → KisM ChallengeReply
| .increment => do
    let count ← ChallengeStore.incrementAttempts id
    return .attempts count
| .markUsed => do
    ChallengeStore.markChallengeUsed id
    return .done
| .delete => do
    ChallengeStore.deleteChallenge id
    return .done
| .get => do
    let record ← ChallengeStore.getChallenge id
    return .found record

/- The calls that write a record. -/
def ChallengeCall.Updates : ChallengeCall → Prop
| .increment => True
| .markUsed => True
| .delete => False
| .get => False

/- What an update makes of a record. -/
def ChallengeCall.update :
    ChallengeCall → ChallengeRecord → ChallengeRecord
| .increment, record =>
    { record with attemptCount := record.attemptCount + 1 }
| .markUsed, record => { record with used := true }
| _, record => record

/- What it returns for the record it wrote, if it did. -/
def ChallengeCall.reply :
    ChallengeCall → Option ChallengeRecord → ChallengeReply
| .increment, written =>
    .attempts (written.map ChallengeRecord.attemptCount)
| _, _ => .done

abbrev ChallengeEntry :=
  Entry Eff Eff.Res HttpError ChallengeCall ChallengeReply
    EnvOp

end KisAuth

------------------------------------------------------------
-- The Challenge
------------------------------------------------------------

namespace KisAuth

open Interaction Prog Store

/-
  A challenge that can be read. In its last half second its
  TTL is rounded down to nothing, and it is closing.
-/
structure LiveChallenge where
  record : ChallengeRecord
  closing : Bool
  deriving DecidableEq

def challengeOf
    (now : Nat) :
    Option (Item RedisValue) → Option LiveChallenge
| none => none
| some item =>
    match item.value with
    | .challenge record =>
        some
          ⟨record,
            decide (remainingTtl now (some item) ≤ 0)⟩
    | _ => none

def liveChallenge
    (id : String)
    (world : World) : Option LiveChallenge :=
  challengeOf world.clock
    (world.redis.find world.clock (challengeKey id))

/-
  What a call does to a challenge when nothing else happens
  during it. An update of a closing challenge may be refused,
  and one whose expiry Redis rejects fails.
-/
inductive Serves :
    Option LiveChallenge →
      ChallengeCall →
        Except HttpError ChallengeReply →
          Option LiveChallenge → Prop where
  | get (live : Option LiveChallenge) :
      Serves live .get
        (.ok (.found (live.map LiveChallenge.record))) live
  | delete (live : Option LiveChallenge) :
      Serves live .delete (.ok .done) none
  | missing
      (call : ChallengeCall)
      (hUpdates : call.Updates) :
      Serves none call (.ok (call.reply none)) none
  | refused
      (call : ChallengeCall)
      (hUpdates : call.Updates)
      (record : ChallengeRecord) :
      Serves (some ⟨record, true⟩) call
        (.ok (call.reply none)) (some ⟨record, true⟩)
  | updated
      (call : ChallengeCall)
      (hUpdates : call.Updates)
      (live : LiveChallenge) :
      Serves (some live) call
        (.ok (call.reply (some (call.update live.record))))
        (some ⟨call.update live.record, false⟩)
  | rejected
      (call : ChallengeCall)
      (hUpdates : call.Updates)
      (live : Option LiveChallenge) :
      Serves live call (.error .internal) live

/- What time does to a challenge. -/
inductive Fades :
    Option LiveChallenge → Option LiveChallenge → Prop where
  | stays (live : Option LiveChallenge) : Fades live live
  | closes (record : ChallengeRecord) :
      Fades (some ⟨record, false⟩) (some ⟨record, true⟩)
  | expires (live : Option LiveChallenge) : Fades live none

/- What happened to the challenge, newest first. -/
abbrev ChallengeTimeline :=
  List
    (Moment (Option LiveChallenge) Eff Eff.Res HttpError
      ChallengeCall ChallengeReply EnvOp)

/- Any calls on a challenge, from any world. -/
structure ChallengeRun
    (P : Platform)
    (cfg : KisAuthConfig)
    (id : String) where
  start : World
  timeline : ChallengeTimeline
  state :
    State Eff Eff.Res HttpError ChallengeCall ChallengeReply
      World EnvOp
  timed :
    Timed (worldSemantics P cfg) (challengeCall id)
      (liveChallenge id) start timeline state

/- A later state of the challenge, against an earlier one. -/
structure KeptSince
    (later earlier : Option LiveChallenge) : Prop where
  gone : earlier = none → later = none
  attempts :
    ∀ now before,
      later = some now →
        earlier = some before →
          before.record.attemptCount ≤ now.record.attemptCount
  used :
    ∀ now before,
      later = some now →
        earlier = some before →
          before.record.used = true → now.record.used = true

/- The attempt a call counted. -/
def attemptOf :
    Served HttpError ChallengeCall ChallengeReply → Option Nat
| ⟨_, _, .ok (.attempts count)⟩ => count
| _ => none

variable {P : Platform} {cfg : KisAuthConfig} {id : String}

/-
  The calls are linearizable, every counted increment is in
  the final count, no two return the same count, and a
  challenge that was used, deleted or expired stays so.
-/
structure ChallengeUpdates
    (run : ChallengeRun P cfg id) : Prop where
  linearizable :
    ∃ order,
      Linearizes run.state.history order ∧
        Explains Serves Fades (liveChallenge id run.start)
          order (liveChallenge id run.state.world) ∧
        ∀ first last,
          liveChallenge id run.start = some first →
            liveChallenge id run.state.world = some last →
              last.record.attemptCount =
                first.record.attemptCount +
                  (order.filterMap attemptOf).length
  distinct :
    ∀ thread thread' count,
      Entry.respond thread (.ok (.attempts (some count))) ∈
          run.state.history →
        Entry.respond thread' (.ok (.attempts (some count))) ∈
            run.state.history →
          thread = thread'
  kept :
    (liveChallenge id run.state.world ::
        run.timeline.map Moment.stamp).Pairwise KeptSince

end KisAuth

------------------------------------------------------------
-- One Call
------------------------------------------------------------

namespace KisAuth

open Interaction Prog

variable {id : String} {call : ChallengeCall}

/- The commands of a call. -/
inductive ChallengeAsks
    (id : String)
    (call : ChallengeCall) : Past → Eff → Prop where
  | get : ChallengeAsks id call [] (.redisGet (challengeKey id))
  | delete : ChallengeAsks id call [] (.redisDel (challengeKey id))
  | ttl
      (hUpdates : call.Updates)
      (record : ChallengeRecord) :
      ChallengeAsks id call
        [⟨.redisGet (challengeKey id),
          some (.challenge record)⟩]
        (.redisTtl (challengeKey id))
  | set
      (hUpdates : call.Updates)
      (record : ChallengeRecord)
      (ttl : Int)
      (hTtl : 0 < ttl) :
      ChallengeAsks id call
        [⟨.redisTtl (challengeKey id), ttl⟩,
          ⟨.redisGet (challengeKey id),
            some (.challenge record)⟩]
        (.redisSet (challengeKey id)
          (.challenge (call.update record)) ttl)

/- How a call ends, and the command it ends with. -/
inductive ChallengeEnds
    (id : String) :
    ChallengeCall →
      Past → Except HttpError ChallengeReply → Prop where
  | get (raw : Option RedisValue) :
      ChallengeEnds id .get [⟨.redisGet (challengeKey id), raw⟩]
        (.ok (.found (ChallengeStore.asChallenge raw)))
  | delete :
      ChallengeEnds id .delete [⟨.redisDel (challengeKey id), ()⟩]
        (.ok .done)
  | missing
      (call : ChallengeCall)
      (hUpdates : call.Updates)
      (raw : Option RedisValue)
      (hNone : ChallengeStore.asChallenge raw = none) :
      ChallengeEnds id call [⟨.redisGet (challengeKey id), raw⟩]
        (.ok (call.reply none))
  | refused
      (call : ChallengeCall)
      (hUpdates : call.Updates)
      (record : ChallengeRecord)
      (ttl : Int)
      (hTtl : ttl ≤ 0) :
      ChallengeEnds id call
        [⟨.redisTtl (challengeKey id), ttl⟩,
          ⟨.redisGet (challengeKey id),
            some (.challenge record)⟩]
        (.ok (call.reply none))
  | updated
      (call : ChallengeCall)
      (hUpdates : call.Updates)
      (record : ChallengeRecord)
      (ttl : Int)
      (hTtl : 0 < ttl) :
      ChallengeEnds id call
        [⟨.redisSet (challengeKey id)
            (.challenge (call.update record)) ttl, .ok ()⟩,
          ⟨.redisTtl (challengeKey id), ttl⟩,
          ⟨.redisGet (challengeKey id),
            some (.challenge record)⟩]
        (.ok (call.reply (some (call.update record))))
  | rejected
      (call : ChallengeCall)
      (hUpdates : call.Updates)
      (record : ChallengeRecord)
      (ttl : Int)
      (error : RedisError) :
      ChallengeEnds id call
        [⟨.redisSet (challengeKey id)
            (.challenge (call.update record)) ttl,
            .error error⟩,
          ⟨.redisTtl (challengeKey id), ttl⟩,
          ⟨.redisGet (challengeKey id),
            some (.challenge record)⟩]
        (.error .internal)

theorem asChallenge_eq_some
    {raw : Option RedisValue}
    {record : ChallengeRecord}
    (hRaw : ChallengeStore.asChallenge raw = some record) :
    raw = some (.challenge record) := by
  unfold ChallengeStore.asChallenge at hRaw
  split at hRaw
  · rw [Option.some.injEq] at hRaw
    rw [hRaw]
  · simp at hRaw

/- What both updates do: read, ask for the TTL, and write. -/
def updateChallenge
    (id : String)
    (call : ChallengeCall) : KisM ChallengeReply := do
  let raw ← Redis.get (challengeKey id)
  match ChallengeStore.asChallenge raw with
  | none => return call.reply none
  | some record =>
      let ttl ← Redis.ttl (challengeKey id)
      if ttl ≤ 0 then
        return call.reply none
      else
        Redis.set (challengeKey id)
          (.challenge (call.update record)) ttl
        return call.reply (some (call.update record))

theorem challengeCall_update
    (hUpdates : call.Updates) :
    challengeCall id call = updateChallenge id call := by
  cases call with
  | increment =>
      unfold challengeCall updateChallenge
        ChallengeStore.incrementAttempts Redis.get Redis.ttl
        Redis.set
      apply congrArg (Prog.call _)
      funext raw
      simp only [bind_ret]
      cases ChallengeStore.asChallenge raw with
      | none => rfl
      | some record =>
          apply congrArg (Prog.call _)
          funext ttl
          simp only [bind_ret]
          split
          · rfl
          · apply congrArg (Prog.call _)
            funext result
            cases result with
            | error error => rfl
            | ok done => rfl
  | markUsed =>
      unfold challengeCall updateChallenge
        ChallengeStore.markChallengeUsed Redis.get Redis.ttl
        Redis.set
      apply congrArg (Prog.call _)
      funext raw
      simp only [bind_ret]
      cases ChallengeStore.asChallenge raw with
      | none => rfl
      | some record =>
          apply congrArg (Prog.call _)
          funext ttl
          simp only [bind_ret]
          split
          · rfl
          · apply congrArg (Prog.call _)
            funext result
            cases result with
            | error error => rfl
            | ok done => rfl
  | delete => exact hUpdates.elim
  | get => exact hUpdates.elim

theorem updateChallenge_obeys
    (hUpdates : call.Updates) :
    Obeys (ChallengeAsks id call) (ChallengeEnds id call)
      (updateChallenge id call) [] := by
  unfold updateChallenge Redis.get Redis.ttl Redis.set
  refine ⟨.get, fun raw => ?_⟩
  simp only [bind_ret]
  cases hRaw : ChallengeStore.asChallenge raw with
  | none => exact .missing call hUpdates raw hRaw
  | some record =>
      rw [asChallenge_eq_some hRaw]
      refine ⟨.ttl hUpdates record, fun ttl => ?_⟩
      simp only [bind_ret]
      by_cases hTtl : ttl ≤ (0 : Int)
      · rw [if_pos hTtl]
        exact .refused call hUpdates record ttl hTtl
      · rw [if_neg hTtl]
        have hPositive : 0 < ttl := not_le.mp hTtl
        refine
          ⟨.set hUpdates record ttl hPositive,
            fun result => ?_⟩
        cases result with
        | error error =>
            exact .rejected call hUpdates record ttl error
        | ok done =>
            exact
              .updated call hUpdates record ttl hPositive

theorem challengeCall_obeys
    (id : String)
    (call : ChallengeCall) :
    Obeys (ChallengeAsks id call) (ChallengeEnds id call)
      (challengeCall id call) [] := by
  cases call with
  | get => exact ⟨.get, fun raw => .get raw⟩
  | delete => exact ⟨.delete, fun _ => .delete⟩
  | increment =>
      have hUpdates : ChallengeCall.increment.Updates := trivial
      rw [challengeCall_update hUpdates]
      exact updateChallenge_obeys hUpdates
  | markUsed =>
      have hUpdates : ChallengeCall.markUsed.Updates := trivial
      rw [challengeCall_update hUpdates]
      exact updateChallenge_obeys hUpdates

end KisAuth

------------------------------------------------------------
-- One Command
------------------------------------------------------------

namespace KisAuth

open Interaction Prog Store

variable {P : Platform} {cfg : KisAuthConfig}
variable {id : String} {call : ChallengeCall}
variable {world world' : World}

/- What a GET finds is the live challenge. -/
theorem liveChallenge_record :
    (liveChallenge id world).map LiveChallenge.record =
      ChallengeStore.asChallenge
        (world.redis.read world.clock (challengeKey id)) := by
  unfold liveChallenge Expiring.read
  cases world.redis.find world.clock (challengeKey id) with
  | none => rfl
  | some item =>
      unfold challengeOf
      simp only [Option.map_some]
      cases item.value with
      | challenge record => rfl
      | _ => rfl

theorem liveChallenge_eq_none
    (hNone :
      ChallengeStore.asChallenge
          (world.redis.read world.clock (challengeKey id)) =
        none) :
    liveChallenge id world = none := by
  rw [← liveChallenge_record, Option.map_eq_none_iff] at hNone
  exact hNone

/- Where the TTL is over, the challenge is closing or gone. -/
theorem liveChallenge_of_ttl
    (hTtl :
      remainingTtl world.clock
          (world.redis.find world.clock (challengeKey id)) ≤
        0) :
    liveChallenge id world = none ∨
      ∃ record, liveChallenge id world = some ⟨record, true⟩ := by
  unfold liveChallenge
  cases hFind :
      world.redis.find world.clock (challengeKey id) with
  | none => exact Or.inl rfl
  | some item =>
      rw [hFind] at hTtl
      unfold challengeOf
      simp only [hTtl, decide_true]
      cases item.value with
      | challenge record => exact Or.inr ⟨record, rfl⟩
      | _ => exact Or.inl rfl

/- A challenge that was just written is not closing. -/
theorem liveChallenge_put
    {record : ChallengeRecord}
    {deadline : Nat}
    (hDeadline : world.clock + 1000 ≤ deadline) :
    liveChallenge id
        (world.withRedis
          (world.redis.put (challengeKey id)
            ⟨.challenge record, some deadline⟩)) =
      some ⟨record, false⟩ := by
  have hLive : world.clock < deadline := by omega
  have hTtl : 0 < (deadline - world.clock + 500) / 1000 := by
    omega
  have hFind :
      (world.redis.put (challengeKey id)
            ⟨.challenge record, some deadline⟩).find
          world.clock (challengeKey id) =
        some ⟨.challenge record, some deadline⟩ := by
    simp [Expiring.find, Expiring.put, Item.live, hLive]
  unfold liveChallenge
  simp only [World.withRedis, hFind, challengeOf, remainingTtl]
  have hOpen :
      ¬((((deadline - world.clock + 500) / 1000 : Nat) : Int) ≤
        0) := by
    omega
  simp only [hOpen, decide_false]

theorem liveChallenge_remove :
    liveChallenge id
        (world.withRedis
          (world.redis.remove (challengeKey id))) =
      none := by
  simp [liveChallenge, World.withRedis, Expiring.find,
    Expiring.remove, challengeOf]

/- An expiry that Redis accepts is a second away or more. -/
theorem le_of_validExpire
    {now deadline : Nat}
    {ttl : Int}
    (hTtl : 0 < ttl)
    (hValid : validExpire now (ttl : ℚ) = some deadline) :
    now + 1000 ≤ deadline := by
  have hSpec := validExpire_spec hValid
  have hInt : (deadline : Int) = now + ttl * 1000 := by
    exact_mod_cast hSpec
  omega

/- Later there is less time left, or none. -/
theorem remainingTtl_le
    {now later : Nat}
    {item : Item RedisValue}
    (hLe : now ≤ later) :
    remainingTtl later (some item) ≤
      remainingTtl now (some item) := by
  rcases item with ⟨value, deadline⟩
  cases deadline with
  | none => exact le_refl _
  | some deadline =>
      dsimp only [remainingTtl]
      omega

/- A key that is found later was found before. -/
theorem find_of_later
    {redis : Expiring String RedisValue}
    {now later : Nat}
    {key : String}
    {item : Item RedisValue}
    (hLe : now ≤ later)
    (hFind : redis.find later key = some item) :
    redis.find now key = some item := by
  rcases Expiring.eq_some_of_find hFind with ⟨hItem, hLive⟩
  unfold Expiring.find
  rw [hItem]
  simp [Item.live_of_le hLe hLive]

/- Time passes, and the challenge fades. -/
theorem fades_of_later
    (hRedis : world'.redis = world.redis)
    (hLe : world.clock ≤ world'.clock) :
    Fades (liveChallenge id world) (liveChallenge id world') := by
  unfold liveChallenge
  rw [hRedis]
  cases hFind :
      world.redis.find world'.clock (challengeKey id) with
  | none => exact .expires _
  | some item =>
      rw [find_of_later hLe hFind]
      have hTtl :
          remainingTtl world'.clock (some item) ≤
            remainingTtl world.clock (some item) :=
        remainingTtl_le hLe
      unfold challengeOf
      dsimp only
      cases item.value with
      | challenge record =>
          by_cases hClosing :
              remainingTtl world.clock (some item) ≤ 0
          · have hStill :
                remainingTtl world'.clock (some item) ≤ 0 :=
              le_trans hTtl hClosing
            simp only [hClosing, hStill, decide_true]
            exact .stays _
          · by_cases hCloses :
                remainingTtl world'.clock (some item) ≤ 0
            · simp only [hClosing, hCloses, decide_true,
                decide_false]
              exact .closes record
            · simp only [hClosing, hCloses, decide_false]
              exact .stays _
      | _ => exact .stays _

theorem fades_of_env
    {op : EnvOp}
    (hEnv : world.env op = some world') :
    Fades (liveChallenge id world) (liveChallenge id world') := by
  cases op with
  | tick milliseconds =>
      rw [World.env, Option.some.injEq] at hEnv
      subst hEnv
      exact fades_of_later rfl (Nat.le_add_right _ _)
  | setIdentityStatus rowId status =>
      rw [World.env, Option.some.injEq] at hEnv
      subst hEnv
      exact .stays _
  | setClient clientId client =>
      rw [World.env, Option.some.injEq] at hEnv
      subst hEnv
      exact .stays _

end KisAuth

------------------------------------------------------------
-- Writes That Overwrite Nothing
------------------------------------------------------------

namespace KisAuth

open Interaction Prog Store

variable {P : Platform} {cfg : KisAuthConfig}
variable {id : String} {call : ChallengeCall}
variable {world world' : World}

/- The record an answer read. -/
def recordRead :
    Answer Eff Eff.Res → Option ChallengeRecord
| ⟨.redisGet _, raw⟩ => ChallengeStore.asChallenge raw
| _ => none

/-
  What a write needs: the challenge is still there, and the
  call makes the same of it as of the record it read. For an
  increment it is that record; for a mark it may have been
  marked since.
-/
def SameUpdate
    (call : Option ChallengeCall)
    (read : Option ChallengeRecord)
    (live : Option LiveChallenge) : Prop :=
  match call, read, live with
  | some call, some record, some live =>
      call.update live.record = call.update record
  | _, _, _ => False

instance SameUpdate.decidable
    (call : Option ChallengeCall)
    (read : Option ChallengeRecord)
    (live : Option LiveChallenge) :
    Decidable (SameUpdate call read live) := by
  unfold SameUpdate
  split
  · infer_instance
  · infer_instance

/- Every write is of the challenge its call read. -/
def OverwritesNothing
    (moment :
      Moment (Option LiveChallenge) Eff Eff.Res HttpError
        ChallengeCall ChallengeReply EnvOp)
    (earlier : ChallengeTimeline) : Prop :=
  match moment.entry with
  | .answer thread ⟨.redisSet _ _ _, .ok _⟩ =>
      SameUpdate (requestOf thread (entriesOf earlier))
        ((answersOf thread (entriesOf earlier)).findSome?
          recordRead)
        moment.stamp
  | _ => True

instance OverwritesNothing.decidable
    (moment :
      Moment (Option LiveChallenge) Eff Eff.Res HttpError
        ChallengeCall ChallengeReply EnvOp)
    (earlier : ChallengeTimeline) :
    Decidable (OverwritesNothing moment earlier) := by
  unfold OverwritesNothing
  split
  · infer_instance
  · infer_instance

/- A write is stored with its expiry, or refused. -/
theorem exec_redisSet
    {key : String}
    {written : RedisValue}
    {ttl : ℚ}
    {ext : External}
    {result : Except RedisError Unit}
    (hExec :
      World.exec P cfg world (.redisSet key written ttl) ext =
        some (result, world')) :
    (∃ deadline,
        validExpire world.clock ttl = some deadline ∧
          result = .ok () ∧
          world' =
            world.withRedis
              (world.redis.put key
                ⟨written, some deadline⟩)) ∨
      ((∃ error, result = .error error) ∧ world' = world) := by
  rw [World.exec, World.backend, World.execRedis] at hExec
  cases hValid : validExpire world.clock ttl with
  | none =>
      rw [hValid, Option.some.injEq, Prod.mk.injEq] at hExec
      exact Or.inr ⟨⟨_, hExec.1.symm⟩, hExec.2.symm⟩
  | some deadline =>
      rw [hValid, Option.some.injEq, Prod.mk.injEq] at hExec
      exact
        Or.inl
          ⟨deadline, rfl, hExec.1.symm, hExec.2.symm⟩

/- A call serves the challenge with its last command. -/
theorem serves_of_ends
    {thread : Nat}
    {effect : Eff}
    {value : effect.Res}
    {ext : External}
    {earlier : ChallengeTimeline}
    {outcome : Except HttpError ChallengeReply}
    (hRequest :
      requestOf thread (entriesOf earlier) = some call)
    (hEnds :
      ChallengeEnds id call
        (⟨effect, value⟩ ::
          answersOf thread (entriesOf earlier))
        outcome)
    (hExec :
      World.exec P cfg world effect ext =
        some (value, world'))
    (hWrite :
      OverwritesNothing
        ⟨liveChallenge id world,
          .answer thread ⟨effect, value⟩⟩
        earlier) :
    Serves (liveChallenge id world) call outcome
      (liveChallenge id world') := by
  generalize hPast :
    answersOf thread (entriesOf earlier) = past at hEnds
  unfold OverwritesNothing at hWrite
  cases hEnds with
  | get =>
      rw [World.exec, World.backend, World.execRedis,
        Option.some.injEq, Prod.mk.injEq] at hExec
      rcases hExec with ⟨hRaw, rfl⟩
      rw [← hRaw, ← liveChallenge_record]
      exact .get _
  | delete =>
      rw [World.exec, World.backend, World.execRedis,
        Option.some.injEq, Prod.mk.injEq] at hExec
      rw [← hExec.2, liveChallenge_remove]
      exact .delete _
  | missing call hUpdates raw hNone =>
      rw [World.exec, World.backend, World.execRedis,
        Option.some.injEq, Prod.mk.injEq] at hExec
      rcases hExec with ⟨hRaw, rfl⟩
      rw [← hRaw] at hNone
      rw [liveChallenge_eq_none hNone]
      exact .missing call hUpdates
  | refused call hUpdates record ttl hTtl =>
      rw [World.exec, World.backend, World.execRedis,
        Option.some.injEq, Prod.mk.injEq] at hExec
      rcases hExec with ⟨hAnswer, rfl⟩
      rw [← hAnswer] at hTtl
      rcases liveChallenge_of_ttl hTtl with
        hNone | ⟨live, hLive⟩
      · rw [hNone]
        exact .missing call hUpdates
      · rw [hLive]
        exact .refused call hUpdates live
  | updated call hUpdates record ttl hTtl =>
      simp only [hRequest, hPast, List.findSome?_cons,
        recordRead, ChallengeStore.asChallenge] at hWrite
      cases hLive : liveChallenge id world with
      | none =>
          rw [hLive] at hWrite
          exact hWrite.elim
      | some live =>
          rw [hLive] at hWrite
          have hSame :
              call.update live.record = call.update record :=
            hWrite
          rcases exec_redisSet hExec with
            ⟨deadline, hValid, _, rfl⟩ | ⟨⟨_, hError⟩, _⟩
          · rw [liveChallenge_put
              (le_of_validExpire hTtl hValid), ← hSame]
            exact .updated call hUpdates live
          · simp at hError
  | rejected call hUpdates record ttl error =>
      rcases exec_redisSet hExec with
        ⟨deadline, _, hOk, _⟩ | ⟨_, rfl⟩
      · simp at hOk
      · exact .rejected call hUpdates _

end KisAuth

------------------------------------------------------------
-- Runs
------------------------------------------------------------

namespace KisAuth

open Interaction Prog Store

variable {P : Platform} {cfg : KisAuthConfig}
variable {id : String} {call : ChallengeCall}
variable {world world' : World}

/- Every call begins with a command. -/
theorem challengeCall_calls
    (outcome : Except HttpError ChallengeReply) :
    challengeCall id call ≠ Prog.ofOutcome outcome := by
  intro hSame
  have hReaches :
      (challengeCall id call).Reaches []
        (Prog.ofOutcome outcome) := by
    rw [← hSame]
    exact .start
  cases (challengeCall_obeys id call).final_of_reaches hReaches

/- A command that another follows leaves the challenge. -/
theorem still_of_asks
    {past : Past}
    {effect next : Eff}
    {value : effect.Res}
    {ext : External}
    (hNext : ChallengeAsks id call (⟨effect, value⟩ :: past) next)
    (hExec :
      World.exec P cfg world effect ext =
        some (value, world')) :
    world' = world := by
  cases hNext with
  | ttl hUpdates record =>
      rw [World.exec, World.backend, World.execRedis,
        Option.some.injEq, Prod.mk.injEq] at hExec
      exact hExec.2.symm
  | set hUpdates record ttl hTtl =>
      rw [World.exec, World.backend, World.execRedis,
        Option.some.injEq, Prod.mk.injEq] at hExec
      exact hExec.2.symm

/- An answer serves its call, or leaves the challenge. -/
theorem step_of_answer
    {thread : Nat}
    {effect : Eff}
    {rest : effect.Res → KisM ChallengeReply}
    {value : effect.Res}
    {ext : External}
    {earlier : ChallengeTimeline}
    (hRequest :
      requestOf thread (entriesOf earlier) = some call)
    (hReaches :
      (challengeCall id call).Reaches
        (answersOf thread (entriesOf earlier))
        (.call effect rest))
    (hExec :
      World.exec P cfg world effect ext =
        some (value, world'))
    (hWrite :
      OverwritesNothing
        ⟨liveChallenge id world,
          .answer thread ⟨effect, value⟩⟩
        earlier) :
    (∃ outcome,
        rest value = Prog.ofOutcome outcome ∧
          Serves (liveChallenge id world) call outcome
            (liveChallenge id world')) ∨
      ((∀ outcome, rest value ≠ Prog.ofOutcome outcome) ∧
        world' = world) := by
  have hAnswered := hReaches.answer value
  have hObeys := challengeCall_obeys id call
  rcases ends_or_calls (rest value) with
    ⟨outcome, hEnds⟩ | ⟨next, rest', hNext⟩
  · rw [hEnds] at hAnswered
    have hEnd := hObeys.final_of_reaches hAnswered
    exact
      Or.inl
        ⟨outcome, hEnds,
          serves_of_ends hRequest hEnd hExec hWrite⟩
  · rw [hNext] at hAnswered
    have hAsks := hObeys.guard_of_reaches hAnswered
    refine Or.inr ⟨?_, still_of_asks hAsks hExec⟩
    intro outcome hEnds
    exact ofOutcome_ne_call (hEnds.symm.trans hNext)

/- Where no write overwrites anything, the calls linearize. -/
theorem ChallengeRun.linearized
    (run : ChallengeRun P cfg id)
    (hWrites : Always OverwritesNothing run.timeline) :
    ∃ order,
      TookEffect run.state order ∧
        Explains Serves Fades (liveChallenge id run.start)
          order (liveChallenge id run.state.world) := by
  refine
    run.timed.linearized OverwritesNothing
      (fun _ => challengeCall_calls) ?_ ?_ hWrites
  · intro world timeline thread request effect rest ext value
      world' hRequest hReaches hExec hWrite
    rcases step_of_answer hRequest hReaches hExec hWrite with
      ⟨outcome, hEnds, hServes⟩ | ⟨hGoesOn, hSame⟩
    · constructor
      · intro other hOther
        rw [ofOutcome_inj (hOther.symm.trans hEnds)]
        exact hServes
      · exact fun hGoesOn => absurd hEnds (hGoesOn outcome)
    · constructor
      · exact fun other hOther =>
          absurd hOther (hGoesOn other)
      · intro _
        rw [hSame]
        exact .stays _
  · exact fun world op world' hEnv => fades_of_env hEnv

end KisAuth

------------------------------------------------------------
-- What Sequential Calls Keep
------------------------------------------------------------

namespace KisAuth

open Interaction

variable {P : Platform} {cfg : KisAuthConfig}
variable {id : String} {call : ChallengeCall}
variable {live live' : Option LiveChallenge}

theorem keptSince_refl (live : Option LiveChallenge) :
    KeptSince live live where
  gone := fun hNone => hNone
  attempts := by
    intro now before hNow hBefore
    rw [hNow, Option.some.injEq] at hBefore
    rw [hBefore]
  used := by
    intro now before hNow hBefore hUsed
    rw [hNow, Option.some.injEq] at hBefore
    rw [hBefore]
    exact hUsed

theorem keptSince_none : KeptSince none live where
  gone := fun _ => rfl
  attempts := by
    intro now before hNow
    simp at hNow
  used := by
    intro now before hNow
    simp at hNow

theorem keptSince_some
    {now before : LiveChallenge}
    (hAttempts :
      before.record.attemptCount ≤ now.record.attemptCount)
    (hUsed :
      before.record.used = true → now.record.used = true) :
    KeptSince (some now) (some before) where
  gone := by simp
  attempts := by
    rintro _ _ ⟨⟩ ⟨⟩
    exact hAttempts
  used := by
    rintro _ _ ⟨⟩ ⟨⟩
    exact hUsed

theorem KeptSince.trans
    {later middle earlier : Option LiveChallenge}
    (hLater : KeptSince later middle)
    (hMiddle : KeptSince middle earlier) :
    KeptSince later earlier := by
  cases later with
  | none => exact keptSince_none
  | some now =>
      cases middle with
      | none => simpa using hLater.gone rfl
      | some between =>
          cases earlier with
          | none => simpa using hMiddle.gone rfl
          | some before =>
              apply keptSince_some
              · exact
                  (hMiddle.attempts _ _ rfl rfl).trans
                    (hLater.attempts _ _ rfl rfl)
              · intro hUsed
                exact
                  hLater.used _ _ rfl rfl
                    (hMiddle.used _ _ rfl rfl hUsed)

/- An update counts up, and unmarks nothing. -/
theorem update_keeps
    (call : ChallengeCall)
    (record : ChallengeRecord) :
    record.attemptCount ≤ (call.update record).attemptCount ∧
      (record.used = true →
        (call.update record).used = true) := by
  cases call with
  | increment => exact ⟨Nat.le_succ _, fun hUsed => hUsed⟩
  | markUsed => exact ⟨le_refl _, fun _ => rfl⟩
  | delete => exact ⟨le_refl _, fun hUsed => hUsed⟩
  | get => exact ⟨le_refl _, fun hUsed => hUsed⟩

theorem Serves.kept
    {outcome : Except HttpError ChallengeReply}
    (hServes : Serves live call outcome live') :
    KeptSince live' live := by
  cases hServes with
  | get => exact keptSince_refl _
  | delete => exact keptSince_none
  | missing => exact keptSince_refl _
  | refused => exact keptSince_refl _
  | updated call hUpdates live =>
      have hKeeps := update_keeps call live.record
      exact keptSince_some hKeeps.1 hKeeps.2
  | rejected => exact keptSince_refl _

theorem Fades.kept
    (hFades : Fades live live') :
    KeptSince live' live := by
  cases hFades with
  | stays => exact keptSince_refl _
  | closes record =>
      exact keptSince_some (le_refl _) (fun hUsed => hUsed)
  | expires => exact keptSince_none

/-
  The attempts of an order were counted one after another,
  and are all in the record.
-/
structure AttemptsCounted
    (start : Option LiveChallenge)
    (order :
      List (Served HttpError ChallengeCall ChallengeReply))
    (live : Option LiveChallenge) : Prop where
  rising :
    (order.filterMap attemptOf).Pairwise
      (fun newer older => older < newer)
  within :
    ∀ now,
      live = some now →
        ∀ count ∈ order.filterMap attemptOf,
          count ≤ now.record.attemptCount
  total :
    ∀ first now,
      start = some first →
        live = some now →
          now.record.attemptCount =
            first.record.attemptCount +
              (order.filterMap attemptOf).length

variable {start : Option LiveChallenge}
variable
  {order :
    List (Served HttpError ChallengeCall ChallengeReply)}

theorem attemptsCounted_nil :
    AttemptsCounted start [] start where
  rising := List.Pairwise.nil
  within := by simp
  total := by
    intro first now hFirst hNow
    rw [hFirst, Option.some.injEq] at hNow
    simp [hNow]

/- A call that counts nothing, of a record with the count. -/
theorem AttemptsCounted.silent
    {served :
      Served HttpError ChallengeCall ChallengeReply}
    (hCounted : AttemptsCounted start order live)
    (hNone : attemptOf served = none)
    (hSame :
      ∀ now,
        live' = some now →
          ∃ before,
            live = some before ∧
              before.record.attemptCount =
                now.record.attemptCount) :
    AttemptsCounted start (served :: order) live' := by
  have hOrder :
      (served :: order).filterMap attemptOf =
        order.filterMap attemptOf := by
    rw [List.filterMap_cons, hNone]
  constructor
  case rising =>
    rw [hOrder]
    exact hCounted.rising
  case within =>
    intro now hNow
    rcases hSame now hNow with ⟨before, hBefore, hAttempts⟩
    rw [hOrder, ← hAttempts]
    exact hCounted.within before hBefore
  case total =>
    intro first now hFirst hNow
    rcases hSame now hNow with ⟨before, hBefore, hAttempts⟩
    rw [hOrder, ← hAttempts]
    exact hCounted.total first before hFirst hBefore

/- An increment counts the next attempt. -/
theorem AttemptsCounted.count
    {served :
      Served HttpError ChallengeCall ChallengeReply}
    {now : LiveChallenge}
    {closing : Bool}
    (hCounted : AttemptsCounted start order (some now))
    (hSome :
      attemptOf served = some (now.record.attemptCount + 1)) :
    AttemptsCounted start (served :: order)
      (some
        ⟨ChallengeCall.increment.update now.record,
          closing⟩) := by
  have hOrder :
      (served :: order).filterMap attemptOf =
        (now.record.attemptCount + 1) ::
          order.filterMap attemptOf := by
    rw [List.filterMap_cons, hSome]
  have hWithin := hCounted.within now rfl
  constructor
  case rising =>
    rw [hOrder]
    refine List.Pairwise.cons ?_ hCounted.rising
    intro count hMem
    have hLe := hWithin count hMem
    omega
  case within =>
    rintro _ ⟨⟩ count hMem
    rw [hOrder, List.mem_cons] at hMem
    rcases hMem with rfl | hOlder
    · exact le_refl _
    · have hLe := hWithin count hOlder
      exact hLe.trans (Nat.le_succ _)
  case total =>
    rintro first _ hFirst ⟨⟩
    have hTotal := hCounted.total first now hFirst rfl
    rw [hOrder, List.length_cons]
    change now.record.attemptCount + 1 = _
    omega

theorem AttemptsCounted.serve
    {thread : Nat}
    {outcome : Except HttpError ChallengeReply}
    (hCounted : AttemptsCounted start order live)
    (hServes : Serves live call outcome live') :
    AttemptsCounted start (⟨thread, call, outcome⟩ :: order)
      live' := by
  cases hServes with
  | get =>
      exact
        hCounted.silent rfl
          (fun now hNow => ⟨now, hNow, rfl⟩)
  | delete => exact hCounted.silent rfl (by simp)
  | missing call hUpdates =>
      cases call with
      | increment => exact hCounted.silent rfl (by simp)
      | _ => exact hCounted.silent rfl (by simp)
  | refused call hUpdates record =>
      cases call with
      | increment =>
          exact
            hCounted.silent rfl
              (fun now hNow => ⟨now, hNow, rfl⟩)
      | _ =>
          exact
            hCounted.silent rfl
              (fun now hNow => ⟨now, hNow, rfl⟩)
  | updated call hUpdates before =>
      cases call with
      | increment => exact hCounted.count rfl
      | markUsed =>
          apply hCounted.silent rfl
          rintro _ ⟨⟩
          exact ⟨before, rfl, rfl⟩
      | delete => exact hUpdates.elim
      | get => exact hUpdates.elim
  | rejected call hUpdates =>
      exact
        hCounted.silent rfl
          (fun now hNow => ⟨now, hNow, rfl⟩)

theorem AttemptsCounted.fade
    (hCounted : AttemptsCounted start order live)
    (hFades : Fades live live') :
    AttemptsCounted start order live' := by
  cases hFades with
  | stays => exact hCounted
  | closes record =>
      constructor
      case rising => exact hCounted.rising
      case within =>
        rintro _ ⟨⟩
        exact hCounted.within ⟨record, false⟩ rfl
      case total =>
        rintro first _ hFirst ⟨⟩
        exact
          hCounted.total first ⟨record, false⟩ hFirst rfl
  | expires =>
      constructor
      case rising => exact hCounted.rising
      case within => simp
      case total => simp

theorem attemptsCounted_of_explains
    (hOrder : Explains Serves Fades start order live) :
    AttemptsCounted start order live := by
  apply hOrder.invariant (AttemptsCounted start)
  · exact attemptsCounted_nil
  · intro order live served live' hServes hCounted
    exact hCounted.serve hServes
  · intro order live live' hFades hCounted
    exact hCounted.fade hFades

/- Two calls that counted the same attempt are one. -/
def SameAttempt
    (served served' :
      Served HttpError ChallengeCall ChallengeReply) : Prop :=
  ∀ count,
    attemptOf served = some count →
      attemptOf served' = some count → served = served'

instance SameAttempt.symm : Std.Symm SameAttempt where
  symm := fun _ _ hSame count hLeft hRight =>
    (hSame count hRight hLeft).symm

theorem AttemptsCounted.unique
    (hCounted : AttemptsCounted start order live) :
    ∀ served ∈ order,
      ∀ served' ∈ order, SameAttempt served served' := by
  have hRising := hCounted.rising
  rw [List.pairwise_filterMap] at hRising
  have hPairs : order.Pairwise SameAttempt := by
    apply hRising.imp
    intro newer older hLess count hNewer hOlder
    have hLt := hLess count hNewer count hOlder
    omega
  intro served hMem served' hMem'
  exact
    hPairs.forall_of_forall (fun _ _ _ _ _ => rfl) hMem hMem'

end KisAuth

------------------------------------------------------------
-- Linearizable Updates
------------------------------------------------------------

namespace KisAuth

open Interaction

variable {P : Platform} {cfg : KisAuthConfig} {id : String}

/-
  In every run in which each write is of the challenge its
  call read, the calls are linearizable: every result and the
  record are those of one sequential order, no increment is
  lost or counted twice, and a challenge that was used,
  deleted or expired stays so.
-/
theorem challenge_updates_linearizable
    (run : ChallengeRun P cfg id)
    (hWrites : Always OverwritesNothing run.timeline) :
    ChallengeUpdates run := by
  rcases run.linearized hWrites with ⟨order, hTook, hOrder⟩
  have hCounted := attemptsCounted_of_explains hOrder
  have hLinearizes := hTook.linearizes
  constructor
  case linearizable =>
    exact ⟨order, hLinearizes, hOrder, hCounted.total⟩
  case distinct =>
    intro thread thread' count hEnd hEnd'
    rcases hLinearizes.ended thread _ hEnd with
      ⟨served, hMem, hThread, hOutcome⟩
    rcases hLinearizes.ended thread' _ hEnd' with
      ⟨served', hMem', hThread', hOutcome'⟩
    have hAttempt : attemptOf served = some count := by
      rcases served with ⟨_, request, outcome⟩
      cases hOutcome
      rfl
    have hAttempt' : attemptOf served' = some count := by
      rcases served' with ⟨_, request, outcome⟩
      cases hOutcome'
      rfl
    have hSame : served = served' :=
      hCounted.unique served hMem served' hMem' count hAttempt
        hAttempt'
    rw [← hThread, ← hThread', hSame]
  case kept =>
    refine
      run.timed.pairwise_stamps KeptSince OverwritesNothing
        keptSince_refl (fun _ _ _ => KeptSince.trans) ?_ ?_
        hWrites
    · intro world timeline thread request effect rest ext
        value world' hRequest hReaches hExec hWrite
      rcases
          step_of_answer hRequest hReaches hExec hWrite with
        ⟨outcome, _, hServes⟩ | ⟨_, hSame⟩
      · exact hServes.kept
      · rw [hSame]
        exact keptSince_refl _
    · intro world op world' hEnv
      exact (fades_of_env hEnv).kept

/- A challenge for half a minute that nobody has tried. -/
def untriedChallenge : World :=
  { World.empty (fun _ => none) with
    redis := fun key =>
      if key = challengeKey "c1" then
        some
          ⟨.challenge
            { purpose := "recovery"
              clientId := "kis-web"
              kisUserId := some "u1"
              authIdentityId := some "i1"
              attemptCount := 0
              maxAttempts := 5
              used := false },
            some 30000⟩
      else
        none }

abbrev ChallengeActions :=
  List (Action ChallengeCall External EnvOp)

/- Two calls, with their commands in turn. -/
def overlapped (call : ChallengeCall) : ChallengeActions :=
  [.arrive call, .arrive call, .run 0 .none, .run 1 .none,
    .run 0 .none, .run 1 .none, .run 0 .none, .run 1 .none,
    .run 0 .none, .run 1 .none]

def challengeRun (actions : ChallengeActions) :=
  runTimed (worldSemantics flowPlatform testConfig)
    (challengeCall "c1") (liveChallenge "c1") []
    (.init untriedChallenge) actions

/- The threads that counted an attempt, and which one. -/
def countedBy : ChallengeEntry → Option (Nat × Nat)
| .respond thread (.ok (.attempts (some count))) =>
    some (thread, count)
| _ => none

theorem respond_of_countedBy
    {history : List ChallengeEntry}
    {thread count : Nat}
    (hMem : (thread, count) ∈ history.filterMap countedBy) :
    Entry.respond thread (.ok (.attempts (some count))) ∈
      history := by
  rcases List.mem_filterMap.mp hMem with
    ⟨entry, hEntry, hCounted⟩
  unfold countedBy at hCounted
  split at hCounted
  · rw [Option.some.injEq, Prod.mk.injEq] at hCounted
    rcases hCounted with ⟨rfl, rfl⟩
    exact hEntry
  · simp at hCounted

/- Two increments both count the first attempt. -/
theorem increment_lost :
    ∃ run : ChallengeRun flowPlatform testConfig "c1",
      ¬ChallengeUpdates run := by
  have hCounts :
      (challengeRun (overlapped .increment)).map
          (fun result =>
            result.2.history.filterMap countedBy) =
        some [(1, 1), (0, 1)] := by
    decide +kernel
  rcases Option.map_eq_some_iff.mp hCounts with
    ⟨⟨timeline, state⟩, hRun, hBoth⟩
  refine ⟨⟨_, timeline, state, Timed.of_run hRun⟩, ?_⟩
  intro hUpdates
  have hFirst :
      Entry.respond 0 (.ok (.attempts (some 1))) ∈
        state.history := by
    apply respond_of_countedBy
    rw [hBoth]
    simp
  have hSecond :
      Entry.respond 1 (.ok (.attempts (some 1))) ∈
        state.history := by
    apply respond_of_countedBy
    rw [hBoth]
    simp
  have hSame := hUpdates.distinct 0 1 1 hFirst hSecond
  simp at hSame

/- Two marks overlap without harm, and an increment counts. -/
theorem marks_overlap :
    ∃ run : ChallengeRun flowPlatform testConfig "c1",
      run.state.history.filterMap countedBy = [(2, 1)] ∧
        ChallengeUpdates run := by
  have hWrites :
      (challengeRun
          (overlapped .markUsed ++
            [.arrive .increment, .run 2 .none, .run 2 .none,
              .run 2 .none, .run 2 .none])).map
          (fun result =>
            (result.2.history.filterMap countedBy,
              decide (Always OverwritesNothing result.1))) =
        some ([(2, 1)], true) := by
    decide +kernel
  rcases Option.map_eq_some_iff.mp hWrites with
    ⟨⟨timeline, state⟩, hRun, hBoth⟩
  simp only [Prod.mk.injEq, decide_eq_true_eq] at hBoth
  let run : ChallengeRun flowPlatform testConfig "c1" :=
    ⟨_, timeline, state, Timed.of_run hRun⟩
  exact
    ⟨run, hBoth.1, challenge_updates_linearizable run hBoth.2⟩

end KisAuth
