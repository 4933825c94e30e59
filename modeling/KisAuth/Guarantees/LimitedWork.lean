import KisAuth.Guarantees.RateWindows
import KisAuth.Guarantees.StoreContents
import KisAuth.Service.Refusals
import KisAuth.Service.ServiceTimeline

/-
  How much work the rate limits let through.

  The routes share one Redis, and the counter of a limit is
  touched by nothing but its own hits. So in any run, the
  requests of one address or client that get past a limit
  are at most twice as many as the limit in any interval of
  a window, and a request is refused with 429 only after as
  many others as the limit within the window before it.

  Key definitions include:
    * `checksOn`, `CounterKept`
    * `Works`, `WorksIn`, `CrowdedOut`
    * `WorkLimited`

  Key theorems include:
    * `counter_kept`
    * `work_limited`
-/

------------------------------------------------------------
-- Checks Of A Key
------------------------------------------------------------

namespace KisAuth

open Interaction Store

/- The check that a moment makes on a key. -/
def checkOn
    (key : String)
    (moment : ServiceMoment) : Option Check :=
  match moment.entry with
  | .answer thread ⟨.redisIncr other _, hits⟩ =>
      if other = key then some ⟨moment.stamp, thread, hits⟩
      else none
  | _ => none

/- The checks on a key, newest first. -/
def checksOn (key : String) (timeline : Timeline) : List Check :=
  timeline.filterMap (checkOn key)

/- Where the hits of a limit are counted. -/
def limitKey (limit : RateLimitPolicy × String) : String :=
  rateLimitKey limit.1.scope limit.2

/- The length of its windows, in milliseconds. -/
def limitLength (limit : RateLimitPolicy × String) : Nat :=
  limit.1.windowSeconds * 1000

/- A limit of one of the routes, for any identifier. -/
def IsLimit (limit : RateLimitPolicy × String) : Prop :=
  limit.1 ∈ redemptionPolicies ++ browserPolicies

/- A moment that touches the key counts a hit on it. -/
def CountsOnly
    (key : String)
    (windowSeconds : Nat)
    (moment : ServiceMoment) : Prop :=
  touch moment.entry key ≠ none →
    ∃ thread hits,
      moment.entry =
        .answer thread ⟨.redisIncr key windowSeconds, hits⟩

variable {key : String} {timeline earlier : Timeline}
variable {moment : ServiceMoment}

theorem checkOn_hit
    {stamp thread windowSeconds hits : Nat} :
    checkOn key
        ⟨stamp, .answer thread
          ⟨.redisIncr key windowSeconds, hits⟩⟩ =
      some ⟨stamp, thread, hits⟩ := by
  simp [checkOn]

/- What a check says of its moment. -/
theorem checkOn_eq_some
    {check : Check}
    (hCheck : checkOn key moment = some check) :
    ∃ windowSeconds,
      moment.entry =
          .answer check.thread
            ⟨.redisIncr key windowSeconds, check.count⟩ ∧
        moment.stamp = check.madeAt := by
  unfold checkOn at hCheck
  split at hCheck
  · next thread other windowSeconds hits hEntry =>
      split at hCheck
      · next hKey =>
          subst hKey
          rw [Option.some.injEq] at hCheck
          rw [← hCheck]
          exact ⟨windowSeconds, hEntry, rfl⟩
      · simp at hCheck
  · simp at hCheck

/- A moment that leaves the key alone is no check on it. -/
theorem checkOn_untouched
    (hTouch : touch moment.entry key = none) :
    checkOn key moment = none := by
  cases hCheck : checkOn key moment with
  | none => rfl
  | some check =>
      rcases checkOn_eq_some hCheck with
        ⟨windowSeconds, hEntry, _⟩
      rw [hEntry] at hTouch
      simp [touch, touchOf] at hTouch

theorem exists_of_mem_checksOn
    {check : Check}
    (hMem : check ∈ checksOn key timeline) :
    ∃ moment ∈ timeline, checkOn key moment = some check :=
  List.mem_filterMap.mp hMem

theorem entry_of_check
    {check : Check}
    (hMem : check ∈ checksOn key timeline) :
    ∃ windowSeconds,
      Entry.answer check.thread
          ⟨.redisIncr key windowSeconds, check.count⟩ ∈
        entriesOf timeline := by
  rcases exists_of_mem_checksOn hMem with
    ⟨moment, hMoment, hCheck⟩
  rcases checkOn_eq_some hCheck with
    ⟨windowSeconds, hEntry, _⟩
  refine ⟨windowSeconds, ?_⟩
  rw [← hEntry]
  exact List.mem_map_of_mem hMoment

/- A hit that was answered is a check. -/
theorem check_of_entry
    {thread windowSeconds hits : Nat}
    (hEntry :
      Entry.answer thread
          ⟨.redisIncr key windowSeconds, hits⟩ ∈
        entriesOf timeline) :
    ∃ check ∈ checksOn key timeline,
      check.thread = thread ∧ check.count = hits := by
  rcases List.mem_map.mp hEntry with
    ⟨⟨stamp, entry⟩, hMoment, hSame⟩
  dsimp only at hSame
  subst hSame
  exact
    ⟨⟨stamp, thread, hits⟩,
      List.mem_filterMap.mpr ⟨_, hMoment, checkOn_hit⟩, rfl,
      rfl⟩

end KisAuth

------------------------------------------------------------
-- The Counter Of A Limit
------------------------------------------------------------

namespace KisAuth

open Interaction Store FixedWindow

/-
  The counter holds the last window of the checks on its key,
  and each check was counted in its window.
-/
structure CounterKept
    (key : String)
    (windowSeconds : Nat)
    (timeline : Timeline) : Prop where
  item :
    itemsAt timeline key =
      (windowAfter Check.madeAt (windowSeconds * 1000)
          (checksOn key timeline)).map
        (counterItem (windowSeconds * 1000))
  counted :
    Counted Check.madeAt Check.count (windowSeconds * 1000)
      (checksOn key timeline)
  ordered : Ordered Check.madeAt (checksOn key timeline)

variable {key : String} {timeline : Timeline}
variable {moment : ServiceMoment} {windowSeconds : Nat}

theorem checksOn_cons_of_none
    (hNone : checkOn key moment = none) :
    checksOn key (moment :: timeline) =
      checksOn key timeline := by
  simp [checksOn, hNone]

theorem checksOn_cons_of_some
    {check : Check}
    (hSome : checkOn key moment = some check) :
    checksOn key (moment :: timeline) =
      check :: checksOn key timeline := by
  simp [checksOn, hSome]

/- A moment that leaves the key alone. -/
theorem CounterKept.untouched
    (hKept : CounterKept key windowSeconds timeline)
    (hReplays : Replays moment timeline)
    (hTouch : touch moment.entry key = none) :
    CounterKept key windowSeconds (moment :: timeline) := by
  have hChecks :
      checksOn key (moment :: timeline) =
        checksOn key timeline :=
    checksOn_cons_of_none (checkOn_untouched hTouch)
  constructor
  case item =>
    rw [itemsAt_untouched hReplays hTouch, hChecks]
    exact hKept.item
  case counted =>
    rw [hChecks]
    exact hKept.counted
  case ordered =>
    rw [hChecks]
    exact hKept.ordered

/- A hit is counted in the window it falls in. -/
theorem CounterKept.hit
    {stamp thread hits : Nat}
    (hKept : CounterKept key windowSeconds timeline)
    (hReplays :
      Replays
        ⟨stamp, .answer thread
          ⟨.redisIncr key windowSeconds, hits⟩⟩
        timeline) :
    CounterKept key windowSeconds
      (⟨stamp, .answer thread
          ⟨.redisIncr key windowSeconds, hits⟩⟩ ::
        timeline) := by
  rcases hReplays.redis thread _ _ rfl rfl with
    ⟨after, hExec⟩
  simp only [World.execRedis, redisWorld, Option.some.injEq,
    Prod.mk.injEq] at hExec
  rcases countHit_window stamp hKept.item with
    ⟨hHits, hStored⟩
  rw [hHits] at hExec
  have hChecks :
      checksOn key
          (⟨stamp, .answer thread
              ⟨.redisIncr key windowSeconds, hits⟩⟩ ::
            timeline) =
        ⟨stamp, thread, hits⟩ :: checksOn key timeline :=
    checksOn_cons_of_some checkOn_hit
  constructor
  case item =>
    rw [hChecks, windowAfter, Option.map_some, ← hStored]
    simp [itemsAt, redisAfter, World.execRedis, redisWorld,
      World.withRedis, Expiring.put]
  case counted =>
    rw [hChecks]
    exact ⟨hExec.1.symm, hKept.counted⟩
  case ordered =>
    rw [hChecks]
    refine List.Pairwise.cons ?_ hKept.ordered
    intro check hMem
    rcases exists_of_mem_checksOn hMem with
      ⟨moment, hMoment, hCheck⟩
    rcases checkOn_eq_some hCheck with ⟨_, _, hStamp⟩
    rw [← hStamp]
    exact hReplays.later moment hMoment

/- The counter is kept wherever only hits touch the key. -/
theorem counter_kept
    (hReplays : Always Replays timeline)
    (hOnly :
      ∀ moment ∈ timeline,
        CountsOnly key windowSeconds moment) :
    CounterKept key windowSeconds timeline := by
  induction timeline with
  | nil =>
      exact ⟨rfl, trivial, List.Pairwise.nil⟩
  | cons moment earlier ih =>
      have hEarlier :=
        ih hReplays.2
          (fun other hOther =>
            hOnly other (List.mem_cons_of_mem _ hOther))
      by_cases hTouch : touch moment.entry key = none
      · exact hEarlier.untouched hReplays.1 hTouch
      · rcases moment with ⟨stamp, entry⟩
        rcases hOnly _ List.mem_cons_self hTouch with
          ⟨thread, hits, hEntry⟩
        dsimp only at hEntry
        subst hEntry
        exact hEarlier.hit hReplays.1

end KisAuth

------------------------------------------------------------
-- What Touches A Counter
------------------------------------------------------------

namespace KisAuth

open Interaction Store

variable {P : Platform} {cfg : KisAuthConfig}
variable {history later earlier : History} {thread : Nat}
variable {limit : RateLimitPolicy × String}

theorem window_minute :
    ∀ policy ∈ redemptionPolicies ++ browserPolicies,
      policy.windowSeconds = 60 := by
  decide

/- How every answered call was counted. -/
theorem counting_at
    {answer : Answer Eff Eff.Res}
    (hRecorded :
      Recorded P cfg (later ++ .answer thread answer :: earlier))
    (hCounting :
      Always (Keeps (Counting P) (EndsCounted P))
        (later ++ .answer thread answer :: earlier)) :
    ∃ q,
      Step P cfg earlier thread q answer ∧
        Counting P q (answersOf thread earlier)
          answer.effect := by
  rcases hRecorded.step_at with ⟨q, hStep⟩
  rcases hCounting.split.1 with ⟨other, hArrive, hAllowed⟩
  have hSame : other = q :=
    hStep.recorded.request_unique hArrive hStep.arrived
  exact ⟨q, hStep, hSame ▸ hAllowed⟩

/- The keys of the other stores are no counters. -/
theorem limitKey_ne
    {family : KeyFamily}
    {id : String}
    (hFamily : family ≠ .rateLimit) :
    limitKey limit ≠ storeKey family id := by
  intro hKey
  exact hFamily ((storeKey_inj _ _ _ _).mp hKey).1.symm

/- A value that is stored with SET is no count. -/
theorem write_elsewhere
    {q : Request}
    {past : Past}
    {key : String}
    {value : RedisValue}
    (hWrite : WriteAllowed P cfg q past key value) :
    limitKey limit ≠ key := by
  rcases record_of_write hWrite with ⟨record, rfl, hFamily⟩
  rw [record.key_eq]
  apply limitKey_ne
  rw [hFamily]
  cases value with
  | count hits => exact hWrite.elim
  | _ => simp [RedisValue.family]

/- A code or ticket that is consumed is no count. -/
theorem consume_elsewhere
    {q : Request}
    {past : Past}
    {key : String}
    (hConsume : ConsumeAllowed P q past key) :
    limitKey limit ≠ key := by
  rcases hConsume with
    ⟨route, family, post, code, hRedeems, _, _, rfl⟩
  apply limitKey_ne
  rcases redemption_cases hRedeems with
    ⟨_, rfl⟩ | ⟨_, rfl⟩
  · simp
  · simp

/- A hit on the key of a limit has the window of the limit. -/
theorem hit_window
    {q : Request}
    {past : Past}
    {windowSeconds : Nat}
    (hLimit : IsLimit limit)
    (hCounting :
      Counting P q past
        (.redisIncr (limitKey limit) windowSeconds)) :
    windowSeconds = limit.1.windowSeconds := by
  rcases hCounting.1 with ⟨other, hOther, _, hWindow⟩
  rw [hWindow, window_minute _ (limit_policy hOther),
    window_minute _ hLimit]

/- Nothing but a hit touches the counter of a limit. -/
theorem counter_untouched
    {answer : Answer Eff Eff.Res}
    {q : Request}
    (hLimit : IsLimit limit)
    (hStep : Step P cfg earlier thread q answer)
    (hCounting :
      Counting P q (answersOf thread earlier) answer.effect)
    (hTouch : touchOf answer (limitKey limit) ≠ none) :
    ∃ hits,
      answer =
        ⟨.redisIncr (limitKey limit) limit.1.windowSeconds,
          hits⟩ := by
  have hAllowed := hStep.allowed
  rcases answer with ⟨effect, value⟩
  cases effect with
  | redisSet key stored ttl =>
      have hNe : limitKey limit ≠ key := write_elsewhere hAllowed
      cases value with
      | ok done => simp [touchOf, hNe] at hTouch
      | error error => exact absurd rfl hTouch
  | redisSetNx key ttl =>
      rcases hAllowed with ⟨nonce, rfl⟩
      have hNe : limitKey limit ≠ linkNonceKey nonce :=
        limitKey_ne (by simp)
      cases value with
      | error error => exact absurd rfl hTouch
      | ok claimed =>
          cases claimed with
          | true => simp [touchOf, hNe] at hTouch
          | false => exact absurd rfl hTouch
  | redisDel key =>
      rcases hAllowed with ⟨sessionId, rfl⟩
      have hNe : limitKey limit ≠ sessionKey sessionId :=
        limitKey_ne (by simp)
      simp [touchOf, hNe] at hTouch
  | redisConsume key =>
      have hNe : limitKey limit ≠ key :=
        consume_elsewhere hAllowed
      simp [touchOf, hNe] at hTouch
  | redisIncr key windowSeconds =>
      by_cases hKey : limitKey limit = key
      · subst hKey
        have hWindow := hit_window hLimit hCounting
        subst hWindow
        exact ⟨value, rfl⟩
      · simp [touchOf, hKey] at hTouch
  | _ => exact absurd rfl hTouch

/- The policies of the routes have different scopes. -/
theorem policy_of_scope :
    ∀ left ∈ redemptionPolicies ++ browserPolicies,
      ∀ right ∈ redemptionPolicies ++ browserPolicies,
        left.scope = right.scope → left = right := by
  decide

/- Two limits with one counter are one limit. -/
theorem limitKey_inj
    {other : RateLimitPolicy × String}
    (hLimit : IsLimit limit)
    (hOther : IsLimit other)
    (hKey : limitKey limit = limitKey other) :
    limit = other := by
  rcases
      rateLimitKey_inj (scope_plain _ hLimit)
        (scope_plain _ hOther) hKey
    with ⟨hScope, hIdentifier⟩
  exact
    Prod.ext (policy_of_scope _ hLimit _ hOther hScope)
      hIdentifier

/- What is counted under a limit is counted against it. -/
theorem counted_against
    {answer : Answer Eff Eff.Res}
    (hLimit : IsLimit limit)
    (hRecorded :
      Recorded P cfg (later ++ .answer thread answer :: earlier))
    (hCounting :
      Always (Keeps (Counting P) (EndsCounted P))
        (later ++ .answer thread answer :: earlier))
    (hTouch : touchOf answer (limitKey limit) ≠ none) :
    ∃ q hits,
      Entry.arrive thread q ∈
          later ++ .answer thread answer :: earlier ∧
        limit ∈ q.limits P ∧
        answer =
          ⟨.redisIncr (limitKey limit) limit.1.windowSeconds,
            hits⟩ := by
  rcases counting_at hRecorded hCounting with
    ⟨q, hStep, hAllowed⟩
  rcases counter_untouched hLimit hStep hAllowed hTouch with
    ⟨hits, rfl⟩
  rcases hAllowed.1 with ⟨other, hOther, hKey, _⟩
  have hSame : limit = other :=
    limitKey_inj hLimit (limit_policy hOther) hKey
  exact
    ⟨q, hits,
      List.mem_append_right _
        (List.mem_cons_of_mem _ hStep.arrived),
      hSame ▸ hOther, rfl⟩

/- So it is in a timeline of the service. -/
theorem counts_only
    {timeline : Timeline}
    (hLimit : IsLimit limit)
    (hRecorded : Recorded P cfg (entriesOf timeline))
    (hCounting :
      Always (Keeps (Counting P) (EndsCounted P))
        (entriesOf timeline)) :
    ∀ moment ∈ timeline,
      CountsOnly (limitKey limit) limit.1.windowSeconds
        moment := by
  intro moment hMem hTouch
  rcases List.append_of_mem hMem with ⟨after, before, rfl⟩
  rw [entriesOf, List.map_append, List.map_cons]
    at hRecorded hCounting
  rcases moment with ⟨stamp, entry⟩
  cases entry with
  | answer thread answer =>
      rcases counting_at hRecorded hCounting with
        ⟨q, hStep, hAllowed⟩
      rcases counter_untouched hLimit hStep hAllowed hTouch with
        ⟨hits, rfl⟩
      exact ⟨thread, hits, rfl⟩
  | arrive thread q => exact absurd rfl hTouch
  | respond thread outcome => exact absurd rfl hTouch
  | env op => exact absurd rfl hTouch

end KisAuth

------------------------------------------------------------
-- Own Hits
------------------------------------------------------------

namespace KisAuth

open Interaction Store

variable {P : Platform} {cfg : KisAuthConfig}
variable {history later earlier : History} {thread : Nat}
variable {limit : RateLimitPolicy × String}
variable {key : String}

/- A request hits a key once. -/
theorem checks_distinct
    {timeline : Timeline}
    (hCounting :
      Always (Keeps (Counting P) (EndsCounted P))
        (entriesOf timeline)) :
    ((checksOn key timeline).map Check.thread).Nodup := by
  induction timeline with
  | nil => simp [checksOn]
  | cons moment earlier ih =>
      have hEarlier := ih hCounting.2
      cases hCheck : checkOn key moment with
      | none =>
          rw [checksOn_cons_of_none hCheck]
          exact hEarlier
      | some check =>
          rw [checksOn_cons_of_some hCheck, List.map_cons,
            List.nodup_cons]
          refine ⟨?_, hEarlier⟩
          intro hMem
          rcases List.mem_map.mp hMem with
            ⟨other, hOther, hThread⟩
          rcases checkOn_eq_some hCheck with
            ⟨windowSeconds, hEntry, _⟩
          rcases entry_of_check hOther with
            ⟨window, hBefore⟩
          have hGuard := hCounting.1
          rw [hEntry] at hGuard
          rcases hGuard with ⟨q, _, hAllowed⟩
          rw [hThread, ← mem_answersOf_iff] at hBefore
          exact hAllowed.2 window other.count hBefore

end KisAuth

------------------------------------------------------------
-- Work Within The Limits
------------------------------------------------------------

namespace KisAuth

open Interaction Store FixedWindow

/-
  The request got past its limits: it made a call that counts
  nothing, or it was answered other than with 429.
-/
def Works (history : History) (thread : Nat) : Prop :=
  (∃ answer,
      Entry.answer thread answer ∈ history ∧
        Uncounted answer.effect) ∨
    ∃ outcome,
      Entry.respond thread outcome ∈ history ∧
        ∀ message, outcome ≠ .error (.tooManyRequests message)

/- It was counted in the window of a limit from `start`. -/
structure WorksIn
    (P : Platform)
    (timeline : Timeline)
    (limit : RateLimitPolicy × String)
    (start thread : Nat) : Prop where
  counts :
    ∃ q,
      Entry.arrive thread q ∈ entriesOf timeline ∧
        limit ∈ q.limits P
  works : Works (entriesOf timeline) thread
  inTime :
    ∃ check ∈ checksOn (limitKey limit) timeline,
      check.thread = thread ∧ start ≤ check.madeAt ∧
        check.madeAt < start + limitLength limit

/-
  As many other requests as the limit were counted within
  the window before the request's own hit.
-/
def CrowdedOut
    (P : Platform)
    (timeline : Timeline)
    (thread : Nat) : Prop :=
  ∃ q limit check,
    Entry.arrive thread q ∈ entriesOf timeline ∧
      limit ∈ q.limits P ∧
      check ∈ checksOn (limitKey limit) timeline ∧
      check.thread = thread ∧
      ∃ others : List Check,
        others.length = limit.1.limit ∧
          (others.map Check.thread).Nodup ∧
          ∀ other ∈ others,
            other ∈ checksOn (limitKey limit) timeline ∧
              other.thread ≠ thread ∧
              other.madeAt ≤ check.madeAt ∧
              check.madeAt < other.madeAt + limitLength limit

/-
  What the limits let through, and what they refuse. Nothing
  touches the counter of a limit but the hits that are
  counted against it.
-/
structure WorkLimited
    (P : Platform)
    (timeline : Timeline) : Prop where
  own :
    ∀ limit,
      IsLimit limit →
        ∀ thread answer,
          Entry.answer thread answer ∈ entriesOf timeline →
            touchOf answer (limitKey limit) ≠ none →
              ∃ q hits,
                Entry.arrive thread q ∈ entriesOf timeline ∧
                  limit ∈ q.limits P ∧
                  answer =
                    ⟨.redisIncr (limitKey limit)
                        limit.1.windowSeconds,
                      hits⟩
  counted :
    ∀ thread q,
      Entry.arrive thread q ∈ entriesOf timeline →
        Works (entriesOf timeline) thread →
          ∀ limit ∈ q.limits P,
            ∃ check ∈ checksOn (limitKey limit) timeline,
              check.thread = thread ∧
                check.count ≤ limit.1.limit
  bounded :
    ∀ limit start (threads : List Nat),
      threads.Nodup →
        (∀ thread ∈ threads,
            WorksIn P timeline limit start thread) →
          threads.length ≤ 2 * limit.1.limit
  crowded :
    ∀ thread message,
      Entry.respond thread
            (.error (.tooManyRequests message)) ∈
          entriesOf timeline →
        message = rateLimitError ∧ CrowdedOut P timeline thread
  otherwise :
    ∀ thread error,
      Entry.respond thread (.error error) ∈
          entriesOf timeline →
        (∀ message, error ≠ .tooManyRequests message) →
          ∃ q,
            Entry.arrive thread q ∈ entriesOf timeline ∧
              error ∈ q.refusals

variable {P : Platform} {cfg : KisAuthConfig}
variable {timeline : Timeline} {history : History}
variable {thread : Nat} {q : Request}

/- An answer that is known to a past is recorded. -/
theorem check_of_past
    {earlier later : History}
    {limit : RateLimitPolicy × String}
    {hits : Nat}
    (hSplit : entriesOf timeline = later ++ earlier)
    (hHit :
      HitCounted (answersOf thread earlier) limit hits) :
    ∃ check ∈ checksOn (limitKey limit) timeline,
      check.thread = thread ∧ check.count = hits := by
  apply check_of_entry
  rw [hSplit]
  exact List.mem_append_right _ (mem_of_past hHit)

/- How a request ended, by what it had counted. -/
theorem ends_counted_at
    {outcome : Except HttpError Response}
    (hCounting : Always (Keeps (Counting P) (EndsCounted P)) history)
    (hEnd : Entry.respond thread outcome ∈ history) :
    ∃ q later earlier,
      history = later ++ .respond thread outcome :: earlier ∧
        Entry.arrive thread q ∈ history ∧
        EndsCounted P q (answersOf thread earlier) outcome := by
  rcases List.append_of_mem hEnd with ⟨later, earlier, rfl⟩
  rcases hCounting.split.1 with ⟨q, hArrive, hEnds⟩
  exact
    ⟨q, later, earlier, rfl,
      List.mem_append_right _
        (List.mem_cons_of_mem _ hArrive),
      hEnds⟩

theorem EndsCounted.passed
    {past : Past}
    {outcome : Except HttpError Response}
    (hEnds : EndsCounted P q past outcome)
    (hOther :
      ∀ message,
        outcome ≠ .error (.tooManyRequests message)) :
    Passed P q past := by
  match outcome with
  | .ok response => exact hEnds
  | .error (.tooManyRequests message) =>
      exact absurd rfl (hOther message)
  | .error (.badRequest message) => exact hEnds.2
  | .error (.unauthorized message) => exact hEnds.2
  | .error (.conflict message) => exact hEnds.2
  | .error .internal => exact hEnds.2

theorem Counting.passed
    {past : Past}
    {effect : Eff}
    (hCounting : Counting P q past effect)
    (hOther : Uncounted effect) :
    Passed P q past := by
  cases effect with
  | redisIncr key windowSeconds => exact hOther.elim
  | _ => exact hCounting

/- A request that works has passed all its limits. -/
theorem passed_of_works
    (hRecorded : Recorded P cfg history)
    (hCounting : Always (Keeps (Counting P) (EndsCounted P)) history)
    (hArrive : Entry.arrive thread q ∈ history)
    (hWorks : Works history thread) :
    ∃ later earlier,
      history = later ++ earlier ∧
        Passed P q (answersOf thread earlier) := by
  rcases hWorks with
    ⟨answer, hMem, hOther⟩ | ⟨outcome, hMem, hOther⟩
  · rcases List.append_of_mem hMem with
      ⟨later, earlier, rfl⟩
    rcases hCounting.split.1 with ⟨other, hOwn, hAllowed⟩
    have hSame : other = q :=
      hRecorded.request_unique
        (List.mem_append_right _
          (List.mem_cons_of_mem _ hOwn))
        hArrive
    subst hSame
    exact
      ⟨later ++ [.answer thread answer], earlier, by simp,
        hAllowed.passed hOther⟩
  · rcases ends_counted_at hCounting hMem with
      ⟨other, later, earlier, rfl, hOwn, hEnds⟩
    have hSame : other = q :=
      hRecorded.request_unique hOwn hArrive
    subst hSame
    exact
      ⟨later ++ [.respond thread outcome], earlier, by simp,
        hEnds.passed hOther⟩

theorem check_of_works
    (hRecorded : Recorded P cfg (entriesOf timeline))
    (hCounting :
      Always (Keeps (Counting P) (EndsCounted P))
        (entriesOf timeline))
    (hArrive : Entry.arrive thread q ∈ entriesOf timeline)
    (hWorks : Works (entriesOf timeline) thread)
    {limit : RateLimitPolicy × String}
    (hLimit : limit ∈ q.limits P) :
    ∃ check ∈ checksOn (limitKey limit) timeline,
      check.thread = thread ∧
        check.count ≤ limit.1.limit := by
  rcases passed_of_works hRecorded hCounting hArrive hWorks
    with ⟨later, earlier, hSplit, hPassed⟩
  rcases hPassed limit hLimit with ⟨hits, hHit, hLe⟩
  rcases check_of_past hSplit hHit with
    ⟨check, hMem, hThread, rfl⟩
  exact ⟨check, hMem, hThread, hLe⟩

/- The checks of one thread on a key are one check. -/
theorem check_unique
    {key : String}
    {check other : Check}
    (hCounting :
      Always (Keeps (Counting P) (EndsCounted P))
        (entriesOf timeline))
    (hCheck : check ∈ checksOn key timeline)
    (hOther : other ∈ checksOn key timeline)
    (hThread : check.thread = other.thread) :
    check = other :=
  List.inj_on_of_nodup_map (checks_distinct hCounting) hCheck
    hOther hThread

/- Working requests are no more than twice the limit. -/
theorem works_bounded
    {limit : RateLimitPolicy × String}
    {start : Nat}
    {threads : List Nat}
    (hRecorded : Recorded P cfg (entriesOf timeline))
    (hCounting :
      Always (Keeps (Counting P) (EndsCounted P))
        (entriesOf timeline))
    (hKept :
      CounterKept (limitKey limit) limit.1.windowSeconds
        timeline)
    (hLength : 0 < limit.1.windowSeconds)
    (hNodup : threads.Nodup)
    (hWorks :
      ∀ thread ∈ threads,
        WorksIn P timeline limit start thread) :
    threads.length ≤ 2 * limit.1.limit := by
  let counts : Check → Bool := fun check =>
    decide
      (start ≤ check.madeAt ∧
        check.madeAt <
            start + limit.1.windowSeconds * 1000 ∧
        check.count ≤ limit.1.limit)
  let admitted :=
    (checksOn (limitKey limit) timeline).filter counts
  have hSubset : threads ⊆ admitted.map Check.thread := by
    intro thread hMem
    rcases hWorks thread hMem with
      ⟨⟨q, hArrive, hLimit⟩, hWork, check, hCheck, hThread,
        hFrom, hUntil⟩
    rcases
        check_of_works hRecorded hCounting hArrive hWork hLimit
      with ⟨own, hOwn, hOwnThread, hLe⟩
    have hSame : check = own :=
      check_unique hCounting hCheck hOwn
        (hThread.trans hOwnThread.symm)
    subst hSame
    refine List.mem_map.mpr ⟨check, ?_, hThread⟩
    refine List.mem_filter.mpr ⟨hCheck, ?_⟩
    exact decide_eq_true ⟨hFrom, hUntil, hLe⟩
  calc
    threads.length ≤ (admitted.map Check.thread).length :=
      (List.subperm_of_subset hNodup hSubset).length_le
    _ = (checksOn (limitKey limit) timeline).countP counts := by
      rw [List.length_map, List.countP_eq_length_filter]
    _ ≤ 2 * limit.1.limit :=
      hKept.counted.countP_le (by omega) hKept.ordered _ _

/- A hit over the limit follows as many others as it. -/
theorem crowded_by
    {limit : RateLimitPolicy × String}
    {check : Check}
    (hCounting :
      Always (Keeps (Counting P) (EndsCounted P))
        (entriesOf timeline))
    (hKept :
      CounterKept (limitKey limit) limit.1.windowSeconds
        timeline)
    (hLength : 0 < limit.1.windowSeconds)
    (hCheck : check ∈ checksOn (limitKey limit) timeline)
    (hOver : limit.1.limit < check.count) :
    ∃ others : List Check,
      others.length = limit.1.limit ∧
        (others.map Check.thread).Nodup ∧
        ∀ other ∈ others,
          other ∈ checksOn (limitKey limit) timeline ∧
            other.thread ≠ check.thread ∧
            other.madeAt ≤ check.madeAt ∧
            check.madeAt < other.madeAt + limitLength limit := by
  rcases List.append_of_mem hCheck with
    ⟨later, earlier, hSplit⟩
  have hDistinct :
      ((checksOn (limitKey limit) timeline).map
        Check.thread).Nodup :=
    checks_distinct hCounting
  have hCounted := hKept.counted
  have hOrdered := hKept.ordered
  rw [hSplit] at hDistinct hCounted hOrdered
  rw [List.map_append, List.map_cons] at hDistinct
  have hOwn := (List.nodup_append.mp hDistinct).2.1
  rw [List.nodup_cons] at hOwn
  rcases hCounted.drop.preceded (by omega) hOrdered.drop with
    ⟨hLength, hBefore⟩
  have hSub :
      (earlier.take limit.1.limit).Sublist
        (earlier.take (check.count - 1)) :=
    List.take_sublist_take_left (by omega)
  refine ⟨earlier.take limit.1.limit, ?_, ?_, ?_⟩
  · rw [List.length_take]
    omega
  · rw [List.map_take]
    exact hOwn.2.sublist (List.take_sublist _ _)
  · intro other hOther
    have hEarlier := List.mem_of_mem_take hOther
    rcases hBefore other (hSub.subset hOther) with
      ⟨hFirst, hIn⟩
    refine ⟨?_, ?_, hFirst, hIn⟩
    · rw [hSplit]
      exact
        List.mem_append_right _ (List.mem_cons_of_mem _ hEarlier)
    · intro hThread
      rw [← hThread] at hOwn
      exact hOwn.1 (List.mem_map_of_mem hEarlier)

/- A request refused with 429 was crowded out. -/
theorem crowded_of_refused
    {message : String}
    (hCounting :
      Always (Keeps (Counting P) (EndsCounted P))
        (entriesOf timeline))
    (hKept :
      ∀ limit,
        IsLimit limit →
          CounterKept (limitKey limit) limit.1.windowSeconds
            timeline)
    (hEnd :
      Entry.respond thread
          (.error (.tooManyRequests message)) ∈
        entriesOf timeline) :
    message = rateLimitError ∧ CrowdedOut P timeline thread := by
  rcases ends_counted_at hCounting hEnd with
    ⟨q, later, earlier, hSplit, hArrive, hMessage, limit,
      hLimit, hits, hHit, hOver⟩
  have hIs : IsLimit limit := limit_policy hLimit
  have hPositive : 0 < limit.1.windowSeconds := by
    rw [window_minute _ hIs]
    omega
  rw [List.append_cons] at hSplit
  rcases check_of_past hSplit hHit with
    ⟨check, hCheck, hThread, rfl⟩
  rcases
      crowded_by hCounting (hKept limit hIs) hPositive hCheck
        hOver
    with ⟨others, hLength, hNodup, hOthers⟩
  rw [hThread] at hOthers
  exact
    ⟨hMessage, q, limit, check, hArrive, hLimit, hCheck, hThread,
      others, hLength, hNodup, hOthers⟩

theorem TimedRun.counting (run : TimedRun P cfg) :
    Always (Keeps (Counting P) (EndsCounted P))
      (entriesOf run.timeline) := by
  rw [run.entriesOf_eq]
  exact Reachable.obeys handler_counting run.run.reachable

/-
  In every run the limits bound the work that gets past them,
  and refuse no request but for the others before it.
-/
theorem work_limited (run : TimedRun P cfg) :
    WorkLimited P run.timeline := by
  have hRecorded : Recorded P cfg (entriesOf run.timeline) := by
    rw [run.entriesOf_eq]
    exact run.run.recorded
  have hCounting := run.counting
  have hKept :
      ∀ limit,
        IsLimit limit →
          CounterKept (limitKey limit) limit.1.windowSeconds
            run.timeline :=
    fun limit hLimit =>
      counter_kept run.replayed.always
        (counts_only hLimit hRecorded hCounting)
  constructor
  case own =>
    intro limit hLimit thread answer hMem hTouch
    rcases List.append_of_mem hMem with
      ⟨later, earlier, hSplit⟩
    rw [hSplit] at hRecorded hCounting ⊢
    exact counted_against hLimit hRecorded hCounting hTouch
  case counted =>
    intro thread q hArrive hWorks limit hLimit
    exact
      check_of_works hRecorded hCounting hArrive hWorks hLimit
  case bounded =>
    intro limit start threads hNodup hWorks
    cases threads with
    | nil => simp
    | cons thread rest =>
        rcases (hWorks thread List.mem_cons_self).counts with
          ⟨q, _, hLimit⟩
        have hIs : IsLimit limit := limit_policy hLimit
        apply
          works_bounded hRecorded hCounting (hKept limit hIs)
            _ hNodup hWorks
        rw [window_minute _ hIs]
        omega
  case crowded =>
    intro thread message hEnd
    exact crowded_of_refused hCounting hKept hEnd
  case otherwise =>
    intro thread error hEnd hOther
    rcases ends_counted_at hCounting hEnd with
      ⟨q, _, _, _, hArrive, hEnds⟩
    refine ⟨q, hArrive, ?_⟩
    cases error with
    | tooManyRequests message => exact absurd rfl (hOther message)
    | _ => exact hEnds.1

end KisAuth
