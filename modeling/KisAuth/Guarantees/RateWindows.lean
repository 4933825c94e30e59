import KisAuth.Interaction.Footprint
import KisAuth.Interaction.Timeline
import KisAuth.Runtime.World
import KisAuth.Security.RateLimit
import KisAuth.Store.FixedWindow

/-
  The fixed windows of the rate limiter.

  Any number of callers check any pairs of a scope and an
  identifier, in any interleaving. Each pair has one counter
  in Redis, which holds the hits of the window that is open
  and expires at its end.

  Key definitions include:
    * `WindowPolicy`, `LimitPair`
    * `LimiterRun`, `checksOf`
    * `CheckWindows`

  Key theorems include:
    * `LimiterRun.counters`
    * `rate_limiter_windows`
-/

------------------------------------------------------------
-- Callers
------------------------------------------------------------

namespace KisAuth

open Interaction Prog Store

/- The limit of a scope, and the seconds of its windows. -/
structure WindowPolicy where
  limit : Nat
  windowSeconds : Nat
  limit_pos : 0 < limit
  window_pos : 0 < windowSeconds

/- What is counted: a scope, and any identifier in it. -/
structure LimitPair where
  scope : LimitScope
  identifier : String
  deriving DecidableEq

abbrev Policies := LimitScope → WindowPolicy

def LimitPair.key (pair : LimitPair) : String :=
  rateLimitKey pair.scope.text pair.identifier

theorem LimitPair.key_inj
    {pair other : LimitPair}
    (hKey : pair.key = other.key) :
    pair = other := by
  rcases pair with ⟨⟨scope, hPlain⟩, identifier⟩
  rcases other with ⟨⟨scope', hPlain'⟩, identifier'⟩
  rcases rateLimitKey_inj hPlain hPlain' hKey with
    ⟨rfl, rfl⟩
  rfl

variable (policies : Policies)

def LimitPair.policy (pair : LimitPair) : WindowPolicy :=
  policies pair.scope

/- The window of a pair, in milliseconds. -/
def LimitPair.length (pair : LimitPair) : Nat :=
  (pair.policy policies).windowSeconds * 1000

/- A caller checks a pair with the policy of its scope. -/
def checkPair (pair : LimitPair) : KisM RateLimitResult :=
  RateLimiter.check pair.scope.text pair.identifier
    (pair.policy policies).limit
    (pair.policy policies).windowSeconds

abbrev LimiterEntry :=
  Entry Eff Eff.Res HttpError LimitPair RateLimitResult EnvOp

/- What happened and when, newest first. -/
abbrev LimiterTimeline :=
  List (Moment Nat Eff Eff.Res HttpError LimitPair
    RateLimitResult EnvOp)

/- Any checks of any callers, with the clock of each step. -/
structure LimiterRun
    (P : Platform)
    (cfg : KisAuthConfig) where
  clients : String → Option RegisteredClient
  timeline : LimiterTimeline
  state :
    State Eff Eff.Res HttpError LimitPair RateLimitResult
      World EnvOp
  timed :
    Timed (worldSemantics P cfg) (checkPair policies)
      World.clock (World.empty clients) timeline state

/- A check: when it was counted, by whom, and as which hit. -/
structure Check where
  madeAt : Nat
  thread : Nat
  count : Nat

/- The hit an answer counts. -/
def hitOf : Answer Eff Eff.Res → Option Nat
| ⟨.redisIncr _ _, count⟩ => some count
| _ => none

/- The check of a pair that an entry records. -/
def checkOf
    (pair : LimitPair)
    (stamp : Nat)
    (earlier : List LimiterEntry) :
    LimiterEntry → Option Check
| .answer thread answer =>
    if requestOf thread earlier = some pair then
      (hitOf answer).map (fun count => ⟨stamp, thread, count⟩)
    else
      none
| _ => none

/- The checks of a pair, newest first. -/
def checksOf (pair : LimitPair) : LimiterTimeline → List Check
| [] => []
| moment :: earlier =>
    match checkOf pair moment.stamp (entriesOf earlier)
        moment.entry with
    | some check => check :: checksOf pair earlier
    | none => checksOf pair earlier

/- What the caller of a hit is told. -/
def WindowPolicy.result
    (policy : WindowPolicy)
    (count : Nat) : RateLimitResult where
  allowed := decide (count ≤ policy.limit)
  count := count
  limit := policy.limit

end KisAuth

------------------------------------------------------------
-- One Check
------------------------------------------------------------

namespace KisAuth

open Interaction Prog

variable {policies : Policies} {pair : LimitPair}

/- The hit is the only call of a check. -/
def FirstHit
    (policies : Policies)
    (pair : LimitPair)
    (past : Past)
    (effect : Eff) : Prop :=
  past = [] ∧
    effect =
      .redisIncr pair.key (pair.policy policies).windowSeconds

/- The caller is told which hit it was. -/
def Told
    (policies : Policies)
    (pair : LimitPair)
    (past : Past)
    (outcome : Except HttpError RateLimitResult) : Prop :=
  ∃ count,
    past =
        [⟨.redisIncr pair.key
            (pair.policy policies).windowSeconds, count⟩] ∧
      outcome = .ok ((pair.policy policies).result count)

theorem checkPair_obeys :
    Obeys (FirstHit policies pair) (Told policies pair)
      (checkPair policies pair) [] := by
  unfold checkPair RateLimiter.check Redis.incr
  exact ⟨⟨rfl, rfl⟩, fun count => ⟨count, rfl, rfl⟩⟩

end KisAuth

------------------------------------------------------------
-- The Counters
------------------------------------------------------------

namespace KisAuth

open Interaction Prog Store FixedWindow

/- What Redis holds for a window. -/
def counterItem
    (length : Nat)
    (window : Window) : Item RedisValue where
  value := .count window.hits
  deadline := some (window.opened + length)

/- The window that is open after the checks of a pair. -/
def lastWindow
    (policies : Policies)
    (pair : LimitPair)
    (timeline : LimiterTimeline) : Option Window :=
  windowAfter Check.madeAt (pair.length policies)
    (checksOf pair timeline)

/-
  Each counter holds the last window of its pair and expires
  at its end, and every check was counted in its window.
-/
structure Counters
    (policies : Policies)
    (world : World)
    (timeline : LimiterTimeline) : Prop where
  items :
    ∀ pair : LimitPair,
      world.redis pair.key =
        (lastWindow policies pair timeline).map
          (counterItem (pair.length policies))
  counted :
    ∀ pair,
      Counted Check.madeAt Check.count (pair.length policies)
        (checksOf pair timeline)
  ordered :
    ∀ pair, Ordered Check.madeAt (checksOf pair timeline)
  made :
    ∀ pair,
      ∀ check ∈ checksOf pair timeline,
        check.madeAt ≤ world.clock
  expires :
    ∀ key item,
      world.redis key = some item → item.deadline ≠ none

variable {policies : Policies} {pair : LimitPair}
variable {timeline : LimiterTimeline}
variable {world world' : World}

/- Only a hit of the pair itself is one of its checks. -/
theorem checksOf_cons_of_none
    {moment :
      Moment Nat Eff Eff.Res HttpError LimitPair
        RateLimitResult EnvOp}
    (hNone :
      checkOf pair moment.stamp (entriesOf timeline)
          moment.entry =
        none) :
    checksOf pair (moment :: timeline) =
      checksOf pair timeline := by
  rw [checksOf, hNone]

/- Where no check is recorded, the counters stay. -/
theorem Counters.silent
    {moment :
      Moment Nat Eff Eff.Res HttpError LimitPair
        RateLimitResult EnvOp}
    (hCounters : Counters policies world timeline)
    (hRedis : world'.redis = world.redis)
    (hClock : world.clock ≤ world'.clock)
    (hNone :
      ∀ pair,
        checkOf pair moment.stamp (entriesOf timeline)
            moment.entry =
          none) :
    Counters policies world' (moment :: timeline) := by
  have hChecks :
      ∀ pair,
        checksOf pair (moment :: timeline) =
          checksOf pair timeline :=
    fun pair => checksOf_cons_of_none (hNone pair)
  constructor
  case items =>
    intro pair
    rw [lastWindow, hChecks, hRedis]
    exact hCounters.items pair
  case counted =>
    intro pair
    rw [hChecks]
    exact hCounters.counted pair
  case ordered =>
    intro pair
    rw [hChecks]
    exact hCounters.ordered pair
  case made =>
    intro pair check hMem
    rw [hChecks] at hMem
    exact (hCounters.made pair check hMem).trans hClock
  case expires =>
    rw [hRedis]
    exact hCounters.expires

/- A hit is counted in the window it falls in. -/
theorem countHit_window
    {key : String}
    {redis : Expiring String RedisValue}
    {last : Option Window}
    {windowSeconds : Nat}
    (now : Nat)
    (hItem :
      redis key =
        last.map (counterItem (windowSeconds * 1000))) :
    hitsOf (redis.find now key) + 1 =
        (windowOf (windowSeconds * 1000) now last).hits ∧
      countHit now windowSeconds (redis.find now key) =
        counterItem (windowSeconds * 1000)
          (windowOf (windowSeconds * 1000) now last) := by
  unfold Expiring.find
  rw [hItem]
  cases last with
  | none => exact ⟨rfl, rfl⟩
  | some window =>
      have hLive :
          (counterItem (windowSeconds * 1000) window).live
              now =
            decide
              (now < window.opened + windowSeconds * 1000) :=
        rfl
      simp only [Option.map_some, hLive, windowOf]
      by_cases hIn :
          now < window.opened + windowSeconds * 1000
      · simp only [hIn, decide_true, if_true]
        exact ⟨rfl, rfl⟩
      · simp only [hIn, decide_false, if_false]
        exact ⟨rfl, rfl⟩

/- A hit is the newest check of its pair, and of no other. -/
theorem checksOf_hit
    {stamp thread count windowSeconds : Nat}
    (hRequest :
      requestOf thread (entriesOf timeline) = some pair)
    (other : LimitPair) :
    checksOf other
        (⟨stamp,
            .answer thread
              ⟨.redisIncr pair.key windowSeconds, count⟩⟩ ::
          timeline) =
      if other = pair then
        ⟨stamp, thread, count⟩ :: checksOf pair timeline
      else
        checksOf other timeline := by
  by_cases hSame : other = pair
  · subst hSame
    simp [checksOf, checkOf, hRequest, hitOf]
  · have hNe : pair ≠ other := fun hEq => hSame hEq.symm
    simp [checksOf, checkOf, hRequest, hSame, hNe]

/- One check of a pair. -/
theorem Counters.check
    {thread count : Nat}
    (hCounters : Counters policies world timeline)
    (hRequest :
      requestOf thread (entriesOf timeline) = some pair)
    (hExec :
      world.execRedis
          (.redisIncr pair.key
            (pair.policy policies).windowSeconds) =
        some (count, world')) :
    Counters policies world'
      (⟨world.clock,
          .answer thread
            ⟨.redisIncr pair.key
              (pair.policy policies).windowSeconds, count⟩⟩ ::
        timeline) := by
  rcases countHit_window world.clock (hCounters.items pair) with
    ⟨hHits, hStored⟩
  rw [World.execRedis, Option.some.injEq, Prod.mk.injEq]
    at hExec
  rcases hExec with ⟨hCount, rfl⟩
  rw [hHits] at hCount
  constructor
  case items =>
    intro other
    rw [lastWindow, checksOf_hit hRequest other]
    by_cases hSame : other = pair
    · subst hSame
      rw [if_pos rfl, windowAfter, Option.map_some]
      simp only [World.withRedis, Expiring.put_eq_write,
        Expiring.write_self]
      exact congrArg some hStored
    · have hKey : other.key ≠ pair.key :=
        fun hEq => hSame (LimitPair.key_inj hEq)
      rw [if_neg hSame]
      simp only [World.withRedis, Expiring.put_eq_write]
      rw [Expiring.write_of_ne hKey]
      exact hCounters.items other
  case counted =>
    intro other
    rw [checksOf_hit hRequest other]
    by_cases hSame : other = pair
    · subst hSame
      rw [if_pos rfl]
      exact ⟨hCount.symm, hCounters.counted other⟩
    · rw [if_neg hSame]
      exact hCounters.counted other
  case ordered =>
    intro other
    rw [checksOf_hit hRequest other]
    by_cases hSame : other = pair
    · subst hSame
      rw [if_pos rfl]
      exact
        List.Pairwise.cons (hCounters.made other)
          (hCounters.ordered other)
    · rw [if_neg hSame]
      exact hCounters.ordered other
  case made =>
    intro other check hMem
    rw [checksOf_hit hRequest other] at hMem
    by_cases hSame : other = pair
    · subst hSame
      rw [if_pos rfl, List.mem_cons] at hMem
      rcases hMem with rfl | hEarlier
      · exact le_refl _
      · exact hCounters.made other check hEarlier
    · rw [if_neg hSame] at hMem
      exact hCounters.made other check hMem
  case expires =>
    intro key item hItem
    simp only [World.withRedis, Expiring.put_eq_write]
      at hItem
    by_cases hKey : key = pair.key
    · subst hKey
      rw [Expiring.write_self, Option.some.injEq, hStored]
        at hItem
      rw [← hItem]
      simp [counterItem]
    · rw [Expiring.write_of_ne hKey] at hItem
      exact hCounters.expires key item hItem

end KisAuth

------------------------------------------------------------
-- Runs
------------------------------------------------------------

namespace KisAuth

open Interaction Prog Store FixedWindow

variable {P : Platform} {cfg : KisAuthConfig}
variable {policies : Policies}

theorem LimiterRun.conforms
    (run : LimiterRun policies P cfg) :
    Always (Conforms (checkPair policies))
      (entriesOf run.timeline) := by
  rw [run.timed.entriesOf_eq]
  exact run.timed.reachable.conforms

/- The counters of every run. -/
theorem LimiterRun.counters
    (run : LimiterRun policies P cfg) :
    Counters policies run.state.world run.timeline := by
  refine
    Timed.invariant
      (fun world timeline =>
        Always (Conforms (checkPair policies))
            (entriesOf timeline) →
          Counters policies world timeline)
      ?_ ?_ ?_ ?_ run.timed run.conforms
  case refine_1 =>
    intro _
    exact
      { items := fun _ => rfl
        counted := fun _ => trivial
        ordered := fun _ => List.Pairwise.nil
        made := by simp [checksOf]
        expires := by simp [World.empty] }
  case refine_2 =>
    intro world timeline entry hNoAnswer _ hCounters hConforms
    apply
      (hCounters hConforms.2).silent rfl (le_refl _)
    intro pair
    cases entry with
    | answer thread answer => exact absurd rfl (hNoAnswer _ _)
    | _ => rfl
  case refine_3 =>
    intro world timeline thread effect ext value world' hExec
      hCounters hConforms
    have hBefore := hCounters hConforms.2
    rcases hConforms.1.2 with
      ⟨pair, rest, hArrive, hReaches⟩
    rcases checkPair_obeys.guard_of_reaches hReaches with
      ⟨_, rfl⟩
    exact
      hBefore.check (requestOf_of_arrive hConforms.2 hArrive)
        hExec
  case refine_4 =>
    intro world timeline op world' hEnv hCounters hConforms
    rcases env_frame hEnv with ⟨hRedis, hClock⟩
    exact
      (hCounters hConforms.2).silent hRedis hClock
        (fun _ => rfl)

end KisAuth

------------------------------------------------------------
-- The Limits
------------------------------------------------------------

namespace KisAuth

open Interaction Prog FixedWindow

variable {P : Platform} {cfg : KisAuthConfig}
variable {policies : Policies}

/- The checks of a pair, oldest first. -/
def LimiterRun.checks
    (run : LimiterRun policies P cfg)
    (pair : LimitPair) : List Check :=
  (checksOf pair run.timeline).reverse

/- The caller of the check is told that it may go on. -/
def Check.allowed
    (policy : WindowPolicy)
    (check : Check) : Bool :=
  (policy.result check.count).allowed

/-
  The checks fall into windows. Each is opened by its first
  check, the first ones in it are allowed up to the limit,
  and the first check after its end is allowed again.
-/
structure CheckWindows
    (policy : WindowPolicy)
    (checks : List Check)
    (windows : List (List Check)) : Prop where
  cover : windows.flatten = checks
  within :
    ∀ window ∈ windows,
      ∃ first rest,
        window = first :: rest ∧
          ∀ check ∈ window,
            first.madeAt ≤ check.madeAt ∧
              check.madeAt <
                first.madeAt + policy.windowSeconds * 1000
  apart :
    windows.Pairwise
      (fun window next =>
        ∀ first ∈ window.head?,
          ∀ check ∈ next,
            first.madeAt + policy.windowSeconds * 1000 ≤
              check.madeAt)
  allowed :
    ∀ window ∈ windows,
      ∀ index check,
        window[index]? = some check →
          (check.allowed policy = true ↔
            index < policy.limit)
  reopened :
    ∀ window ∈ windows,
      ∀ first ∈ window.head?,
        ∀ check,
          checks.find?
                (fun other =>
                  decide
                    (first.madeAt +
                        policy.windowSeconds * 1000 ≤
                      other.madeAt)) =
              some check →
            check.allowed policy = true

/- The counter's windows are those of the checks. -/
theorem checkWindows_of_windows
    {pair : LimitPair}
    {log : List Check}
    {windows : List (List Check)}
    (hWindows :
      Windows Check.madeAt Check.count (pair.length policies)
        log windows) :
    CheckWindows (pair.policy policies) log.reverse
      windows where
  cover := hWindows.cover
  within := hWindows.within
  apart := hWindows.apart
  allowed := by
    intro window hWindow index check hCheck
    have hCount := hWindows.count_eq hWindow hCheck
    simp only [Check.allowed, WindowPolicy.result,
      decide_eq_true_eq]
    omega
  reopened := by
    intro window hWindow first hFirst check hFind
    have hCount := hWindows.reopens hWindow hFirst hFind
    have hLimit := (pair.policy policies).limit_pos
    simp only [Check.allowed, WindowPolicy.result,
      decide_eq_true_eq]
    omega

theorem LimitPair.length_pos (pair : LimitPair) :
    0 < pair.length policies := by
  have hWindow := (pair.policy policies).window_pos
  unfold LimitPair.length
  omega

/- A recorded hit is a check of its caller's pair. -/
theorem check_of_answer
    {pair : LimitPair}
    {timeline : LimiterTimeline}
    {thread windowSeconds count : Nat}
    {key : String}
    (hConforms :
      Always (Conforms (checkPair policies))
        (entriesOf timeline))
    (hArrive :
      Entry.arrive thread pair ∈ entriesOf timeline)
    (hAnswer :
      Entry.answer thread
          ⟨.redisIncr key windowSeconds, count⟩ ∈
        entriesOf timeline) :
    ∃ check ∈ checksOf pair timeline,
      check.thread = thread ∧ check.count = count := by
  induction timeline with
  | nil => simp [entriesOf] at hAnswer
  | cons moment earlier ih =>
      rw [entriesOf_cons, List.mem_cons] at hAnswer
      rcases hAnswer with hNow | hEarlier
      · have hArrived :
            Entry.arrive thread pair ∈ entriesOf earlier := by
          rw [entriesOf_cons, List.mem_cons, ← hNow] at hArrive
          simpa using hArrive
        have hRequest :
            requestOf thread (entriesOf earlier) =
              some pair :=
          requestOf_of_arrive hConforms.2 hArrived
        have hCheck :
            checkOf pair moment.stamp (entriesOf earlier)
                moment.entry =
              some ⟨moment.stamp, thread, count⟩ := by
          rw [← hNow]
          simp [checkOf, hRequest, hitOf]
        refine
          ⟨⟨moment.stamp, thread, count⟩, ?_, rfl, rfl⟩
        rw [checksOf, hCheck]
        exact List.mem_cons_self
      · have hArrived :
            Entry.arrive thread pair ∈ entriesOf earlier := by
          rw [entriesOf_cons, List.mem_cons] at hArrive
          rcases hArrive with hNow | hBefore
          · have hUnused := hConforms.1
            rw [← hNow] at hUnused
            exact absurd rfl (hUnused _ hEarlier)
          · exact hBefore
        rcases ih hConforms.2 hArrived hEarlier with
          ⟨check, hMem, hCheck⟩
        refine ⟨check, ?_, hCheck⟩
        rw [checksOf]
        split
        · exact List.mem_cons_of_mem _ hMem
        · exact hMem

/- A caller is told the result of its own check. -/
theorem LimiterRun.told
    (run : LimiterRun policies P cfg)
    {pair : LimitPair}
    {thread : Nat}
    {outcome : Except HttpError RateLimitResult}
    (hArrive :
      Entry.arrive thread pair ∈ entriesOf run.timeline)
    (hEnd :
      Entry.respond thread outcome ∈ entriesOf run.timeline) :
    ∃ check ∈ run.checks pair,
      check.thread = thread ∧
        outcome =
          .ok ((pair.policy policies).result check.count) := by
  have hReaches := ended_reaches run.conforms hArrive hEnd
  rcases checkPair_obeys.final_of_reaches hReaches with
    ⟨count, hPast, hOutcome⟩
  have hAnswer :
      Entry.answer thread
          ⟨.redisIncr pair.key
            (pair.policy policies).windowSeconds, count⟩ ∈
        entriesOf run.timeline := by
    rw [← mem_answersOf_iff, hPast]
    exact List.mem_singleton_self _
  rcases check_of_answer run.conforms hArrive hAnswer with
    ⟨check, hMem, hThread, hCount⟩
  refine ⟨check, ?_, hThread, ?_⟩
  · exact List.mem_reverse.mpr hMem
  · rw [hOutcome, hCount]

/-
  In every run the checks of a pair fall into windows, each
  with the first ones allowed up to the limit and followed
  by an allowed check; no interval of the length of a window
  has more than twice the limit of allowed checks; no key is
  left without an expiry; the results depend on the times of
  the pair's own checks only; and callers are told them.
-/
theorem rate_limiter_windows
    (run : LimiterRun policies P cfg)
    (pair : LimitPair) :
    (∃ windows,
        CheckWindows (pair.policy policies) (run.checks pair)
          windows) ∧
      (∀ start,
        (run.checks pair).countP
            (fun check =>
              decide
                (start ≤ check.madeAt ∧
                  check.madeAt <
                    start +
                      (pair.policy policies).windowSeconds *
                        1000 ∧
                  check.allowed (pair.policy policies) =
                    true)) ≤
          2 * (pair.policy policies).limit) ∧
      (∀ key item,
        run.state.world.redis key = some item →
          item.deadline ≠ none) ∧
      (∀ other : LimiterRun policies P cfg,
        (other.checks pair).map Check.madeAt =
            (run.checks pair).map Check.madeAt →
          (other.checks pair).map Check.count =
            (run.checks pair).map Check.count) ∧
      ∀ thread outcome,
        Entry.arrive thread pair ∈ entriesOf run.timeline →
          Entry.respond thread outcome ∈
              entriesOf run.timeline →
            ∃ check ∈ run.checks pair,
              check.thread = thread ∧
                outcome =
                  .ok
                    ((pair.policy policies).result
                      check.count) := by
  have hCounters := run.counters
  have hLength : 0 < pair.length policies := pair.length_pos
  have hCounted := hCounters.counted pair
  have hOrdered := hCounters.ordered pair
  refine ⟨?_, ?_, hCounters.expires, ?_, ?_⟩
  · rcases hCounted.windows hLength hOrdered with
      ⟨windows, hWindows⟩
    exact ⟨windows, checkWindows_of_windows hWindows⟩
  · intro start
    have hLe :=
      hCounted.countP_le hLength hOrdered
        (pair.policy policies).limit start
    unfold LimiterRun.checks
    rw [List.countP_reverse]
    apply le_trans _ hLe
    apply List.countP_mono_left
    intro check _ hCheck
    rw [decide_eq_true_eq] at hCheck ⊢
    simpa only [Check.allowed, WindowPolicy.result,
      LimitPair.length, decide_eq_true_eq] using hCheck
  · intro other hTimes
    unfold LimiterRun.checks at hTimes ⊢
    rw [List.map_reverse, List.map_reverse,
      List.reverse_inj] at hTimes ⊢
    exact
      (other.counters.counted pair).eq_of_times hCounted hTimes
  · intro thread outcome hArrive hEnd
    exact run.told hArrive hEnd

/- Two hits a second, for every scope. -/
def twoASecond : Policies :=
  fun _ => ⟨2, 1, by decide, by decide⟩

def exchangeOf (client : String) : LimitPair where
  scope := ⟨RateLimits.exchangePerClient.scope, by decide⟩
  identifier := client

/-
  Checks of one pair overlap, with one of another between
  them. The third is refused, and the one that comes as the
  window ends is allowed.
-/
def limiterActions : List (Action LimitPair External EnvOp) :=
  [.arrive (exchangeOf "web"), .arrive (exchangeOf "web"),
    .arrive (exchangeOf "app"), .arrive (exchangeOf "web"),
    .run 1 .none, .run 2 .none, .env (.tick 600),
    .run 0 .none, .env (.tick 399), .run 3 .none,
    .env (.tick 1), .arrive (exchangeOf "web"),
    .run 4 .none]

example :
    ∃ run : LimiterRun twoASecond Platform.bare testConfig,
      (run.checks (exchangeOf "web")).map
          (fun check =>
            (check.thread, check.madeAt, check.count,
              check.allowed
                ((exchangeOf "web").policy twoASecond))) =
        [(1, 0, 1, true), (0, 600, 2, true),
          (3, 999, 3, false), (4, 1000, 1, true)] := by
  have hChecks :
      (runTimed (worldSemantics Platform.bare testConfig)
          (checkPair twoASecond) World.clock []
          (.init (World.empty (fun _ => none)))
          limiterActions).map
          (fun result =>
            (checksOf (exchangeOf "web") result.1).reverse.map
              (fun check =>
                (check.thread, check.madeAt, check.count,
                  check.allowed
                    ((exchangeOf "web").policy
                      twoASecond)))) =
        some
          [(1, 0, 1, true), (0, 600, 2, true),
            (3, 999, 3, false), (4, 1000, 1, true)] := by
    decide +kernel
  rcases Option.map_eq_some_iff.mp hChecks with
    ⟨⟨timeline, state⟩, hRun, hAll⟩
  exact ⟨⟨_, timeline, state, Timed.of_run hRun⟩, hAll⟩

end KisAuth
