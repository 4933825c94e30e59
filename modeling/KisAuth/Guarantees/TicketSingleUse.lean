import KisAuth.Interaction.Conformance
import KisAuth.Runtime.World
import KisAuth.Security.LinkTicket

/-
  Single use of link tickets.

  A ticket is claimed with a key that expires. The key lives
  at least until the expiry instant of the ticket, but a
  call that read the clock before that instant may claim the
  nonce after it, and then a used ticket is accepted again.

  Key definitions include:
    * `TicketRun`, `claims`, `acceptedTickets`
    * `Timely`, `BeforeExpiry`

  Key theorems include:
    * `ticket_single_use`, `timely_of_before_expiry`
    * `ticket_used_twice`
-/

------------------------------------------------------------
-- Runs Of Ticket Verifications
------------------------------------------------------------

namespace KisAuth

open Interaction Store

abbrev TicketEntry :=
  Entry Eff Eff.Res HttpError String LinkTicketVerifyResult
    EnvOp

/- What has happened so far, newest first. -/
abbrev TicketHistory := List TicketEntry

/-
  A state reached by verifying any tickets in any
  interleaving, each call on its own thread. Time passes
  with the ticks of the environment.
-/
structure TicketRun
    (P : Platform)
    (cfg : KisAuthConfig) where
  state :
    State Eff Eff.Res HttpError String LinkTicketVerifyResult
      World EnvOp
  reachable :
    Reachable (worldSemantics P cfg)
      (LinkTicketService.verifyAndConsume P
        cfg.internalHmacSecret)
      (World.empty (fun _ => none)) state

def TicketRun.history
    {P : Platform}
    {cfg : KisAuthConfig}
    (run : TicketRun P cfg) : TicketHistory :=
  run.state.history

/- The clock reading after a history. -/
def elapsed : TicketHistory → Nat
| [] => 0
| .env (.tick milliseconds) :: earlier =>
    elapsed earlier + milliseconds
| _ :: earlier => elapsed earlier

/- A claim of a nonce, with the instant it expires. -/
structure Claim where
  ticket : Option String
  key : String
  deadline : ℚ

/- The claim an entry records. -/
def claimOf
    (entry : TicketEntry)
    (earlier : TicketHistory) : Option Claim :=
  match entry with
  | .answer thread ⟨.redisSetNx key ttlSeconds, .ok true⟩ =>
      some
        { ticket := requestOf thread earlier
          key := key
          deadline := elapsed earlier + ttlSeconds * 1000 }
  | _ => none

/- All claims, newest first. -/
def claims : TicketHistory → List Claim
| [] => []
| entry :: earlier =>
    (claimOf entry earlier).toList ++ claims earlier

/- The ticket an entry accepts. -/
def acceptedTicket
    (entry : TicketEntry)
    (earlier : TicketHistory) : Option String :=
  match entry with
  | .respond thread (.ok (.ok _)) => requestOf thread earlier
  | _ => none

/- All accepted tickets, newest first. -/
def acceptedTickets : TicketHistory → List String
| [] => []
| entry :: earlier =>
    (acceptedTicket entry earlier).toList ++
      acceptedTickets earlier

/- No ticket is accepted twice. -/
def AcceptedOnce (history : TicketHistory) : Prop :=
  (acceptedTickets history).Nodup

/- The thread whose SET NX an entry executes. -/
def claimant : TicketEntry → Option Nat
| .answer thread ⟨.redisSetNx _ _, _⟩ => some thread
| _ => none

/-
  A SET NX executes before every earlier claim of the same
  ticket expires.
-/
def TimelyEntry
    (entry : TicketEntry)
    (earlier : TicketHistory) : Prop :=
  ∀ thread ∈ claimant entry, ∀ claim ∈ claims earlier,
    claim.ticket = requestOf thread earlier →
      (elapsed earlier : ℚ) < claim.deadline

instance
    (entry : TicketEntry)
    (earlier : TicketHistory) :
    Decidable (TimelyEntry entry earlier) :=
  inferInstanceAs
    (Decidable
      (∀ thread ∈ claimant entry, ∀ claim ∈ claims earlier,
        claim.ticket = requestOf thread earlier →
          (elapsed earlier : ℚ) < claim.deadline))

def Timely (history : TicketHistory) : Prop :=
  Always TimelyEntry history

instance (history : TicketHistory) :
    Decidable (Timely history) :=
  inferInstanceAs (Decidable (Always TimelyEntry history))

end KisAuth

------------------------------------------------------------
-- One Call
------------------------------------------------------------

namespace KisAuth

open Interaction Prog

variable (P : Platform) (cfg : KisAuthConfig)

/- The claim of a ticket, for the time the ticket has left. -/
structure TicketClaim
    (ticket : String)
    (past : Past)
    (kisUserId key : String)
    (ttlSeconds : ℚ) : Prop where
  claim :
    ∃ nonce exp clock,
      readTicket P cfg.internalHmacSecret ticket =
          .ok ⟨kisUserId, nonce, .finite exp⟩ ∧
        ⟨.dateNow, clock⟩ ∈ past ∧
        (wholeSeconds clock : ℚ) < exp ∧
        key = linkNonceKey nonce ∧
        ttlSeconds = max 1 (exp - wholeSeconds clock)

/- The calls of a verification. -/
def TicketGuard (ticket : String) (past : Past) : Eff → Prop
| .dateNow => True
| .redisSetNx key ttlSeconds =>
    ∃ kisUserId,
      TicketClaim P cfg ticket past kisUserId key ttlSeconds
| _ => False

/- A verification that accepts has claimed the nonce. -/
def TicketOutcome
    (ticket : String)
    (past : Past) :
    Except HttpError LinkTicketVerifyResult → Prop
| .ok (.ok kisUserId) =>
    ∃ key ttlSeconds,
      TicketClaim P cfg ticket past kisUserId key
          ttlSeconds ∧
        ⟨.redisSetNx key ttlSeconds, .ok true⟩ ∈ past
| _ => True

variable {P cfg}

theorem TicketClaim.cons
    {ticket kisUserId key : String}
    {past : Past}
    {ttlSeconds : ℚ}
    (hClaim :
      TicketClaim P cfg ticket past kisUserId key ttlSeconds)
    (answer : Answer Eff Eff.Res) :
    TicketClaim P cfg ticket (answer :: past) kisUserId key
      ttlSeconds where
  claim := by
    rcases hClaim.claim with
      ⟨nonce, exp, clock, hRead, hClock, hRest⟩
    exact
      ⟨nonce, exp, clock, hRead,
        List.mem_cons_of_mem answer hClock, hRest⟩

theorem verifyAndConsume_obeys (ticket : String) :
    Obeys (TicketGuard P cfg ticket)
      (TicketOutcome P cfg ticket)
      (LinkTicketService.verifyAndConsume P
        cfg.internalHmacSecret ticket) [] := by
  unfold LinkTicketService.verifyAndConsume
  split
  · trivial
  · next payload hTicket =>
      apply Obeys.andThen
      unfold dateNow
      apply obeys_perform
      · trivial
      intro clock
      simp only [andThen_ok]
      split
      · trivial
      · trivial
      · next exp hExp =>
          split
          · trivial
          · next hFresh =>
              have hClaim :
                  TicketClaim P cfg ticket
                    [⟨.dateNow, clock⟩] payload.kisUserId
                    (linkNonceKey payload.nonce)
                    (max 1 (exp - wholeSeconds clock)) := by
                constructor
                refine
                  ⟨payload.nonce, exp, clock, ?_, by simp,
                    not_le.mp hFresh, rfl, rfl⟩
                rw [hTicket, ← hExp]
              unfold Redis.setNx
              apply Obeys.andThen
              apply Obeys.andThen
              apply obeys_perform
              · exact ⟨payload.kisUserId, hClaim⟩
              intro result
              cases result with
              | error error => trivial
              | ok claimed =>
                  cases claimed with
                  | false => trivial
                  | true =>
                      exact
                        ⟨_, _, hClaim.cons _,
                          List.mem_cons_self⟩

end KisAuth

------------------------------------------------------------
-- What Redis Remembers
------------------------------------------------------------

namespace KisAuth

open Interaction Store

variable {P : Platform} {cfg : KisAuthConfig}
variable {world world' : World} {history : TicketHistory}

/- Every claim that has not expired is still stored. -/
structure Remembers
    (world : World)
    (history : TicketHistory) : Prop where
  clock : world.clock = elapsed history
  live :
    ∀ claim ∈ claims history,
      (world.clock : ℚ) < claim.deadline →
        ∃ item expiresAt,
          world.redis claim.key = some item ∧
            item.deadline = some expiresAt ∧
            claim.deadline ≤ expiresAt

/- What the answers of a verification say. -/
def Executed
    (entry : TicketEntry)
    (earlier : TicketHistory) : Prop :=
  match entry with
  | .answer _ ⟨.dateNow, clock⟩ => clock = elapsed earlier
  | .answer _ ⟨.redisSetNx key _, .ok true⟩ =>
      ∀ claim ∈ claims earlier,
        claim.key = key → claim.deadline ≤ elapsed earlier
  | _ => True

/- An entry that neither claims nor lets time pass. -/
theorem Remembers.silent
    {entry : TicketEntry}
    (hRemembers : Remembers world history)
    (hElapsed : elapsed (entry :: history) = elapsed history)
    (hClaim : claimOf entry history = none) :
    Remembers world (entry :: history) where
  clock := by rw [hElapsed, hRemembers.clock]
  live := by
    intro claim hMem
    simp only [claims, hClaim, Option.toList_none,
      List.nil_append] at hMem
    exact hRemembers.live claim hMem

theorem Remembers.tick
    {op : EnvOp}
    (hRemembers : Remembers world history)
    (hEnv : world.env op = some world') :
    Remembers world' (.env op :: history) := by
  have hClaims :
      claims (.env op :: history) = claims history := by
    simp [claims, claimOf]
  cases op with
  | tick milliseconds =>
      simp only [World.env, Option.some.injEq] at hEnv
      subst hEnv
      constructor
      · simp [elapsed, hRemembers.clock]
      · intro claim hMem hLive
        rw [hClaims] at hMem
        apply hRemembers.live claim hMem
        push_cast at hLive
        have hNonneg : (0 : ℚ) ≤ milliseconds := by
          positivity
        linarith
  | setIdentityStatus id status =>
      simp only [World.env, Option.some.injEq] at hEnv
      subst hEnv
      exact ⟨hRemembers.clock, hRemembers.live⟩
  | setClient clientId client =>
      simp only [World.env, Option.some.injEq] at hEnv
      subst hEnv
      exact ⟨hRemembers.clock, hRemembers.live⟩

/- An accepted claim: every earlier one has expired. -/
theorem Remembers.expired
    {key : String}
    (hRemembers : Remembers world history)
    (hFree : world.redis.find world.clock key = none) :
    ∀ claim ∈ claims history,
      claim.key = key → claim.deadline ≤ elapsed history := by
  intro claim hMem hKey
  rw [← hRemembers.clock]
  by_contra hLive
  rw [not_le] at hLive
  rcases hRemembers.live claim hMem hLive with
    ⟨item, expiresAt, hItem, hDeadline, hLe⟩
  have hBefore : world.clock < expiresAt := by
    exact_mod_cast hLive.trans_le hLe
  rw [hKey] at hItem
  simp [Expiring.find, hItem, Item.live, hDeadline, hBefore]
    at hFree

theorem Remembers.setNx
    {thread : Nat}
    {key : String}
    {ttlSeconds : ℚ}
    {value : Except RedisError Bool}
    (hRemembers : Remembers world history)
    (hExec :
      world.execRedis (.redisSetNx key ttlSeconds) =
        some (value, world')) :
    Remembers world'
        (.answer thread ⟨.redisSetNx key ttlSeconds, value⟩ ::
          history) ∧
      Executed
        (.answer thread ⟨.redisSetNx key ttlSeconds, value⟩)
        history := by
  simp only [World.execRedis] at hExec
  cases hValid : validExpire world.clock ttlSeconds with
  | none =>
      simp only [hValid, Option.some.injEq, Prod.mk.injEq]
        at hExec
      rcases hExec with ⟨rfl, rfl⟩
      exact ⟨hRemembers.silent rfl rfl, trivial⟩
  | some deadline =>
      simp only [hValid] at hExec
      cases hFind : world.redis.find world.clock key with
      | some found =>
          simp only [hFind, Option.some.injEq, Prod.mk.injEq]
            at hExec
          rcases hExec with ⟨rfl, rfl⟩
          exact ⟨hRemembers.silent rfl rfl, trivial⟩
      | none =>
          simp only [hFind, Option.some.injEq, Prod.mk.injEq]
            at hExec
          rcases hExec with ⟨rfl, rfl⟩
          have hExpired := hRemembers.expired hFind
          refine ⟨⟨hRemembers.clock, ?_⟩, hExpired⟩
          intro claim hMem hLive
          simp only [World.withRedis, Expiring.put]
          rcases List.mem_append.mp hMem with hNew | hOld
          · simp only [claimOf, Option.toList_some,
              List.mem_singleton] at hNew
            subst hNew
            refine ⟨_, deadline, if_pos rfl, rfl, ?_⟩
            rw [validExpire_spec hValid, hRemembers.clock]
          · by_cases hKey : claim.key = key
            · have hDead := hExpired claim hOld hKey
              rw [← hRemembers.clock] at hDead
              exact absurd hLive (not_lt.mpr hDead)
            · rw [if_neg hKey]
              exact hRemembers.live claim hOld hLive

end KisAuth

------------------------------------------------------------
-- Whole Runs
------------------------------------------------------------

namespace KisAuth

open Interaction Store

variable {P : Platform} {cfg : KisAuthConfig}
variable {history later earlier : TicketHistory}

theorem remembers_step
    {world world' : World}
    {ticket : String}
    {past : Past}
    {effect : Eff}
    {value : effect.Res}
    {ext : External}
    (thread : Nat)
    (hRemembers : Remembers world history)
    (hGuard : TicketGuard P cfg ticket past effect)
    (hExec :
      world.exec P cfg effect ext = some (value, world')) :
    Remembers world'
        (.answer thread ⟨effect, value⟩ :: history) ∧
      Executed (.answer thread ⟨effect, value⟩) history := by
  cases effect with
  | dateNow =>
      simp only [World.exec, World.backend, World.execOther,
        Option.some.injEq, Prod.mk.injEq] at hExec
      rcases hExec with ⟨rfl, rfl⟩
      exact ⟨hRemembers.silent rfl rfl, hRemembers.clock⟩
  | redisSetNx key ttlSeconds => exact hRemembers.setNx hExec
  | _ => exact absurd hGuard id

theorem TicketRun.executed (run : TicketRun P cfg) :
    Always Executed run.history := by
  have hBoth :
      Remembers run.state.world run.history ∧
        Always Executed run.history := by
    apply Reachable.invariant
      (fun world history =>
        Remembers world history ∧ Always Executed history)
      ?_ ?_ ?_ ?_ ?_ run.reachable
    · refine ⟨⟨rfl, ?_⟩, trivial⟩
      intro claim hMem
      simp [claims] at hMem
    · rintro world history thread ticket
        ⟨hRemembers, hAlways⟩
      exact
        ⟨hRemembers.silent rfl rfl, trivial, hAlways⟩
    · rintro world history thread effect ext value world' _
        hConforms hExec ⟨hRemembers, hAlways⟩
      rcases hConforms.keeps verifyAndConsume_obeys with
        ⟨ticket, _, hGuard⟩
      rcases remembers_step thread hRemembers hGuard hExec
        with ⟨hNext, hExecuted⟩
      exact ⟨hNext, hExecuted, hAlways⟩
    · rintro world history thread outcome
        ⟨hRemembers, hAlways⟩
      exact
        ⟨hRemembers.silent rfl rfl, trivial, hAlways⟩
    · rintro world history op world' hEnv
        ⟨hRemembers, hAlways⟩
      exact ⟨hRemembers.tick hEnv, trivial, hAlways⟩
  exact hBoth.2

/-
  What every history satisfies: it is made by verifications,
  and its answers are those of Redis and the clock.
-/
structure TicketRecorded
    (P : Platform)
    (cfg : KisAuthConfig)
    (history : TicketHistory) : Prop where
  conforms :
    Always
      (Conforms
        (LinkTicketService.verifyAndConsume P
          cfg.internalHmacSecret)) history
  executed : Always Executed history

theorem TicketRun.recorded (run : TicketRun P cfg) :
    TicketRecorded P cfg run.history where
  conforms := run.reachable.conforms
  executed := run.executed

theorem TicketRecorded.drop
    (hRecorded : TicketRecorded P cfg (later ++ earlier)) :
    TicketRecorded P cfg earlier :=
  ⟨hRecorded.conforms.drop, hRecorded.executed.drop⟩

theorem TicketRecorded.ticket_of_arrive
    {thread : Nat}
    {ticket : String}
    (hRecorded : TicketRecorded P cfg history)
    (hArrive : Entry.arrive thread ticket ∈ history) :
    requestOf thread history = some ticket :=
  requestOf_of_arrive hRecorded.conforms hArrive

/- One answered call of a verification. -/
theorem TicketRecorded.step
    {thread : Nat}
    {answer : Answer Eff Eff.Res}
    (hRecorded :
      TicketRecorded P cfg
        (later ++ .answer thread answer :: earlier)) :
    ∃ ticket,
      requestOf thread earlier = some ticket ∧
        TicketGuard P cfg ticket (answersOf thread earlier)
          answer.effect := by
  have hKeeps :=
    hRecorded.conforms.split.1.keeps verifyAndConsume_obeys
  rcases hKeeps with ⟨ticket, hArrive, hGuard⟩
  have hEarlier : TicketRecorded P cfg earlier := by
    have hTail := hRecorded.drop
    exact ⟨hTail.conforms.2, hTail.executed.2⟩
  exact
    ⟨ticket, hEarlier.ticket_of_arrive hArrive, hGuard⟩

/- A thread has one ticket from its arrival on. -/
theorem requestOf_before
    {thread : Nat}
    {answer : Answer Eff Eff.Res}
    {ticket : String}
    (hRecorded :
      TicketRecorded P cfg
        (later ++ .answer thread answer :: earlier))
    (hTicket :
      requestOf thread
          (later ++ .answer thread answer :: earlier) =
        some ticket) :
    requestOf thread earlier = some ticket := by
  rcases hRecorded.step with ⟨mine, hMine, _⟩
  have hArrive := arrive_of_requestOf hMine
  have hAll :=
    hRecorded.ticket_of_arrive
      (List.mem_append_right later
        (List.mem_cons_of_mem _ hArrive))
  rw [hTicket, Option.some.injEq] at hAll
  rw [hAll]
  exact hMine

/- An accepted claim is listed with its deadline. -/
theorem mem_claims
    {thread : Nat}
    {key : String}
    {ttlSeconds : ℚ}
    (later earlier : TicketHistory) :
    { ticket := requestOf thread earlier
      key := key
      deadline := elapsed earlier + ttlSeconds * 1000 :
        Claim } ∈
      claims
        (later ++
          .answer thread
              ⟨.redisSetNx key ttlSeconds, .ok true⟩ ::
            earlier) := by
  induction later with
  | nil => simp [claims, claimOf]
  | cons entry later ih =>
      rw [List.cons_append, claims]
      exact List.mem_append_right _ ih

end KisAuth

------------------------------------------------------------
-- Single Use
------------------------------------------------------------

namespace KisAuth

open Interaction Store

variable {P : Platform} {cfg : KisAuthConfig}
variable {history : TicketHistory}

/-
  A timely claim finds the key of an earlier claim of the
  same ticket, and is refused.
-/
theorem not_claimed_before
    {later between earlier : TicketHistory}
    {left right : Nat}
    {ticket key : String}
    {ttlSeconds ttlSeconds' : ℚ}
    (hRecorded :
      TicketRecorded P cfg
        (later ++
          .answer right
              ⟨.redisSetNx key ttlSeconds', .ok true⟩ ::
            (between ++
              .answer left
                  ⟨.redisSetNx key ttlSeconds, .ok true⟩ ::
                earlier)))
    (hTimely :
      Timely
        (later ++
          .answer right
              ⟨.redisSetNx key ttlSeconds', .ok true⟩ ::
            (between ++
              .answer left
                  ⟨.redisSetNx key ttlSeconds, .ok true⟩ ::
                earlier)))
    (hLeft : requestOf left earlier = some ticket)
    (hRight :
      requestOf right
          (between ++
            .answer left
                ⟨.redisSetNx key ttlSeconds, .ok true⟩ ::
              earlier) =
        some ticket) :
    False := by
  have hClaim :=
    @mem_claims left key ttlSeconds between earlier
  have hExpired :=
    hRecorded.executed.split.1 _ hClaim rfl
  have hLive :=
    hTimely.split.1 right rfl _ hClaim
      (hLeft.trans hRight.symm)
  exact absurd hLive (not_lt.mpr hExpired)

/- Two threads never both claim one ticket. -/
theorem claimed_once
    {left right : Nat}
    {ticket key : String}
    {ttlSeconds ttlSeconds' : ℚ}
    (hRecorded : TicketRecorded P cfg history)
    (hTimely : Timely history)
    (hLeft :
      Entry.answer left
          ⟨.redisSetNx key ttlSeconds, .ok true⟩ ∈ history)
    (hRight :
      Entry.answer right
          ⟨.redisSetNx key ttlSeconds', .ok true⟩ ∈ history)
    (hTicket : requestOf left history = some ticket)
    (hTicket' : requestOf right history = some ticket) :
    left = right := by
  rcases List.append_of_mem hLeft with
    ⟨later, earlier, rfl⟩
  rcases List.append_of_mem hRight with
    ⟨later', earlier', hSplit⟩
  have hOther := hRecorded
  rw [hSplit] at hOther hTicket'
  have hMine := requestOf_before hRecorded hTicket
  have hTheirs := requestOf_before hOther hTicket'
  rcases positions_cases hSplit with
    ⟨hEntry, _⟩ | ⟨between, rfl⟩ | ⟨between, rfl⟩
  · simp only [Entry.answer.injEq] at hEntry
    exact hEntry.1
  · rw [hSplit] at hTimely
    exact (not_claimed_before hOther hTimely hMine
      hTheirs).elim
  · exact (not_claimed_before hRecorded hTimely hTheirs
      hMine).elim

/- The claim behind an accepted ticket. -/
theorem accepted_claim
    {later earlier : TicketHistory}
    {entry : TicketEntry}
    {ticket : String}
    (hRecorded :
      TicketRecorded P cfg (later ++ entry :: earlier))
    (hAccepted :
      acceptedTicket entry earlier = some ticket) :
    ∃ thread kisUserId key ttlSeconds,
      entry = .respond thread (.ok (.ok kisUserId)) ∧
        requestOf thread earlier = some ticket ∧
        TicketClaim P cfg ticket (answersOf thread earlier)
          kisUserId key ttlSeconds ∧
        Entry.answer thread
            ⟨.redisSetNx key ttlSeconds, .ok true⟩ ∈
          earlier := by
  unfold acceptedTicket at hAccepted
  split at hAccepted
  · next thread kisUserId =>
      have hKeeps :=
        hRecorded.conforms.split.1.keeps
          verifyAndConsume_obeys
      rcases hKeeps with ⟨presented, hArrive, hOutcome⟩
      have hEarlier : TicketRecorded P cfg earlier := by
        have hTail := hRecorded.drop
        exact ⟨hTail.conforms.2, hTail.executed.2⟩
      have hPresented :=
        hEarlier.ticket_of_arrive hArrive
      rw [hAccepted, Option.some.injEq] at hPresented
      subst hPresented
      rcases hOutcome with ⟨key, ttlSeconds, hClaim, hMem⟩
      exact
        ⟨thread, kisUserId, key, ttlSeconds, rfl, hAccepted,
          hClaim, (mem_answersOf_iff _ _ _).mp hMem⟩
  · simp at hAccepted

theorem exists_of_mem_acceptedTickets
    {ticket : String}
    (hMem : ticket ∈ acceptedTickets history) :
    ∃ later entry earlier,
      history = later ++ entry :: earlier ∧
        acceptedTicket entry earlier = some ticket := by
  induction history with
  | nil => simp [acceptedTickets] at hMem
  | cons entry earlier ih =>
      rcases List.mem_append.mp hMem with hHead | hTail
      · rw [Option.mem_toList] at hHead
        exact ⟨[], entry, earlier, rfl, hHead⟩
      · rcases ih hTail with
          ⟨later, other, before, rfl, hAccepted⟩
        exact
          ⟨entry :: later, other, before, rfl, hAccepted⟩

/- One ticket names one key. -/
theorem TicketClaim.key_unique
    {ticket kisUserId kisUserId' key key' : String}
    {past past' : Past}
    {ttlSeconds ttlSeconds' : ℚ}
    (hLeft :
      TicketClaim P cfg ticket past kisUserId key ttlSeconds)
    (hRight :
      TicketClaim P cfg ticket past' kisUserId' key'
        ttlSeconds') :
    key = key' := by
  rcases hLeft.claim with
    ⟨nonce, exp, clock, hRead, _, _, rfl, _⟩
  rcases hRight.claim with
    ⟨nonce', exp', clock', hRead', _, _, rfl, _⟩
  rw [hRead] at hRead'
  simp only [Except.ok.injEq, LinkTicketPayload.mk.injEq]
    at hRead'
  rw [hRead'.2.1]

/- An accepted ticket was not accepted before. -/
theorem not_accepted_before
    {entry : TicketEntry}
    {earlier : TicketHistory}
    {ticket : String}
    (hRecorded : TicketRecorded P cfg (entry :: earlier))
    (hTimely : Timely (entry :: earlier))
    (hAccepted :
      acceptedTicket entry earlier = some ticket) :
    ticket ∉ acceptedTickets earlier := by
  intro hMem
  have hEarlier : TicketRecorded P cfg earlier :=
    ⟨hRecorded.conforms.2, hRecorded.executed.2⟩
  rcases exists_of_mem_acceptedTickets hMem with
    ⟨later, other, before, rfl, hOther⟩
  rcases @accepted_claim P cfg [] _ _ _ hRecorded hAccepted
    with ⟨thread, user, key, ttl, rfl, hTicket, hClaim, hSet⟩
  rcases accepted_claim hEarlier hOther with
    ⟨thread', user', key', ttl', rfl, hTicket', hClaim',
      hSet'⟩
  have hKey := hClaim.key_unique hClaim'
  subst hKey
  have hSetAll :
      Entry.answer thread'
          ⟨.redisSetNx key ttl', .ok true⟩ ∈
        later ++
          .respond thread' (.ok (.ok user')) :: before :=
    List.mem_append_right _ (List.mem_cons_of_mem _ hSet')
  have hTicketAll :=
    hEarlier.ticket_of_arrive
      (List.mem_append_right later
        (List.mem_cons_of_mem _
          (arrive_of_requestOf hTicket')))
  have hThread :=
    claimed_once hEarlier hTimely.2 hSet hSetAll hTicket
      hTicketAll
  subst hThread
  exact hRecorded.conforms.1.1 _
    (List.mem_append_right _ List.mem_cons_self)

/-
  In a run whose claims are all timely, every ticket is
  accepted at most once.
-/
theorem ticket_single_use
    (run : TicketRun P cfg)
    (hTimely : Timely run.history) :
    AcceptedOnce run.history := by
  have hRecorded := run.recorded
  unfold AcceptedOnce
  generalize run.history = history at hRecorded hTimely
  induction history with
  | nil => exact List.nodup_nil
  | cons entry earlier ih =>
      have hEarlier : TicketRecorded P cfg earlier :=
        ⟨hRecorded.conforms.2, hRecorded.executed.2⟩
      have hNodup := ih hEarlier hTimely.2
      rw [acceptedTickets]
      cases hAccepted : acceptedTicket entry earlier with
      | none => simpa using hNodup
      | some ticket =>
          have hNew :=
            not_accepted_before hRecorded hTimely hAccepted
          simpa using ⟨hNew, hNodup⟩

end KisAuth

------------------------------------------------------------
-- Claims Before The Expiry
------------------------------------------------------------

namespace KisAuth

open Interaction Store

variable {P : Platform} {cfg : KisAuthConfig}
variable {history : TicketHistory}

/- A SET NX executes before its ticket expires. -/
def BeforeExpiry
    (P : Platform)
    (cfg : KisAuthConfig)
    (history : TicketHistory) : Prop :=
  Always
    (fun entry earlier =>
      ∀ thread ∈ claimant entry,
        ∀ ticket kisUserId nonce exp,
          requestOf thread earlier = some ticket →
            readTicket P cfg.internalHmacSecret ticket =
                .ok ⟨kisUserId, nonce, .finite exp⟩ →
              (elapsed earlier : ℚ) < exp * 1000)
    history

theorem elapsed_le_append
    (later earlier : TicketHistory) :
    elapsed earlier ≤ elapsed (later ++ earlier) := by
  induction later with
  | nil => exact Nat.le_refl _
  | cons entry later ih =>
      apply ih.trans
      rw [List.cons_append]
      cases entry with
      | env op =>
          cases op with
          | tick milliseconds => exact Nat.le_add_right _ _
          | setIdentityStatus id status => exact Nat.le_refl _
          | setClient clientId client => exact Nat.le_refl _
      | arrive thread ticket => exact Nat.le_refl _
      | answer thread answer => exact Nat.le_refl _
      | respond thread outcome => exact Nat.le_refl _

/- The entry that recorded a claim. -/
theorem exists_of_mem_claims
    {claim : Claim}
    (hMem : claim ∈ claims history) :
    ∃ later earlier thread ttlSeconds,
      history =
          later ++
            .answer thread
                ⟨.redisSetNx claim.key ttlSeconds,
                  .ok true⟩ ::
              earlier ∧
        claim.ticket = requestOf thread earlier ∧
        claim.deadline =
          elapsed earlier + ttlSeconds * 1000 := by
  induction history with
  | nil => simp [claims] at hMem
  | cons entry earlier ih =>
      rcases List.mem_append.mp hMem with hHead | hTail
      · rw [Option.mem_toList] at hHead
        unfold claimOf at hHead
        split at hHead
        · next thread key ttlSeconds =>
            simp only [Option.some.injEq] at hHead
            subst hHead
            exact
              ⟨[], earlier, thread, ttlSeconds, rfl, rfl, rfl⟩
        · simp at hHead
      · rcases ih hTail with
          ⟨later, before, thread, ttlSeconds, rfl, hClaim⟩
        exact
          ⟨entry :: later, before, thread, ttlSeconds, rfl,
            hClaim⟩

/- A claimed key outlives its ticket. -/
theorem claim_outlives_ticket
    {claim : Claim}
    (hRecorded : TicketRecorded P cfg history)
    (hMem : claim ∈ claims history) :
    ∃ ticket kisUserId nonce exp,
      claim.ticket = some ticket ∧
        readTicket P cfg.internalHmacSecret ticket =
          .ok ⟨kisUserId, nonce, .finite exp⟩ ∧
        exp * 1000 ≤ claim.deadline := by
  rcases exists_of_mem_claims hMem with
    ⟨later, earlier, thread, ttlSeconds, rfl, hTicket,
      hDeadline⟩
  rcases hRecorded.step with
    ⟨ticket, hFound, kisUserId, hClaim⟩
  rcases hClaim.claim with
    ⟨nonce, exp, clock, hRead, hClock, _, _, hTtl⟩
  refine
    ⟨ticket, kisUserId, nonce, exp, hTicket.trans hFound,
      hRead, ?_⟩
  rcases List.append_of_mem
      ((mem_answersOf_iff _ _ _).mp hClock) with
    ⟨middle, before, rfl⟩
  have hTail := hRecorded.drop.executed.2
  have hReading : clock = elapsed before := hTail.split.1
  have hLe :
      elapsed before ≤
        elapsed
          (middle ++
            .answer thread ⟨.dateNow, clock⟩ :: before) :=
    elapsed_le_append middle
      (.answer thread ⟨.dateNow, clock⟩ :: before)
  have hWhole : wholeSeconds clock * 1000 ≤ clock :=
    Nat.div_mul_le_self clock 1000
  have hReached :
      (wholeSeconds clock : ℚ) * 1000 ≤
        elapsed
          (middle ++
            .answer thread ⟨.dateNow, clock⟩ :: before) := by
    exact_mod_cast hWhole.trans (hReading.le.trans hLe)
  have hMax : exp - wholeSeconds clock ≤ ttlSeconds := by
    rw [hTtl]
    exact le_max_right _ _
  rw [hDeadline]
  linarith

/- Claims before the expiry of their tickets are timely. -/
theorem timely_of_before_expiry
    (run : TicketRun P cfg)
    (hBefore : BeforeExpiry P cfg run.history) :
    Timely run.history := by
  have hRecorded := run.recorded
  apply always_of_split
  intro later entry earlier hSplit thread hThread claim
    hClaim hSame
  rw [hSplit] at hRecorded hBefore
  have hTail := hRecorded.drop
  have hEarlier : TicketRecorded P cfg earlier :=
    ⟨hTail.conforms.2, hTail.executed.2⟩
  rcases claim_outlives_ticket hEarlier hClaim with
    ⟨ticket, kisUserId, nonce, exp, hTicket, hRead, hLe⟩
  have hNow :=
    hBefore.split.1 thread hThread ticket kisUserId nonce exp
      (hSame.symm.trans hTicket) hRead
  exact hNow.trans_le hLe

end KisAuth

------------------------------------------------------------
-- A Ticket Used Twice
------------------------------------------------------------

namespace KisAuth

open Interaction Store

/- A signed ticket that expires at second 1700000060. -/
def usedTicketPayload : String :=
  "eyJraXNVc2VySWQiOiJ1MSIsIm5vbmNlIjoibjEi" ++
    "LCJleHAiOjE3MDAwMDAwNjB9"

def usedTicketSignature : String :=
  "c9c64cebf4dde7fcdea3b873479abf5f" ++
    "721c699433353d090e2b4eef56deae12"

def usedTicket : String :=
  usedTicketPayload ++ "." ++ usedTicketSignature

def usedTicketJson : String :=
  "\x7b\"kisUserId\":\"u1\",\"nonce\":\"n1\"," ++
    "\"exp\":1700000060\x7d"

/- The runtime, on the texts of that ticket. -/
def ticketPlatform : Platform :=
  { Platform.bare with
    hmacSha256Hex := fun secret payload =>
      if secret = "test-secret" ∧
          payload = usedTicketPayload then
        usedTicketSignature
      else
        ""
    base64urlDecode := fun encoded =>
      if encoded = usedTicketPayload then usedTicketJson
      else ""
    jsonParse := fun text =>
      if text = usedTicketJson then
        some
          (.obj
            [("kisUserId", .str "u1"),
              ("nonce", .str "n1"),
              ("exp", .num ⟨"1700000060", by decide⟩)])
      else
        none
    number := fun text =>
      if text = "1700000060" then some 1700000060 else none }

/-
  Two calls read the clock a minute before the expiry. One
  claims the nonce at once, the other after a delay.
-/
def ticketActions
    (delay : Nat) : List (Action String External EnvOp) :=
  [.env (.tick 1700000000000), .arrive usedTicket,
    .arrive usedTicket, .run 0 .none, .run 1 .none,
    .run 0 .none, .run 0 .none, .env (.tick delay),
    .run 1 .none, .run 1 .none]

/- The run of these actions. -/
def ticketRun (delay : Nat) :=
  Interaction.run (worldSemantics ticketPlatform testConfig)
    (LinkTicketService.verifyAndConsume ticketPlatform
      testConfig.internalHmacSecret)
    (.init (World.empty (fun _ => none)))
    (ticketActions delay)

/- After a minute the second call is accepted as well. -/
theorem ticket_used_twice :
    ∃ run : TicketRun ticketPlatform testConfig,
      ¬AcceptedOnce run.history := by
  have hTwice :
      (ticketRun 60000).map
          (fun state => acceptedTickets state.history) =
        some [usedTicket, usedTicket] := by
    decide +kernel
  rcases Option.map_eq_some_iff.mp hTwice with
    ⟨state, hRun, hAccepted⟩
  refine ⟨⟨state, Reachable.of_run hRun⟩, ?_⟩
  unfold AcceptedOnce TicketRun.history
  rw [hAccepted]
  simp

/- A millisecond earlier, it is refused. -/
theorem ticket_used_once :
    ∃ run : TicketRun ticketPlatform testConfig,
      run.history.length = 10 ∧ AcceptedOnce run.history := by
  have hTimely :
      (ticketRun 59999).map
          (fun state =>
            (state.history.length,
              decide (Timely state.history))) =
        some (10, true) := by
    decide +kernel
  rcases Option.map_eq_some_iff.mp hTimely with
    ⟨state, hRun, hBoth⟩
  simp only [Prod.mk.injEq, decide_eq_true_eq] at hBoth
  exact
    ⟨⟨state, Reachable.of_run hRun⟩, hBoth.1,
      ticket_single_use ⟨state, Reachable.of_run hRun⟩
        hBoth.2⟩

end KisAuth
