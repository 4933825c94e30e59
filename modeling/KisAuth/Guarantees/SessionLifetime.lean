import KisAuth.Guarantees.SessionCompletion
import KisAuth.Service.ServiceTimeline

/-
  How long a browser session can be read.

  A session is stored for ten minutes and deleted when it is
  completed. A start route writes it back, for the time Redis
  said it has left and for another ten minutes where Redis
  said that there is none: a session that was deleted or has
  expired meanwhile comes back.

  Key definitions include:
    * `begun`, `renewed`, `Ends`
    * `StaysFinished`, `RenewedInTime`

  Key theorems include:
    * `authorize_lifetime`, `held_session`
    * `session_stays_finished`
    * `finished_session_revived`
-/

------------------------------------------------------------
-- Finished Sessions
------------------------------------------------------------

namespace KisAuth

open Interaction Store

/- The lifetime of a session, in milliseconds. -/
def sessionLifetime : Nat :=
  600 * 1000

/- The key of a session that a GET returns. -/
def sessionRead : ServiceEntry → Option String
| .answer _ ⟨.redisGet key, some (.session _)⟩ => some key
| _ => none

/- The key that a handler deletes. -/
def sessionDeleted : ServiceEntry → Option String
| .answer _ ⟨.redisDel key, _⟩ => some key
| _ => none

/- A thread's write of a session, and for how long. -/
def sessionWritten :
    ServiceEntry → Option (Nat × String × ℚ)
| .answer thread ⟨.redisSet key (.session _) ttl, .ok _⟩ =>
    some (thread, key, ttl)
| _ => none

/- Whether a thread serves a request to /authorize. -/
def authorizes (thread : Nat) (earlier : Timeline) : Bool :=
  match requestOf thread (entriesOf earlier) with
  | some (.authorize _ _) => true
  | _ => false

/- The key of a session that /authorize creates. -/
def begun
    (moment : ServiceMoment)
    (earlier : Timeline) : Option String :=
  match sessionWritten moment.entry with
  | some (thread, key, _) =>
      if authorizes thread earlier then some key else none
  | none => none

/- The key of a session that is written back, and the time. -/
def renewed
    (moment : ServiceMoment)
    (earlier : Timeline) : Option (String × ℚ) :=
  match sessionWritten moment.entry with
  | some (thread, key, ttlSeconds) =>
      if authorizes thread earlier then none
      else some (key, ttlSeconds)
  | none => none

/- A session that is there is deleted, or has expired. -/
def Ends
    (key : String)
    (moment : ServiceMoment)
    (earlier : Timeline) : Prop :=
  ∃ item ∈ itemsAt earlier key,
    sessionDeleted moment.entry = some key ∨
      item.live moment.stamp = false

instance
    (key : String)
    (moment : ServiceMoment)
    (earlier : Timeline) :
    Decidable (Ends key moment earlier) :=
  inferInstanceAs
    (Decidable
      (∃ item ∈ itemsAt earlier key,
        sessionDeleted moment.entry = some key ∨
          item.live moment.stamp = false))

/- The session was neither deleted nor did it expire. -/
def Unfinished (key : String) (timeline : Timeline) : Prop :=
  Always (fun moment earlier => ¬Ends key moment earlier)
    timeline

instance (key : String) (timeline : Timeline) :
    Decidable (Unfinished key timeline) :=
  inferInstanceAs
    (Decidable
      (Always (fun moment earlier => ¬Ends key moment earlier)
        timeline))

/- The instant is within the lifetime of the session. -/
def Within
    (key : String)
    (instant : Nat)
    (timeline : Timeline) : Prop :=
  Always
    (fun moment earlier =>
      begun moment earlier = some key →
        instant ≤ moment.stamp + sessionLifetime)
    timeline

instance
    (key : String)
    (instant : Nat)
    (timeline : Timeline) :
    Decidable (Within key instant timeline) :=
  inferInstanceAs
    (Decidable
      (Always
        (fun moment earlier =>
          begun moment earlier = some key →
            instant ≤ moment.stamp + sessionLifetime)
        timeline))

/-
  A session that is read has neither been deleted nor has it
  expired, and it was created no longer ago than it lasts.
-/
def StaysFinished (timeline : Timeline) : Prop :=
  Always
    (fun moment earlier =>
      ∀ key ∈ sessionRead moment.entry,
        Unfinished key earlier ∧
          Within key moment.stamp earlier)
    timeline

instance (timeline : Timeline) :
    Decidable (StaysFinished timeline) :=
  inferInstanceAs
    (Decidable
      (Always
        (fun moment earlier =>
          ∀ key ∈ sessionRead moment.entry,
            Unfinished key earlier ∧
              Within key moment.stamp earlier)
        timeline))

/-
  A session is written back while it is there, and until its
  lifetime is over at most.
-/
def RenewedInTime
    (moment : ServiceMoment)
    (earlier : Timeline) : Prop :=
  ∀ renewal ∈ renewed moment earlier,
    ((itemsAt earlier).find moment.stamp
          renewal.1).isSome = true ∧
      ∀ deadline ∈ validExpire moment.stamp renewal.2,
        Within renewal.1 deadline earlier

instance
    (moment : ServiceMoment)
    (earlier : Timeline) :
    Decidable (RenewedInTime moment earlier) :=
  inferInstanceAs
    (Decidable
      (∀ renewal ∈ renewed moment earlier,
        ((itemsAt earlier).find moment.stamp
              renewal.1).isSome = true ∧
          ∀ deadline ∈ validExpire moment.stamp renewal.2,
            Within renewal.1 deadline earlier))

end KisAuth

------------------------------------------------------------
-- The Lifetime A Session Is Created With
------------------------------------------------------------

namespace KisAuth

open Interaction Prog

variable {P : Platform} {cfg : KisAuthConfig}

/- A call that stores nothing for another time. -/
def ForLifetime : Eff → Prop
| .redisSet _ _ ttlSeconds => ttlSeconds = sessionTtlSeconds
| _ => True

/- What a request to /authorize stores, for how long. -/
def CreatesForLifetime
    (q : Request)
    (_ : Past)
    (effect : Eff) : Prop :=
  ∀ query req, q = .authorize query req → ForLifetime effect

variable {past : Past}

theorem verifyAndConsume_lifetime
    {final :
      Past → Except HttpError LinkTicketVerifyResult → Prop}
    (hFinal : ∀ later outcome, final later outcome)
    (secret ticket : String) :
    Obeys (fun _ => ForLifetime) final
      (LinkTicketService.verifyAndConsume P secret ticket)
      past := by
  unfold LinkTicketService.verifyAndConsume
  split
  · exact hFinal _ _
  · refine ⟨trivial, fun clock => ?_⟩
    simp only [bind_ret]
    split
    · exact hFinal _ _
    · exact hFinal _ _
    · split
      · exact hFinal _ _
      · refine ⟨trivial, fun result => ?_⟩
        cases result with
        | error error => exact hFinal _ _
        | ok claimed =>
            cases claimed with
            | true => exact hFinal _ _
            | false => exact hFinal _ _

theorem linkUser_lifetime
    {final : Past → Except HttpError (Option String) → Prop}
    (hFinal : ∀ later outcome, final later outcome)
    (query : AuthorizeQuery)
    (purpose : String)
    (req : BrowserRequest) :
    Obeys (fun _ => ForLifetime) final
      (OAuthController.linkUser P cfg query purpose req)
      past := by
  unfold OAuthController.linkUser
  split
  · split
    · exact hFinal _ _
    · apply Obeys.andThen
      apply verifyAndConsume_lifetime
      intro later outcome
      cases outcome with
      | error error => exact hFinal _ _
      | ok result =>
          cases result with
          | ok kisUserId => exact hFinal _ _
          | refused reason =>
              exact ⟨trivial, fun _ => hFinal _ _⟩
  · exact hFinal _ _

/- A session is created for ten minutes. -/
theorem authorize_lifetime
    {final : Past → Except HttpError Response → Prop}
    (hFinal : ∀ later outcome, final later outcome)
    (query : AuthorizeQuery)
    (req : BrowserRequest) :
    Obeys (fun _ => ForLifetime) final
      (OAuthController.authorize P cfg query req) past := by
  unfold OAuthController.authorize
  refine ⟨trivial, fun hits => ?_⟩
  simp only [pure_eq, bind_ret, decide_eq_true_eq]
  by_cases hLimit : hits ≤ RateLimits.authorize.limit
  · simp only [hLimit, if_true, bind_ret]
    refine ⟨trivial, fun rows => ?_⟩
    cases rows with
    | error error => exact hFinal _ _
    | ok client =>
        simp only [orSqlCrash, bind_ret]
        split
        · split
          · apply Obeys.andThen
            apply linkUser_lifetime
            intro later outcome
            cases outcome with
            | error error => exact hFinal _ _
            | ok linkKisUserId =>
                refine ⟨trivial, fun state => ?_⟩
                refine ⟨trivial, fun nonce => ?_⟩
                refine ⟨trivial, fun sessionId => ?_⟩
                refine ⟨rfl, fun result => ?_⟩
                cases result with
                | error error => exact hFinal _ _
                | ok stored => exact hFinal _ _
          · exact hFinal _ _
        · exact hFinal _ _
  · simp only [hLimit, if_false, bind_throw]
    exact hFinal _ _

theorem handler_lifetime (q : Request) :
    Obeys (CreatesForLifetime q) (fun _ _ => True)
      (handler P cfg q) [] := by
  by_cases hAuthorize :
      ∃ query req, q = .authorize query req
  · rcases hAuthorize with ⟨query, req, rfl⟩
    apply
      (authorize_lifetime (fun _ _ => trivial) query req).mono
    · intro _ effect hLifetime _ _ _
      exact hLifetime
    · exact fun _ _ _ => trivial
  · apply (handler_obeys q).mono
    · intro _ effect _ query req hEq
      exact absurd ⟨query, req, hEq⟩ hAuthorize
    · exact fun _ _ _ => trivial

end KisAuth

------------------------------------------------------------
-- Who Writes A Session
------------------------------------------------------------

namespace KisAuth

open Interaction Store

variable {P : Platform} {cfg : KisAuthConfig}
variable {moment : ServiceMoment} {earlier : Timeline}
variable {sessionId : String}

/- A value stored under the key of a session is one. -/
theorem session_of_touch
    {value : RedisValue}
    (hRecorded :
      Recorded P cfg (entriesOf (moment :: earlier)))
    (hTouch :
      touch moment.entry (sessionKey sessionId) =
        some (some value)) :
    ∃ thread session ttlSeconds,
      moment.entry =
        .answer thread
          ⟨.redisSet (sessionKey sessionId)
            (.session session) ttlSeconds, .ok ()⟩ := by
  rw [entriesOf_cons] at hRecorded
  rcases touch_cases hTouch with
    ⟨thread, ttlSeconds, hEntry⟩ |
    ⟨_, thread, ttlSeconds, hEntry⟩ |
    ⟨thread, window, hits, _, hEntry⟩
  · rw [hEntry] at hRecorded
    rcases hRecorded.step_head with ⟨q, hStep⟩
    have hAllowed := hStep.allowed
    cases value with
    | session session =>
        exact ⟨thread, session, ttlSeconds, hEntry⟩
    | challenge record =>
        rcases hAllowed with ⟨_, _, _, _, _, _, hKey, _⟩
        simp [sessionKey, challengeKey] at hKey
    | code payload =>
        rcases hAllowed with ⟨_, _, _, _, _, hIssued⟩
        rcases hIssued.code with ⟨_, hKey, _⟩
        simp [sessionKey, codeKey] at hKey
    | ticket payload =>
        rcases hAllowed with ⟨_, _, _, _, _, hIssued⟩
        rcases hIssued.code with ⟨_, hKey, _⟩
        simp [sessionKey, regTicketKey] at hKey
    | claimed => exact hAllowed.elim
    | count hits => exact hAllowed.elim
  · rw [hEntry] at hRecorded
    rcases hRecorded.step_head with ⟨q, hStep⟩
    rcases hStep.allowed with ⟨nonce, hKey⟩
    simp [sessionKey, linkNonceKey] at hKey
  · rw [hEntry] at hRecorded
    rcases hRecorded.step_head with ⟨q, hStep⟩
    rcases counter_key hStep.allowed with
      ⟨scope, identifier, hKey⟩
    simp [sessionKey, rateLimitKey] at hKey

theorem sessionRead_eq_some
    {entry : ServiceEntry}
    {key : String}
    (hRead : sessionRead entry = some key) :
    ∃ thread session,
      entry =
        .answer thread
          ⟨.redisGet key, some (.session session)⟩ := by
  unfold sessionRead at hRead
  split at hRead
  · rw [Option.some.injEq] at hRead
    subst hRead
    exact ⟨_, _, rfl⟩
  · simp at hRead

/- A session is read under the key of a session. -/
theorem session_key_of_read
    {thread : Nat}
    {key : String}
    {session : OAuthSession}
    (hRecorded :
      Recorded P cfg (entriesOf (moment :: earlier)))
    (hEntry :
      moment.entry =
        .answer thread
          ⟨.redisGet key, some (.session session)⟩) :
    ∃ sessionId, key = sessionKey sessionId := by
  rw [entriesOf_cons, hEntry] at hRecorded
  rcases hRecorded.step_head with ⟨q, hStep⟩
  rcases stored_origin hStep.recorded
      (hStep.faithful _ rfl) trivial with
    ⟨_, _, _, _, _, _, hWrite⟩
  rcases hWrite.allowed with ⟨sessionId, hKey, _⟩
  exact ⟨sessionId, hKey⟩

/- A session nobody has written is not there. -/
theorem itemsAt_unwritten
    {timeline : Timeline}
    (hRecorded : Recorded P cfg (entriesOf timeline))
    (hReplays : Always Replays timeline)
    (hUnwritten :
      ∀ writer session ttlSeconds,
        .answer writer
            ⟨.redisSet (sessionKey sessionId)
              (.session session) ttlSeconds, .ok ()⟩ ∉
          entriesOf timeline) :
    itemsAt timeline (sessionKey sessionId) = none := by
  induction timeline with
  | nil => rfl
  | cons moment earlier ih =>
      have hBefore :
          itemsAt earlier (sessionKey sessionId) = none := by
        apply ih hRecorded.tail hReplays.2
        intro writer session ttlSeconds hMem
        exact
          hUnwritten writer session ttlSeconds
            (List.mem_cons_of_mem _ hMem)
      cases hTouch :
          touch moment.entry (sessionKey sessionId) with
      | none =>
          rw [itemsAt_untouched hReplays.1 hTouch]
          exact hBefore
      | some content =>
          cases content with
          | none => exact itemsAt_removed hReplays.1 hTouch
          | some value =>
              rcases session_of_touch hRecorded hTouch with
                ⟨thread, session, ttlSeconds, hEntry⟩
              apply absurd _
                (hUnwritten thread session ttlSeconds)
              rw [entriesOf_cons, hEntry]
              exact List.mem_cons_self

/- Nobody has written a session before it is created. -/
theorem unwritten_before_creation
    {history : History}
    {thread : Nat}
    {query : AuthorizeQuery}
    {req : BrowserRequest}
    {created : OAuthSession}
    {ttl : ℚ}
    (hRecorded :
      Recorded P cfg
        (.answer thread
            ⟨.redisSet (sessionKey sessionId)
              (.session created) ttl, .ok ()⟩ ::
          history))
    (hArrive :
      Entry.arrive thread (.authorize query req) ∈ history)
    (hCreated :
      SessionCreated P cfg query (answersOf thread history)
        sessionId created)
    (writer : Nat)
    (session : OAuthSession)
    (ttlSeconds : ℚ) :
    .answer writer
        ⟨.redisSet (sessionKey sessionId) (.session session)
          ttlSeconds, .ok ()⟩ ∉
      history := by
  intro hMem
  have hMinted :
      Minted P cfg
        (.answer thread
            ⟨.redisSet (sessionKey sessionId)
              (.session created) ttl, .ok ()⟩ ::
          history)
        thread query sessionId created :=
    ⟨[], history, ttl, req, rfl, hArrive, hCreated⟩
  rcases List.append_of_mem hMem with
    ⟨later, before, hSplit⟩
  have hStored :
      stored
          (.answer writer
              ⟨.redisSet (sessionKey sessionId)
                (.session session) ttlSeconds, .ok ()⟩ ::
            before)
          (sessionKey sessionId) =
        some (.session session) :=
    lastWrite_cons_of_touched (by simp [touch, touchOf]) _
  have hBefore := hRecorded.tail
  rw [hSplit] at hBefore
  rcases session_origin hBefore.drop hStored with
    ⟨minter, query', created', hOlder, _⟩
  have hLifted := hOlder.append later
  rw [← hSplit] at hLifted
  have hAgain :=
    hLifted.append
      [.answer thread
        ⟨.redisSet (sessionKey sessionId) (.session created)
          ttl, .ok ()⟩]
  rcases minted_unique hRecorded hMinted hAgain with
    ⟨rfl, _, _⟩
  rcases hLifted.position with
    ⟨_, _, oldTtl, _, hOld, _⟩
  have hFirst := hCreated.first
  have hWritten :
      (sessionKey sessionId, RedisValue.session created') ∈
        writes (answersOf thread history) := by
    apply mem_writes oldTtl (.ok ())
    rw [hOld]
    simp
  rw [hFirst] at hWritten
  simp at hWritten

end KisAuth

------------------------------------------------------------
-- Sessions That Are There
------------------------------------------------------------

namespace KisAuth

open Interaction Store

variable {P : Platform} {cfg : KisAuthConfig}
variable {timeline earlier : Timeline}
variable {moment : ServiceMoment}

/- A timeline whose sessions are written back in time. -/
structure InTime
    (P : Platform)
    (cfg : KisAuthConfig)
    (timeline : Timeline) : Prop where
  recorded : Recorded P cfg (entriesOf timeline)
  replays : Always Replays timeline
  renewed : Always RenewedInTime timeline

theorem InTime.drop
    {later : Timeline}
    (hInTime : InTime P cfg (later ++ earlier)) :
    InTime P cfg earlier where
  recorded := by
    have hAll := hInTime.recorded
    unfold entriesOf at hAll ⊢
    rw [List.map_append] at hAll
    exact hAll.drop
  replays := hInTime.replays.drop
  renewed := hInTime.renewed.drop

theorem InTime.tail
    (hInTime : InTime P cfg (moment :: earlier)) :
    InTime P cfg earlier where
  recorded := hInTime.recorded.tail
  replays := hInTime.replays.2
  renewed := hInTime.renewed.2

/-
  What is known of an item that is there: until when it can
  be read, and that it can be read since it was created.
-/
structure Lasts
    (key : String)
    (item : Item RedisValue)
    (timeline : Timeline) : Prop where
  deadline :
    ∃ deadline,
      item.deadline = some deadline ∧
        Within key deadline timeline
  unfinished :
    ∀ instant,
      (∀ moment ∈ timeline, moment.stamp ≤ instant) →
        item.live instant = true → Unfinished key timeline

/- A session nobody has written has not finished. -/
theorem unfinished_of_unwritten
    {sessionId : String}
    (hRecorded : Recorded P cfg (entriesOf timeline))
    (hReplays : Always Replays timeline)
    (hUnwritten :
      ∀ writer session ttlSeconds,
        .answer writer
            ⟨.redisSet (sessionKey sessionId)
              (.session session) ttlSeconds, .ok ()⟩ ∉
          entriesOf timeline) :
    Unfinished (sessionKey sessionId) timeline := by
  induction timeline with
  | nil => trivial
  | cons moment earlier ih =>
      have hBefore :
          ∀ writer session ttlSeconds,
            .answer writer
                ⟨.redisSet (sessionKey sessionId)
                  (.session session) ttlSeconds, .ok ()⟩ ∉
              entriesOf earlier := by
        intro writer session ttlSeconds hMem
        exact
          hUnwritten writer session ttlSeconds
            (List.mem_cons_of_mem _ hMem)
      refine ⟨?_, ih hRecorded.tail hReplays.2 hBefore⟩
      rintro ⟨item, hItem, _⟩
      rw [itemsAt_unwritten hRecorded.tail hReplays.2
        hBefore] at hItem
      simp at hItem

/- What begins a session is a write of it. -/
theorem written_of_begun
    {key : String}
    (hBegun : begun moment earlier = some key) :
    ∃ thread session ttlSeconds,
      moment.entry =
        .answer thread
          ⟨.redisSet key (.session session) ttlSeconds,
            .ok ()⟩ := by
  unfold begun sessionWritten at hBegun
  split at hBegun
  · next thread other ttlSeconds hWritten =>
      split at hWritten
      · next hEntry =>
          split at hBegun
          · simp only [Option.some.injEq, Prod.mk.injEq]
              at hWritten hBegun
            rcases hWritten with ⟨rfl, rfl, rfl⟩
            subst hBegun
            exact ⟨_, _, _, hEntry⟩
          · simp at hBegun
      · simp at hWritten
  · simp at hBegun

/- A session nobody has written has not begun either. -/
theorem within_of_unwritten
    {key : String}
    (instant : Nat)
    (hUnwritten :
      ∀ writer session ttlSeconds,
        .answer writer
            ⟨.redisSet key (.session session) ttlSeconds,
              .ok ()⟩ ∉
          entriesOf timeline) :
    Within key instant timeline := by
  induction timeline with
  | nil => trivial
  | cons moment earlier ih =>
      refine ⟨?_, ?_⟩
      · intro hBegun
        rcases written_of_begun hBegun with
          ⟨thread, session, ttlSeconds, hEntry⟩
        apply absurd _ (hUnwritten thread session ttlSeconds)
        rw [entriesOf_cons, hEntry]
        exact List.mem_cons_self
      · apply ih
        intro writer session ttlSeconds hMem
        exact
          hUnwritten writer session ttlSeconds
            (List.mem_cons_of_mem _ hMem)

/- Which request writes a session, and for how long. -/
theorem session_written_cases
    {thread : Nat}
    {sessionId : String}
    {session : OAuthSession}
    {ttlSeconds : ℚ}
    (hRecorded :
      Recorded P cfg (entriesOf (moment :: earlier)))
    (hEntry :
      moment.entry =
        .answer thread
          ⟨.redisSet (sessionKey sessionId)
            (.session session) ttlSeconds, .ok ()⟩) :
    (begun moment earlier = some (sessionKey sessionId) ∧
        ttlSeconds = sessionTtlSeconds ∧
        ∀ writer other ttl,
          .answer writer
              ⟨.redisSet (sessionKey sessionId)
                (.session other) ttl, .ok ()⟩ ∉
            entriesOf earlier) ∨
      (begun moment earlier = none ∧
        renewed moment earlier =
          some (sessionKey sessionId, ttlSeconds)) := by
  rw [entriesOf_cons, hEntry] at hRecorded
  rcases hRecorded.step_head with ⟨q, hStep⟩
  have hServed :=
    requestOf_of_arrive hStep.recorded.conforms
      hStep.arrived
  have hWritten :
      sessionWritten moment.entry =
        some (thread, sessionKey sessionId, ttlSeconds) := by
    rw [hEntry]
    rfl
  rcases hStep.allowed with
    ⟨other, hKey, hCreated | hRestarted⟩
  · have hSame : sessionId = other :=
      ((storeKey_inj _ _ _ _).mp hKey).2
    subst hSame
    rcases hCreated with ⟨query, req, rfl, hCreated⟩
    refine Or.inl ⟨?_, ?_, ?_⟩
    · simp [begun, hWritten, authorizes, hServed]
    · rcases
          hRecorded.conforms.1.keeps handler_lifetime with
        ⟨request, hArrive, hLifetime⟩
      have hRequest :=
        hStep.recorded.request_unique hArrive hStep.arrived
      exact hLifetime query req hRequest
    · exact
        unwritten_before_creation hRecorded hStep.arrived
          hCreated
  · rcases hRestarted.route with
      ⟨req, _, rfl | ⟨partnerSlug, rfl, _⟩⟩
    · refine Or.inr ⟨?_, ?_⟩
      · simp [begun, hWritten, authorizes, hServed]
      · simp [renewed, hWritten, authorizes, hServed]
    · refine Or.inr ⟨?_, ?_⟩
      · simp [begun, hWritten, authorizes, hServed]
      · simp [renewed, hWritten, authorizes, hServed]

/- An entry that leaves a session alone creates no session. -/
theorem untouched_session
    {key : String}
    (hTouch : touch moment.entry key = none) :
    begun moment earlier ≠ some key ∧
      sessionDeleted moment.entry ≠ some key := by
  constructor
  · intro hBegun
    rcases written_of_begun hBegun with
      ⟨thread, session, ttlSeconds, hEntry⟩
    simp [hEntry, touch, touchOf] at hTouch
  · intro hDeleted
    unfold sessionDeleted at hDeleted
    split at hDeleted
    · next hEntry =>
        rw [Option.some.injEq] at hDeleted
        subst hDeleted
        simp [hEntry, touch, touchOf] at hTouch
    · simp at hDeleted

end KisAuth

------------------------------------------------------------
-- Sessions Stay Finished
------------------------------------------------------------

namespace KisAuth

open Interaction Store

variable {P : Platform} {cfg : KisAuthConfig}
variable {timeline earlier : Timeline}
variable {moment : ServiceMoment} {sessionId : String}

/- A moment that leaves a session alone. -/
theorem Lasts.untouched
    {item : Item RedisValue}
    (hReplays : Replays moment earlier)
    (hTouch :
      touch moment.entry (sessionKey sessionId) = none)
    (hItem : itemsAt earlier (sessionKey sessionId) = some item)
    (hLasts : Lasts (sessionKey sessionId) item earlier) :
    Lasts (sessionKey sessionId) item
      (moment :: earlier) := by
  rcases untouched_session hTouch with ⟨hBegun, hDeleted⟩
  rcases hLasts.deadline with ⟨deadline, hDeadline, hWithin⟩
  refine ⟨⟨deadline, hDeadline, ?_, hWithin⟩, ?_⟩
  · intro hBegins
    exact absurd hBegins hBegun
  · intro instant hLatest hLive
    have hNow : item.live moment.stamp = true :=
      Item.live_of_le (hLatest moment List.mem_cons_self) hLive
    refine
      ⟨?_, hLasts.unfinished _ hReplays.later hNow⟩
    rintro ⟨other, hOther, hEnds⟩
    rw [hItem, Option.mem_some_iff] at hOther
    subst hOther
    rcases hEnds with hDelete | hDead
    · exact hDeleted hDelete
    · simp [hNow] at hDead

/- A moment at which a session is created. -/
theorem Lasts.created
    {session : OAuthSession}
    {deadline : Nat}
    (hInTime : InTime P cfg (moment :: earlier))
    (hDeadline :
      validExpire moment.stamp sessionTtlSeconds =
        some deadline)
    (hFirst :
      ∀ writer other ttl,
        .answer writer
            ⟨.redisSet (sessionKey sessionId)
              (.session other) ttl, .ok ()⟩ ∉
          entriesOf earlier) :
    Lasts (sessionKey sessionId)
      ⟨.session session, some deadline⟩
      (moment :: earlier) := by
  have hBefore := hInTime.tail
  refine ⟨⟨deadline, rfl, ?_, ?_⟩, ?_⟩
  · intro _
    have hInstant := validExpire_spec hDeadline
    unfold sessionTtlSeconds at hInstant
    unfold sessionLifetime
    norm_num at hInstant
    have hExact : deadline = moment.stamp + 600000 := by
      exact_mod_cast hInstant
    omega
  · exact within_of_unwritten deadline hFirst
  · intro instant _ _
    refine
      ⟨?_,
        unfinished_of_unwritten hBefore.recorded
          hBefore.replays hFirst⟩
    rintro ⟨other, hOther, _⟩
    rw [itemsAt_unwritten hBefore.recorded hBefore.replays
      hFirst] at hOther
    simp at hOther

/- A moment at which a session is written back in time. -/
theorem Lasts.rewritten
    {value : RedisValue}
    {ttlSeconds : ℚ}
    {deadline : Nat}
    (hInTime : InTime P cfg (moment :: earlier))
    (hBegun : begun moment earlier = none)
    (hRenewed :
      renewed moment earlier =
        some (sessionKey sessionId, ttlSeconds))
    (hDeadline :
      validExpire moment.stamp ttlSeconds = some deadline)
    (hKept :
      ∀ item,
        itemsAt earlier (sessionKey sessionId) = some item →
          Lasts (sessionKey sessionId) item earlier) :
    Lasts (sessionKey sessionId) ⟨value, some deadline⟩
      (moment :: earlier) := by
  have hReplays := hInTime.replays.1
  rcases hInTime.renewed.1 _ hRenewed with
    ⟨hThere, hWithin⟩
  rcases Option.isSome_iff_exists.mp hThere with
    ⟨old, hFind⟩
  rcases Expiring.eq_some_of_find hFind with ⟨hOld, hLive⟩
  refine ⟨⟨deadline, rfl, ?_, hWithin _ hDeadline⟩, ?_⟩
  · intro hBegins
    rw [hBegun] at hBegins
    simp at hBegins
  · intro instant _ _
    refine
      ⟨?_, (hKept old hOld).unfinished _ hReplays.later hLive⟩
    rintro ⟨other, hOther, hEnds⟩
    rw [hOld, Option.mem_some_iff] at hOther
    subst hOther
    rcases hEnds with hDelete | hDead
    · unfold renewed sessionWritten at hRenewed
      unfold sessionDeleted at hDelete
      split at hDelete
      · next hEntry => simp [hEntry] at hRenewed
      · simp at hDelete
    · simp [hLive] at hDead

end KisAuth

------------------------------------------------------------
-- Sessions Over Runs
------------------------------------------------------------

namespace KisAuth

open Interaction Store

variable {P : Platform} {cfg : KisAuthConfig}
variable {timeline : Timeline} {sessionId : String}

/-
  What is known of every session that is there. The induction
  is on the timeline: its newest moment leaves the session
  alone, creates it or writes it back.
-/
theorem held_session
    {item : Item RedisValue}
    (hInTime : InTime P cfg timeline)
    (hItem :
      itemsAt timeline (sessionKey sessionId) = some item) :
    Lasts (sessionKey sessionId) item timeline := by
  induction timeline generalizing item with
  | nil => simp [itemsAt] at hItem
  | cons moment earlier ih =>
      have hReplays := hInTime.replays.1
      cases hTouch :
          touch moment.entry (sessionKey sessionId) with
      | none =>
          rw [itemsAt_untouched hReplays hTouch] at hItem
          exact
            Lasts.untouched hReplays hTouch hItem
              (ih hInTime.tail hItem)
      | some content =>
          cases content with
          | none =>
              rw [itemsAt_removed hReplays hTouch] at hItem
              simp at hItem
          | some value =>
              rcases session_of_touch hInTime.recorded hTouch
                with ⟨thread, session, ttlSeconds, hEntry⟩
              rcases itemsAt_set hReplays hEntry with
                ⟨deadline, hDeadline, hSet⟩
              rw [hSet, Option.some.injEq] at hItem
              subst hItem
              rcases session_written_cases hInTime.recorded
                  hEntry with
                ⟨hBegun, rfl, hFirst⟩ | ⟨hBegun, hRenewed⟩
              · exact
                  Lasts.created hInTime hDeadline hFirst
              · apply
                  Lasts.rewritten hInTime hBegun hRenewed
                    hDeadline
                intro old hOld
                exact ih hInTime.tail hOld

/-
  In every run in which sessions are written back in time, a
  session that has finished is never read again, and none is
  read after its lifetime.
-/
theorem session_stays_finished
    (run : TimedRun P cfg)
    (hRenewed : Always RenewedInTime run.timeline) :
    StaysFinished run.timeline := by
  have hRecorded := run.run.recorded
  rw [← run.entriesOf_eq] at hRecorded
  have hAll : InTime P cfg run.timeline :=
    ⟨hRecorded, run.replayed.always, hRenewed⟩
  unfold StaysFinished
  apply always_of_split
  intro later moment earlier hSplit key hRead
  rw [hSplit] at hAll
  have hHere := hAll.drop
  have hReplays := hHere.replays.1
  rcases sessionRead_eq_some hRead with
    ⟨thread, session, hEntry⟩
  rcases session_key_of_read hHere.recorded hEntry with
    ⟨sessionId, rfl⟩
  rcases item_of_read hReplays hEntry with
    ⟨item, hItem, hLive, _⟩
  have hLasts := held_session hHere.tail hItem
  rcases hLasts.deadline with ⟨deadline, hDeadline, hWithin⟩
  have hNow : moment.stamp < deadline := by
    simpa [Item.live, hDeadline] using hLive
  refine ⟨hLasts.unfinished _ hReplays.later hLive, ?_⟩
  apply hWithin.mono
  intro other before hBounded hBegun
  have hBound := hBounded hBegun
  omega

end KisAuth

------------------------------------------------------------
-- A Finished Session That Is Read
------------------------------------------------------------

namespace KisAuth

open Interaction

/- A run of some actions, with the clock of each step. -/
def flowTimeline (actions : FlowActions) :=
  runTimed (worldSemantics flowPlatform testConfig)
    (handler flowPlatform testConfig) World.clock []
    (.init (World.empty flowClients)) actions

/- The session was completed, and is read again. -/
theorem finished_session_revived :
    ∃ run : TimedRun flowPlatform testConfig,
      ¬StaysFinished run.timeline := by
  have hRead :
      (flowTimeline revivalActions).map
          (fun timed => decide (StaysFinished timed.1)) =
        some false := by
    decide +kernel
  rcases Option.map_eq_some_iff.mp hRead with
    ⟨⟨timeline, state⟩, hRun, hFinished⟩
  rw [decide_eq_false_iff_not] at hFinished
  exact
    ⟨⟨flowClients, timeline, state, Timed.of_run hRun⟩,
      hFinished⟩

/- A session that is started five seconds after its begin. -/
def promptActions : FlowActions :=
  authorizeActions 0 none ++ [.env (.tick 5000)] ++
    readActions 1 ++ startActions 1 "v1" ++
      enterActions 2 "c1" ++ completeActions 2 "t1" ++
        enterActions 3 "c2"

/- It is read twice until it is completed, and no more. -/
theorem prompt_session_stays_finished :
    ∃ run : TimedRun flowPlatform testConfig,
      run.run.history.filterMap sessionRead =
          [sessionKey "s1", sessionKey "s1"] ∧
        StaysFinished run.timeline := by
  have hRead :
      (flowTimeline promptActions).map
          (fun timed =>
            (timed.2.history.filterMap sessionRead,
              decide (Always RenewedInTime timed.1))) =
        some ([sessionKey "s1", sessionKey "s1"], true) := by
    decide +kernel
  rcases Option.map_eq_some_iff.mp hRead with
    ⟨⟨timeline, state⟩, hRun, hBoth⟩
  simp only [Prod.mk.injEq, decide_eq_true_eq] at hBoth
  exact
    ⟨⟨flowClients, timeline, state, Timed.of_run hRun⟩,
      hBoth.1,
      session_stays_finished
        ⟨flowClients, timeline, state, Timed.of_run hRun⟩
        hBoth.2⟩

end KisAuth
