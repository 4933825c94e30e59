import KisAuth.Provenance.Grants

/-
  When a callback enters its session, and which session an
  issued code or ticket completes, as a history shows it.

  Key definitions include:
    * `admits`, `Entering`, `enterings`
    * `completed`, `completions`

  Key theorems include:
    * `completed_granted`
    * `Verified.entered`
-/

------------------------------------------------------------
-- Entering A Session
------------------------------------------------------------

namespace KisAuth

open Interaction

/- The callback a thread serves. -/
def callbackOf
    (thread : Nat)
    (history : History) : Option Callback :=
  (requestOf thread history).bind Request.callback

/-
  The checks of a callback on the session it has read:
  there is no error, the code, the exact state and the code
  verifier are there, and the tenant is the session's own.
-/
def admits
    (callback : Callback)
    (session : OAuthSession) : Bool :=
  decide (truthyText callback.query.error = none) &&
    (acceptedCode callback.query session).isSome &&
    callback.tenant.all (fun partnerSlug =>
      decide (session.partnerSlug = some partnerSlug))

/- A callback that read a session and passed its checks. -/
structure Entering where
  thread : Nat
  tenant : Option String
  key : String
  session : OAuthSession

/- The callback an entry lets into its session. -/
def entering
    (entry : ServiceEntry)
    (earlier : History) : Option Entering :=
  match entry with
  | .answer thread ⟨.redisGet key, some (.session session)⟩ =>
      match callbackOf thread earlier with
      | some callback =>
          if admits callback session then
            some ⟨thread, callback.tenant, key, session⟩
          else
            none
      | none => none
  | _ => none

/- All of them, newest first. -/
def enterings : History → List Entering
| [] => []
| entry :: earlier =>
    (entering entry earlier).toList ++ enterings earlier

/- The thread has ended. -/
def hasEnded (thread : Nat) (history : History) : Bool :=
  history.any (fun entry =>
    match entry with
    | .respond other _ => other == thread
    | _ => false)

/- The thread was answered a DEL of the key. -/
def hasDeleted
    (thread : Nat)
    (key : String)
    (history : History) : Bool :=
  (answersOf thread history).any (fun answer =>
    match answer with
    | ⟨.redisDel other, _⟩ => other == key
    | _ => false)

instance RedisValue.decidableIsGrant :
    (value : RedisValue) → Decidable value.isGrant
| .code _ => isTrue trivial
| .ticket _ => isTrue trivial
| .session _ => isFalse id
| .challenge _ => isFalse id
| .claimed => isFalse id
| .count _ => isFalse id

/- The session of the cookie a callback came with. -/
def Callback.sessionId (callback : Callback) : Option String :=
  (sessionCookie callback.req).join

/- The session an entry issues a code or ticket from. -/
def completed
    (entry : ServiceEntry)
    (earlier : History) : Option String :=
  match entry with
  | .answer thread ⟨.redisSet _ value _, .ok ()⟩ =>
      if value.isGrant then
        (callbackOf thread earlier).bind Callback.sessionId
      else
        none
  | _ => none

/- The sessions all codes and tickets were issued from. -/
def completions : History → List String
| [] => []
| entry :: earlier =>
    (completed entry earlier).toList ++ completions earlier

end KisAuth

------------------------------------------------------------
-- What A History Shows
------------------------------------------------------------

namespace KisAuth

open Interaction

variable {P : Platform} {cfg : KisAuthConfig}
variable {history : History}

theorem callbackOf_eq_some
    {thread : Nat}
    {q : Request}
    {callback : Callback}
    (hRecorded : Recorded P cfg history)
    (hArrive : Entry.arrive thread q ∈ history)
    (hCallback : q.callback = some callback) :
    callbackOf thread history = some callback := by
  unfold callbackOf
  rw [requestOf_of_arrive hRecorded.conforms hArrive]
  exact hCallback

theorem exists_of_callbackOf
    {thread : Nat}
    {callback : Callback}
    (hFound : callbackOf thread history = some callback) :
    ∃ q,
      Entry.arrive thread q ∈ history ∧
        q.callback = some callback := by
  rcases Option.bind_eq_some_iff.mp hFound with
    ⟨q, hRequest, hCallback⟩
  exact ⟨q, arrive_of_requestOf hRequest, hCallback⟩

/- The checks a verified callback has passed. -/
theorem Verified.admits
    {callback : Callback}
    {past : Past}
    {sessionId : String}
    {session : OAuthSession}
    {token : VerifiedIdToken}
    (hVerified :
      Verified P cfg callback past sessionId session token) :
    admits callback session = true := by
  unfold KisAuth.admits
  rw [Bool.and_eq_true, Bool.and_eq_true]
  refine ⟨⟨?_, hVerified.accepted⟩, ?_⟩
  · exact decide_eq_true hVerified.noError
  · cases hTenant : callback.tenant with
    | none => rfl
    | some partnerSlug =>
        have hOwn := hVerified.tenant partnerSlug hTenant
        simpa using hOwn

theorem mem_enterings
    {entry : ServiceEntry}
    {entered : Entering}
    (later earlier : History)
    (hEntering : entering entry earlier = some entered) :
    entered ∈ enterings (later ++ entry :: earlier) := by
  induction later with
  | nil =>
      rw [List.nil_append, enterings, hEntering]
      exact List.mem_cons_self
  | cons head later ih =>
      rw [List.cons_append, enterings]
      exact List.mem_append_right _ ih

theorem hasEnded_iff
    (thread : Nat)
    (history : History) :
    hasEnded thread history = true ↔
      ∃ outcome, Entry.respond thread outcome ∈ history := by
  unfold hasEnded
  rw [List.any_eq_true]
  constructor
  · rintro ⟨entry, hMem, hEntry⟩
    split at hEntry
    · next other outcome =>
        have hSame : other = thread := by simpa using hEntry
        subst hSame
        exact ⟨outcome, hMem⟩
    · simp at hEntry
  · rintro ⟨outcome, hMem⟩
    exact ⟨_, hMem, by simp⟩

theorem hasDeleted_iff
    (thread : Nat)
    (key : String)
    (history : History) :
    hasDeleted thread key history = true ↔
      Entry.answer thread ⟨.redisDel key, ()⟩ ∈ history := by
  unfold hasDeleted
  rw [List.any_eq_true]
  constructor
  · rintro ⟨answer, hMem, hAnswer⟩
    split at hAnswer
    · next other value =>
        have hSame : other = key := by simpa using hAnswer
        subst hSame
        exact mem_of_past hMem
    · simp at hAnswer
  · intro hMem
    exact ⟨_, past_of_mem hMem, by simp⟩

end KisAuth

------------------------------------------------------------
-- Completions Are Grants
------------------------------------------------------------

namespace KisAuth

open Interaction Store

variable {P : Platform} {cfg : KisAuthConfig}
variable {history later earlier : History}
variable {thread : Nat} {callback : Callback} {code : String}
variable {value : RedisValue}
variable {sessionId : String} {session : OAuthSession}
variable {token : VerifiedIdToken}

/- What completes a session is a grant from that session. -/
theorem completed_granted
    {entry : ServiceEntry}
    (hRecorded : Recorded P cfg (later ++ entry :: earlier))
    (hCompleted : completed entry earlier = some sessionId) :
    ∃ thread callback code value session token,
      Granted P cfg (later ++ entry :: earlier) thread
        callback code value sessionId session token
        earlier := by
  unfold completed at hCompleted
  split at hCompleted
  · next thread key value ttl =>
      split at hCompleted
      · next hGrant =>
          rcases granted_of_write hRecorded rfl hGrant with
            ⟨callback, code, other, session, token, _,
              hGranted⟩
          rcases hGranted.arrived with
            ⟨q, hArrive, hCallback⟩
          have hEarlier : Recorded P cfg earlier :=
            hRecorded.drop.tail
          rw [callbackOf_eq_some hEarlier hArrive hCallback]
            at hCompleted
          have hCookie := hGranted.verified.reads.cookie
          have hSame : other = sessionId := by
            simpa [Callback.sessionId, hCookie]
              using hCompleted
          subst hSame
          exact
            ⟨thread, callback, code, value, session, token,
              hGranted⟩
      · simp at hCompleted
  · simp at hCompleted

/- Where a verified callback entered its session. -/
theorem Verified.entered
    {q : Request}
    (hRecorded : Recorded P cfg history)
    (hArrive : Entry.arrive thread q ∈ history)
    (hCallback : q.callback = some callback)
    (hVerified :
      Verified P cfg callback (answersOf thread history)
        sessionId session token) :
    ∃ later before,
      history =
          later ++
            .answer thread
                ⟨.redisGet (sessionKey sessionId),
                  some (.session session)⟩ ::
              before ∧
        entering
            (.answer thread
              ⟨.redisGet (sessionKey sessionId),
                some (.session session)⟩) before =
          some
            ⟨thread, callback.tenant, sessionKey sessionId,
              session⟩ := by
  rcases hRecorded.step_of_arrive hArrive
      (mem_of_past hVerified.reads.read) with
    ⟨later, before, hSplit, _, hStep⟩
  have hFound :=
    callbackOf_eq_some hStep.recorded hStep.arrived hCallback
  refine ⟨later, before, hSplit, ?_⟩
  simp only [entering, hFound, hVerified.admits, if_true]

/- So did a callback that completed its session. -/
theorem Granted.entered
    (hGranted :
      Granted P cfg history thread callback code value
        sessionId session token earlier)
    (hRecorded : Recorded P cfg history) :
    ∃ later before,
      history =
          later ++
            .answer thread
                ⟨.redisGet (sessionKey sessionId),
                  some (.session session)⟩ ::
              before ∧
        entering
            (.answer thread
              ⟨.redisGet (sessionKey sessionId),
                some (.session session)⟩) before =
          some
            ⟨thread, callback.tenant, sessionKey sessionId,
              session⟩ := by
  rcases hGranted.arrived with ⟨q, hArrive, hCallback⟩
  rcases hGranted.verified.entered
      (hGranted.recorded hRecorded) hArrive hCallback with
    ⟨later, before, rfl, hEntering⟩
  rcases hGranted.split with ⟨newer, ttl, hSplit⟩
  refine
    ⟨newer ++
        .answer thread
            ⟨.redisSet (grantKey value code) value ttl,
              .ok ()⟩ ::
          later, before, ?_, hEntering⟩
  rw [hSplit, List.append_assoc, List.cons_append]

/- The session was deleted before the grant. -/
theorem Granted.deletes
    (hGranted :
      Granted P cfg history thread callback code value
        sessionId session token earlier) :
    Entry.answer thread
        ⟨.redisDel (sessionKey sessionId), ()⟩ ∈ history :=
  hGranted.lift (mem_of_past hGranted.deleted)

/- The entry that completed a session. -/
theorem exists_of_mem_completions
    (hMem : sessionId ∈ completions history) :
    ∃ later entry earlier,
      history = later ++ entry :: earlier ∧
        completed entry earlier = some sessionId := by
  induction history with
  | nil => simp [completions] at hMem
  | cons entry earlier ih =>
      rcases List.mem_append.mp hMem with hHead | hTail
      · rw [Option.mem_toList] at hHead
        exact ⟨[], entry, earlier, rfl, hHead⟩
      · rcases ih hTail with
          ⟨later, other, before, rfl, hCompleted⟩
        exact
          ⟨entry :: later, other, before, rfl, hCompleted⟩

end KisAuth

------------------------------------------------------------
-- Verified Callbacks
------------------------------------------------------------

namespace KisAuth

open Interaction Store

variable {P : Platform} {cfg : KisAuthConfig}
variable {history : History}
variable {thread : Nat} {callback : Callback} {q : Request}

/- A callback that links its identity is verified. -/
theorem LinkAuthorized.verified
    {past : Past}
    {args : NewIdentity}
    (hAuthorized : LinkAuthorized P cfg q past args)
    (hCallback : q.callback = some callback) :
    ∃ sessionId session token,
      Verified P cfg callback past sessionId session token ∧
        args.provider = callback.provider ∧
        args.providerSubject =
          callback.subject token.sub := by
  rcases hAuthorized with
    ⟨post, rfl, _⟩ |
    ⟨other, sessionId, session, token, hOther, hEarned⟩
  · simp [Request.callback] at hCallback
  · rw [hCallback, Option.some.injEq] at hOther
    subst hOther
    exact
      ⟨sessionId, session, token, hEarned.verified,
        hEarned.provider, hEarned.providerSubject⟩

/- So is a callback that looks its identity up. -/
theorem LookupAuthorized.verified
    {past : Past}
    {provider providerSubject : String}
    (hAuthorized :
      LookupAuthorized P cfg q past provider providerSubject)
    (hCallback : q.callback = some callback) :
    ∃ sessionId session token,
      Verified P cfg callback past sessionId session token ∧
        provider = callback.provider ∧
        providerSubject = callback.subject token.sub := by
  rcases hAuthorized with
    ⟨post, args, rfl, _⟩ |
    ⟨other, sessionId, session, token, hOther, hVerified,
      hProvider, hSubject⟩
  · simp [Request.callback] at hCallback
  · rw [hCallback, Option.some.injEq] at hOther
    subst hOther
    exact
      ⟨sessionId, session, token, hVerified, hProvider,
        hSubject⟩

/- Where a callback looked a row up that it refers to. -/
theorem RowLookedUp.verified
    {id : String}
    (hRecorded : Recorded P cfg history)
    (hArrive : Entry.arrive thread q ∈ history)
    (hCallback : q.callback = some callback)
    (hLookedUp :
      RowLookedUp (answersOf thread history) id) :
    ∃ later earlier sessionId session token row,
      history = later ++ earlier ∧
        Recorded P cfg earlier ∧
        Entry.arrive thread q ∈ earlier ∧
        Verified P cfg callback (answersOf thread earlier)
          sessionId session token ∧
        Entry.answer thread
            ⟨.selectIdentity callback.provider
                (callback.subject token.sub),
              .ok (some row)⟩ ∈ history ∧
        row.id = id := by
  rcases hLookedUp with
    ⟨provider, providerSubject, row, hSelect, hId⟩
  have hMem := mem_of_past hSelect
  rcases hRecorded.step_of_arrive hArrive hMem with
    ⟨later, earlier, hSplit, _, hStep⟩
  rcases hStep.allowed.2.verified hCallback with
    ⟨sessionId, session, token, hVerified, rfl, rfl⟩
  rw [List.append_cons] at hSplit
  exact
    ⟨_, earlier, sessionId, session, token, row, hSplit,
      hStep.recorded, hStep.arrived, hVerified, hMem, hId⟩

end KisAuth
