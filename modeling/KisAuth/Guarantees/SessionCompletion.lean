import KisAuth.Provenance.Completions

/-
  A browser session is completed once.

  A callback reads its session first and deletes it at the
  end. Nothing stops a second callback from reading it in
  between, or a start route from writing it back after the
  deletion, and then both callbacks complete the session.

  Key definitions include:
    * `CompletedOnce`, `EntersAlone`

  Key theorems include:
    * `session_completed_once`
    * `entersAlone_of_exclusive`
    * `session_completed_twice`
-/

------------------------------------------------------------
-- Completed Once
------------------------------------------------------------

namespace KisAuth

open Interaction

/- No session is completed twice. -/
def CompletedOnce (history : History) : Prop :=
  (completions history).Nodup

instance (history : History) :
    Decidable (CompletedOnce history) :=
  inferInstanceAs (Decidable (List.Nodup _))

/-
  A callback enters its session alone: every other callback
  that entered it before has ended, and has not deleted it.
-/
def EntersAlone
    (entry : ServiceEntry)
    (earlier : History) : Prop :=
  ∀ reader ∈ entering entry earlier,
    ∀ other ∈ enterings earlier,
      other.key = reader.key →
        other.thread ≠ reader.thread →
          hasEnded other.thread earlier = true ∧
            hasDeleted other.thread other.key earlier = false

instance
    (entry : ServiceEntry)
    (earlier : History) :
    Decidable (EntersAlone entry earlier) :=
  inferInstanceAs
    (Decidable
      (∀ reader ∈ entering entry earlier,
        ∀ other ∈ enterings earlier,
          other.key = reader.key →
            other.thread ≠ reader.thread →
              hasEnded other.thread earlier = true ∧
                hasDeleted other.thread other.key earlier =
                  false))

end KisAuth

------------------------------------------------------------
-- Sessions Entered Alone
------------------------------------------------------------

namespace KisAuth

open Interaction Store

variable {P : Platform} {cfg : KisAuthConfig}
variable {history : History}

/-
  A callback that completes its session deletes it, so no
  other callback enters the session alone after it.
-/
theorem not_entered_after
    {later between before earlier : History}
    {entry entry' : ServiceEntry}
    {left right : Entering}
    {callback : Callback}
    {code sessionId : String}
    {value : RedisValue}
    {session : OAuthSession}
    {token : VerifiedIdToken}
    (hRecorded : Recorded P cfg history)
    (hAlone : Always EntersAlone history)
    (hSplit :
      history =
        later ++ entry' :: (between ++ entry :: before))
    (hLeft : entering entry before = some left)
    (hRight :
      entering entry' (between ++ entry :: before) =
        some right)
    (hLeftKey : left.key = sessionKey sessionId)
    (hRightKey : right.key = sessionKey sessionId)
    (hGranted :
      Granted P cfg history left.thread callback code value
        sessionId session token earlier) :
    left.thread = right.thread := by
  by_contra hNe
  have hDeletes := hGranted.deletes
  rw [hSplit, List.append_cons] at hDeletes
  rw [hSplit] at hRecorded hAlone
  have hConforms := hRecorded.conforms
  rw [List.append_cons] at hConforms
  rcases hAlone.split.1 right hRight left
      (mem_enterings between before hLeft)
      (hLeftKey.trans hRightKey.symm) hNe with
    ⟨hEnded, hKept⟩
  rcases (hasEnded_iff _ _).mp hEnded with ⟨outcome, hEnd⟩
  have hBefore :=
    answered_before_end hConforms hEnd hDeletes
  rw [hLeftKey, (hasDeleted_iff _ _ _).mpr hBefore] at hKept
  simp at hKept

/- So one callback completes a session. -/
theorem granted_by_one
    {left right : Nat}
    {callback callback' : Callback}
    {code code' sessionId : String}
    {value value' : RedisValue}
    {session session' : OAuthSession}
    {token token' : VerifiedIdToken}
    {earlier earlier' : History}
    (hRecorded : Recorded P cfg history)
    (hAlone : Always EntersAlone history)
    (hLeft :
      Granted P cfg history left callback code value
        sessionId session token earlier)
    (hRight :
      Granted P cfg history right callback' code' value'
        sessionId session' token' earlier') :
    left = right := by
  rcases hLeft.entered hRecorded with
    ⟨later, before, hSplit, hEntered⟩
  rcases hRight.entered hRecorded with
    ⟨later', before', hSplit', hEntered'⟩
  rcases positions_cases (hSplit.symm.trans hSplit') with
    ⟨hSame, _⟩ | ⟨between, hBetween⟩ | ⟨between, hBetween⟩
  · simp only [Entry.answer.injEq] at hSame
    exact hSame.1
  · subst hBetween
    exact
      not_entered_after hRecorded hAlone hSplit' hEntered
        hEntered' rfl rfl hLeft
  · subst hBetween
    symm
    exact
      not_entered_after hRecorded hAlone hSplit hEntered'
        hEntered rfl rfl hRight

/- A session that is completed was not completed before. -/
theorem not_completed_before
    {later earlier : History}
    {entry : ServiceEntry}
    {sessionId : String}
    (hRecorded : Recorded P cfg (later ++ entry :: earlier))
    (hAlone : Always EntersAlone (later ++ entry :: earlier))
    (hCompleted : completed entry earlier = some sessionId) :
    sessionId ∉ completions earlier := by
  intro hMem
  rcases exists_of_mem_completions hMem with
    ⟨middle, other, before, rfl, hOther⟩
  rcases completed_granted hRecorded hCompleted with
    ⟨left, callback, code, value, session, token, hLeft⟩
  have hAgain := hRecorded
  rw [List.append_cons, ← List.append_assoc] at hAgain
  rcases completed_granted hAgain hOther with
    ⟨right, callback', code', value', session', token',
      hRight⟩
  rw [List.append_assoc, ← List.append_cons] at hRight
  have hSame :=
    granted_by_one hRecorded hAlone hLeft hRight
  subst hSame
  have hPosition := (granted_once hLeft hRight).2.2
  have hLength := congrArg List.length hPosition
  simp only [List.length_append, List.length_cons]
    at hLength
  omega

/-
  A session is completed once in every run in which the
  callbacks enter their sessions alone.
-/
theorem session_completed_once
    (run : Run P cfg)
    (hAlone : Always EntersAlone run.history) :
    CompletedOnce run.history := by
  have hSuffix :
      ∀ earlier later : History,
        run.history = later ++ earlier →
          (completions earlier).Nodup := by
    intro earlier
    induction earlier with
    | nil =>
        intro later _
        exact List.nodup_nil
    | cons entry earlier ih =>
        intro later hSplit
        have hTail : (completions earlier).Nodup := by
          apply ih (later ++ [entry])
          rw [hSplit, List.append_assoc, List.singleton_append]
        have hRecorded := run.recorded
        rw [hSplit] at hRecorded hAlone
        rw [completions]
        cases hCompleted : completed entry earlier with
        | none => simpa using hTail
        | some sessionId =>
            have hNew :=
              not_completed_before hRecorded hAlone
                hCompleted
            simpa using ⟨hNew, hTail⟩
  exact hSuffix run.history [] rfl

end KisAuth

------------------------------------------------------------
-- Exclusive Sessions
------------------------------------------------------------

namespace KisAuth

open Interaction Store

variable {P : Platform} {cfg : KisAuthConfig}
variable {history : History}

/-
  A callback enters its session when every other callback
  that entered it has ended or has deleted it.
-/
def EntersExclusively
    (entry : ServiceEntry)
    (earlier : History) : Prop :=
  ∀ reader ∈ entering entry earlier,
    ∀ other ∈ enterings earlier,
      other.key = reader.key →
        other.thread ≠ reader.thread →
          hasEnded other.thread earlier = true ∨
            hasDeleted other.thread other.key earlier = true

instance
    (entry : ServiceEntry)
    (earlier : History) :
    Decidable (EntersExclusively entry earlier) :=
  inferInstanceAs
    (Decidable
      (∀ reader ∈ entering entry earlier,
        ∀ other ∈ enterings earlier,
          other.key = reader.key →
            other.thread ≠ reader.thread →
              hasEnded other.thread earlier = true ∨
                hasDeleted other.thread other.key earlier =
                  true))

/- A deleted session is not written back. -/
def NotRevived
    (entry : ServiceEntry)
    (earlier : History) : Prop :=
  ∀ thread key session ttl,
    entry =
        .answer thread
          ⟨.redisSet key (.session session) ttl, .ok ()⟩ →
      ∀ other,
        Entry.answer other ⟨.redisDel key, ()⟩ ∉ earlier

/- A deleted session that is not written back is gone. -/
theorem not_read_after_deleted
    {earlier : History}
    {thread : Nat}
    {key : String}
    {session : OAuthSession}
    (hRevived : Always NotRevived earlier)
    (hFaithful :
      FaithfulAnswer P cfg earlier
        ⟨.redisGet key, some (.session session)⟩) :
    Entry.answer thread ⟨.redisDel key, ()⟩ ∉ earlier := by
  intro hDeleted
  have hStored := hFaithful (.session session) rfl
  rcases lastWrite_eq_some hStored with
    ⟨later, writer, before, rfl, hTouch, hUntouched⟩
  rcases touch_record hTouch trivial with
    ⟨other, ttl, rfl⟩
  have hRemoves :
      touch (.answer thread ⟨.redisDel key, ()⟩) key =
        some none := by
    simp [touch, touchOf]
  rcases List.mem_append.mp hDeleted with hLater | hRest
  · rw [hUntouched _ hLater] at hRemoves
    simp at hRemoves
  · rcases List.mem_cons.mp hRest with hEq | hBefore
    · simp at hEq
    · exact
        hRevived.split.1 other key session ttl rfl thread
          hBefore

/-
  Callbacks enter alone where no two of them are in a
  session at once, and no deleted session is written back.
-/
theorem entersAlone_of_exclusive
    (run : Run P cfg)
    (hExclusive : Always EntersExclusively run.history)
    (hRevived : Always NotRevived run.history) :
    Always EntersAlone run.history := by
  apply always_of_split
  intro later entry earlier hSplit reader hReader other
    hOther hKey hThread
  have hRecorded := run.recorded
  rw [hSplit] at hRecorded hExclusive hRevived
  have hKept :
      hasDeleted other.thread other.key earlier = false := by
    rw [Option.mem_def] at hReader
    unfold entering at hReader
    split at hReader
    · next thread key session =>
        rcases hRecorded.step_at with ⟨q, hStep⟩
        have hNot :=
          @not_read_after_deleted P cfg earlier other.thread
            key session hRevived.split.2 hStep.faithful
        have hReaderKey : reader.key = key := by
          split at hReader
          · split at hReader
            · simp only [Option.some.injEq] at hReader
              rw [← hReader]
            · simp at hReader
          · simp at hReader
        rw [hKey, hReaderKey, Bool.eq_false_iff]
        intro hDeleted
        exact hNot ((hasDeleted_iff _ _ _).mp hDeleted)
    · simp at hReader
  constructor
  · rcases hExclusive.split.1 reader hReader other hOther
        hKey hThread with hEnded | hDeleted
    · exact hEnded
    · rw [hKept] at hDeleted
      simp at hDeleted
  · exact hKept

end KisAuth

------------------------------------------------------------
-- One Session, Two Callbacks
------------------------------------------------------------

namespace KisAuth

open Interaction Store

/- One character of a query parameter. -/
def formEncode (c : Char) : List Char :=
  if c = ' ' then ['+']
  else (encodeURIComponent (String.singleton c)).toList

/- A parameter behind those a URL has. -/
def appendParam (url name value : String) : String :=
  url ++ (if url.toList.contains '?' then "&" else "?") ++
    name ++ "=" ++
      String.ofList (value.toList.flatMap formEncode)

/-
  The runtime on complete URLs whose parameters are set
  once, and on two code verifiers.
-/
def flowPlatform : Platform :=
  { Platform.bare with
    parseUrl := fun text => some text
    parseUrlAt := fun path base => some (base ++ path)
    setSearchParam := appendParam
    sha256Base64url := fun text =>
      if text = "v1" then
        "O_wmlZTvZJIo6adLqwDwQu_JHVrMb77jGjgugNQjiP4"
      else if text = "v2" then
        "-wTctpcOTD0Yc95R_VpQ17tGszgxE2AmZcNQ7EC1-ZA"
      else
        "" }

/- A registry with one client. -/
def flowClients (clientId : String) :
    Option RegisteredClient :=
  if clientId = "kis-web" then
    some {
      clientId := "kis-web"
      name := "KIS"
      status := .active
      allowedRedirectUris := ["https://kis.test/cb"]
      allowedScopes := []
      allowedPurposes := ["registration"] }
  else
    none

/- The browser before and after it has its cookie. -/
def newBrowser : BrowserRequest where
  ip := "10.0.0.1"
  cookie := none

def flowBrowser : BrowserRequest where
  ip := "10.0.0.1"
  cookie := some "kisauth_session=s1"

abbrev FlowActions := List (Action Request External EnvOp)

/- A registration begins, for a tenant or for Google. -/
def authorizeActions
    (thread : Nat)
    (partnerSlug : Option String) : FlowActions :=
  [.arrive
      (.authorize
        { clientId := some "kis-web"
          redirectUri := some "https://kis.test/cb"
          purpose := some "registration"
          state := some "app"
          linkTicket := none
          partnerSlug := partnerSlug }
        newBrowser),
    .run thread .none, .run thread .none,
    .run thread (.random "st"), .run thread (.random "no"),
    .run thread (.random "s1"), .run thread .none,
    .run thread .none]

/- The start route reads the session. -/
def readActions (thread : Nat) : FlowActions :=
  [.arrive (.googleStart flowBrowser), .run thread .none,
    .run thread .none]

/- It writes the session back. -/
def startActions
    (thread : Nat)
    (codeVerifier : String) : FlowActions :=
  [.run thread (.random codeVerifier), .run thread .none,
    .run thread .none, .run thread .none]

/- A callback reads the session. -/
def enterActions (thread : Nat) (code : String) :
    FlowActions :=
  [.arrive
      (.googleCallback
        { code := some code
          state := some "st"
          error := none }
        flowBrowser),
    .run thread .none, .run thread .none]

/- Google answers, and the callback issues a ticket. -/
def completeActions
    (thread : Nat)
    (ticket : String) : FlowActions :=
  [.run thread
      (.reply
        (some
          { status := 200
            body := some (.obj [("id_token", .str "t")]) })),
    .run thread
      (.payload
        (some
          { iss := .str "https://accounts.google.com"
            aud := .str "test-google-client"
            nonce := .str "no"
            sub := .str "g1"
            email := .undefined
            emailVerified := .undefined })),
    .run thread .none, .run thread .none,
    .run thread (.random ticket), .run thread .none,
    .run thread .none, .run thread .none]

/- The run of some actions. -/
def flowRun (actions : FlowActions) :=
  Interaction.run (worldSemantics flowPlatform testConfig)
    (handler flowPlatform testConfig)
    (.init (World.empty flowClients)) actions

/- Two callbacks read the session before one deletes it. -/
def overlapActions : FlowActions :=
  authorizeActions 0 none ++ readActions 1 ++
    startActions 1 "v1" ++ enterActions 2 "c1" ++
      enterActions 3 "c2" ++ completeActions 2 "t1" ++
        completeActions 3 "t2"

/- Both issue a ticket. -/
theorem session_completed_twice :
    ∃ run : Run flowPlatform testConfig,
      ¬CompletedOnce run.history := by
  have hTwice :
      (flowRun overlapActions).map
          (fun state => completions state.history) =
        some ["s1", "s1"] := by
    decide +kernel
  rcases Option.map_eq_some_iff.mp hTwice with
    ⟨state, hRun, hCompleted⟩
  refine ⟨⟨flowClients, state, Reachable.of_run hRun⟩, ?_⟩
  unfold CompletedOnce Run.history
  rw [hCompleted]
  simp

/-
  A start route reads the session before it is completed,
  and writes it back afterwards.
-/
def revivalActions : FlowActions :=
  authorizeActions 0 none ++ readActions 1 ++
    startActions 1 "v1" ++ readActions 2 ++ enterActions 3 "c1" ++
      completeActions 3 "t1" ++ startActions 2 "v2" ++
        enterActions 4 "c2" ++ completeActions 4 "t2"

/- The session is completed again. -/
theorem revived_session_completed_twice :
    ∃ run : Run flowPlatform testConfig,
      Always EntersExclusively run.history ∧
        ¬CompletedOnce run.history := by
  have hTwice :
      (flowRun revivalActions).map
          (fun state =>
            (decide (Always EntersExclusively state.history),
              completions state.history)) =
        some (true, ["s1", "s1"]) := by
    decide +kernel
  rcases Option.map_eq_some_iff.mp hTwice with
    ⟨state, hRun, hBoth⟩
  simp only [Prod.mk.injEq, decide_eq_true_eq] at hBoth
  refine
    ⟨⟨flowClients, state, Reachable.of_run hRun⟩, hBoth.1,
      ?_⟩
  unfold CompletedOnce Run.history
  rw [hBoth.2]
  simp

/- The second callback reads the session too late. -/
def sequentialActions : FlowActions :=
  authorizeActions 0 none ++ readActions 1 ++
    startActions 1 "v1" ++ enterActions 2 "c1" ++
      completeActions 2 "t1" ++ enterActions 3 "c2" ++
        [.run 3 .none]

/- It is refused. -/
theorem session_completed_by_first :
    ∃ run : Run flowPlatform testConfig,
      completions run.history = ["s1"] ∧
        CompletedOnce run.history := by
  have hAlone :
      (flowRun sequentialActions).map
          (fun state =>
            (completions state.history,
              decide (Always EntersAlone state.history))) =
        some (["s1"], true) := by
    decide +kernel
  rcases Option.map_eq_some_iff.mp hAlone with
    ⟨state, hRun, hBoth⟩
  simp only [Prod.mk.injEq, decide_eq_true_eq] at hBoth
  exact
    ⟨⟨flowClients, state, Reachable.of_run hRun⟩, hBoth.1,
      session_completed_once
        ⟨flowClients, state, Reachable.of_run hRun⟩ hBoth.2⟩

end KisAuth
