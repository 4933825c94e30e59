import KisAuth.Guarantees.ClaimShapes
import KisAuth.Guarantees.UnsignedRefusals
import KisAuth.OAuth.ProviderCalls
import KisAuth.Provenance.Grants

/-
  What security events say about the responses.

  The exchanges and the link route announce a success last.
  A callback announces it before it creates and confirms a
  challenge, so a success it announced may still fail: the
  challenge can expire or have no attempts, and the expiry
  of a code or the URL of a redirect can be refused.

  Key definitions include:
    * `Successful`, `Honest`
    * `Finishes`, `CanFinish`

  Key theorems include:
    * `exchange_honest`, `identityLink_honest`
    * `callback_honest`
    * `events_honest_iff`
-/

------------------------------------------------------------
-- Events And Responses
------------------------------------------------------------

namespace KisAuth

open Interaction Prog

/- An event with this outcome was emitted. -/
def Emits (past : Past) (outcome : EventOutcome) : Prop :=
  ∃ event,
    (⟨.emit event, ()⟩ : Answer Eff Eff.Res) ∈ past ∧
      event.outcome = outcome

/- A code or a ticket was stored. -/
def Mints (past : Past) (code : String) : Prop :=
  ∃ key value ttl,
    (⟨.redisSet key value ttl, .ok ()⟩ :
        Answer Eff Eff.Res) ∈ past ∧
      (key = codeKey code ∨ key = regTicketKey code)

/- The response carries a code, a ticket, a token or ok. -/
inductive Successful
    (P : Platform)
    (cfg : KisAuthConfig)
    (past : Past) : Except HttpError Response → Prop where
  | handOff
      (code clientState redirectUri state url : String)
      (hMints : Mints past code)
      (hRedirect :
        redirectToStatus P cfg state redirectUri
            [("code", code), ("state", clientState)] =
          .ret (.redirect url none)) :
      Successful P cfg past (.ok (.redirect url none))
  | token (token : AuthorizationJwt) :
      Successful P cfg past (.ok (.token token))
  | linked (id : String) :
      Successful P cfg past (.ok (.linked id))

/- The events agree with the response. -/
structure Honest
    (P : Platform)
    (cfg : KisAuthConfig)
    (past : Past)
    (outcome : Except HttpError Response) : Prop where
  success :
    Emits past .success → Successful P cfg past outcome
  failure :
    Emits past .failure → ¬Successful P cfg past outcome

/- A challenge was created. -/
def Creates
    (past : Past)
    (challengeId : String)
    (record : ChallengeRecord) : Prop :=
  record.used = false ∧
    ∃ ttl,
      (⟨.redisSet (challengeKey challengeId)
            (.challenge record) ttl, .ok ()⟩ :
          Answer Eff Eff.Res) ∈ past

/-
  What a callback needs to finish what it began: Redis
  accepts the expiry of its challenge and of its code, a
  challenge it created is still there when it is read, names
  a user and has an attempt, and where a code or a ticket is
  stored the URLs parse.
-/
structure Finishes
    (P : Platform)
    (cfg : KisAuthConfig)
    (callback : Callback)
    (past : Past) : Prop where
  accepted :
    ∀ key value ttl error,
      (⟨.redisSet key value ttl, .error error⟩ :
          Answer Eff Eff.Res) ∈ past →
        ∃ ticket, key = regTicketKey ticket
  lasts :
    ∀ challengeId record,
      Creates past challengeId record →
        ∃ found,
          (⟨.redisGet (challengeKey challengeId),
              some (.challenge found)⟩ :
            Answer Eff Eff.Res) ∈ past
  attempts :
    ∀ challengeId record,
      Creates past challengeId record →
        0 < cfg.challengeMaxAttempts
  named :
    ∀ challengeId record,
      Creates past challengeId record →
        (confirmedSubject record).isSome = true
  redirects :
    ∀ code,
      Mints past code →
        (P.parseUrlAt "/status" cfg.baseUrl).isSome = true ∧
          ∀ sessionId session,
            ReadsSession callback.req past sessionId
                session →
              (P.parseUrl session.redirectUri).isSome = true

/- A callback can finish; another request has nothing to. -/
def CanFinish
    (P : Platform)
    (cfg : KisAuthConfig)
    (q : Request)
    (past : Past) : Prop :=
  ∀ callback,
    q.callback = some callback → Finishes P cfg callback past

/- What it reads of its own challenges, it wrote. -/
def ReadsOwn (past : Past) : Prop :=
  ∀ challengeId record,
    (⟨.random, challengeId⟩ : Answer Eff Eff.Res) ∈ past →
      (⟨.redisGet (challengeKey challengeId),
          some (.challenge record)⟩ :
        Answer Eff Eff.Res) ∈ past →
        ∃ ttl,
          (⟨.redisSet (challengeKey challengeId)
                (.challenge record) ttl, .ok ()⟩ :
              Answer Eff Eff.Res) ∈ past

/- The events are honest exactly when it can finish. -/
def HonestEnd
    (P : Platform)
    (cfg : KisAuthConfig)
    (q : Request)
    (past : Past)
    (outcome : Except HttpError Response) : Prop :=
  ReadsOwn past →
    (Honest P cfg past outcome ↔ CanFinish P cfg q past)

end KisAuth

------------------------------------------------------------
-- Refusals
------------------------------------------------------------

namespace KisAuth

open Interaction Prog

variable {P : Platform} {cfg : KisAuthConfig} {q : Request}
variable {past : Past}

/- Calls that store and announce nothing. -/
def CalmCall : Eff → Prop
| .redisSet _ _ _ => False
| .redisGet _ => False
| .emit _ => False
| _ => True

/- Calls that store nothing and announce failures only. -/
def HumbleCall : Eff → Prop
| .redisSet _ _ _ => False
| .emit event => event.outcome = .failure
| _ => True

/- No token and no identity. -/
def Grantless : Except HttpError Response → Prop
| .ok (.token _) => False
| .ok (.linked _) => False
| _ => True

/- Nothing but failures was announced. -/
def AllHumble (past : Past) : Prop :=
  ∀ answer ∈ past, HumbleCall answer.effect

/- Nothing was announced. -/
def AllCalm (past : Past) : Prop :=
  ∀ answer ∈ past, CalmCall answer.effect

theorem AllCalm.humble
    (hCalm : AllCalm past) :
    AllHumble past := by
  rintro ⟨effect, value⟩ hMem
  have hEffect := hCalm _ hMem
  cases effect with
  | redisSet key stored ttl => exact hEffect.elim
  | emit event => exact hEffect.elim
  | _ => trivial

theorem all_of_extends
    {quiet : Eff → Prop}
    {later : Past}
    (hExtends : Extends quiet past later)
    (hPast : ∀ answer ∈ past, quiet answer.effect) :
    ∀ answer ∈ later, quiet answer.effect := by
  rcases hExtends with ⟨new, rfl, hNew⟩
  intro answer hMem
  rcases List.mem_append.mp hMem with hMem | hMem
  · exact hNew answer hMem
  · exact hPast answer hMem

/- Without a challenge, the ticket and the URLs remain. -/
theorem finishes_without_challenge
    {callback : Callback}
    (hNone :
      ∀ challengeId record,
        ¬Creates past challengeId record)
    (hAccepted :
      ∀ key value ttl error,
        (⟨.redisSet key value ttl, .error error⟩ :
            Answer Eff Eff.Res) ∈ past →
          ∃ ticket, key = regTicketKey ticket)
    (hRedirects :
      ∀ code,
        Mints past code →
          (P.parseUrlAt "/status" cfg.baseUrl).isSome =
              true ∧
            ∀ sessionId session,
              ReadsSession callback.req past sessionId
                  session →
                (P.parseUrl session.redirectUri).isSome =
                  true) :
    Finishes P cfg callback past where
  accepted := hAccepted
  lasts := fun _ _ hCreates => absurd hCreates (hNone _ _)
  attempts := fun _ _ hCreates => absurd hCreates (hNone _ _)
  named := fun _ _ hCreates => absurd hCreates (hNone _ _)
  redirects := hRedirects

/- Where nothing was stored there is nothing to finish. -/
theorem AllHumble.finishes
    (hHumble : AllHumble past)
    (callback : Callback) :
    Finishes P cfg callback past := by
  apply finishes_without_challenge
  · rintro challengeId record ⟨_, ttl, hMem⟩
    exact hHumble _ hMem
  · intro key value ttl error hMem
    exact (hHumble _ hMem).elim
  · rintro code ⟨key, value, ttl, hMem, _⟩
    exact (hHumble _ hMem).elim

/- After failures only, a refusal is honest. -/
theorem honestEnd_of_humble
    {outcome : Except HttpError Response}
    (hHumble : AllHumble past)
    (hGrantless : Grantless outcome) :
    HonestEnd P cfg q past outcome := by
  have hNone : ¬Emits past .success := by
    rintro ⟨event, hMem, hOutcome⟩
    have hFailure : event.outcome = .failure :=
      hHumble _ hMem
    rw [hOutcome] at hFailure
    simp at hFailure
  intro _
  refine iff_of_true ?_ ?_
  · constructor
    case success => exact fun hEmits => absurd hEmits hNone
    case failure =>
      rintro _ hSuccessful
      cases hSuccessful with
      | handOff code clientState redirectUri state url hMints =>
          rcases hMints with ⟨key, value, ttl, hMem, _⟩
          exact hHumble _ hMem
      | token token => exact hGrantless
      | linked id => exact hGrantless
  · exact fun callback _ => hHumble.finishes callback

/- A branch that only refuses. -/
theorem honest_of_humble
    {program : KisM Response}
    (hPast : AllHumble past)
    (hProgram :
      Obeys (fun _ effect => HumbleCall effect)
        (fun _ outcome => Grantless outcome) program past) :
    Obeys (fun _ _ => True) (HonestEnd P cfg q) program
      past := by
  apply hProgram.extends.mono
  · exact fun _ _ _ => trivial
  · intro later outcome hLater
    exact
      honestEnd_of_humble (all_of_extends hLater.1 hPast)
        hLater.2

/- A sequence that begins with calm calls. -/
theorem honest_after_calm
    {α : Type}
    {program : KisM α}
    {next : α → KisM Response}
    (hPast : AllCalm past)
    (hProgram :
      Obeys (fun _ effect => CalmCall effect) (fun _ _ => True)
        program past)
    (hNext :
      ∀ later value,
        AllCalm later →
          Obeys (fun _ _ => True) (HonestEnd P cfg q)
            (next value) later) :
    Obeys (fun _ _ => True) (HonestEnd P cfg q)
      (program >>= next) past := by
  apply obeys_after_quiet hProgram
  · exact fun _ _ _ => trivial
  · intro later value hLater
    exact hNext later value (all_of_extends hLater hPast)
  · intro later error hLater
    have hCalm : AllCalm later := all_of_extends hLater hPast
    exact honestEnd_of_humble hCalm.humble trivial

/- A request that ends with what it announced. -/
theorem honestEnd_granted
    {event : SecurityEvent}
    {outcome : Except HttpError Response}
    (hPast : AllCalm past)
    (hCallback : q.callback = none)
    (hEvent : event.outcome = .success)
    (hGranted :
      Successful P cfg (⟨.emit event, ()⟩ :: past) outcome) :
    HonestEnd P cfg q (⟨.emit event, ()⟩ :: past) outcome := by
  intro _
  refine iff_of_true ⟨fun _ => hGranted, ?_⟩ ?_
  · rintro ⟨other, hMem, hFailure⟩
    rcases List.mem_cons.mp hMem with hSame | hEarlier
    · simp only [Answer.mk.injEq, Eff.emit.injEq] at hSame
      rw [hSame.1, hEvent] at hFailure
      simp at hFailure
    · exact (hPast _ hEarlier).elim
  · intro callback hSome
    rw [hCallback] at hSome
    simp at hSome

end KisAuth

------------------------------------------------------------
-- Internal Requests
------------------------------------------------------------

namespace KisAuth

open Interaction Prog

variable {P : Platform} {cfg : KisAuthConfig} {q : Request}
variable {past : Past}

theorem calm_orCrash
    {α : Type}
    (result : Option α) :
    Obeys (fun _ effect => CalmCall effect) (fun _ _ => True)
      (orCrash result) past := by
  cases result with
  | none => trivial
  | some value => trivial

theorem calm_orSqlCrash
    {α : Type}
    (result : Except SqlError α) :
    Obeys (fun _ effect => CalmCall effect) (fun _ _ => True)
      (orSqlCrash result) past := by
  cases result with
  | error error => trivial
  | ok value => trivial

theorem calm_enforceRateLimit
    (policy : RateLimitPolicy)
    (identifier : String) :
    Obeys (fun _ effect => CalmCall effect) (fun _ _ => True)
      (enforceRateLimit policy identifier) past := by
  unfold enforceRateLimit RateLimiter.check Redis.incr
  refine ⟨trivial, fun hits => ?_⟩
  simp only [pure_eq, bind_ret]
  split
  · trivial
  · trivial

theorem calm_limitClient
    (route : Redemption)
    (clientId : JsValue) :
    Obeys (fun _ effect => CalmCall effect) (fun _ _ => True)
      (limitClient P route clientId) past := by
  unfold limitClient
  split
  · cases clientId.toJsString P.joinDepth with
    | none => trivial
    | some identifier =>
        exact calm_enforceRateLimit route.perClient identifier
  · trivial

theorem calm_verifySignedPost
    (url : String)
    (post : InternalPost) :
    Obeys (fun _ effect => CalmCall effect) (fun _ _ => True)
      (verifySignedPost url post) past := by
  unfold verifySignedPost
  exact ⟨trivial, fun result => calm_orCrash result⟩

/- A calm program, whatever is asked of its end. -/
theorem obeys_of_calm
    {α : Type}
    {program : KisM α}
    {final : Past → Except HttpError α → Prop}
    (hPast : AllCalm past)
    (hProgram :
      Obeys (fun _ effect => CalmCall effect) (fun _ _ => True)
        program past)
    (hFinal :
      ∀ later outcome, AllCalm later → final later outcome) :
    Obeys (fun _ _ => True) final program past := by
  apply hProgram.extends.mono
  · exact fun _ _ _ => trivial
  · intro later outcome hLater
    exact hFinal later outcome (all_of_extends hLater.1 hPast)

/- A bad signature is announced as a failure. -/
theorem honest_checkRedemption
    {route : Redemption}
    {post : InternalPost}
    {clientId : JsValue}
    {final : Past → Except HttpError ExchangeBody → Prop}
    (hPast : AllCalm past)
    (hOk :
      ∀ later body, AllCalm later → final later (.ok body))
    (hError :
      ∀ later error,
        AllHumble later → final later (.error error)) :
    Obeys (fun _ _ => True) final
      (checkRedemption route post clientId) past := by
  unfold checkRedemption
  apply Obeys.andThen
  apply obeys_of_calm hPast (calm_verifySignedPost _ _)
  intro pastVerify outcome hVerify
  cases outcome with
  | error error => exact hError _ _ hVerify.humble
  | ok result =>
      simp only [andThen_ok]
      cases result with
      | fail reason =>
          refine ⟨trivial, fun _ => hError _ _ ?_⟩
          exact List.forall_mem_cons.mpr ⟨rfl, hVerify.humble⟩
      | ok =>
          apply Obeys.andThen
          apply obeys_of_calm hVerify (calm_orCrash _)
          intro pastCode outcome hCode
          cases outcome with
          | error error => exact hError _ _ hCode.humble
          | ok code =>
              simp only [andThen_ok]
              apply Obeys.andThen
              apply obeys_of_calm hCode (calm_orCrash _)
              intro pastUri outcome hUri
              cases outcome with
              | error error => exact hError _ _ hUri.humble
              | ok redirectUri =>
                  simp only [andThen_ok]
                  split
                  · exact hOk _ _ hUri
                  · exact hError _ _ hUri.humble

/- An exchange is refused with a failure, or admitted. -/
theorem honest_admitRedemption
    {route : Redemption}
    {post : InternalPost}
    {final : Past → Except HttpError ExchangeBody → Prop}
    (hOk :
      ∀ later body, AllCalm later → final later (.ok body))
    (hError :
      ∀ later error,
        AllHumble later → final later (.error error)) :
    Obeys (fun _ _ => True) final
      (admitRedemption P route post) [] := by
  unfold admitRedemption
  apply Obeys.andThen
  apply obeys_of_calm (by simp [AllCalm])
    (calm_enforceRateLimit route.perIp post.ip)
  intro pastIp outcome hIp
  cases outcome with
  | error error => exact hError _ _ hIp.humble
  | ok done =>
      simp only [andThen_ok]
      apply Obeys.andThen
      apply obeys_of_calm hIp (calm_orCrash _)
      intro pastName outcome hName
      cases outcome with
      | error error => exact hError _ _ hName.humble
      | ok clientId =>
          simp only [andThen_ok]
          apply Obeys.andThen
          apply obeys_of_calm hName
            (calm_limitClient route clientId)
          intro pastClient outcome hClient
          cases outcome with
          | error error => exact hError _ _ hClient.humble
          | ok done =>
              exact honest_checkRedemption hClient hOk hError

/- What every route does with an admitted exchange. -/
theorem honest_admitted
    {route : Redemption}
    {post : InternalPost}
    {next : ExchangeBody → KisM Response}
    (hNext :
      ∀ later body,
        AllCalm later →
          Obeys (fun _ _ => True) (HonestEnd P cfg q)
            (next body) later) :
    Obeys (fun _ _ => True) (HonestEnd P cfg q)
      (admitRedemption P route post >>= next) [] := by
  apply Obeys.andThen
  apply honest_admitRedemption
  · exact hNext
  · intro later error hHumble
    exact honestEnd_of_humble hHumble trivial

/- An announced failure, and the refusal after it. -/
theorem honest_refusal
    {event : SecurityEvent}
    {error : HttpError}
    (hPast : AllCalm past)
    (hEvent : event.outcome = .failure) :
    Obeys (fun _ _ => True) (HonestEnd P cfg q)
      (do
        emit event
        .throw error)
      past := by
  apply honest_of_humble hPast.humble
  exact ⟨hEvent, fun _ => trivial⟩

/- An exchange signs its token before it announces it. -/
theorem honest_token
    {claims : AuthorizationClaims}
    {expiresInSeconds : ℚ}
    {event : SecurityEvent}
    (hPast : AllCalm past)
    (hCallback : q.callback = none)
    (hEvent : event.outcome = .success) :
    Obeys (fun _ _ => True) (HonestEnd P cfg q)
      (do
        let token ←
          AuthorizationJwtService.sign P cfg claims
            expiresInSeconds
        emit event
        return .token token)
      past := by
  apply honest_after_calm hPast
  · unfold AuthorizationJwtService.sign
    split
    case isFalse => trivial
    refine ⟨trivial, fun clock => ⟨trivial, fun jti => ?_⟩⟩
    simp only [bind_ret]
    split
    · trivial
    · trivial
  · intro later token hLater
    refine ⟨trivial, fun _ => ?_⟩
    exact
      honestEnd_granted hLater hCallback hEvent (.token token)

theorem exchange_honest (post : InternalPost) :
    Obeys (fun _ _ => True)
      (HonestEnd P cfg (.authorizationExchange post))
      (ExchangeController.exchange P cfg post) [] := by
  unfold ExchangeController.exchange
  apply honest_admitted
  intro pastBody body hBody
  apply honest_after_calm hBody (calm_orCrash _)
  intro pastCode code hCode
  apply honest_after_calm hCode
  · unfold ChallengeStore.consumeAuthorizationCode
    exact ⟨trivial, fun _ => trivial⟩
  intro pastPayload payload hPayload
  cases payload with
  | none => exact honest_refusal hPayload rfl
  | some payload =>
      simp only
      split
      · apply honest_after_calm hPayload
        · unfold IdentityService.findById
          exact ⟨trivial, fun rows => calm_orSqlCrash rows⟩
        intro pastIdentity identity hIdentity
        split
        · exact honest_refusal hIdentity rfl
        · exact honest_token hIdentity rfl rfl
      · exact honest_refusal hPayload rfl

theorem registrationExchange_honest (post : InternalPost) :
    Obeys (fun _ _ => True)
      (HonestEnd P cfg (.registrationExchange post))
      (RegistrationExchangeController.exchange P cfg post)
      [] := by
  unfold RegistrationExchangeController.exchange
  apply honest_admitted
  intro pastBody body hBody
  apply honest_after_calm hBody (calm_orCrash _)
  intro pastCode code hCode
  apply honest_after_calm hCode
  · unfold ChallengeStore.consumeRegistrationTicket
    exact ⟨trivial, fun _ => trivial⟩
  intro pastPayload payload hPayload
  cases payload with
  | none => exact honest_refusal hPayload rfl
  | some payload =>
      simp only
      split
      · exact honest_token hPayload rfl rfl
      · exact honest_refusal hPayload rfl

theorem calm_link (args : NewIdentity) :
    Obeys (fun _ effect => CalmCall effect) (fun _ _ => True)
      (IdentityService.link args) past := by
  unfold IdentityService.link
    IdentityService.findByProviderSubject
  refine ⟨trivial, fun rows => ?_⟩
  cases rows with
  | error error => trivial
  | ok existing =>
      cases existing with
      | none =>
          refine ⟨trivial, fun result => ?_⟩
          cases result with
          | ok row => trivial
          | error error =>
              cases error with
              | uniqueViolation => trivial
              | invalidText => trivial
      | some existing =>
          simp only [orSqlCrash, bind_ret]
          split
          · trivial
          · refine ⟨trivial, fun result => ?_⟩
            cases result with
            | error error => trivial
            | ok row =>
                cases row with
                | none => trivial
                | some row => trivial

theorem identityLink_honest (post : InternalPost) :
    Obeys (fun _ _ => True)
      (HonestEnd P cfg (.identityLink post))
      (IdentityLinkController.link P post) [] := by
  unfold IdentityLinkController.link
  apply honest_after_calm (by simp [AllCalm])
    (calm_verifySignedPost _ _)
  intro pastVerify verification hVerify
  cases verification with
  | fail reason =>
      exact honestEnd_of_humble hVerify.humble trivial
  | ok =>
      simp only
      apply honest_after_calm hVerify (calm_orCrash _)
      intro pastBody _ hBody
      cases requestedLink P post.body with
      | none => exact honestEnd_of_humble hBody.humble trivial
      | some identity =>
          apply honest_after_calm hBody (calm_link identity)
          intro pastLink result hLink
          cases result with
          | alreadyLinked => exact honest_refusal hLink rfl
          | ok row =>
              refine ⟨trivial, fun _ => ?_⟩
              exact
                honestEnd_granted hLink rfl rfl
                  (.linked row.id)

/- An internal request announces what it returns. -/
theorem internal_honest
    {post : InternalPost}
    (hInternal : q.internal = some post) :
    Obeys (fun _ _ => True) (HonestEnd P cfg q)
      (handler P cfg q) [] := by
  cases q with
  | authorizationExchange post => exact exchange_honest post
  | registrationExchange post =>
      exact registrationExchange_honest post
  | identityLink post => exact identityLink_honest post
  | _ => simp [Request.internal] at hInternal

end KisAuth

------------------------------------------------------------
-- CalmCall Services
------------------------------------------------------------

namespace KisAuth

open Interaction Prog

variable {P : Platform} {cfg : KisAuthConfig}
variable {past : Past}

/- Asking a provider is calm. -/
theorem calm_of_asksOnly
    {α : Type}
    {program : KisM α}
    (hAsks : AsksOnly program) :
    Obeys (fun _ effect => CalmCall effect) (fun _ _ => True)
      program past := by
  apply (hAsks past).mono
  · intro _ effect hOutbound
    cases effect with
    | redisSet key value ttl => exact hOutbound
    | redisGet key => exact hOutbound
    | emit event => exact hOutbound
    | _ => trivial
  · exact fun _ _ _ => trivial

/- An error redirect stores and announces nothing. -/
theorem humble_redirectToStatus
    {state redirectUri : String}
    {params : List (String × String)} :
    Obeys (fun _ effect => HumbleCall effect)
      (fun _ outcome => Grantless outcome)
      (redirectToStatus P cfg state redirectUri params)
      past := by
  unfold redirectToStatus
  cases P.parseUrl redirectUri with
  | none => trivial
  | some target =>
      simp only [orCrash, bind_eq, bind_ret]
      cases statusRedirectUrl P cfg state _ with
      | none => trivial
      | some url => trivial

theorem humble_cancelCallback
    {sessionId error ip : String}
    {session : OAuthSession}
    {metadata : List (String × JsValue)} :
    Obeys (fun _ effect => HumbleCall effect)
      (fun _ outcome => Grantless outcome)
      (cancelCallback P cfg sessionId session error ip
        metadata)
      past := by
  unfold cancelCallback
  refine ⟨trivial, fun _ => ⟨rfl, fun _ => ?_⟩⟩
  exact humble_redirectToStatus

theorem humble_failCallback
    {sessionId ip : String}
    {session : OAuthSession}
    {failure : ProviderFailure}
    {metadata : List (String × JsValue)} :
    Obeys (fun _ effect => HumbleCall effect)
      (fun _ outcome => Grantless outcome)
      (failCallback P cfg sessionId session failure ip
        metadata)
      past := by
  unfold failCallback
  refine ⟨rfl, fun _ => ⟨trivial, fun _ => ?_⟩⟩
  exact humble_redirectToStatus

end KisAuth

------------------------------------------------------------
-- Announced Callbacks
------------------------------------------------------------

namespace KisAuth

open Interaction Prog

variable {P : Platform} {cfg : KisAuthConfig} {q : Request}
variable {past : Past} {callback : Callback}
variable {session : OAuthSession} {challengeId : String}
variable {record : ChallengeRecord}

/- The only session the callback has read is this one. -/
structure ReadsOnly
    (callback : Callback)
    (session : OAuthSession)
    (past : Past) : Prop where
  reads :
    ∃ sessionId,
      ReadsSession callback.req past sessionId session
  only :
    ∀ sessionId value,
      (⟨.redisGet (sessionKey sessionId), value⟩ :
          Answer Eff Eff.Res) ∈ past →
        value = some (.session session)

/- A success was announced, and no failure. -/
structure Announced (past : Past) : Prop where
  success : Emits past .success
  noFailure : ¬Emits past .failure

/- More answers that read no session and announce nothing. -/
def Neutral : Answer Eff Eff.Res → Prop
| ⟨.emit _, _⟩ => False
| ⟨.redisGet key, _⟩ =>
    ∃ challengeId, key = challengeKey challengeId
| _ => True

theorem ReadsOnly.cons
    {answer : Answer Eff Eff.Res}
    (hReads : ReadsOnly callback session past)
    (hNeutral : Neutral answer) :
    ReadsOnly callback session (answer :: past) where
  reads := by
    rcases hReads.reads with ⟨sessionId, hRead⟩
    exact
      ⟨sessionId,
        hRead.extend (List.subset_cons_self _ _)⟩
  only := by
    intro sessionId value hMem
    rcases List.mem_cons.mp hMem with rfl | hEarlier
    · rcases hNeutral with ⟨challengeId, hKey⟩
      simp [sessionKey, challengeKey] at hKey
    · exact hReads.only sessionId value hEarlier

theorem Announced.cons
    {answer : Answer Eff Eff.Res}
    (hAnnounced : Announced past)
    (hNeutral : Neutral answer) :
    Announced (answer :: past) where
  success := by
    rcases hAnnounced.success with ⟨event, hMem, hOutcome⟩
    exact ⟨event, List.mem_cons_of_mem _ hMem, hOutcome⟩
  noFailure := by
    rintro ⟨event, hMem, hOutcome⟩
    rcases List.mem_cons.mp hMem with rfl | hEarlier
    · exact hNeutral
    · exact hAnnounced.noFailure ⟨event, hEarlier, hOutcome⟩

/- An error before anything was announced is honest. -/
theorem honestEnd_of_error
    {error : HttpError}
    (hNone : ¬Emits past .success)
    (hFinishes :
      ∀ callback, Finishes P cfg callback past) :
    HonestEnd P cfg q past (.error error) := by
  intro _
  refine iff_of_true ⟨?_, ?_⟩ ?_
  · exact fun hEmits => absurd hEmits hNone
  · intro _ hSuccessful
    cases hSuccessful
  · exact fun callback _ => hFinishes callback

/- An error after a success was announced is not. -/
theorem honestEnd_unfinished
    {error : HttpError}
    (hCallback : q.callback = some callback)
    (hAnnounced : Announced past)
    (hUnfinished :
      ReadsOwn past → ¬Finishes P cfg callback past) :
    HonestEnd P cfg q past (.error error) := by
  intro hOwn
  refine iff_of_false ?_ ?_
  · intro hHonest
    cases hHonest.success hAnnounced.success
  · intro hFinish
    exact hUnfinished hOwn (hFinish callback hCallback)

/- The URLs of the redirect parse. -/
def Redirects
    (P : Platform)
    (cfg : KisAuthConfig)
    (session : OAuthSession) : Prop :=
  (P.parseUrlAt "/status" cfg.baseUrl).isSome = true ∧
    (P.parseUrl session.redirectUri).isSome = true

theorem ReadsOnly.redirects
    {code : String}
    (hReads : ReadsOnly callback session past)
    (hMints : Mints past code)
    (hFinishes : Finishes P cfg callback past) :
    Redirects P cfg session := by
  rcases hReads.reads with ⟨sessionId, hRead⟩
  have hRedirects := hFinishes.redirects code hMints
  exact ⟨hRedirects.1, hRedirects.2 sessionId session hRead⟩

theorem ReadsOnly.all
    (hReads : ReadsOnly callback session past)
    (hRedirects : Redirects P cfg session) :
    (P.parseUrlAt "/status" cfg.baseUrl).isSome = true ∧
      ∀ sessionId other,
        ReadsSession callback.req past sessionId other →
          (P.parseUrl other.redirectUri).isSome = true := by
  refine ⟨hRedirects.1, ?_⟩
  intro sessionId other hRead
  have hSame := hReads.only sessionId _ hRead.read
  rw [Option.some.injEq, RedisValue.session.injEq] at hSame
  rw [hSame]
  exact hRedirects.2

/- The redirect with the code, where all else is done. -/
theorem honest_redirect
    {code state clientState : String}
    (hCallback : q.callback = some callback)
    (hReads : ReadsOnly callback session past)
    (hAnnounced : Announced past)
    (hMints : Mints past code)
    (hFinishes :
      ReadsOwn past →
        Redirects P cfg session →
          Finishes P cfg callback past) :
    Obeys (fun _ _ => True) (HonestEnd P cfg q)
      (redirectToStatus P cfg state session.redirectUri
        [("code", code), ("state", clientState)])
      past := by
  unfold redirectToStatus
  cases hTarget : P.parseUrl session.redirectUri with
  | none =>
      apply honestEnd_unfinished hCallback hAnnounced
      intro _ hAll
      have hParsed := (hReads.redirects hMints hAll).2
      simp [hTarget] at hParsed
  | some target =>
      simp only [orCrash, bind_eq, bind_ret]
      cases hUrl :
          statusRedirectUrl P cfg state
            (P.href
              (setSearchParams P target
                [("code", code), ("state", clientState)])) with
      | none =>
          apply honestEnd_unfinished hCallback hAnnounced
          intro _ hAll
          have hParsed := (hReads.redirects hMints hAll).1
          rw [statusRedirectUrl, Option.map_eq_none_iff] at hUrl
          simp [hUrl] at hParsed
      | some url =>
          intro hOwn
          have hRedirects : Redirects P cfg session := by
            rw [statusRedirectUrl, Option.map_eq_some_iff]
              at hUrl
            rcases hUrl with ⟨base, hBase, _⟩
            exact ⟨by simp [hBase], by simp [hTarget]⟩
          have hSuccessful :
              Successful P cfg past
                (.ok (.redirect url none)) := by
            apply Successful.handOff code clientState
              session.redirectUri state url hMints
            unfold redirectToStatus
            simp [hTarget, orCrash, hUrl]
          refine iff_of_true ⟨fun _ => hSuccessful, ?_⟩ ?_
          · exact fun hFailure =>
              absurd hFailure hAnnounced.noFailure
          · intro other hOther
            rw [hCallback, Option.some.injEq] at hOther
            rw [← hOther]
            exact hFinishes hOwn hRedirects

end KisAuth

------------------------------------------------------------
-- Confirmed Challenges
------------------------------------------------------------

namespace KisAuth

open Interaction Prog

variable {P : Platform} {cfg : KisAuthConfig} {q : Request}
variable {past : Past} {callback : Callback}
variable {session : OAuthSession} {challengeId : String}
variable {record : ChallengeRecord}

/- When a challenge can be confirmed. -/
theorem confirmedPayload_isSome_iff
    (record : ChallengeRecord)
    (redirectUri : String) :
    (confirmedPayload (some record) redirectUri).isSome =
        true ↔
      record.used = false ∧
        (confirmedSubject record).isSome = true ∧
        (record.attemptCount : ℚ) < record.maxAttempts := by
  unfold confirmedPayload
  simp only
  by_cases hUsed : record.used = true
  · simp [hUsed]
  · cases hSubject : confirmedSubject record with
    | none => simp [hUsed]
    | some subject =>
        by_cases hOver :
            record.maxAttempts ≤ record.attemptCount
        · simp [hUsed, hOver, not_lt.mpr hOver]
        · simp [hUsed, hOver, not_le.mp hOver]

/- A challenge that was just created, with these limits. -/
structure Fresh
    (cfg : KisAuthConfig)
    (record : ChallengeRecord) : Prop where
  unused : record.used = false
  untried : record.attemptCount = 0
  limit : record.maxAttempts = cfg.challengeMaxAttempts

/-
  A callback that created this challenge, and has set it
  since as used only.
-/
structure Confirming
    (cfg : KisAuthConfig)
    (callback : Callback)
    (session : OAuthSession)
    (challengeId : String)
    (record : ChallengeRecord)
    (past : Past) : Prop where
  reads : ReadsOnly callback session past
  announced : Announced past
  drawn :
    (⟨.random, challengeId⟩ : Answer Eff Eff.Res) ∈ past
  fresh : Fresh cfg record
  created : Creates past challengeId record
  sets :
    ∀ key value ttl result,
      (⟨.redisSet key value ttl, result⟩ :
          Answer Eff Eff.Res) ∈ past →
        result = .ok () ∧
          ((key = challengeKey challengeId ∧
              value = .challenge record) ∨
            ∃ marked : ChallengeRecord,
              value = .challenge marked ∧ marked.used = true)

/- More answers, but no sets. -/
theorem Confirming.cons
    {answer : Answer Eff Eff.Res}
    (hConfirming :
      Confirming cfg callback session challengeId record past)
    (hNeutral : Neutral answer)
    (hNoSet :
      ∀ key value ttl result,
        answer ≠ ⟨.redisSet key value ttl, result⟩) :
    Confirming cfg callback session challengeId record
      (answer :: past) where
  reads := hConfirming.reads.cons hNeutral
  announced := hConfirming.announced.cons hNeutral
  drawn := List.mem_cons_of_mem _ hConfirming.drawn
  fresh := hConfirming.fresh
  created := by
    rcases hConfirming.created with ⟨hUnused, ttl, hMem⟩
    exact ⟨hUnused, ttl, List.mem_cons_of_mem _ hMem⟩
  sets := by
    intro key value ttl result hMem
    rcases List.mem_cons.mp hMem with hSame | hEarlier
    · exact absurd hSame.symm (hNoSet _ _ _ _)
    · exact hConfirming.sets key value ttl result hEarlier

/- The mark of the challenge is one more set. -/
theorem Confirming.mark
    {key : String}
    {marked : ChallengeRecord}
    {ttl : ℚ}
    (hConfirming :
      Confirming cfg callback session challengeId record past)
    (hUsed : marked.used = true) :
    Confirming cfg callback session challengeId record
      (⟨.redisSet key (.challenge marked) ttl, .ok ()⟩ ::
        past) where
  reads := hConfirming.reads.cons trivial
  announced := hConfirming.announced.cons trivial
  drawn := List.mem_cons_of_mem _ hConfirming.drawn
  fresh := hConfirming.fresh
  created := by
    rcases hConfirming.created with ⟨hUnused, other, hMem⟩
    exact ⟨hUnused, other, List.mem_cons_of_mem _ hMem⟩
  sets := by
    intro other value otherTtl result hMem
    rcases List.mem_cons.mp hMem with hSame | hEarlier
    · simp only [Answer.mk.injEq, Eff.redisSet.injEq] at hSame
      rcases hSame with ⟨⟨rfl, rfl, rfl⟩, hResult⟩
      exact ⟨eq_of_heq hResult, Or.inr ⟨marked, rfl, hUsed⟩⟩
    · exact hConfirming.sets other value otherTtl result
        hEarlier

/- What it created is that challenge. -/
theorem Confirming.only
    {otherId : String}
    {other : ChallengeRecord}
    (hConfirming :
      Confirming cfg callback session challengeId record past)
    (hCreates : Creates past otherId other) :
    otherId = challengeId ∧ other = record := by
  rcases hCreates with ⟨hUnused, ttl, hMem⟩
  rcases (hConfirming.sets _ _ _ _ hMem).2 with
    ⟨hKey, hValue⟩ | ⟨marked, hValue, hUsed⟩
  · rw [RedisValue.challenge.injEq] at hValue
    exact ⟨((storeKey_inj _ _ _ _).mp hKey).2, hValue⟩
  · rw [RedisValue.challenge.injEq] at hValue
    rw [hValue, hUsed] at hUnused
    simp at hUnused

/- More answers of this challenge do not create another. -/
theorem creates_of_cons
    {answer : Answer Eff Eff.Res}
    {otherId : String}
    {other : ChallengeRecord}
    (hCreates : Creates (answer :: past) otherId other)
    (hNot :
      ∀ key written ttl result,
        answer ≠
          ⟨.redisSet key (.challenge written) ttl, result⟩) :
    Creates past otherId other := by
  rcases hCreates with ⟨hUnused, ttl, hMem⟩
  rcases List.mem_cons.mp hMem with hSame | hEarlier
  · exact absurd hSame.symm (hNot _ _ _ _)
  · exact ⟨hUnused, ttl, hEarlier⟩

/- A stored code leaves nothing but the redirect to finish. -/
theorem Confirming.finishes_with_code
    {found : ChallengeRecord}
    {payload : AuthorizationCodePayload}
    {code : String}
    {ttlSeconds : ℚ}
    (hConfirming :
      Confirming cfg callback session challengeId record past)
    (hRead :
      (⟨.redisGet (challengeKey challengeId),
          some (.challenge found)⟩ :
        Answer Eff Eff.Res) ∈ past)
    (hFound :
      (confirmedPayload (some found)
        session.redirectUri).isSome = true)
    (hOwn :
      ReadsOwn
        (⟨.redisSet (codeKey code) (.code payload) ttlSeconds,
            .ok ()⟩ :: past))
    (hRedirects : Redirects P cfg session) :
    Finishes P cfg callback
      (⟨.redisSet (codeKey code) (.code payload) ttlSeconds,
          .ok ()⟩ :: past) := by
  have hReadLater :=
    List.mem_cons_of_mem
      (⟨.redisSet (codeKey code) (.code payload) ttlSeconds,
          .ok ()⟩ :
        Answer Eff Eff.Res)
      hRead
  have hCan := (confirmedPayload_isSome_iff found _).mp hFound
  have hOnly :
      ∀ otherId other,
        Creates
            (⟨.redisSet (codeKey code) (.code payload)
                ttlSeconds, .ok ()⟩ :: past)
            otherId other →
          otherId = challengeId ∧ other = record :=
    fun otherId other hCreates =>
      hConfirming.only (creates_of_cons hCreates (by simp))
  have hSame : found = record := by
    rcases
        hOwn challengeId found
          (List.mem_cons_of_mem _ hConfirming.drawn)
          hReadLater with
      ⟨ttl, hSet⟩
    exact (hOnly challengeId found ⟨hCan.1, ttl, hSet⟩).2
  constructor
  case accepted =>
    intro key value ttl error hMem
    rcases List.mem_cons.mp hMem with hNew | hEarlier
    · simp only [Answer.mk.injEq, Eff.redisSet.injEq] at hNew
      rcases hNew with ⟨⟨rfl, rfl, rfl⟩, hResult⟩
      cases hResult
    · cases (hConfirming.sets _ _ _ _ hEarlier).1
  case lasts =>
    intro otherId other hCreates
    rw [(hOnly otherId other hCreates).1]
    exact ⟨found, hReadLater⟩
  case attempts =>
    intro _ _ _
    rw [← hConfirming.fresh.limit, ← hSame]
    have hLimit := hCan.2.2
    rw [hSame, hConfirming.fresh.untried] at hLimit
    rw [hSame]
    simpa using hLimit
  case named =>
    intro otherId other hCreates
    rw [(hOnly otherId other hCreates).2, ← hSame]
    exact hCan.2.1
  case redirects =>
    have hReads :
        ReadsOnly callback session
          (⟨.redisSet (codeKey code) (.code payload)
              ttlSeconds, .ok ()⟩ :: past) :=
      hConfirming.reads.cons trivial
    exact fun _ _ => hReads.all hRedirects

/- The code is stored, and handed off where the URLs parse. -/
theorem honest_code
    {found : ChallengeRecord}
    {payload : AuthorizationCodePayload}
    {state clientState : String}
    (hCallback : q.callback = some callback)
    (hConfirming :
      Confirming cfg callback session challengeId record past)
    (hRead :
      (⟨.redisGet (challengeKey challengeId),
          some (.challenge found)⟩ :
        Answer Eff Eff.Res) ∈ past)
    (hFound :
      (confirmedPayload (some found)
        session.redirectUri).isSome = true) :
    Obeys (fun _ _ => True) (HonestEnd P cfg q)
      (do
        let code ←
          ChallengeStore.issueAuthorizationCode payload
            cfg.authCodeTtlSeconds
        redirectToStatus P cfg state session.redirectUri
          [("code", code), ("state", clientState)])
      past := by
  unfold ChallengeStore.issueAuthorizationCode Redis.set
  refine ⟨trivial, fun code => ⟨trivial, fun result => ?_⟩⟩
  have hDrawn :
      Confirming cfg callback session challengeId record
        (⟨.random, code⟩ :: past) :=
    hConfirming.cons trivial (by simp)
  cases result with
  | error error =>
      apply honestEnd_unfinished hCallback
      · exact hDrawn.announced.cons trivial
      · intro _ hAll
        rcases hAll.accepted _ _ _ error List.mem_cons_self
          with ⟨ticket, hKey⟩
        simp [codeKey, regTicketKey] at hKey
  | ok done =>
      apply honest_redirect hCallback
      · exact hDrawn.reads.cons trivial
      · exact hDrawn.announced.cons trivial
      · exact
          ⟨codeKey code, _, _, List.mem_cons_self,
            Or.inl rfl⟩
      intro hOwn hRedirects
      exact
        hDrawn.finishes_with_code
          (List.mem_cons_of_mem _ hRead) hFound hOwn
          hRedirects

/- The challenge is marked, or gone before it can be. -/
theorem honest_mark
    {found : ChallengeRecord}
    {rest : KisM Response}
    (hCallback : q.callback = some callback)
    (hConfirming :
      Confirming cfg callback session challengeId record past)
    (hRead :
      (⟨.redisGet (challengeKey challengeId),
          some (.challenge found)⟩ :
        Answer Eff Eff.Res) ∈ past)
    (hRest :
      ∀ later,
        Confirming cfg callback session challengeId record
            later →
          (⟨.redisGet (challengeKey challengeId),
              some (.challenge found)⟩ :
            Answer Eff Eff.Res) ∈ later →
            Obeys (fun _ _ => True) (HonestEnd P cfg q) rest
              later) :
    Obeys (fun _ _ => True) (HonestEnd P cfg q)
      (do
        ChallengeStore.markChallengeUsed challengeId
        rest)
      past := by
  unfold ChallengeStore.markChallengeUsed Redis.set
  refine ⟨trivial, fun raw => ?_⟩
  have hRaw :
      Confirming cfg callback session challengeId record
        (⟨.redisGet (challengeKey challengeId), raw⟩ ::
          past) :=
    hConfirming.cons ⟨challengeId, rfl⟩ (by simp)
  simp only [bind_eq, bind_ret]
  cases ChallengeStore.asChallenge raw with
  | none => exact hRest _ hRaw (List.mem_cons_of_mem _ hRead)
  | some other =>
      refine ⟨trivial, fun ttl => ?_⟩
      have hTtl :
          Confirming cfg callback session challengeId record
            (⟨.redisTtl (challengeKey challengeId), ttl⟩ ::
              ⟨.redisGet (challengeKey challengeId), raw⟩ ::
                past) :=
        hRaw.cons trivial (by simp)
      have hReadTtl :=
        List.mem_cons_of_mem
          (⟨.redisTtl (challengeKey challengeId), ttl⟩ :
            Answer Eff Eff.Res)
          (List.mem_cons_of_mem
            (⟨.redisGet (challengeKey challengeId), raw⟩ :
              Answer Eff Eff.Res)
            hRead)
      simp only [bind_ret]
      split
      · exact hRest _ hTtl hReadTtl
      · refine ⟨trivial, fun result => ?_⟩
        cases result with
        | error error =>
            apply honestEnd_unfinished hCallback
            · exact hTtl.announced.cons trivial
            · intro _ hAll
              rcases
                  hAll.accepted _ _ _ error
                    List.mem_cons_self with
                ⟨ticket, hKey⟩
              simp [challengeKey, regTicketKey] at hKey
        | ok done =>
            exact
              hRest _ (hTtl.mark rfl)
                (List.mem_cons_of_mem _ hReadTtl)

/- A challenge that was created and not read again. -/
structure Unconfirmed
    (cfg : KisAuthConfig)
    (callback : Callback)
    (session : OAuthSession)
    (challengeId : String)
    (record : ChallengeRecord)
    (past : Past) : Prop where
  confirming :
    Confirming cfg callback session challengeId record past
  unread :
    ∀ value,
      (⟨.redisGet (challengeKey challengeId), value⟩ :
        Answer Eff Eff.Res) ∉ past
  unmarked :
    ∀ key written ttl result,
      (⟨.redisSet key (.challenge written) ttl, result⟩ :
          Answer Eff Eff.Res) ∈ past →
        written.used = false

theorem Unconfirmed.delete
    {key : String}
    (hUnconfirmed :
      Unconfirmed cfg callback session challengeId record
        past) :
    Unconfirmed cfg callback session challengeId record
      (⟨.redisDel key, ()⟩ :: past) where
  confirming := hUnconfirmed.confirming.cons trivial (by simp)
  unread := by
    intro value hMem
    rcases List.mem_cons.mp hMem with hSame | hEarlier
    · simp at hSame
    · exact hUnconfirmed.unread value hEarlier
  unmarked := by
    intro other written ttl result hMem
    rcases List.mem_cons.mp hMem with hSame | hEarlier
    · simp at hSame
    · exact hUnconfirmed.unmarked other written ttl result
        hEarlier

/- A challenge that cannot be confirmed is a false success. -/
theorem Unconfirmed.unfinished
    {raw : Option RedisValue}
    {redirectUri : String}
    (hUnconfirmed :
      Unconfirmed cfg callback session challengeId record
        past)
    (hNone :
      confirmedPayload (ChallengeStore.asChallenge raw)
          redirectUri =
        none)
    (hOwn :
      ReadsOwn
        (⟨.redisGet (challengeKey challengeId), raw⟩ ::
          past)) :
    ¬Finishes P cfg callback
      (⟨.redisGet (challengeKey challengeId), raw⟩ ::
        past) := by
  intro hAll
  have hConfirming := hUnconfirmed.confirming
  have hCreates :
      Creates
        (⟨.redisGet (challengeKey challengeId), raw⟩ :: past)
        challengeId record := by
    rcases hConfirming.created with ⟨hUnused, ttl, hMem⟩
    exact ⟨hUnused, ttl, List.mem_cons_of_mem _ hMem⟩
  rcases hAll.lasts _ _ hCreates with ⟨found, hFound⟩
  have hRaw : raw = some (.challenge found) := by
    rcases List.mem_cons.mp hFound with hSame | hEarlier
    · simp only [Answer.mk.injEq, heq_eq_eq, true_and]
        at hSame
      exact hSame.symm
    · exact absurd hEarlier (hUnconfirmed.unread _)
  rcases
      hOwn challengeId found
        (List.mem_cons_of_mem _ hConfirming.drawn) hFound with
    ⟨ttl, hSet⟩
  have hSetBefore :
      (⟨.redisSet (challengeKey challengeId)
            (.challenge found) ttl, .ok ()⟩ :
          Answer Eff Eff.Res) ∈ past := by
    simpa using hSet
  have hSame : found = record :=
    (hConfirming.only
      ⟨hUnconfirmed.unmarked _ _ _ _ hSetBefore, ttl,
        hSetBefore⟩).2
  have hSome :
      (confirmedPayload (some record) redirectUri).isSome =
        true := by
    rw [confirmedPayload_isSome_iff]
    refine
      ⟨hConfirming.fresh.unused, hAll.named _ _ hCreates, ?_⟩
    rw [hConfirming.fresh.limit, hConfirming.fresh.untried]
    simpa using hAll.attempts _ _ hCreates
  rw [hRaw, hSame] at hNone
  rw [ChallengeStore.asChallenge] at hNone
  rw [hNone] at hSome
  simp at hSome

theorem honest_confirm
    {clientState successState : String}
    (hCallback : q.callback = some callback)
    (hUnconfirmed :
      Unconfirmed cfg callback session challengeId record
        past) :
    Obeys (fun _ _ => True) (HonestEnd P cfg q)
      (OAuthOutcomeService.confirmAndRedirect P cfg
        challengeId session.redirectUri clientState
        successState)
      past := by
  unfold OAuthOutcomeService.confirmAndRedirect
    ChallengeStore.getChallenge
  refine ⟨trivial, fun raw => ?_⟩
  have hRaw :
      Confirming cfg callback session challengeId record
        (⟨.redisGet (challengeKey challengeId), raw⟩ ::
          past) :=
    hUnconfirmed.confirming.cons ⟨challengeId, rfl⟩ (by simp)
  simp only [pure_eq, bind_ret]
  split
  · next hNone =>
      apply honestEnd_unfinished hCallback hRaw.announced
      exact fun hOwn => hUnconfirmed.unfinished hNone hOwn
  · next payload hPayload =>
      have hFound :
          ∃ found,
            raw = some (.challenge found) ∧
              ChallengeStore.asChallenge raw = some found := by
        unfold ChallengeStore.asChallenge at hPayload ⊢
        split at hPayload
        · exact ⟨_, rfl, rfl⟩
        · simp [confirmedPayload] at hPayload
      rcases hFound with ⟨found, hRawFound, hSome⟩
      rw [hSome] at hPayload
      subst hRawFound
      apply honest_mark hCallback hRaw List.mem_cons_self
      intro later hLater hRead
      apply honest_code hCallback hLater hRead
      rw [hPayload]
      rfl

end KisAuth

------------------------------------------------------------
-- Callbacks
------------------------------------------------------------

namespace KisAuth

open Interaction Prog

variable {P : Platform} {cfg : KisAuthConfig} {q : Request}
variable {past : Past} {callback : Callback}
variable {session : OAuthSession}

/- A callback that has read its session and no more. -/
structure Begun
    (callback : Callback)
    (session : OAuthSession)
    (past : Past) : Prop where
  reads : ReadsOnly callback session past
  unread :
    ∀ challengeId value,
      (⟨.redisGet (challengeKey challengeId), value⟩ :
        Answer Eff Eff.Res) ∉ past
  humble : AllHumble past
  silent : ¬Emits past .failure

theorem Begun.cons
    {effect : Eff}
    (hBegun : Begun callback session past)
    (hCalm : CalmCall effect)
    (value : effect.Res) :
    Begun callback session (⟨effect, value⟩ :: past) := by
  have hSingle : AllCalm [⟨effect, value⟩] := by
    simpa [AllCalm] using hCalm
  constructor
  case reads =>
    apply hBegun.reads.cons
    cases effect with
    | emit event => exact hCalm.elim
    | redisGet key => exact hCalm.elim
    | _ => trivial
  case unread =>
    intro challengeId other hMem
    rcases List.mem_cons.mp hMem with hSame | hEarlier
    · simp only [Answer.mk.injEq] at hSame
      rw [← hSame.1] at hCalm
      exact hCalm
    · exact hBegun.unread challengeId other hEarlier
  case humble =>
    exact
      List.forall_mem_cons.mpr
        ⟨hSingle.humble _ (List.mem_singleton_self _),
          hBegun.humble⟩
  case silent =>
    rintro ⟨event, hMem, hOutcome⟩
    rcases List.mem_cons.mp hMem with hSame | hEarlier
    · simp only [Answer.mk.injEq] at hSame
      rw [← hSame.1] at hCalm
      exact hCalm
    · exact hBegun.silent ⟨event, hEarlier, hOutcome⟩

theorem Begun.delete
    {key : String}
    (hBegun : Begun callback session past) :
    Begun callback session (⟨.redisDel key, ()⟩ :: past) :=
  hBegun.cons (show CalmCall (.redisDel key) from trivial) ()

theorem Begun.extends
    {later : Past}
    (hBegun : Begun callback session past)
    (hExtends : Extends CalmCall past later) :
    Begun callback session later := by
  rcases hExtends with ⟨new, rfl, hNew⟩
  induction new with
  | nil => exact hBegun
  | cons answer new ih =>
      rw [List.forall_mem_cons] at hNew
      exact (ih hNew.2).cons hNew.1 answer.value

theorem Begun.noSet
    (hBegun : Begun callback session past)
    (key : String)
    (value : RedisValue)
    (ttl : ℚ)
    (result : Except RedisError Unit) :
    (⟨.redisSet key value ttl, result⟩ :
      Answer Eff Eff.Res) ∉ past :=
  fun hMem => hBegun.humble _ hMem

theorem Begun.noSuccess
    (hBegun : Begun callback session past) :
    ¬Emits past .success := by
  rintro ⟨event, hMem, hOutcome⟩
  have hFailure : event.outcome = .failure :=
    hBegun.humble _ hMem
  rw [hOutcome] at hFailure
  simp at hFailure

/- A sequence that goes on with calm calls. -/
theorem honest_after_begun
    {α : Type}
    {program : KisM α}
    {next : α → KisM Response}
    (hBegun : Begun callback session past)
    (hProgram :
      Obeys (fun _ effect => CalmCall effect) (fun _ _ => True)
        program past)
    (hNext :
      ∀ later value,
        Begun callback session later →
          Obeys (fun _ _ => True) (HonestEnd P cfg q)
            (next value) later) :
    Obeys (fun _ _ => True) (HonestEnd P cfg q)
      (program >>= next) past := by
  apply obeys_after_quiet hProgram
  · exact fun _ _ _ => trivial
  · intro later value hLater
    exact hNext later value (hBegun.extends hLater)
  · intro later error hLater
    exact
      honestEnd_of_humble (hBegun.extends hLater).humble
        trivial

/- The success that is announced before the challenge. -/
theorem Begun.announce
    {event : SecurityEvent}
    (hBegun : Begun callback session past)
    (hEvent : event.outcome = .success) :
    Announced (⟨.emit event, ()⟩ :: past) where
  success := ⟨event, List.mem_cons_self, hEvent⟩
  noFailure := by
    rintro ⟨other, hMem, hOutcome⟩
    rcases List.mem_cons.mp hMem with hSame | hEarlier
    · simp only [Answer.mk.injEq, Eff.emit.injEq] at hSame
      rw [hSame.1, hEvent] at hOutcome
      simp at hOutcome
    · exact hBegun.silent ⟨other, hEarlier, hOutcome⟩

/- An announcement reads nothing. -/
theorem ReadsOnly.announce
    {event : SecurityEvent}
    (hReads : ReadsOnly callback session past) :
    ReadsOnly callback session
      (⟨.emit event, ()⟩ :: past) where
  reads := by
    rcases hReads.reads with ⟨sessionId, hRead⟩
    exact
      ⟨sessionId, hRead.extend (List.subset_cons_self _ _)⟩
  only := by
    intro sessionId value hMem
    rcases List.mem_cons.mp hMem with hSame | hEarlier
    · simp at hSame
    · exact hReads.only sessionId value hEarlier

/- A callback announces a success, then creates a challenge. -/
theorem honest_create
    {event : SecurityEvent}
    {purpose kisUserId authIdentityId : String}
    {next : String → KisM Response}
    (hCallback : q.callback = some callback)
    (hBegun : Begun callback session past)
    (hEvent : event.outcome = .success)
    (hNext :
      ∀ later challengeId record,
        Unconfirmed cfg callback session challengeId record
            later →
          Obeys (fun _ _ => True) (HonestEnd P cfg q)
            (next challengeId) later) :
    Obeys (fun _ _ => True) (HonestEnd P cfg q)
      (do
        emit event
        let challengeId ← randomId
        ChallengeStore.createChallenge challengeId
          (OAuthOutcomeService.newChallenge cfg session purpose
            kisUserId authIdentityId)
          cfg.challengeTtlSeconds
        next challengeId)
      past := by
  unfold ChallengeStore.createChallenge Redis.set
  refine ⟨trivial, fun _ => ⟨trivial, fun challengeId => ?_⟩⟩
  refine ⟨trivial, fun result => ?_⟩
  have hAnnounced : Announced (⟨.emit event, ()⟩ :: past) :=
    hBegun.announce hEvent
  have hDrawn :
      Announced
        (⟨.random, challengeId⟩ ::
          ⟨.emit event, ()⟩ :: past) :=
    hAnnounced.cons trivial
  cases result with
  | error error =>
      apply honestEnd_unfinished hCallback
      · exact hDrawn.cons trivial
      · intro _ hAll
        rcases hAll.accepted _ _ _ error List.mem_cons_self
          with ⟨ticket, hKey⟩
        simp [challengeKey, regTicketKey] at hKey
  | ok done =>
      apply hNext _ challengeId
        (OAuthOutcomeService.newChallenge cfg session purpose
          kisUserId authIdentityId)
      have hReads :
          ReadsOnly callback session
            (⟨.random, challengeId⟩ ::
              ⟨.emit event, ()⟩ :: past) :=
        hBegun.reads.announce.cons trivial
      constructor
      case confirming =>
        constructor
        case reads => exact hReads.cons trivial
        case announced => exact hDrawn.cons trivial
        case drawn => simp
        case fresh => exact ⟨rfl, rfl, rfl⟩
        case created =>
          exact ⟨rfl, _, List.mem_cons_self⟩
        case sets =>
          intro key value ttl written hMem
          rcases List.mem_cons.mp hMem with hSame | hEarlier
          · simp only [Answer.mk.injEq, Eff.redisSet.injEq]
              at hSame
            rcases hSame with ⟨⟨hKey, hValue, rfl⟩, hResult⟩
            exact
              ⟨eq_of_heq hResult, Or.inl ⟨hKey, hValue⟩⟩
          · simp only [List.mem_cons, Answer.mk.injEq,
              reduceCtorEq, false_and, false_or] at hEarlier
            exact absurd hEarlier (hBegun.noSet _ _ _ _)
      case unread =>
        intro value hMem
        simp only [List.mem_cons, Answer.mk.injEq,
          reduceCtorEq, false_and, false_or] at hMem
        exact hBegun.unread _ _ hMem
      case unmarked =>
        intro key written ttl other hMem
        rcases List.mem_cons.mp hMem with hSame | hEarlier
        · simp only [Answer.mk.injEq, Eff.redisSet.injEq,
            RedisValue.challenge.injEq] at hSame
          rw [hSame.1.2.1]
          rfl
        · simp only [List.mem_cons, Answer.mk.injEq,
            reduceCtorEq, false_and, false_or] at hEarlier
          exact absurd hEarlier (hBegun.noSet _ _ _ _)

/- A failure that is announced with an error redirect. -/
theorem honest_errorRedirect
    {event : SecurityEvent}
    {state redirectUri : String}
    {params : List (String × String)}
    (hPast : AllHumble past)
    (hEvent : event.outcome = .failure) :
    Obeys (fun _ _ => True) (HonestEnd P cfg q)
      (do
        emit event
        redirectToStatus P cfg state redirectUri params)
      past := by
  apply honest_of_humble hPast
  exact ⟨hEvent, fun _ => humble_redirectToStatus⟩

theorem honest_finalizeLink
    {args : OutcomeArgs}
    (hCallback : q.callback = some callback)
    (hBegun : Begun callback args.session past) :
    Obeys (fun _ _ => True) (HonestEnd P cfg q)
      (OAuthOutcomeService.finalizeLink P cfg args) past := by
  unfold OAuthOutcomeService.finalizeLink
  cases truthyText args.session.linkKisUserId with
  | none =>
      apply honest_of_humble hBegun.humble
      exact ⟨trivial, fun _ => trivial⟩
  | some kisUserId =>
      simp only
      apply honest_after_begun hBegun (calm_link _)
      intro pastLink result hLink
      refine ⟨trivial, fun _ => ?_⟩
      have hDeleted :
          Begun callback args.session
            (⟨.redisDel (sessionKey args.sessionId), ()⟩ ::
              pastLink) :=
        hLink.delete
      simp only [bind_ret]
      cases result with
      | alreadyLinked =>
          exact honest_errorRedirect hDeleted.humble rfl
      | ok identity =>
          apply honest_create hCallback hDeleted rfl
          intro later challengeId record hUnconfirmed
          exact honest_confirm hCallback hUnconfirmed

/- The ticket is all that is stored. -/
theorem Begun.only_ticket
    {payload : RegistrationTicketPayload}
    {ticket : String}
    {ttlSeconds : ℚ}
    {result : Except RedisError Unit}
    (hBegun : Begun callback session past) :
    ∀ key value ttl other,
      (⟨.redisSet key value ttl, other⟩ :
          Answer Eff Eff.Res) ∈
        (⟨.redisSet (regTicketKey ticket) (.ticket payload)
            ttlSeconds, result⟩ :: past : Past) →
        key = regTicketKey ticket ∧
          value = .ticket payload ∧ other = result := by
  intro key value ttl other hMem
  rcases List.mem_cons.mp hMem with hSame | hEarlier
  · simp only [Answer.mk.injEq, Eff.redisSet.injEq] at hSame
    rcases hSame with ⟨⟨rfl, rfl, rfl⟩, hResult⟩
    exact ⟨rfl, rfl, eq_of_heq hResult⟩
  · exact absurd hEarlier (hBegun.noSet _ _ _ _)

/- A ticket Redis refuses is not announced. -/
theorem Begun.ticket_refused
    {payload : RegistrationTicketPayload}
    {ticket : String}
    {ttlSeconds : ℚ}
    {refusal : RedisError}
    {error : HttpError}
    (hBegun : Begun callback session past) :
    HonestEnd P cfg q
      (⟨.redisSet (regTicketKey ticket) (.ticket payload)
          ttlSeconds, .error refusal⟩ :: past)
      (.error error) := by
  apply honestEnd_of_error
  · rintro ⟨other, hMem, hOutcome⟩
    rcases List.mem_cons.mp hMem with hSame | hEarlier
    · simp at hSame
    · exact hBegun.noSuccess ⟨other, hEarlier, hOutcome⟩
  · intro other
    apply finishes_without_challenge
    · rintro challengeId record ⟨_, ttl, hMem⟩
      cases (hBegun.only_ticket _ _ _ _ hMem).2.2
    · intro key value ttl otherError hMem
      exact ⟨ticket, (hBegun.only_ticket _ _ _ _ hMem).1⟩
    · rintro code ⟨key, value, ttl, hMem, _⟩
      cases (hBegun.only_ticket _ _ _ _ hMem).2.2

/- A stored ticket leaves nothing but the redirect. -/
theorem Begun.finishes_with_ticket
    {event : SecurityEvent}
    {payload : RegistrationTicketPayload}
    {ticket : String}
    {ttlSeconds : ℚ}
    (hBegun : Begun callback session past)
    (hRedirects : Redirects P cfg session) :
    Finishes P cfg callback
      (⟨.emit event, ()⟩ ::
        ⟨.redisSet (regTicketKey ticket) (.ticket payload)
          ttlSeconds, .ok ()⟩ :: past) := by
  have hReads :
      ReadsOnly callback session
        (⟨.redisSet (regTicketKey ticket) (.ticket payload)
            ttlSeconds, .ok ()⟩ :: past) :=
    hBegun.reads.cons trivial
  have hSets :
      ∀ key value ttl other,
        (⟨.redisSet key value ttl, other⟩ :
            Answer Eff Eff.Res) ∈
          (⟨.emit event, ()⟩ ::
            ⟨.redisSet (regTicketKey ticket)
              (.ticket payload) ttlSeconds, .ok ()⟩ ::
            past : Past) →
          other = .ok () ∧ value = .ticket payload := by
    intro key value ttl other hMem
    rcases List.mem_cons.mp hMem with hSame | hEarlier
    · simp at hSame
    · have hOnly := hBegun.only_ticket _ _ _ _ hEarlier
      exact ⟨hOnly.2.2, hOnly.2.1⟩
  apply finishes_without_challenge
  · rintro challengeId record ⟨_, ttl, hMem⟩
    have hValue := (hSets _ _ _ _ hMem).2
    simp at hValue
  · intro key value ttl error hMem
    cases (hSets _ _ _ _ hMem).1
  · exact fun _ _ => hReads.announce.all hRedirects

/- A ticket is stored before it is announced. -/
theorem honest_ticket
    {event : SecurityEvent}
    {payload : RegistrationTicketPayload}
    {ttlSeconds : ℚ}
    {state clientState : String}
    (hCallback : q.callback = some callback)
    (hBegun : Begun callback session past)
    (hEvent : event.outcome = .success) :
    Obeys (fun _ _ => True) (HonestEnd P cfg q)
      (do
        let ticket ←
          ChallengeStore.issueRegistrationTicket payload
            ttlSeconds
        emit event
        redirectToStatus P cfg state session.redirectUri
          [("code", ticket), ("state", clientState)])
      past := by
  unfold ChallengeStore.issueRegistrationTicket Redis.set
  refine ⟨trivial, fun ticket => ⟨trivial, fun result => ?_⟩⟩
  have hTicket :
      Begun callback session (⟨.random, ticket⟩ :: past) :=
    hBegun.cons (show CalmCall .random from trivial) ticket
  cases result with
  | error error => exact hTicket.ticket_refused
  | ok done =>
      refine ⟨trivial, fun _ => ?_⟩
      have hReads :
          ReadsOnly callback session
            (⟨.redisSet (regTicketKey ticket)
                (.ticket payload) ttlSeconds, .ok done⟩ ::
              ⟨.random, ticket⟩ :: past) :=
        hTicket.reads.cons trivial
      apply honest_redirect hCallback
      · exact hReads.announce
      · constructor
        case success =>
          exact ⟨event, List.mem_cons_self, hEvent⟩
        case noFailure =>
          rintro ⟨other, hMem, hOutcome⟩
          rw [List.mem_cons, List.mem_cons] at hMem
          rcases hMem with hSame | hSame | hEarlier
          · simp only [Answer.mk.injEq, Eff.emit.injEq]
              at hSame
            rw [hSame.1, hEvent] at hOutcome
            simp at hOutcome
          · simp at hSame
          · exact hTicket.silent ⟨other, hEarlier, hOutcome⟩
      · exact
          ⟨regTicketKey ticket, _, _,
            List.mem_cons_of_mem _ List.mem_cons_self,
            Or.inr rfl⟩
      · exact fun _ hRedirects =>
          hTicket.finishes_with_ticket hRedirects

theorem honest_finalizeRegistration
    {args : OutcomeArgs}
    {identity : Option AuthIdentity}
    {registrationPurpose : String}
    {partnerSlug : Option String}
    (hCallback : q.callback = some callback)
    (hBegun : Begun callback args.session past) :
    Obeys (fun _ _ => True) (HonestEnd P cfg q)
      (OAuthOutcomeService.finalizeRegistration P cfg args
        identity registrationPurpose partnerSlug)
      past := by
  unfold OAuthOutcomeService.finalizeRegistration
  refine ⟨trivial, fun _ => ?_⟩
  have hDeleted :
      Begun callback args.session
        (⟨.redisDel (sessionKey args.sessionId), ()⟩ ::
          past) :=
    hBegun.delete
  cases identity with
  | some identity =>
      exact honest_errorRedirect hDeleted.humble rfl
  | none => exact honest_ticket hCallback hDeleted rfl

theorem honest_finalizeReturningUser
    {args : OutcomeArgs}
    {identity : Option AuthIdentity}
    (hCallback : q.callback = some callback)
    (hBegun : Begun callback args.session past) :
    Obeys (fun _ _ => True) (HonestEnd P cfg q)
      (OAuthOutcomeService.finalizeReturningUser P cfg args
        identity)
      past := by
  unfold OAuthOutcomeService.finalizeReturningUser
  cases identity with
  | none =>
      refine ⟨trivial, fun _ => ?_⟩
      have hDeleted :
          Begun callback args.session
            (⟨.redisDel (sessionKey args.sessionId), ()⟩ ::
              past) :=
        hBegun.delete
      exact honest_errorRedirect hDeleted.humble rfl
  | some identity =>
      simp only
      apply honest_after_begun hBegun
      · unfold IdentityService.touchLastAuthenticated
        exact ⟨trivial, fun result => calm_orSqlCrash result⟩
      intro pastTouch _ hTouch
      apply honest_create hCallback hTouch rfl
      intro later challengeId record hUnconfirmed
      refine ⟨trivial, fun _ => ?_⟩
      exact honest_confirm hCallback hUnconfirmed.delete

theorem honest_finalizeIdentity
    {args : OutcomeArgs}
    {registrationPurpose : String}
    {partnerSlug : Option String}
    (hCallback : q.callback = some callback)
    (hBegun : Begun callback args.session past) :
    Obeys (fun _ _ => True) (HonestEnd P cfg q)
      (finalizeIdentity P cfg args registrationPurpose
        partnerSlug)
      past := by
  unfold finalizeIdentity
  split
  · exact honest_finalizeLink hCallback hBegun
  · apply honest_after_begun hBegun
    · unfold IdentityService.findByProviderSubject
      exact ⟨trivial, fun rows => calm_orSqlCrash rows⟩
    intro later identity hLater
    split
    · exact honest_finalizeRegistration hCallback hLater
    · exact honest_finalizeReturningUser hCallback hLater

/- The session of a cookie, and nothing else, is read. -/
theorem honest_sessionOf
    {cookie : Option String}
    {next :
      Option (String × OAuthSession) → KisM Response}
    (hPast : AllCalm past)
    (hCookie : sessionCookie callback.req = some cookie)
    (hNone :
      ∀ later,
        AllHumble later →
          Obeys (fun _ _ => True) (HonestEnd P cfg q)
            (next none) later)
    (hSome :
      ∀ later sessionId session,
        Begun callback session later →
          Obeys (fun _ _ => True) (HonestEnd P cfg q)
            (next (some (sessionId, session))) later) :
    Obeys (fun _ _ => True) (HonestEnd P cfg q)
      (sessionOf cookie >>= next) past := by
  unfold sessionOf
  cases cookie with
  | none => exact hNone past hPast.humble
  | some sessionId =>
      simp only
      split
      · exact hNone past hPast.humble
      · unfold OAuthSessionStore.get
        refine ⟨trivial, fun raw => ?_⟩
        have hHumble :
            AllHumble
              (⟨.redisGet (sessionKey sessionId), raw⟩ ::
                past) :=
          List.forall_mem_cons.mpr ⟨trivial, hPast.humble⟩
        simp only [pure_eq, bind_ret]
        unfold OAuthSessionStore.asSession
        split
        case h_2 => exact hNone _ hHumble
        case h_1 session =>
          apply hSome _ sessionId session
          constructor
          case reads =>
            refine
              ⟨⟨sessionId, hCookie, List.mem_cons_self⟩, ?_⟩
            intro otherId value hMem
            rcases List.mem_cons.mp hMem with hSame | hOld
            · simp only [Answer.mk.injEq,
                Eff.redisGet.injEq] at hSame
              exact eq_of_heq hSame.2
            · exact (hPast _ hOld).elim
          case unread =>
            intro challengeId value hMem
            rcases List.mem_cons.mp hMem with hSame | hOld
            · simp [sessionKey, challengeKey] at hSame
            · exact hPast _ hOld
          case humble => exact hHumble
          case silent =>
            rintro ⟨event, hMem, _⟩
            rcases List.mem_cons.mp hMem with hSame | hOld
            · simp at hSame
            · exact hPast _ hOld

/- How both callbacks begin. -/
theorem honest_begin
    {policy : RateLimitPolicy}
    {req : BrowserRequest}
    {next :
      Option (String × OAuthSession) → KisM Response}
    (hReq : callback.req = req)
    (hNone :
      ∀ later,
        AllHumble later →
          Obeys (fun _ _ => True) (HonestEnd P cfg q)
            (next none) later)
    (hSome :
      ∀ later sessionId session,
        Begun callback session later →
          Obeys (fun _ _ => True) (HonestEnd P cfg q)
            (next (some (sessionId, session))) later) :
    Obeys (fun _ _ => True) (HonestEnd P cfg q)
      (do
        enforceRateLimit policy req.ip
        let sessionId ← sessionIdOf req
        let found ← sessionOf sessionId
        next found)
      [] := by
  subst hReq
  apply honest_after_calm (by simp [AllCalm])
    (calm_enforceRateLimit policy callback.req.ip)
  intro later _ hLater
  unfold sessionIdOf
  cases hCookie : sessionCookie callback.req with
  | none => exact honestEnd_of_humble hLater.humble trivial
  | some cookie =>
      exact honest_sessionOf hLater hCookie hNone hSome

/- The tenant's configuration, or a failure. -/
theorem honest_resolveOrFail
    {partnerSlug clientId sessionId ip : String}
    {next : OidcPartnerConfig → KisM Response}
    (hBegun : Begun callback session past)
    (hNext :
      ∀ later config,
        Begun callback session later →
          Obeys (fun _ _ => True) (HonestEnd P cfg q)
            (next config) later) :
    Obeys (fun _ _ => True) (HonestEnd P cfg q)
      (OidcEnterpriseController.resolveOrFail P cfg
          partnerSlug clientId sessionId ip >>= next)
      past := by
  unfold OidcEnterpriseController.resolveOrFail
  apply Obeys.andThen
  apply obeys_after_quiet
    (calm_of_asksOnly (asksOnly_resolve partnerSlug))
  · exact fun _ _ _ => trivial
  · intro later resolved hLater
    have hBegunLater := hBegun.extends hLater
    cases resolved with
    | ok config => exact hNext later config hBegunLater
    | error failure =>
        refine ⟨trivial, fun _ => ⟨trivial, fun _ => ?_⟩⟩
        apply honestEnd_of_humble
        · exact
            List.forall_mem_cons.mpr
              ⟨trivial,
                List.forall_mem_cons.mpr
                  ⟨rfl, hBegunLater.humble⟩⟩
        · trivial
  · intro later error hLater
    exact
      honestEnd_of_humble (hBegun.extends hLater).humble
        trivial

/- Its discovery document, or a failure. -/
theorem honest_discoverOrFail
    {partnerSlug discoveryUrl clientId sessionId ip : String}
    {next : OidcDiscoveryDocument → KisM Response}
    (hBegun : Begun callback session past)
    (hNext :
      ∀ later doc,
        Begun callback session later →
          Obeys (fun _ _ => True) (HonestEnd P cfg q)
            (next doc) later) :
    Obeys (fun _ _ => True) (HonestEnd P cfg q)
      (OidcEnterpriseController.discoverOrFail partnerSlug
          discoveryUrl clientId sessionId ip >>= next)
      past := by
  unfold OidcEnterpriseController.discoverOrFail
  apply Obeys.andThen
  apply obeys_after_quiet
    (calm_of_asksOnly (asksOnly_fetchDiscovery discoveryUrl))
  · exact fun _ _ _ => trivial
  · intro later found hLater
    have hBegunLater := hBegun.extends hLater
    cases found with
    | some doc => exact hNext later doc hBegunLater
    | none =>
        refine ⟨trivial, fun _ => ⟨trivial, fun _ => ?_⟩⟩
        apply honestEnd_of_humble
        · exact
            List.forall_mem_cons.mpr
              ⟨trivial,
                List.forall_mem_cons.mpr
                  ⟨rfl, hBegunLater.humble⟩⟩
        · trivial
  · intro later error hLater
    exact
      honestEnd_of_humble (hBegun.extends hLater).humble
        trivial

theorem google_honest
    {query : CallbackQuery}
    {req : BrowserRequest}
    (hCallback : q.callback = some ⟨none, query, req⟩) :
    Obeys (fun _ _ => True) (HonestEnd P cfg q)
      (OAuthController.callback P cfg query req) [] := by
  unfold OAuthController.callback
  have hReq : (Callback.mk none query req).req = req := rfl
  apply honest_begin hReq
  · intro later hLater
    cases truthyText query.error with
    | none => exact honestEnd_of_humble hLater trivial
    | some error => exact honestEnd_of_humble hLater trivial
  · intro later sessionId session hBegun
    cases truthyText query.error with
    | some error =>
        simp only
        split
        · exact
            honest_of_humble hBegun.humble
              humble_cancelCallback
        · exact honestEnd_of_humble hBegun.humble trivial
    | none =>
        simp only
        split
        · exact honestEnd_of_humble hBegun.humble trivial
        · apply honest_after_begun hBegun
            (calm_of_asksOnly (asksOnly_googleIdentity _ _ _))
          intro pastToken verified hToken
          cases verified with
          | error failure =>
              exact
                honest_of_humble hToken.humble
                  humble_failCallback
          | ok identity =>
              exact honest_finalizeIdentity hCallback hToken

theorem enterprise_honest
    {partnerSlug : String}
    {query : CallbackQuery}
    {req : BrowserRequest}
    (hCallback :
      q.callback = some ⟨some partnerSlug, query, req⟩) :
    Obeys (fun _ _ => True) (HonestEnd P cfg q)
      (OidcEnterpriseController.callback P cfg partnerSlug
        query req)
      [] := by
  unfold OidcEnterpriseController.callback
  have hReq :
      (Callback.mk (some partnerSlug) query req).req = req :=
    rfl
  apply honest_begin hReq
  · intro later hLater
    cases truthyText query.error with
    | none => exact honestEnd_of_humble hLater trivial
    | some error => exact honestEnd_of_humble hLater trivial
  · intro later sessionId session hBegun
    cases truthyText query.error with
    | some error =>
        simp only
        split
        · exact
            honest_of_humble hBegun.humble
              humble_cancelCallback
        · exact honestEnd_of_humble hBegun.humble trivial
    | none =>
        simp only
        split
        · exact honestEnd_of_humble hBegun.humble trivial
        · split
          case isFalse =>
            exact honestEnd_of_humble hBegun.humble trivial
          case isTrue =>
            apply honest_resolveOrFail hBegun
            intro pastConfig config hConfig
            apply honest_discoverOrFail hConfig
            intro pastDoc doc hDoc
            apply honest_after_begun hDoc
              (calm_of_asksOnly
                (asksOnly_enterpriseIdentity _ _ _ _ _ _))
            intro pastToken verified hToken
            cases verified with
            | error failure =>
                exact
                  honest_of_humble hToken.humble
                    humble_failCallback
            | ok identity =>
                exact honest_finalizeIdentity hCallback hToken

/- Every callback is honest exactly when it can finish. -/
theorem callback_honest
    {callback : Callback}
    (hCallback : q.callback = some callback) :
    Obeys (fun _ _ => True) (HonestEnd P cfg q)
      (handler P cfg q) [] := by
  cases q with
  | googleCallback query req => exact google_honest rfl
  | enterpriseCallback partnerSlug query req =>
      exact enterprise_honest rfl
  | _ => simp [Request.callback] at hCallback

end KisAuth

------------------------------------------------------------
-- Runs
------------------------------------------------------------

namespace KisAuth

open Interaction Prog

variable {P : Platform} {cfg : KisAuthConfig}

/- Nobody else writes the challenge a request drew. -/
theorem Run.readsOwn
    (run : Run P cfg)
    (thread : Nat) :
    ReadsOwn (answersOf thread run.history) :=
  fun _ _ hRandom hRead =>
    challenge_written run.recorded hRandom hRead

/-
  In every run the events of a callback, an exchange or a
  link agree with its response exactly when it can finish:
  an exchange and a link always, a callback when Redis
  accepts the expiries of its challenge and its code, its
  challenge lasts until it is read, names a user and has an
  attempt, and its URLs parse.
-/
theorem events_honest_iff
    (run : Run P cfg)
    {thread : Nat}
    {q : Request}
    {outcome : Except HttpError Response}
    (hRoute :
      q.callback.isSome = true ∨ q.internal.isSome = true)
    (hArrive : Entry.arrive thread q ∈ run.history)
    (hEnd : Entry.respond thread outcome ∈ run.history) :
    Honest P cfg (answersOf thread run.history) outcome ↔
      CanFinish P cfg q (answersOf thread run.history) := by
  have hReaches :=
    ended_reaches run.conforms hArrive hEnd
  have hObeys :
      Obeys (fun _ _ => True) (HonestEnd P cfg q)
        (handler P cfg q) [] := by
    rcases hRoute with hCallback | hInternal
    · rcases Option.isSome_iff_exists.mp hCallback with
        ⟨callback, hSome⟩
      exact callback_honest hSome
    · rcases Option.isSome_iff_exists.mp hInternal with
        ⟨post, hSome⟩
      exact internal_honest hSome
  have hHonestEnd := hObeys.final_of_reaches hReaches
  exact hHonestEnd (run.readsOwn thread)

/- The threads of Google's callbacks. -/
def callbackThread : ServiceEntry → Option Nat
| .arrive thread (.googleCallback _ _) => some thread
| _ => none

/- The outcome an answer announced. -/
def announcedOutcome :
    Answer Eff Eff.Res → Option EventOutcome
| ⟨.emit event, _⟩ => some event.outcome
| _ => none

theorem arrive_of_callbackThread
    {history : History}
    {thread : Nat}
    (hMem : thread ∈ history.filterMap callbackThread) :
    ∃ query req,
      Entry.arrive thread (.googleCallback query req) ∈
        history := by
  rcases List.mem_filterMap.mp hMem with
    ⟨entry, hEntry, hThread⟩
  unfold callbackThread at hThread
  split at hThread
  · next other query req =>
      rw [Option.some.injEq] at hThread
      rw [← hThread]
      exact ⟨query, req, hEntry⟩
  · simp at hThread

theorem emits_iff_announced
    {past : Past}
    {outcome : EventOutcome} :
    Emits past outcome ↔
      outcome ∈ past.filterMap announcedOutcome := by
  rw [List.mem_filterMap]
  constructor
  · rintro ⟨event, hMem, hOutcome⟩
    exact ⟨_, hMem, congrArg some hOutcome⟩
  · rintro ⟨answer, hMem, hAnnounced⟩
    unfold announcedOutcome at hAnnounced
    split at hAnnounced
    · next event value =>
        rw [Option.some.injEq] at hAnnounced
        exact ⟨event, hMem, hAnnounced⟩
    · simp at hAnnounced

/- A returning user's challenge expires before it is read. -/
def expiringActions : FlowActions :=
  linkActions 0 ++ askActions 1 "recovery" ++
    readActions 2 ++ startActions 2 "v1" ++
      enterActions 3 "c1" ++ (returnActions 3).take 8 ++
        [.env (.tick 300000), .run 3 .none, .run 3 .none]

/- The login failed, and its success was announced. -/
theorem failed_login_announced :
    ∃ run : Run signedPlatform testConfig,
    ∃ query req,
      Entry.arrive 3 (.googleCallback query req) ∈
          run.history ∧
        Entry.respond 3 (.error (.badRequest genericError)) ∈
            run.history ∧
          ¬Honest signedPlatform testConfig
              (answersOf 3 run.history)
              (.error (.badRequest genericError)) := by
  have hEnds :
      (signedRun "recovery" expiringActions).map
          (fun state =>
            (state.history.filterMap callbackThread,
              state.history.filterMap failedWith,
              (answersOf 3 state.history).filterMap
                announcedOutcome)) =
        some
          ([3], [(3, .badRequest genericError)],
            [.success]) := by
    decide +kernel
  rcases Option.map_eq_some_iff.mp hEnds with
    ⟨state, hRun, hAll⟩
  simp only [Prod.mk.injEq] at hAll
  rcases hAll with ⟨hThreads, hFailed, hAnnounces⟩
  have hArrive :
      ∃ query req,
        Entry.arrive 3 (.googleCallback query req) ∈
          state.history := by
    apply arrive_of_callbackThread
    rw [hThreads]
    exact List.mem_singleton_self 3
  have hEnd :
      Entry.respond 3 (.error (.badRequest genericError)) ∈
        state.history := by
    apply respond_of_failedWith
    rw [hFailed]
    exact List.mem_singleton_self _
  rcases hArrive with ⟨query, req, hArrive⟩
  refine
    ⟨⟨_, state, Reachable.of_run hRun⟩, query, req, hArrive,
      hEnd, ?_⟩
  have hEmits : Emits (answersOf 3 state.history) .success := by
    rw [emits_iff_announced, hAnnounces]
    exact List.mem_singleton_self _
  intro hHonest
  cases hHonest.success hEmits

/- A session begins, and its callback issues a ticket. -/
def promptTicketActions : FlowActions :=
  authorizeActions 0 none ++ readActions 1 ++
    startActions 1 "v1" ++ enterActions 2 "c1" ++
      completeActions 2 "t1"

/- Where the ticket is handed off. -/
def ticketUrl : String :=
  flowPlatform.href
    (setSearchParams flowPlatform
      "http://localhost:4100/status"
      [("state", "registration_continue"),
        ("client_redirect",
          flowPlatform.href
            (setSearchParams flowPlatform
              "https://kis.test/cb"
              [("code", "t1"), ("state", "app")]))])

/- The redirects of the threads. -/
def redirected : ServiceEntry → Option (Nat × String)
| .respond thread (.ok (.redirect url none)) =>
    some (thread, url)
| _ => none

/- The keys that were set. -/
def keySet : Answer Eff Eff.Res → Option String
| ⟨.redisSet key _ _, .ok ()⟩ => some key
| _ => none

theorem respond_of_redirected
    {history : History}
    {thread : Nat}
    {url : String}
    (hMem : (thread, url) ∈ history.filterMap redirected) :
    Entry.respond thread (.ok (.redirect url none)) ∈
      history := by
  rcases List.mem_filterMap.mp hMem with
    ⟨entry, hEntry, hRedirected⟩
  unfold redirected at hRedirected
  split at hRedirected
  · rw [Option.some.injEq, Prod.mk.injEq] at hRedirected
    rcases hRedirected with ⟨rfl, rfl⟩
    exact hEntry
  · simp at hRedirected

theorem mints_of_keySet
    {past : Past}
    {ticket : String}
    (hMem : regTicketKey ticket ∈ past.filterMap keySet) :
    Mints past ticket := by
  rcases List.mem_filterMap.mp hMem with
    ⟨answer, hAnswer, hKey⟩
  unfold keySet at hKey
  split at hKey
  · next key value ttl =>
      rw [Option.some.injEq] at hKey
      exact ⟨key, value, ttl, hAnswer, Or.inr hKey⟩
  · simp at hKey

/- The success it announced could be delivered. -/
theorem issued_ticket_announced :
    ∃ run : Run flowPlatform testConfig,
    ∃ query req,
      Entry.respond 2 (.ok (.redirect ticketUrl none)) ∈
          run.history ∧
        Emits (answersOf 2 run.history) .success ∧
          CanFinish flowPlatform testConfig
            (.googleCallback query req)
            (answersOf 2 run.history) := by
  have hEnds :
      (flowRun promptTicketActions).map
          (fun state =>
            (state.history.filterMap callbackThread,
              decide
                ((2, ticketUrl) ∈
                  state.history.filterMap redirected),
              (answersOf 2 state.history).filterMap
                announcedOutcome,
              (answersOf 2 state.history).filterMap
                keySet)) =
        some
          ([2], true, [.success], [regTicketKey "t1"]) := by
    decide +kernel
  rcases Option.map_eq_some_iff.mp hEnds with
    ⟨state, hRun, hAll⟩
  simp only [Prod.mk.injEq, decide_eq_true_eq] at hAll
  rcases hAll with ⟨hThreads, hUrl, hAnnounces, hKeys⟩
  let run : Run flowPlatform testConfig :=
    ⟨_, state, Reachable.of_run hRun⟩
  have hArrive :
      ∃ query req,
        Entry.arrive 2 (.googleCallback query req) ∈
          run.history := by
    apply arrive_of_callbackThread
    rw [Run.history, hThreads]
    exact List.mem_singleton_self 2
  have hEnd :
      Entry.respond 2 (.ok (.redirect ticketUrl none)) ∈
        run.history :=
    respond_of_redirected hUrl
  have hEmits : Emits (answersOf 2 run.history) .success := by
    rw [emits_iff_announced, Run.history, hAnnounces]
    exact List.mem_singleton_self _
  have hMints : Mints (answersOf 2 run.history) "t1" := by
    apply mints_of_keySet
    rw [Run.history, hKeys]
    exact List.mem_singleton_self _
  have hSuccessful :
      Successful flowPlatform testConfig
        (answersOf 2 run.history)
        (.ok (.redirect ticketUrl none)) :=
    Successful.handOff "t1" "app" "https://kis.test/cb"
      "registration_continue" ticketUrl hMints rfl
  have hNoFailure :
      ¬Emits (answersOf 2 run.history) .failure := by
    rw [emits_iff_announced, Run.history, hAnnounces]
    simp
  rcases hArrive with ⟨query, req, hArrive⟩
  refine ⟨run, query, req, hEnd, hEmits, ?_⟩
  apply (events_honest_iff run (Or.inl rfl) hArrive hEnd).mp
  exact
    ⟨fun _ => hSuccessful,
      fun hFailure => absurd hFailure hNoFailure⟩

end KisAuth
