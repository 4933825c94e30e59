import KisAuth.Interaction.Erasure
import KisAuth.Service.RunProtocol

/-
  What the exchanges do with a request before they look at
  its code: they count it against the limits, and then they
  verify its signature.

  A request whose signature is not accepted gets no further.
  A count changes what a request does only where it is over
  a limit.

  Key definitions include:
    * `Harmless`, `VerifiesFirst`
    * `OverLimit`, `AgreesFor`

  Key theorems include:
    * `handler_verifiesFirst`
    * `handler_tolerates`
-/

------------------------------------------------------------
-- Signatures Come First
------------------------------------------------------------

namespace KisAuth

open Interaction Prog

variable {P : Platform} {cfg : KisAuthConfig} {q : Request}
variable {past : Past}

/- Counting a hit, verifying a signature, reporting. -/
def Harmless : Eff → Prop
| .redisIncr _ _ => True
| .verifySignature _ => True
| .emit _ => True
| _ => False

/-
  An exchange does nothing else before its signature is
  accepted.
-/
def VerifiesFirst
    (q : Request)
    (past : Past)
    (effect : Eff) : Prop :=
  q.redeems.isSome = true →
    Unsigned past → Harmless effect

/- After that, it may do anything. -/
theorem verifiesFirst_of_signed
    {α : Type}
    {request : SignedRequest}
    {final : Past → Except HttpError α → Prop}
    (hSigned :
      (⟨.verifySignature request, some .ok⟩ :
        Answer Eff Eff.Res) ∈ past)
    (hFinal :
      ∀ later outcome, past ⊆ later → final later outcome)
    (program : KisM α) :
    Obeys (VerifiesFirst q) final program past := by
  apply obeys_of_past _ hFinal
  intro later effect hLater _ hUnsigned
  exact absurd (hLater hSigned) (hUnsigned request)

theorem verifiesFirst_orCrash
    {α : Type}
    {final : Past → Except HttpError α → Prop}
    {value : Option α}
    (hOk : ∀ found, final past (.ok found))
    (hError : ∀ error, final past (.error error)) :
    Obeys (VerifiesFirst q) final (orCrash value) past := by
  cases value with
  | none => exact hError _
  | some found => exact hOk found

theorem verifiesFirst_enforceRateLimit
    {final : Past → Except HttpError Unit → Prop}
    (policy : RateLimitPolicy)
    (identifier : String)
    (hFinal : ∀ later outcome, final later outcome) :
    Obeys (VerifiesFirst q) final
      (enforceRateLimit policy identifier) past := by
  unfold enforceRateLimit RateLimiter.check
  refine ⟨fun _ _ => trivial, fun hits => ?_⟩
  simp only [pure_eq, bind_ret]
  split
  · exact hFinal _ _
  · exact hFinal _ _

/- A redemption goes on only once its signature is accepted. -/
theorem verifiesFirst_checkRedemption
    {final : Past → Except HttpError ExchangeBody → Prop}
    (route : Redemption)
    (post : InternalPost)
    (clientId : JsValue)
    (hOk :
      ∀ later request body,
        (⟨.verifySignature request, some .ok⟩ :
            Answer Eff Eff.Res) ∈ later →
          final later (.ok body))
    (hError : ∀ later error, final later (.error error)) :
    Obeys (VerifiesFirst q) final
      (checkRedemption route post clientId) past := by
  unfold checkRedemption verifySignedPost
  refine ⟨fun _ _ => trivial, fun verification => ?_⟩
  cases verification with
  | none => exact hError _ _
  | some result =>
      simp only [bind_ret, orCrash]
      cases result with
      | fail reason =>
          exact ⟨fun _ _ => trivial, fun _ => hError _ _⟩
      | ok =>
          apply verifiesFirst_of_signed List.mem_cons_self
          intro later outcome hLater
          cases outcome with
          | error error => exact hError _ _
          | ok body =>
              exact hOk _ _ _ (hLater List.mem_cons_self)

theorem verifiesFirst_admitRedemption
    {final : Past → Except HttpError ExchangeBody → Prop}
    (route : Redemption)
    (post : InternalPost)
    (hOk :
      ∀ later request body,
        (⟨.verifySignature request, some .ok⟩ :
            Answer Eff Eff.Res) ∈ later →
          final later (.ok body))
    (hError : ∀ later error, final later (.error error)) :
    Obeys (VerifiesFirst q) final
      (admitRedemption P route post) past := by
  unfold admitRedemption
  apply Obeys.andThen
  apply verifiesFirst_enforceRateLimit
  intro pastIp outcome
  cases outcome with
  | error error => exact hError _ _
  | ok done =>
      simp only [andThen_ok]
      apply Obeys.andThen
      apply verifiesFirst_orCrash
      case hError => exact hError _
      intro clientId
      simp only [andThen_ok]
      apply Obeys.andThen
      unfold limitClient
      split
      · apply Obeys.andThen
        apply verifiesFirst_orCrash
        case hError => exact hError _
        intro identifier
        simp only [andThen_ok]
        apply verifiesFirst_enforceRateLimit
        intro pastClient outcome
        cases outcome with
        | error error => exact hError _ _
        | ok done =>
            exact
              verifiesFirst_checkRedemption route post _ hOk
                hError
      · exact
          verifiesFirst_checkRedemption route post _ hOk
            hError

/- Every exchange verifies its signature first. -/
theorem handler_verifiesFirst (q : Request) :
    Obeys (VerifiesFirst q) (fun _ _ => True)
      (handler P cfg q) [] := by
  cases hRedeems : q.redeems with
  | none =>
      apply (handler_obeys q).mono
      · intro _ effect _ hSome
        rw [hRedeems] at hSome
        simp at hSome
      · exact fun _ _ _ => trivial
  | some redemption =>
      cases q with
      | authorizationExchange post =>
          unfold handler ExchangeController.exchange
          apply Obeys.andThen
          apply verifiesFirst_admitRedemption
          · intro later request body hSigned
            exact
              verifiesFirst_of_signed hSigned
                (fun _ _ _ => trivial) _
          · exact fun _ _ => trivial
      | registrationExchange post =>
          unfold handler RegistrationExchangeController.exchange
          apply Obeys.andThen
          apply verifiesFirst_admitRedemption
          · intro later request body hSigned
            exact
              verifiesFirst_of_signed hSigned
                (fun _ _ _ => trivial) _
          · exact fun _ _ => trivial
      | _ => simp [Request.redeems] at hRedeems

end KisAuth

------------------------------------------------------------
-- Counts Within The Limits
------------------------------------------------------------

namespace KisAuth

open Interaction Prog

variable {P : Platform} {cfg : KisAuthConfig} {q : Request}

/- A limit of the request refuses the hit, with 429. -/
def OverLimit
    (P : Platform)
    (q : Request)
    (key : String)
    (hits : Nat) : Prop :=
  ∃ limit ∈ q.limits P,
    rateLimitKey limit.1.scope limit.2 = key ∧
      limit.1.limit < hits

instance
    (P : Platform)
    (q : Request)
    (key : String)
    (hits : Nat) :
    Decidable (OverLimit P q key hits) :=
  inferInstanceAs
    (Decidable
      (∃ limit ∈ q.limits P,
        rateLimitKey limit.1.scope limit.2 = key ∧
          limit.1.limit < hits))

/-
  Answers that agree are the same, or counts that no limit of
  an exchange refuses.
-/
def AgreesFor
    (P : Platform)
    (q : Request) :
    (effect : Eff) → effect.Res → effect.Res → Prop
| .redisIncr key _, hits, hits' =>
    hits = hits' ∨
      (q.redeems.isSome = true ∧
        ¬OverLimit P q key hits ∧ ¬OverLimit P q key hits')
| _, value, value' => value = value'

theorem agreesFor_refl
    (P : Platform)
    (q : Request)
    (effect : Eff)
    (value : effect.Res) :
    AgreesFor P q effect value value := by
  cases effect with
  | redisIncr key window => exact Or.inl rfl
  | _ => rfl

/- Other answers than counts agree only if they are equal. -/
theorem eq_of_agreesFor
    {effect : Eff}
    (hNoCount :
      ∀ key window, effect ≠ .redisIncr key window)
    (value value' : effect.Res)
    (hAgrees : AgreesFor P q effect value value') :
    value = value' := by
  cases effect with
  | redisIncr key window => exact absurd rfl (hNoCount _ _)
  | _ => exact hAgrees

theorem tolerates_call
    {effect : Eff}
    (hNoCount :
      ∀ key window, effect ≠ .redisIncr key window) :
    (call effect).Tolerates (AgreesFor P q) :=
  tolerates_perform (eq_of_agreesFor hNoCount)

theorem tolerates_orCrash
    {α : Type}
    (value : Option α) :
    (orCrash value : KisM α).Tolerates (AgreesFor P q) := by
  cases value with
  | none => trivial
  | some found => trivial

/- A limit looks only at whether a count is over it. -/
theorem tolerates_enforceRateLimit
    {policy : RateLimitPolicy}
    {identifier : String}
    (hLimit : (policy, identifier) ∈ q.limits P) :
    (enforceRateLimit policy identifier).Tolerates
      (AgreesFor P q) := by
  have hWithin :
      ∀ {hits : Nat},
        ¬OverLimit P q (rateLimitKey policy.scope identifier)
            hits →
          hits ≤ policy.limit := by
    intro hits hAdmitted
    by_contra hOver
    exact hAdmitted ⟨_, hLimit, rfl, not_le.mp hOver⟩
  unfold enforceRateLimit RateLimiter.check Redis.incr
  refine ⟨?_, ?_⟩
  · intro hits hits' hAgrees
    rcases hAgrees with rfl | ⟨_, hHits, hHits'⟩
    · rfl
    · simp [hWithin hHits, hWithin hHits']
  · intro hits
    simp only [pure_eq, bind_ret]
    split
    · trivial
    · trivial

theorem tolerates_checkRedemption
    (route : Redemption)
    (post : InternalPost)
    (clientId : JsValue) :
    (checkRedemption route post clientId).Tolerates
      (AgreesFor P q) := by
  unfold checkRedemption verifySignedPost
  apply Tolerates.andThen
  · apply Tolerates.andThen
    · exact tolerates_call (by simp)
    · exact tolerates_orCrash
  intro verification
  cases verification with
  | fail reason =>
      apply Tolerates.andThen
      · exact tolerates_call (by simp)
      · exact fun _ => trivial
  | ok =>
      apply Tolerates.andThen (tolerates_orCrash _)
      intro code
      apply Tolerates.andThen (tolerates_orCrash _)
      intro redirectUri
      split
      · trivial
      · trivial

theorem tolerates_limitClient
    {route : Redemption}
    {post : InternalPost}
    {clientId : JsValue}
    (hLimits : q.limits P = route.limits P post)
    (hClientId : post.body.member "client_id" = some clientId) :
    (limitClient P route clientId).Tolerates (AgreesFor P q) := by
  unfold limitClient
  by_cases hTruthy : clientId.truthy = true
  · rw [if_pos hTruthy]
    cases hIdentifier : clientId.toJsString P.joinDepth with
    | none => trivial
    | some identifier =>
        have hNamed : post.namedClient P = some identifier := by
          simp [InternalPost.namedClient, hClientId, hTruthy,
            hIdentifier]
        have hClient :
            (route.perClient, identifier) ∈ q.limits P := by
          simp [hLimits, Redemption.limits, hNamed]
        exact tolerates_enforceRateLimit hClient
  · rw [if_neg hTruthy]
    trivial

theorem tolerates_admitRedemption
    {route : Redemption}
    {post : InternalPost}
    (hLimits : q.limits P = route.limits P post) :
    (admitRedemption P route post).Tolerates (AgreesFor P q) := by
  have hAddress : (route.perIp, post.ip) ∈ q.limits P := by
    simp [hLimits, Redemption.limits]
  unfold admitRedemption
  apply
    Tolerates.andThen (tolerates_enforceRateLimit hAddress)
  intro done
  cases hClientId : post.body.member "client_id" with
  | none => trivial
  | some clientId =>
      have hClient := tolerates_limitClient hLimits hClientId
      exact
        hClient.andThen
          (fun _ => tolerates_checkRedemption route post _)

/- A failure is reported, and then the request is refused. -/
theorem tolerates_emit
    {program : Unit → KisM Response}
    (event : SecurityEvent)
    (hProgram :
      ∀ done, (program done).Tolerates (AgreesFor P q)) :
    (emit event >>= program).Tolerates (AgreesFor P q) :=
  Tolerates.andThen (tolerates_call (by simp)) hProgram

theorem tolerates_sign
    (claims : AuthorizationClaims)
    (ttlSeconds : ℚ) :
    (AuthorizationJwtService.sign P cfg claims
      ttlSeconds).Tolerates (AgreesFor P q) := by
  unfold AuthorizationJwtService.sign
  split
  case isFalse => trivial
  apply Tolerates.andThen
  · exact tolerates_call (by simp)
  intro jti
  apply Tolerates.andThen
  · exact tolerates_call (by simp)
  intro now
  split
  · trivial
  · trivial

theorem tolerates_exchange
    {post : InternalPost}
    (hLimits :
      q.limits P = authorizationRedemption.limits P post) :
    (ExchangeController.exchange P cfg post).Tolerates
      (AgreesFor P q) := by
  unfold ExchangeController.exchange
  apply Tolerates.andThen (tolerates_admitRedemption hLimits)
  intro body
  apply Tolerates.andThen (tolerates_orCrash _)
  intro code
  apply Tolerates.andThen
  · apply Tolerates.andThen
    · exact tolerates_call (by simp)
    · exact fun _ => trivial
  intro payload
  cases payload with
  | none => exact tolerates_emit _ (fun _ => trivial)
  | some payload =>
      dsimp only
      split
      · apply Tolerates.andThen
        · apply Tolerates.andThen
          · exact tolerates_call (by simp)
          · intro rows
            cases rows with
            | ok found => trivial
            | error error => trivial
        intro identity
        split
        · exact tolerates_emit _ (fun _ => trivial)
        · apply Tolerates.andThen (tolerates_sign _ _)
          intro token
          exact tolerates_emit _ (fun _ => trivial)
      · exact tolerates_emit _ (fun _ => trivial)

theorem tolerates_registrationExchange
    {post : InternalPost}
    (hLimits :
      q.limits P = registrationRedemption.limits P post) :
    (RegistrationExchangeController.exchange P cfg
      post).Tolerates (AgreesFor P q) := by
  unfold RegistrationExchangeController.exchange
  apply Tolerates.andThen (tolerates_admitRedemption hLimits)
  intro body
  apply Tolerates.andThen (tolerates_orCrash _)
  intro code
  apply Tolerates.andThen
  · apply Tolerates.andThen
    · exact tolerates_call (by simp)
    · exact fun _ => trivial
  intro payload
  cases payload with
  | none => exact tolerates_emit _ (fun _ => trivial)
  | some payload =>
      dsimp only
      split
      · apply Tolerates.andThen (tolerates_sign _ _)
        intro token
        exact tolerates_emit _ (fun _ => trivial)
      · exact tolerates_emit _ (fun _ => trivial)

/-
  Every request goes on alike from answers that agree: an
  exchange looks at its counts only to compare them with the
  limits, and the others know no two that agree.
-/
theorem handler_tolerates (q : Request) :
    (handler P cfg q).Tolerates (AgreesFor P q) := by
  cases hRedeems : q.redeems with
  | none =>
      apply tolerates_of_exact
      intro effect value value' hAgrees
      cases effect with
      | redisIncr key window =>
          rcases hAgrees with hSame | ⟨hSome, _⟩
          · exact hSame
          · rw [hRedeems] at hSome
            simp at hSome
      | _ => exact hAgrees
  | some redemption =>
      cases q with
      | authorizationExchange post =>
          exact tolerates_exchange rfl
      | registrationExchange post =>
          exact tolerates_registrationExchange rfl
      | _ => simp [Request.redeems] at hRedeems

end KisAuth
