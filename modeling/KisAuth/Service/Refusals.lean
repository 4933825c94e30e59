import KisAuth.Service.Unlimited

/-
  How the routes refuse requests.

  Only the rate limits are counted, first and once for each
  request, and only a count over its limit is refused with
  429. Every other error of a route is one of the few that
  its controller refuses with, or one that nobody handles.

  Key definitions include:
    * `HitCounted`, `Passed`
    * `Counting`, `EndsCounted`

  Key theorems include:
    * `unlimited_counting`
    * `handler_counting`
-/

------------------------------------------------------------
-- Refusals
------------------------------------------------------------

namespace KisAuth

open Interaction Prog

/- A hit on a limit of the request, and its number. -/
def HitCounted
    (past : Past)
    (limit : RateLimitPolicy × String)
    (hits : Nat) : Prop :=
  ⟨.redisIncr (rateLimitKey limit.1.scope limit.2)
    limit.1.windowSeconds, hits⟩ ∈ past

/- Every limit of the request has let it pass. -/
def Passed
    (P : Platform)
    (q : Request)
    (past : Past) : Prop :=
  ∀ limit ∈ q.limits P,
    ∃ hits, HitCounted past limit hits ∧ hits ≤ limit.1.limit

/-
  The limits of the request are counted first, each once.
  Any other call is for a request that has passed them.
-/
def Counting
    (P : Platform)
    (q : Request)
    (past : Past) : Eff → Prop
| .redisIncr key windowSeconds =>
    (∃ limit ∈ q.limits P,
        key = rateLimitKey limit.1.scope limit.2 ∧
          windowSeconds = limit.1.windowSeconds) ∧
      ∀ window hits, ⟨.redisIncr key window, hits⟩ ∉ past
| _ => Passed P q past

/- How a request ends: over a limit, or having passed them. -/
def EndsCounted
    (P : Platform)
    (q : Request)
    (past : Past) : Except HttpError Response → Prop
| .ok _ => Passed P q past
| .error (.tooManyRequests message) =>
    message = rateLimitError ∧
      ∃ limit ∈ q.limits P,
        ∃ hits,
          HitCounted past limit hits ∧ limit.1.limit < hits
| .error error => error ∈ q.refusals ∧ Passed P q past

theorem Passed.extend
    {P : Platform}
    {q : Request}
    {past later : Past}
    (hPassed : Passed P q past)
    (hSubset : past ⊆ later) :
    Passed P q later := by
  intro limit hLimit
  rcases hPassed limit hLimit with ⟨hits, hHit, hLe⟩
  exact ⟨hits, hSubset hHit, hLe⟩

/- What remains once the limits have let a request pass. -/
theorem unlimited_counting
    {P : Platform}
    {q : Request}
    {past : Past}
    {program : KisM Response}
    (hUnlimited :
      Unlimited (fun error => error ∈ q.refusals) program)
    (hPassed : Passed P q past) :
    Obeys (Counting P q) (EndsCounted P q) program past := by
  apply Confined.obeys hUnlimited
  · intro later effect hLater hCall
    have hAll := hPassed.extend hLater
    cases effect with
    | redisIncr key windowSeconds => exact hCall.elim
    | _ => exact hAll
  · intro later response hLater
    exact hPassed.extend hLater
  · intro later error hLater hError
    have hAll := hPassed.extend hLater
    cases error with
    | tooManyRequests message =>
        cases q <;> simp [Request.refusals] at hError
    | _ => exact ⟨hError, hAll⟩

end KisAuth

------------------------------------------------------------
-- Routes
------------------------------------------------------------

namespace KisAuth

open Interaction Prog

variable {P : Platform} {cfg : KisAuthConfig} {q : Request}
variable {past : Past}

/- A hit that is the first on its limit. -/
theorem counting_enforceRateLimit
    {final : Past → Except HttpError Unit → Prop}
    {limit : RateLimitPolicy × String}
    (hLimit : limit ∈ q.limits P)
    (hFirst :
      ∀ window hits,
        ⟨.redisIncr (rateLimitKey limit.1.scope limit.2)
            window, hits⟩ ∉ past)
    (hWithin :
      ∀ hits,
        hits ≤ limit.1.limit →
          final
            (⟨.redisIncr (rateLimitKey limit.1.scope limit.2)
              limit.1.windowSeconds, hits⟩ :: past)
            (.ok ()))
    (hOver :
      ∀ hits,
        limit.1.limit < hits →
          final
            (⟨.redisIncr (rateLimitKey limit.1.scope limit.2)
              limit.1.windowSeconds, hits⟩ :: past)
            (.error (.tooManyRequests rateLimitError))) :
    Obeys (Counting P q) final
      (enforceRateLimit limit.1 limit.2) past := by
  unfold enforceRateLimit RateLimiter.check
  refine
    ⟨⟨⟨limit, hLimit, rfl, rfl⟩, hFirst⟩, fun hits => ?_⟩
  simp only [pure_eq, bind_ret]
  by_cases hLe : hits ≤ limit.1.limit
  · simp only [hLe, decide_true, if_true]
    exact hWithin hits hLe
  · simp only [hLe, decide_false]
    exact hOver hits (not_le.mp hLe)

section

variable {route : Redemption} {post : InternalPost}

/- Only the address is counted unless a client is named. -/
theorem passed_unnamed
    {hits : Nat}
    (hLimits : q.limits P = route.limits P post)
    (hNone : post.namedClient P = none)
    (hLe : hits ≤ route.perIp.limit) :
    Passed P q
      [⟨.redisIncr (rateLimitKey route.perIp.scope post.ip)
          route.perIp.windowSeconds, hits⟩] := by
  intro limit hLimit
  simp only [hLimits, Redemption.limits, hNone,
    Option.toList_none, List.map_nil,
    List.mem_singleton] at hLimit
  subst hLimit
  exact ⟨hits, List.mem_cons_self, hLe⟩

/- The client that is named is counted after the address. -/
theorem counting_namedClient
    {hits : Nat}
    {identifier : String}
    {next : Unit → KisM Response}
    (hLimits : q.limits P = route.limits P post)
    (hApart :
      rateLimitKey route.perClient.scope identifier ≠
        rateLimitKey route.perIp.scope post.ip)
    (hNamed : post.namedClient P = some identifier)
    (hLe : hits ≤ route.perIp.limit)
    (hNext :
      Unlimited (fun error => error ∈ q.refusals) (next ())) :
    Obeys (Counting P q) (EndsCounted P q)
      (enforceRateLimit route.perClient identifier >>= next)
      [⟨.redisIncr (rateLimitKey route.perIp.scope post.ip)
          route.perIp.windowSeconds, hits⟩] := by
  have hClient :
      (route.perClient, identifier) ∈ q.limits P := by
    simp [hLimits, Redemption.limits, hNamed]
  apply Obeys.andThen
  apply counting_enforceRateLimit hClient
  case hFirst =>
    intro window counted hMem
    rw [List.mem_singleton, Answer.mk.injEq,
      Eff.redisIncr.injEq] at hMem
    exact hApart hMem.1.1
  case hOver =>
    intro counted hOver
    exact
      ⟨rfl, _, hClient, counted, List.mem_cons_self, hOver⟩
  intro counted hCounted
  apply unlimited_counting hNext
  intro limit hLimit
  simp only [hLimits, Redemption.limits, hNamed,
    Option.toList_some, List.map_cons, List.map_nil,
    List.mem_cons, List.not_mem_nil, or_false] at hLimit
  rcases hLimit with rfl | rfl
  · exact
      ⟨hits, List.mem_cons_of_mem _ List.mem_cons_self, hLe⟩
  · exact ⟨counted, List.mem_cons_self, hCounted⟩

/- A redemption counts its address, then its client. -/
theorem counting_redemption
    {next : ExchangeBody → KisM Response}
    (hLimits : q.limits P = route.limits P post)
    (hApart :
      ∀ clientId,
        rateLimitKey route.perClient.scope clientId ≠
          rateLimitKey route.perIp.scope post.ip)
    (hInternal : .internal ∈ q.refusals)
    (hBad : .badRequest genericError ∈ q.refusals)
    (hUnsigned : .unauthorized genericError ∈ q.refusals)
    (hNext :
      ∀ body,
        Unlimited (fun error => error ∈ q.refusals)
          (next body)) :
    Obeys (Counting P q) (EndsCounted P q)
      (admitRedemption P route post >>= next) [] := by
  have hIp : (route.perIp, post.ip) ∈ q.limits P := by
    simp [hLimits, Redemption.limits]
  have hRest :
      ∀ clientId,
        Unlimited (fun error => error ∈ q.refusals)
          (checkRedemption route post clientId >>= next) :=
    fun clientId =>
      confined_bind
        (unlimited_checkRedemption hInternal hBad hUnsigned
          route post clientId)
        hNext
  unfold admitRedemption
  simp only [bind_eq, bind_assoc]
  apply Obeys.andThen
  apply counting_enforceRateLimit hIp (by simp)
  case hOver =>
    intro hits hOver
    exact ⟨rfl, _, hIp, hits, List.mem_cons_self, hOver⟩
  intro hits hLe
  cases hMember : post.body.member "client_id" with
  | none =>
      have hNone : post.namedClient P = none := by
        simp [InternalPost.namedClient, hMember]
      exact ⟨hInternal, passed_unnamed hLimits hNone hLe⟩
  | some clientId =>
      simp only [andThen_ok, orCrash, bind_ret, limitClient]
      by_cases hTruthy : clientId.truthy = true
      · rw [if_pos hTruthy]
        cases hText : clientId.toJsString P.joinDepth with
        | none =>
            have hNone : post.namedClient P = none := by
              simp [InternalPost.namedClient, hMember,
                hTruthy, hText]
            exact
              ⟨hInternal, passed_unnamed hLimits hNone hLe⟩
        | some identifier =>
            have hNamed :
                post.namedClient P = some identifier := by
              simp [InternalPost.namedClient, hMember,
                hTruthy, hText]
            exact
              counting_namedClient hLimits
                (hApart identifier) hNamed hLe
                (hRest clientId)
      · rw [if_neg hTruthy]
        have hNone : post.namedClient P = none := by
          simp [InternalPost.namedClient, hMember, hTruthy]
        exact
          unlimited_counting (hRest clientId)
            (passed_unnamed hLimits hNone hLe)

/- So does a route that redeems, with limits kept apart. -/
theorem counting_route
    (hRoute : RedemptionRoute P cfg q route post)
    (hLimits : q.limits P = route.limits P post)
    (hErrors :
      [.badRequest genericError, .unauthorized genericError,
          .internal] ⊆ q.refusals)
    (hClient : ':' ∉ route.perClient.scope.toList)
    (hAddress : ':' ∉ route.perIp.scope.toList)
    (hApart : route.perClient.scope ≠ route.perIp.scope) :
    Obeys (Counting P q) (EndsCounted P q) (handler P cfg q)
      [] := by
  rcases hRoute with ⟨next, hHandler, hNext⟩
  rw [hHandler]
  apply counting_redemption hLimits _ (hErrors (by simp))
    (hErrors (by simp)) (hErrors (by simp)) hNext
  intro clientId hKey
  exact hApart (rateLimitKey_inj hClient hAddress hKey).1

end

/- A route that counts its address and goes on. -/
theorem counting_browser
    {req : BrowserRequest}
    (hBrowser : q.browser = some req) :
    Obeys (Counting P q) (EndsCounted P q) (handler P cfg q)
      [] := by
  rcases browser_route hBrowser with
    ⟨policy, program, hLimits, hHandler, hUnlimited⟩
  rw [hHandler]
  have hLimit : (policy, req.ip) ∈ q.limits P := by
    simp [hLimits]
  apply Obeys.andThen
  apply counting_enforceRateLimit hLimit (by simp)
  · intro hits hLe
    apply unlimited_counting hUnlimited
    intro other hOther
    rw [hLimits, List.mem_singleton] at hOther
    subst hOther
    exact ⟨hits, List.mem_cons_self, hLe⟩
  · intro hits hOver
    exact
      ⟨rfl, (policy, req.ip), hLimit, hits,
        List.mem_cons_self, hOver⟩

/- Every route counts its limits first, and refuses so. -/
theorem handler_counting (q : Request) :
    Obeys (Counting P q) (EndsCounted P q) (handler P cfg q) [] := by
  have hNone : q.limits P = [] → Passed P q [] := by
    intro hLimits limit hLimit
    simp [hLimits] at hLimit
  cases q with
  | authorize query req => exact counting_browser rfl
  | googleStart req => exact counting_browser rfl
  | googleCallback query req => exact counting_browser rfl
  | enterpriseStart partnerSlug req =>
      exact counting_browser rfl
  | enterpriseCallback partnerSlug query req =>
      exact counting_browser rfl
  | authorizationExchange post =>
      exact
        counting_route (exchange_route post) rfl
          (List.Subset.refl _) (by decide) (by decide)
          (by decide)
  | registrationExchange post =>
      exact
        counting_route (registrationExchange_route post) rfl
          (List.Subset.refl _) (by decide) (by decide)
          (by decide)
  | identityLink post =>
      exact
        unlimited_counting
          (unlimited_identityLink post)
          (hNone rfl)
  | status query =>
      apply unlimited_counting _ (hNone rfl)
      exact
        confined_bind
          (unlimited_orCrash (by simp [Request.refusals]) _)
          (fun _ => by trivial)
  | welcome => exact hNone rfl
  | jwks => exact hNone rfl
  | healthz => exact hNone rfl
  | readyz => exact hNone rfl

end KisAuth
