import KisAuth.Security.CanonicalText
import KisAuth.Service.Footprint
import KisAuth.Service.RedemptionConduct

/-
  How internal requests end whose signature is not accepted.

  The link route verifies the signature first and refuses
  with 401. The two exchanges read the client's name for
  their limits before that, and so throw where the body has
  no fields or its client cannot be named by a text. All
  three throw where the verification comes to a body that is
  nested too deeply. Nothing is stored in any case.

  Key definitions include:
    * `RefusedCleanly`, `CanRefuse`
    * `Named`, `Hashed`, `UnsignedEnd`

  Key theorems include:
    * `handler_unsignedEnd`
    * `unsigned_refused_iff`
    * `absent_body_crashes`, `deep_body_crashes`
-/

------------------------------------------------------------
-- Clean Refusals
------------------------------------------------------------

namespace KisAuth

open Interaction

/- The body of a request to an internal endpoint. -/
def Request.internal : Request → Option InternalPost
| .authorizationExchange post => some post
| .registrationExchange post => some post
| .identityLink post => some post
| _ => none

/- The URLs the internal endpoints verify. -/
def internalUrls : List String :=
  [authorizationRedemption.url, registrationRedemption.url,
    identityLinkUrl]

/- Status 401 or 429. -/
def RefusedCleanly : Except HttpError Response → Prop
| .error (.unauthorized _) => True
| .error (.tooManyRequests _) => True
| _ => False

/- The limit of the address refused the request. -/
def AddressRefused
    (route : Redemption)
    (post : InternalPost)
    (past : Past) : Prop :=
  ∃ hits,
    (⟨.redisIncr (rateLimitKey route.perIp.scope post.ip)
          route.perIp.windowSeconds, hits⟩ :
        Answer Eff Eff.Res) ∈ past ∧
      route.perIp.limit < hits

/-
  The body has fields, and a client in it has a text to be
  counted under.
-/
def NamesClient
    (P : Platform)
    (body : JsValue) : Prop :=
  ∃ clientId,
    body.member "client_id" = some clientId ∧
      (clientId.truthy = true →
        (clientId.toJsString P.joinDepth).isSome = true)

/-
  An exchange can refuse a request for its address at once,
  and for anything later once the client can be named.
-/
def Named
    (P : Platform)
    (q : Request)
    (past : Past) : Prop :=
  ∀ route family post,
    q.redeems = some (route, family, post) →
      AddressRefused route post past ∨ NamesClient P post.body

/- No verification has thrown. -/
def NeverThrew (past : Past) : Prop :=
  ∀ request,
    (⟨.verifySignature request, none⟩ : Answer Eff Eff.Res) ∉
      past

/- What an unsigned request has done, and how it ends. -/
structure UnsignedEnd
    (P : Platform)
    (q : Request)
    (past : Past)
    (outcome : Except HttpError Response) : Prop where
  inert : ∀ answer ∈ past, Inert answer
  refused :
    RefusedCleanly outcome ↔ Named P q past ∧ NeverThrew past

/-
  Until a signature is accepted, only the request itself is
  verified, for a URL of the service.
-/
def VerifiesOwn
    (post : InternalPost)
    (past : Past)
    (effect : Eff) : Prop :=
  Unsigned past →
    ∀ request,
      effect = .verifySignature request →
        request.url ∈ internalUrls ∧
          request.body = post.body ∧
          request.headers = post.headers

end KisAuth

------------------------------------------------------------
-- One Request
------------------------------------------------------------

namespace KisAuth

open Interaction Prog

variable {P : Platform} {cfg : KisAuthConfig} {q : Request}
variable {past : Past}

/- Once a signature is accepted there is nothing to show. -/
theorem unsignedEnd_of_signed
    {post : InternalPost}
    {request : SignedRequest}
    (hSigned :
      (⟨.verifySignature request, some .ok⟩ :
        Answer Eff Eff.Res) ∈ past)
    (program : KisM Response) :
    Obeys (VerifiesOwn post)
      (fun later outcome =>
        Unsigned later → UnsignedEnd P q later outcome)
      program past := by
  apply obeys_of_past
  · intro later effect hLater hUnsigned
    exact absurd (hLater hSigned) (hUnsigned request)
  · intro later outcome hLater hUnsigned
    exact absurd (hLater hSigned) (hUnsigned request)

/- A request whose route is no exchange names nobody. -/
theorem named_of_none
    (hRedeems : q.redeems = none) :
    Named P q past := by
  intro route family post hSome
  rw [hRedeems] at hSome
  simp at hSome

theorem named_iff
    {route : Redemption}
    {family : KeyFamily}
    {post : InternalPost}
    (hRedeems : q.redeems = some (route, family, post)) :
    Named P q past ↔
      AddressRefused route post past ∨
        NamesClient P post.body := by
  unfold Named
  constructor
  · exact fun hAll => hAll route family post hRedeems
  · intro hRefuse route' family' post' hSame
    rw [hRedeems, Option.some.injEq, Prod.mk.injEq,
      Prod.mk.injEq] at hSame
    rcases hSame with ⟨rfl, _, rfl⟩
    exact hRefuse

/- A request that was refused for what it says. -/
theorem unsignedEnd_of_named
    {route : Redemption}
    {family : KeyFamily}
    {post : InternalPost}
    {outcome : Except HttpError Response}
    (hRedeems : q.redeems = some (route, family, post))
    (hNamed : NamesClient P post.body)
    (hInert : ∀ answer ∈ past, Inert answer)
    (hNever : NeverThrew past)
    (hClean : RefusedCleanly outcome) :
    UnsignedEnd P q past outcome where
  inert := hInert
  refused :=
    iff_of_true hClean
      ⟨(named_iff hRedeems).mpr (Or.inr hNamed), hNever⟩

/- A verification that throws ends the request in a crash. -/
theorem unsignedEnd_of_thrown
    {request : SignedRequest}
    (hInert : ∀ answer ∈ past, Inert answer)
    (hThrown :
      (⟨.verifySignature request, none⟩ :
        Answer Eff Eff.Res) ∈ past) :
    UnsignedEnd P q past (.error .internal) where
  inert := hInert
  refused :=
    iff_of_false id (fun hBoth => hBoth.2 request hThrown)

/- The link route verifies, and refuses with 401. -/
theorem unsignedEnd_identityLink (post : InternalPost) :
    Obeys (VerifiesOwn post)
      (fun past outcome =>
        Unsigned past →
          UnsignedEnd P (.identityLink post) past outcome)
      (IdentityLinkController.link P post) [] := by
  unfold IdentityLinkController.link verifySignedPost
  refine ⟨?_, fun verification => ?_⟩
  · rintro _ request hSame
    rw [Eff.verifySignature.injEq] at hSame
    rw [← hSame]
    simp [internalUrls]
  cases verification with
  | none =>
      intro hUnsigned
      exact
        unsignedEnd_of_thrown (by simp [Inert])
          List.mem_cons_self
  | some result =>
      cases result with
      | ok => exact unsignedEnd_of_signed List.mem_cons_self _
      | fail reason =>
          intro hUnsigned
          exact
            { inert := by simp [Inert]
              refused :=
                iff_of_true trivial
                  ⟨named_of_none rfl, by simp [NeverThrew]⟩ }

/- The hit of an address, in the answers. -/
abbrev addressHit
    (route : Redemption)
    (post : InternalPost)
    (hits : Nat) : Answer Eff Eff.Res :=
  ⟨.redisIncr (rateLimitKey route.perIp.scope post.ip)
    route.perIp.windowSeconds, hits⟩

/- An address within its limit is not refused. -/
theorem not_addressRefused
    {route : Redemption}
    {post : InternalPost}
    {hits : Nat}
    (hWithin : hits ≤ route.perIp.limit) :
    ¬AddressRefused route post [addressHit route post hits] := by
  rintro ⟨other, hMem, hOver⟩
  rw [List.mem_singleton] at hMem
  have hSame : other = hits := by simpa using hMem
  rw [hSame] at hOver
  exact absurd hWithin (not_le.mpr hOver)

/- Where the client cannot be named, the exchange throws. -/
theorem unsignedEnd_crash
    {route : Redemption}
    {family : KeyFamily}
    {post : InternalPost}
    {hits : Nat}
    (hRedeems : q.redeems = some (route, family, post))
    (hWithin : hits ≤ route.perIp.limit)
    (hUnnamed : ¬NamesClient P post.body) :
    UnsignedEnd P q [addressHit route post hits]
      (.error .internal) where
  inert := by simp [Inert, isCounter_rateLimitKey]
  refused := by
    rw [named_iff hRedeems]
    refine iff_of_false id ?_
    rintro ⟨hRefused | hNamed, _⟩
    · exact not_addressRefused hWithin hRefused
    · exact hUnnamed hNamed

/- What is left once the address was counted. -/
theorem unsignedEnd_checkRedemption
    {route : Redemption}
    {family : KeyFamily}
    {post : InternalPost}
    {clientId : JsValue}
    {next : ExchangeBody → KisM Response}
    (hRedeems : q.redeems = some (route, family, post))
    (hUrl : route.url ∈ internalUrls)
    (hInert : ∀ answer ∈ past, Inert answer)
    (hNever : NeverThrew past)
    (hNamed : NamesClient P post.body) :
    Obeys (VerifiesOwn post)
      (fun later outcome =>
        Unsigned later → UnsignedEnd P q later outcome)
      (checkRedemption route post clientId >>= next) past := by
  unfold checkRedemption verifySignedPost
  refine ⟨?_, fun verification => ?_⟩
  · rintro _ request hSame
    rw [Eff.verifySignature.injEq] at hSame
    rw [← hSame]
    exact ⟨hUrl, rfl, rfl⟩
  cases verification with
  | none =>
      intro hUnsigned
      exact
        unsignedEnd_of_thrown (by simpa [Inert] using hInert)
          List.mem_cons_self
  | some result =>
      cases result with
      | ok => exact unsignedEnd_of_signed List.mem_cons_self _
      | fail reason =>
          refine ⟨fun _ _ hEmit => ?_, fun _ hUnsigned => ?_⟩
          · simp at hEmit
          · apply unsignedEnd_of_named hRedeems hNamed
            · simpa [Inert] using hInert
            · simpa [NeverThrew] using hNever
            · trivial

/- Hits are counted without a signature. -/
theorem verifiesOwn_hit
    (post : InternalPost)
    (past : Past)
    (key : String)
    (window : Nat) :
    VerifiesOwn post past (.redisIncr key window) := by
  intro _ request hSame
  simp at hSame

/- An address over its limit is refused cleanly. -/
theorem unsignedEnd_addressRefused
    {route : Redemption}
    {family : KeyFamily}
    {post : InternalPost}
    {hits : Nat}
    (hRedeems : q.redeems = some (route, family, post))
    (hOver : route.perIp.limit < hits) :
    UnsignedEnd P q [addressHit route post hits]
      (.error (.tooManyRequests rateLimitError)) where
  inert := by simp [Inert, isCounter_rateLimitKey]
  refused := by
    rw [named_iff hRedeems]
    exact
      iff_of_true trivial
        ⟨Or.inl ⟨hits, List.mem_singleton_self _, hOver⟩,
          by simp [NeverThrew]⟩

/- What is left once the client was named by a text. -/
theorem unsignedEnd_perClient
    {route : Redemption}
    {family : KeyFamily}
    {post : InternalPost}
    {clientId : JsValue}
    {identifier : String}
    {hits : Nat}
    {next : ExchangeBody → KisM Response}
    (hRedeems : q.redeems = some (route, family, post))
    (hUrl : route.url ∈ internalUrls)
    (hNamed : NamesClient P post.body) :
    Obeys (VerifiesOwn post)
      (fun later outcome =>
        Unsigned later → UnsignedEnd P q later outcome)
      (enforceRateLimit route.perClient identifier >>=
        fun _ => checkRedemption route post clientId >>= next)
      [addressHit route post hits] := by
  have hBoth :
      ∀ clientHits : Nat,
        ∀ answer ∈
            [⟨.redisIncr
                (rateLimitKey route.perClient.scope identifier)
                route.perClient.windowSeconds, clientHits⟩,
              addressHit route post hits],
          Inert answer := by
    simp [Inert, isCounter_rateLimitKey]
  unfold enforceRateLimit RateLimiter.check Redis.incr
  refine ⟨verifiesOwn_hit _ _ _ _, fun clientHits => ?_⟩
  simp only [bind_eq, bind_ret, pure_eq]
  by_cases hWithin : clientHits ≤ route.perClient.limit
  · simp only [hWithin, decide_true, if_true, bind_ret]
    exact
      unsignedEnd_checkRedemption hRedeems hUrl
        (hBoth clientHits) (by simp [NeverThrew]) hNamed
  · simp only [hWithin, decide_false]
    intro hUnsigned
    exact
      unsignedEnd_of_named hRedeems hNamed (hBoth clientHits)
        (by simp [NeverThrew]) trivial

/- What is left once the client was read from the body. -/
theorem unsignedEnd_limitClient
    {route : Redemption}
    {family : KeyFamily}
    {post : InternalPost}
    {clientId : JsValue}
    {hits : Nat}
    {next : ExchangeBody → KisM Response}
    (hRedeems : q.redeems = some (route, family, post))
    (hUrl : route.url ∈ internalUrls)
    (hWithin : hits ≤ route.perIp.limit)
    (hClient : post.body.member "client_id" = some clientId) :
    Obeys (VerifiesOwn post)
      (fun later outcome =>
        Unsigned later → UnsignedEnd P q later outcome)
      (limitClient P route clientId >>=
        fun _ => checkRedemption route post clientId >>= next)
      [addressHit route post hits] := by
  unfold limitClient
  by_cases hTruthy : clientId.truthy = true
  case neg =>
    have hNamed : NamesClient P post.body :=
      ⟨clientId, hClient, fun hTrue => absurd hTrue hTruthy⟩
    simp only [hTruthy]
    exact
      unsignedEnd_checkRedemption hRedeems hUrl
        (by simp [Inert, isCounter_rateLimitKey])
        (by simp [NeverThrew]) hNamed
  case pos =>
    simp only [hTruthy, if_true]
    cases hText : clientId.toJsString P.joinDepth with
    | none =>
        intro hUnsigned
        apply unsignedEnd_crash hRedeems hWithin
        rintro ⟨other, hMember, hAll⟩
        rw [hClient, Option.some.injEq] at hMember
        rw [← hMember] at hAll
        simpa [hText] using hAll hTruthy
    | some identifier =>
        exact
          unsignedEnd_perClient hRedeems hUrl
            ⟨clientId, hClient, fun _ => by simp [hText]⟩

/-
  An exchange: what its limits do before the signature is
  looked at decides whether the refusal is clean.
-/
theorem unsignedEnd_admitRedemption
    {route : Redemption}
    {family : KeyFamily}
    {post : InternalPost}
    {next : ExchangeBody → KisM Response}
    (hRedeems : q.redeems = some (route, family, post))
    (hUrl : route.url ∈ internalUrls) :
    Obeys (VerifiesOwn post)
      (fun later outcome =>
        Unsigned later → UnsignedEnd P q later outcome)
      (admitRedemption P route post >>= next) [] := by
  unfold admitRedemption enforceRateLimit RateLimiter.check
    Redis.incr
  refine ⟨verifiesOwn_hit _ _ _ _, fun hits => ?_⟩
  simp only [bind_eq, bind_ret, pure_eq]
  by_cases hWithin : hits ≤ route.perIp.limit
  case neg =>
    simp only [hWithin, decide_false]
    intro hUnsigned
    exact
      unsignedEnd_addressRefused hRedeems (not_le.mp hWithin)
  case pos =>
    simp only [hWithin, decide_true, if_true, bind_ret]
    cases hClient : post.body.member "client_id" with
    | none =>
        intro hUnsigned
        apply unsignedEnd_crash hRedeems hWithin
        rintro ⟨clientId, hMember, _⟩
        rw [hClient] at hMember
        simp at hMember
    | some clientId =>
        simp only [orCrash, bind_ret, bind_assoc]
        exact
          unsignedEnd_limitClient hRedeems hUrl hWithin hClient

/- Every internal request that is never signed. -/
theorem handler_unsignedEnd
    {post : InternalPost}
    (hInternal : q.internal = some post) :
    Obeys (VerifiesOwn post)
      (fun past outcome =>
        Unsigned past → UnsignedEnd P q past outcome)
      (handler P cfg q) [] := by
  cases q with
  | authorizationExchange own =>
      cases hInternal
      exact
        unsignedEnd_admitRedemption rfl (by simp [internalUrls])
  | registrationExchange own =>
      cases hInternal
      exact
        unsignedEnd_admitRedemption rfl (by simp [internalUrls])
  | identityLink own =>
      cases hInternal
      exact unsignedEnd_identityLink post
  | _ => simp [Request.internal] at hInternal

end KisAuth

------------------------------------------------------------
-- Runs
------------------------------------------------------------

namespace KisAuth

open Interaction Prog

variable {P : Platform} {cfg : KisAuthConfig}

/- One call of the verifier, in a state of the service. -/
def verifyCallAt
    (before after : World)
    (request : SignedRequest) : VerifyCall :=
  ⟨before.clock, after.clock, request⟩

/- A verification is made with the clock and the cache. -/
theorem exec_verifySignature
    {request : SignedRequest}
    {result : Option VerifyResult}
    {ext : External}
    {before after : World}
    (hExec :
      (worldSemantics P cfg).exec before
          (.verifySignature request) ext =
        some (result, after)) :
    result =
      ((verifyCallAt before after request).verify P
        cfg.internalHmacSecret
        cfg.internalSignatureMaxSkewSeconds
        before.nonceCache).1 := by
  cases ext with
  | elapsed milliseconds =>
      simp only [worldSemantics, World.exec, World.backend,
        World.execOther, Option.some.injEq,
        Prod.mk.injEq] at hExec
      rcases hExec with ⟨rfl, rfl⟩
      rfl
  | _ =>
      simp [worldSemantics, World.exec, World.backend,
        World.execOther] at hExec

/- A body has a hash where it is not nested too deeply. -/
theorem bodyHash_eq_none_iff (body : JsValue) :
    bodyHash P body = none ↔ ¬Serializes P body := by
  unfold bodyHash
  rw [Option.map_eq_none_iff]
  constructor
  · intro hNone hSerializes
    rw [stableBody_eq_print hSerializes] at hNone
    cases hNone
  · exact stableBody_eq_none

/-
  The verifications of a request do not throw: its body has
  a hash, or wherever the run verifies the request one of
  the checks before the hash refuses it.
-/
def Hashed
    (run : Run P cfg)
    (thread : Nat)
    (post : InternalPost) : Prop :=
  Serializes P post.body ∨
    ∀ before after request result,
      AnswerStep (worldSemantics P cfg) (handler P cfg)
          (World.empty run.clients) thread run.state before
          after (.verifySignature request) result →
        ¬LooksAtBody P cfg.internalSignatureMaxSkewSeconds
          (verifyCallAt before.world after.world request)
          before.world.nonceCache

/-
  A request to an internal endpoint can be refused: it is no
  exchange, its address was over the limit, or its client
  can be named; and its verification does not come to a body
  that is nested too deeply.
-/
structure CanRefuse
    (run : Run P cfg)
    (thread : Nat)
    (q : Request)
    (post : InternalPost) : Prop where
  named : Named P q (answersOf thread run.history)
  hashed : Hashed run thread post

variable {run : Run P cfg} {thread : Nat}
variable {q : Request} {post : InternalPost}

/- What an unsigned request verifies is itself. -/
theorem verified_own
    {request : SignedRequest}
    {result : Option VerifyResult}
    (hInternal : q.internal = some post)
    (hArrive : Entry.arrive thread q ∈ run.history)
    (hUnsigned : Unsigned (answersOf thread run.history))
    (hMem :
      (⟨.verifySignature request, result⟩ :
          Answer Eff Eff.Res) ∈
        answersOf thread run.history) :
    request.url ∈ internalUrls ∧
      request.body = post.body ∧
      request.headers = post.headers := by
  have hObeys : Obeys (VerifiesOwn post) _ (handler P cfg q) [] :=
    handler_unsignedEnd hInternal
  rcases guard_of_answer run.conforms hArrive hObeys hMem with
    ⟨earlier, hSub, hGuard⟩
  have hEarlier : Unsigned earlier :=
    fun other hSigned => hUnsigned other (hSub _ hSigned)
  exact hGuard hEarlier request rfl

/- Its verifications throw where they come to its body. -/
theorem neverThrew_iff
    (hUrls :
      ∀ url ∈ internalUrls,
        (pathWithQuery P url).isSome = true)
    (hInternal : q.internal = some post)
    (hArrive : Entry.arrive thread q ∈ run.history)
    (hUnsigned : Unsigned (answersOf thread run.history)) :
    NeverThrew (answersOf thread run.history) ↔
      Hashed run thread post := by
  have hThrows :
      ∀ {before after : ServiceState} {request result},
        AnswerStep (worldSemantics P cfg) (handler P cfg)
            (World.empty run.clients) thread run.state before
            after (.verifySignature request) result →
          (result = none ↔
            LooksAtBody P cfg.internalSignatureMaxSkewSeconds
                (verifyCallAt before.world after.world
                  request)
                before.world.nonceCache ∧
              ¬Serializes P post.body) := by
    intro before after request result hStep
    rcases verified_own hInternal hArrive hUnsigned hStep.mem
      with ⟨hUrl, hBody, _⟩
    have hParses :
        pathWithQuery P request.url ≠ none :=
      Option.isSome_iff_ne_none.mp (hUrls _ hUrl)
    rcases hStep.answered with ⟨ext, hExec⟩
    rw [exec_verifySignature hExec, verify_none_iff]
    simp only [verifyCallAt, hParses, false_or, hBody,
      bodyHash_eq_none_iff]
  constructor
  · intro hNever
    by_cases hSerializes : Serializes P post.body
    · exact Or.inl hSerializes
    · right
      intro before after request result hStep hLooks
      have hNone := (hThrows hStep).mpr ⟨hLooks, hSerializes⟩
      subst hNone
      exact hNever request hStep.mem
  · intro hHashed request hMem
    rcases run.reachable.answerStep hMem with
      ⟨before, after, hStep⟩
    rcases (hThrows hStep).mp rfl with ⟨hLooks, hDeep⟩
    rcases hHashed with hSerializes | hScreened
    · exact hDeep hSerializes
    · exact hScreened _ _ _ _ hStep hLooks

/-
  A request to an internal endpoint that ended without an
  accepted signature was refused with 401 or 429, and left
  the stores as they were, exactly when it could be refused.
-/
theorem unsigned_refused_iff
    (run : Run P cfg)
    {thread : Nat}
    {q : Request}
    {post : InternalPost}
    {outcome : Except HttpError Response}
    (hUrls :
      ∀ url ∈ internalUrls,
        (pathWithQuery P url).isSome = true)
    (hInternal : q.internal = some post)
    (hArrive : Entry.arrive thread q ∈ run.history)
    (hEnd : Entry.respond thread outcome ∈ run.history)
    (hUnsigned : Unsigned (answersOf thread run.history)) :
    (RefusedCleanly outcome ∧
        Leaves (worldSemantics P cfg) (handler P cfg)
          (World.empty run.clients) thread run.state
          KeepsStores) ↔
      CanRefuse run thread q post := by
  have hObeys : Obeys (VerifiesOwn post) _ (handler P cfg q) [] :=
    handler_unsignedEnd hInternal
  have hReaches :=
    ended_reaches run.conforms hArrive hEnd
  have hUnsignedEnd :=
    hObeys.final_of_reaches hReaches hUnsigned
  have hThrew :=
    neverThrew_iff hUrls hInternal hArrive hUnsigned
  constructor
  · rintro ⟨hClean, _⟩
    rcases hUnsignedEnd.refused.mp hClean with
      ⟨hNamed, hNever⟩
    exact ⟨hNamed, hThrew.mp hNever⟩
  · rintro ⟨hNamed, hHashed⟩
    exact
      ⟨hUnsignedEnd.refused.mpr ⟨hNamed, hThrew.mpr hHashed⟩,
        leaves_stores hUnsignedEnd.inert⟩

end KisAuth

------------------------------------------------------------
-- A Request Without Headers
------------------------------------------------------------

namespace KisAuth

open Interaction

/- A platform that parses every URL. -/
def internalPlatform : Platform :=
  { Platform.bare with
    parseUrlAt := fun url _ => some url }

/- A request without signature headers. -/
def unsignedPost (body : JsValue) : InternalPost where
  ip := "10.0.0.9"
  headers :=
    { timestamp := .absent
      nonce := .absent
      signature := .absent }
  body := body

/- The exchange of a body, alone in the service. -/
def unsignedRun
    (body : JsValue)
    (steps : List External) : Option ServiceState :=
  Interaction.run (worldSemantics internalPlatform testConfig)
    (handler internalPlatform testConfig)
    (.init (World.empty (fun _ => none)))
    (.arrive (.authorizationExchange (unsignedPost body)) ::
      steps.map (fun ext => .run 0 ext))

/- The error a thread ended in. -/
def failedWith : ServiceEntry → Option (Nat × HttpError)
| .respond thread (.error error) => some (thread, error)
| _ => none

/- A signature was accepted. -/
def signsOk : Answer Eff Eff.Res → Bool
| ⟨.verifySignature _, some .ok⟩ => true
| _ => false

theorem respond_of_failedWith
    {history : History}
    {thread : Nat}
    {error : HttpError}
    (hMem : (thread, error) ∈ history.filterMap failedWith) :
    Entry.respond thread (.error error) ∈ history := by
  rcases List.mem_filterMap.mp hMem with
    ⟨entry, hEntry, hFailed⟩
  unfold failedWith at hFailed
  split at hFailed
  · rw [Option.some.injEq, Prod.mk.injEq] at hFailed
    rcases hFailed with ⟨rfl, rfl⟩
    exact hEntry
  · simp at hFailed

theorem unsigned_of_signsOk
    {past : Past}
    (hNone : past.any signsOk = false) :
    Unsigned past := by
  intro request hMem
  have hAny : past.any signsOk = true :=
    List.any_eq_true.mpr ⟨_, hMem, rfl⟩
  rw [hNone] at hAny
  simp at hAny

/- What such an exchange ends in. -/
theorem unsignedRun_ends
    {body : JsValue}
    {steps : List External}
    {error : HttpError}
    (hEnds :
      (unsignedRun body steps).map (fun state =>
          (decide
              ((0, error) ∈
                state.history.filterMap failedWith),
            (answersOf 0 state.history).any signsOk)) =
        some (true, false)) :
    ∃ run : Run internalPlatform testConfig,
      Entry.arrive 0
            (.authorizationExchange (unsignedPost body)) ∈
          run.history ∧
        Entry.respond 0 (.error error) ∈ run.history ∧
        Unsigned (answersOf 0 run.history) := by
  rcases Option.map_eq_some_iff.mp hEnds with
    ⟨state, hRun, hBoth⟩
  rw [Prod.mk.injEq, decide_eq_true_eq] at hBoth
  refine ⟨⟨_, state, Reachable.of_run hRun⟩, ?_, ?_, ?_⟩
  · exact arrive_of_run hRun
  · exact respond_of_failedWith hBoth.1
  · exact unsigned_of_signsOk hBoth.2

/- Without headers nothing is verified. -/
theorem unsigned_body_refused :
    ∃ run : Run internalPlatform testConfig,
      Entry.respond 0
            (.error (.unauthorized genericError)) ∈
          run.history ∧
        Leaves (worldSemantics internalPlatform testConfig)
          (handler internalPlatform testConfig)
          (World.empty run.clients) 0 run.state
          KeepsStores := by
  have hEnds :
      (unsignedRun
            (.obj [("client_id", .arr [.str "kis-web"])])
            [.none, .none, .elapsed 0, .none, .none]).map
          (fun state =>
            (decide
                ((0, HttpError.unauthorized genericError) ∈
                  state.history.filterMap failedWith),
              (answersOf 0 state.history).any signsOk)) =
        some (true, false) := by
    decide +kernel
  rcases unsignedRun_ends hEnds with
    ⟨run, hArrive, hEnd, hUnsigned⟩
  have hNamed :
      NamesClient internalPlatform
        (.obj [("client_id", .arr [.str "kis-web"])]) :=
    ⟨_, rfl, fun _ => by decide +kernel⟩
  have hSerializes :
      Serializes internalPlatform
        (.obj [("client_id", .arr [.str "kis-web"])]) := by
    simp [Serializes]
    decide
  have hRefused :=
    (unsigned_refused_iff run (fun _ _ => rfl) rfl hArrive
        hEnd hUnsigned).mpr
      ⟨(named_iff rfl).mpr (Or.inr hNamed),
        Or.inl hSerializes⟩
  exact ⟨run, hEnd, hRefused.2⟩

/- An exchange without a body throws. -/
theorem absent_body_crashes :
    ∃ run : Run internalPlatform testConfig,
      Entry.arrive 0
            (.authorizationExchange
              (unsignedPost .undefined)) ∈ run.history ∧
        Unsigned (answersOf 0 run.history) ∧
        Entry.respond 0 (.error .internal) ∈ run.history ∧
        ¬RefusedCleanly (.error .internal) := by
  have hEnds :
      (unsignedRun .undefined [.none, .none]).map
          (fun state =>
            (decide
                ((0, HttpError.internal) ∈
                  state.history.filterMap failedWith),
              (answersOf 0 state.history).any signsOk)) =
        some (true, false) := by
    decide +kernel
  rcases unsignedRun_ends hEnds with
    ⟨run, hArrive, hEnd, hUnsigned⟩
  exact ⟨run, hArrive, hUnsigned, hEnd, id⟩

end KisAuth

------------------------------------------------------------
-- A Body Nested Too Deeply
------------------------------------------------------------

namespace KisAuth

open Interaction Prog

/- A platform that reads every number as zero. -/
def timelessPlatform : Platform :=
  { internalPlatform with number := fun _ => some 0 }

/- A request with headers, but with no signature to speak of. -/
def guessedPost (body : JsValue) : InternalPost where
  ip := "10.0.0.9"
  headers :=
    { timestamp := .one "0"
      nonce := .one "n1"
      signature := .one "00" }
  body := body

/- What the link route verifies of it. -/
def guessedRequest (body : JsValue) : SignedRequest where
  method := "POST"
  url := identityLinkUrl
  body := body
  headers := (guessedPost body).headers

/- The link request has arrived, alone in the service. -/
def linkArrived (post : InternalPost) : ServiceState :=
  admitRequest (handler timelessPlatform testConfig)
    (.init (World.empty (fun _ => none)))
    (.identityLink post)

/- The verification comes to the body, and throws there. -/
theorem guessed_throws
    {body : JsValue}
    (hDeep : ¬Serializes timelessPlatform body) :
    (verifyInternalSignature timelessPlatform
        testConfig.internalHmacSecret
        testConfig.internalSignatureMaxSkewSeconds
        (0 : Nat) (0 : Nat)
        (guessedRequest body) []).1 =
      none := by
  let call : VerifyCall :=
    ⟨(0 : Nat), (0 : Nat), guessedRequest body⟩
  have hWindow :
      ¬outsideWindow call.checkedAt 0
        (acceptedSkew
          testConfig.internalSignatureMaxSkewSeconds) := by
    norm_num [call, outsideWindow, acceptedSkew, testConfig]
  have hLooks :
      LooksAtBody timelessPlatform
        testConfig.internalSignatureMaxSkewSeconds call [] :=
    ⟨⟨"0", "n1", "00"⟩, 0, rfl, rfl, hWindow, rfl⟩
  exact
    verify_none_iff.mpr
      ⟨hLooks, Or.inr ((bodyHash_eq_none_iff body).mpr hDeep)⟩

/- So the service is answered with nothing. -/
theorem guessed_exec
    {body : JsValue}
    (hDeep : ¬Serializes timelessPlatform body) :
    ∃ world,
      (worldSemantics timelessPlatform testConfig).exec
          (linkArrived (guessedPost body)).world
          (.verifySignature (guessedRequest body))
          (.elapsed 0) =
        some (none, world) := by
  rw [← guessed_throws hDeep]
  exact ⟨_, rfl⟩

/- The link route starts with the verification. -/
theorem link_verifies (body : JsValue) :
    ∃ rest : Option VerifyResult → KisM Response,
      IdentityLinkController.link timelessPlatform
            (guessedPost body) =
          .call (.verifySignature (guessedRequest body))
            rest ∧
        rest none = .throw .internal :=
  ⟨_, rfl, rfl⟩

/- A link request with such a body is not refused. -/
theorem deep_link_crashes
    {body : JsValue}
    (hDeep : ¬Serializes timelessPlatform body) :
    ∃ run : Run timelessPlatform testConfig,
      Entry.arrive 0 (.identityLink (guessedPost body)) ∈
          run.history ∧
        Unsigned (answersOf 0 run.history) ∧
        Entry.respond 0 (.error .internal) ∈ run.history := by
  rcases link_verifies body with
    ⟨rest, hProgram, hRest⟩
  rcases guessed_exec hDeep with ⟨world, hExec⟩
  let verified : ServiceState :=
    advance (linkArrived (guessedPost body)) 0
      (.identityLink (guessedPost body))
      (.verifySignature (guessedRequest body)) rest none
      world
  have hThread :
      (linkArrived (guessedPost body)).threads 0 =
        some
          ⟨.identityLink (guessedPost body),
            .call (.verifySignature (guessedRequest body))
              rest⟩ := by
    rw [← hProgram]
    rfl
  have hVerify :
      act (worldSemantics timelessPlatform testConfig)
          (handler timelessPlatform testConfig)
          (linkArrived (guessedPost body))
          (.run 0 (.elapsed 0)) =
        some verified := by
    simp only [act, hThread, hExec]
    rfl
  have hThrown :
      act (worldSemantics timelessPlatform testConfig)
          (handler timelessPlatform testConfig) verified
          (.run 0 .none) =
        some (finish verified 0 (.error .internal)) := by
    simp [act, verified, advance, setThread, hRest]
  refine
    ⟨⟨fun _ => none, _,
        ((Reachable.init.step (.arrive _) rfl).step _
          hVerify).step _ hThrown⟩,
      ?_, ?_, ?_⟩
  · simp [Run.history, finish, verified, advance, linkArrived,
      admitRequest, State.init]
  · intro other
    simp [Run.history, finish, verified, advance, linkArrived,
      admitRequest, answersOf, State.init]
  · simp [Run.history, finish]

/- Arrays nested in each other. -/
def nested : Nat → JsValue
| 0 => .null
| count + 1 => .arr [nested count]

theorem depth_nested (count : Nat) :
    (nested count).depth = count := by
  induction count with
  | zero => rfl
  | succ count ih =>
      simp [nested, JsValue.depth, JsValue.itemsDepth, ih]

/-
  A few thousand brackets are such a body, and the link
  route answers them with an unhandled error.
-/
theorem deep_body_crashes :
    ∃ run : Run timelessPlatform testConfig,
      Entry.arrive 0
            (.identityLink (guessedPost (nested 3001))) ∈
          run.history ∧
        Unsigned (answersOf 0 run.history) ∧
        Entry.respond 0 (.error .internal) ∈ run.history := by
  apply deep_link_crashes
  have hDepth := depth_nested 3001
  intro hSerializes
  have hRoom : (nested 3001).depth ≤ 3000 := hSerializes
  omega

end KisAuth
