import KisAuth.Guarantees.DisabledClients
import KisAuth.Runtime.AlikeWorlds
import KisAuth.Service.RedemptionConduct

/-
  What requests with a forged signature do to the others.

  An exchange counts every request against the limits of its
  address and of the client it names before it looks at the
  signature, so forged requests that name the client of the
  real caller use up its limit. They change nothing else:
  where no exchange is refused by a limit that counts them,
  the others get the same responses with and without them.

  Key definitions include:
    * `Forged`, `forgedKeys`, `NoneRefused`
    * `serve`, `withoutForged`
    * `Flooded`, `SameResponses`, `NotLockedOut`

  Key theorems include:
    * `forged_ignored`
    * `forged_traffic_ignored`
    * `caller_locked_out`, `nameless_flood_felt`
-/

------------------------------------------------------------
-- Forged Requests
------------------------------------------------------------

namespace KisAuth

open Interaction

/-
  The extra threads serve exchanges, and none of them has its
  signature accepted.
-/
def ForgedEntry
    (extra : Nat → Bool) : ServiceEntry → Prop
| .arrive thread q =>
    extra thread = true → q.redeems.isSome = true
| .answer thread ⟨.verifySignature _, result⟩ =>
    extra thread = true → result ≠ some .ok
| _ => True

instance
    (extra : Nat → Bool)
    (entry : ServiceEntry) :
    Decidable (ForgedEntry extra entry) := by
  unfold ForgedEntry
  split
  · infer_instance
  · infer_instance
  · infer_instance

def Forged (extra : Nat → Bool) (history : History) : Prop :=
  ∀ entry ∈ history, ForgedEntry extra entry

instance (extra : Nat → Bool) (history : History) :
    Decidable (Forged extra history) :=
  inferInstanceAs
    (Decidable (∀ entry ∈ history, ForgedEntry extra entry))

/- A request that arrived, with its thread. -/
def arrivedBy : ServiceEntry → Option (Nat × Request)
| .arrive thread q => some (thread, q)
| _ => none

/- A hit that was counted: by whom, where, and which one. -/
def hitBy : ServiceEntry → Option (Nat × String × Nat)
| .answer thread ⟨.redisIncr key _, hits⟩ =>
    some (thread, key, hits)
| _ => none

/- The counters that the extra requests count under. -/
def forgedKeys
    (P : Platform)
    (extra : Nat → Bool)
    (history : History) : List String :=
  (history.filterMap arrivedBy).flatMap (fun arrival =>
    if extra arrival.1 then arrival.2.counters P else [])

/-
  None of the other requests is refused for a hit that is
  counted under one of the keys.
-/
def NoneRefused
    (P : Platform)
    (keys : List String)
    (extra : Nat → Bool)
    (history : History) : Prop :=
  ∀ hit ∈ history.filterMap hitBy,
    extra hit.1 = false →
      hit.2.1 ∈ keys →
        ∀ arrival ∈ history.filterMap arrivedBy,
          arrival.1 = hit.1 →
            ¬OverLimit P arrival.2 hit.2.1 hit.2.2

instance
    (P : Platform)
    (keys : List String)
    (extra : Nat → Bool)
    (history : History) :
    Decidable (NoneRefused P keys extra history) :=
  inferInstanceAs
    (Decidable
      (∀ hit ∈ history.filterMap hitBy,
        extra hit.1 = false →
          hit.2.1 ∈ keys →
            ∀ arrival ∈ history.filterMap arrivedBy,
              arrival.1 = hit.1 →
                ¬OverLimit P arrival.2 hit.2.1 hit.2.2))

/- The time a verification takes passes without it, too. -/
def passed : Eff → External → List EnvOp
| .verifySignature _, .elapsed milliseconds =>
    [.tick milliseconds]
| _, _ => []

/- The state after some actions. -/
def serve
    (P : Platform)
    (cfg : KisAuthConfig)
    (clients : String → Option RegisteredClient)
    (actions : List (Action Request External EnvOp)) :
    Option ServiceState :=
  Interaction.run (worldSemantics P cfg) (handler P cfg)
    (.init (World.empty clients)) actions

/- The same actions without the extra requests. -/
def withoutForged
    (P : Platform)
    (cfg : KisAuthConfig)
    (clients : String → Option RegisteredClient)
    (extra : Nat → Bool)
    (actions : List (Action Request External EnvOp)) :
    List (Action Request External EnvOp) :=
  without (worldSemantics P cfg) (handler P cfg) extra passed
    (.init (World.empty clients)) actions

end KisAuth

------------------------------------------------------------
-- Counters Of Exchanges
------------------------------------------------------------

namespace KisAuth

open Interaction

/- The limits of the two exchanges. -/
def redemptionPolicies : List RateLimitPolicy :=
  [RateLimits.exchangePerIp, RateLimits.exchangePerClient,
    RateLimits.registrationExchangePerIp,
    RateLimits.registrationExchangePerClient]

/- The limits of the browser routes. -/
def browserPolicies : List RateLimitPolicy :=
  [RateLimits.authorize, RateLimits.oauthGoogleStart,
    RateLimits.oauthGoogleCallback,
    RateLimits.oauthEnterpriseStart,
    RateLimits.oauthEnterpriseCallback]

/- The name of a policy has no colon. -/
theorem scope_plain :
    ∀ policy ∈ redemptionPolicies ++ browserPolicies,
      ':' ∉ policy.scope.toList := by
  decide

/- The two kinds of routes count apart. -/
theorem scope_ne :
    ∀ policy ∈ redemptionPolicies,
      ∀ other ∈ browserPolicies,
        policy.scope ≠ other.scope := by
  decide

/- The two routes, with the codes that each redeems. -/
theorem redemption_cases
    {q : Request}
    {route : Redemption}
    {family : KeyFamily}
    {post : InternalPost}
    (hRedeems : q.redeems = some (route, family, post)) :
    (route = authorizationRedemption ∧ family = .code) ∨
      (route = registrationRedemption ∧
        family = .regTicket) := by
  cases q with
  | authorizationExchange other =>
      simp only [Request.redeems, Option.some.injEq,
        Prod.mk.injEq] at hRedeems
      exact Or.inl ⟨hRedeems.1.symm, hRedeems.2.1.symm⟩
  | registrationExchange other =>
      simp only [Request.redeems, Option.some.injEq,
        Prod.mk.injEq] at hRedeems
      exact Or.inr ⟨hRedeems.1.symm, hRedeems.2.1.symm⟩
  | _ => simp [Request.redeems] at hRedeems

/- The limit of an exchange is one of its route. -/
theorem exchange_policy
    {q : Request}
    {limit : RateLimitPolicy × String}
    (hRedeems : q.redeems.isSome = true)
    (hLimit : limit ∈ q.limits P) :
    limit.1 ∈ redemptionPolicies := by
  have hRoute :
      ∀ {route : Redemption} {post : InternalPost},
        limit ∈ route.limits P post →
          limit.1 = route.perIp ∨ limit.1 = route.perClient := by
    intro route post hMem
    rcases List.mem_cons.mp hMem with rfl | hMem
    · exact Or.inl rfl
    · rcases List.mem_map.mp hMem with ⟨clientId, _, rfl⟩
      exact Or.inr rfl
  cases q with
  | authorizationExchange post =>
      rcases hRoute hLimit with hPolicy | hPolicy
      · simp [hPolicy, redemptionPolicies,
          authorizationRedemption]
      · simp [hPolicy, redemptionPolicies,
          authorizationRedemption]
  | registrationExchange post =>
      rcases hRoute hLimit with hPolicy | hPolicy
      · simp [hPolicy, redemptionPolicies,
          registrationRedemption]
      · simp [hPolicy, redemptionPolicies,
          registrationRedemption]
  | _ => simp [Request.redeems] at hRedeems

/- The limit of any other request is one of the browser's. -/
theorem browser_policy
    {q : Request}
    {limit : RateLimitPolicy × String}
    (hRedeems : q.redeems = none)
    (hLimit : limit ∈ q.limits P) :
    limit.1 ∈ browserPolicies := by
  cases q with
  | authorize query req =>
      rw [List.mem_singleton.mp hLimit]
      simp [browserPolicies]
  | googleStart req =>
      rw [List.mem_singleton.mp hLimit]
      simp [browserPolicies]
  | googleCallback query req =>
      rw [List.mem_singleton.mp hLimit]
      simp [browserPolicies]
  | enterpriseStart partnerSlug req =>
      rw [List.mem_singleton.mp hLimit]
      simp [browserPolicies]
  | enterpriseCallback partnerSlug query req =>
      rw [List.mem_singleton.mp hLimit]
      simp [browserPolicies]
  | authorizationExchange post =>
      simp [Request.redeems] at hRedeems
  | registrationExchange post =>
      simp [Request.redeems] at hRedeems
  | _ => simp [Request.limits] at hLimit

/- Only exchanges count what an exchange counts. -/
theorem redeems_of_counter
    {exchange q : Request}
    {key : String}
    (hExchange : exchange.redeems.isSome = true)
    (hKey : key ∈ exchange.counters P)
    (hOwn : key ∈ q.counters P) :
    q.redeems.isSome = true := by
  rcases List.mem_map.mp hKey with ⟨limit, hLimit, rfl⟩
  rcases List.mem_map.mp hOwn with
    ⟨limit', hLimit', hEq⟩
  cases hRedeems : q.redeems with
  | some redemption => rfl
  | none =>
      have hPolicy := exchange_policy hExchange hLimit
      have hPolicy' := browser_policy hRedeems hLimit'
      have hSame :=
        rateLimitKey_inj
          (scope_plain _ (List.mem_append_right _ hPolicy'))
          (scope_plain _ (List.mem_append_left _ hPolicy))
          hEq
      exact
        absurd hSame.1.symm (scope_ne _ hPolicy _ hPolicy')

end KisAuth

------------------------------------------------------------
-- What Forged Requests Touch
------------------------------------------------------------

namespace KisAuth

open Interaction

variable {P : Platform} {cfg : KisAuthConfig}
variable {history : History} {extra : Nat → Bool}

/-
  An answer that may differ only in a hit that no limit of an
  exchange refuses.
-/
def CountsApart
    (P : Platform)
    (keys : List String)
    (q : Request) : Answer Eff Eff.Res → Prop
| ⟨.redisIncr key _, hits⟩ =>
    key ∈ keys →
      q.redeems.isSome = true ∧ ¬OverLimit P q key hits
| ⟨effect, _⟩ => ∀ key ∈ redisKey effect, key ∉ keys

/- So do the answers of the threads that are not extra. -/
def StaysApart
    (P : Platform)
    (keys : List String)
    (extra : Nat → Bool)
    (entry : ServiceEntry)
    (earlier : History) : Prop :=
  ∀ thread answer q,
    entry = .answer thread answer →
      extra thread = false →
        Entry.arrive thread q ∈ earlier →
          CountsApart P keys q answer

/-
  Forged requests count hits, verify and report only, and
  the others feel nothing of the keys they count under.
-/
structure KeepsApart
    (P : Platform)
    (keys : List String)
    (extra : Nat → Bool)
    (entry : ServiceEntry)
    (earlier : History) : Prop where
  kept : StaysApart P keys extra entry earlier
  forged :
    ∀ thread effect value,
      entry = .answer thread ⟨effect, value⟩ →
        extra thread = true →
          Harmless effect ∧ ∀ key ∈ redisKey effect, key ∈ keys
  refused :
    ∀ thread request value,
      entry =
          .answer thread ⟨.verifySignature request, value⟩ →
        extra thread = true → value ≠ some .ok

/- What is stored is not stored under a counter's key. -/
theorem stored_key
    {q : Request}
    {past : Past}
    {key : String}
    {value : RedisValue}
    {ttlSeconds : ℚ}
    (hAllowed :
      Allowed P cfg q past (.redisSet key value ttlSeconds)) :
    ∃ family text,
      family ≠ KeyFamily.rateLimit ∧
        key = storeKey family text := by
  cases value with
  | session session =>
      rcases hAllowed with ⟨_, rfl, _⟩
      exact ⟨.session, _, by simp, rfl⟩
  | challenge record =>
      rcases hAllowed with ⟨_, _, _, _, _, _, rfl, _⟩
      exact ⟨.challenge, _, by simp, rfl⟩
  | code payload =>
      rcases hAllowed with ⟨_, _, _, _, _, hIssued⟩
      rcases hIssued.code with ⟨_, rfl, _⟩
      exact ⟨.code, _, by simp, rfl⟩
  | ticket payload =>
      rcases hAllowed with ⟨_, _, _, _, _, hIssued⟩
      rcases hIssued.code with ⟨_, rfl, _⟩
      exact ⟨.regTicket, _, by simp, rfl⟩
  | claimed => exact hAllowed.elim
  | count hits => exact hAllowed.elim

/- The keys of a request's Redis commands. -/
theorem allowed_key
    {q : Request}
    {past : Past}
    {effect : Eff}
    {key : String}
    (hAllowed : Allowed P cfg q past effect)
    (hKey : redisKey effect = some key) :
    (∃ family text,
        family ≠ KeyFamily.rateLimit ∧
          key = storeKey family text) ∨
      ∃ window,
        effect = .redisIncr key window ∧
          key ∈ q.counters P := by
  cases effect with
  | redisSet other value ttl =>
      rw [redisKey, Option.some.injEq] at hKey
      subst hKey
      exact Or.inl (stored_key hAllowed)
  | redisSetNx other ttl =>
      rw [redisKey, Option.some.injEq] at hKey
      subst hKey
      rcases hAllowed with ⟨_, rfl⟩
      exact Or.inl ⟨.linkNonce, _, by simp, rfl⟩
  | redisGet other =>
      rw [redisKey, Option.some.injEq] at hKey
      subst hKey
      rcases hAllowed with ⟨_, rfl⟩ | ⟨_, rfl⟩
      · exact Or.inl ⟨.session, _, by simp, rfl⟩
      · exact Or.inl ⟨.challenge, _, by simp, rfl⟩
  | redisTtl other =>
      rw [redisKey, Option.some.injEq] at hKey
      subst hKey
      rcases hAllowed with ⟨_, rfl⟩ | ⟨_, rfl⟩
      · exact Or.inl ⟨.session, _, by simp, rfl⟩
      · exact Or.inl ⟨.challenge, _, by simp, rfl⟩
  | redisDel other =>
      rw [redisKey, Option.some.injEq] at hKey
      subst hKey
      rcases hAllowed with ⟨_, rfl⟩
      exact Or.inl ⟨.session, _, by simp, rfl⟩
  | redisConsume other =>
      rw [redisKey, Option.some.injEq] at hKey
      subst hKey
      rcases hAllowed with
        ⟨route, family, post, code, hRedeems, _, _, rfl⟩
      rcases redemption_cases hRedeems with
        ⟨_, rfl⟩ | ⟨_, rfl⟩
      · exact Or.inl ⟨.code, _, by simp, rfl⟩
      · exact Or.inl ⟨.regTicket, _, by simp, rfl⟩
  | redisIncr other window =>
      rw [redisKey, Option.some.injEq] at hKey
      subst hKey
      exact Or.inr ⟨window, rfl, hAllowed⟩
  | _ => simp [redisKey] at hKey

theorem mem_arrivedBy
    (thread : Nat)
    (q : Request) :
    (thread, q) ∈ history.filterMap arrivedBy ↔
      Entry.arrive thread q ∈ history := by
  rw [List.mem_filterMap]
  constructor
  · rintro ⟨entry, hMem, hArrived⟩
    unfold arrivedBy at hArrived
    split at hArrived
    · simp only [Option.some.injEq, Prod.mk.injEq] at hArrived
      rcases hArrived with ⟨rfl, rfl⟩
      exact hMem
    · simp at hArrived
  · intro hMem
    exact ⟨_, hMem, rfl⟩

theorem mem_hitBy
    {thread : Nat}
    {key : String}
    {window : Nat}
    {hits : Nat}
    (hMem :
      Entry.answer thread ⟨.redisIncr key window, hits⟩ ∈
        history) :
    (thread, key, hits) ∈ history.filterMap hitBy :=
  List.mem_filterMap.mpr ⟨_, hMem, rfl⟩

/- The counters of the extra requests are of exchanges. -/
theorem forgedKeys_counter
    {key : String}
    (hForged : Forged extra history)
    (hKey : key ∈ forgedKeys P extra history) :
    ∃ exchange : Request,
      exchange.redeems.isSome = true ∧
        key ∈ exchange.counters P := by
  rcases List.mem_flatMap.mp hKey with
    ⟨⟨thread, q⟩, hArrived, hCounter⟩
  by_cases hExtra : extra thread = true
  · rw [if_pos hExtra] at hCounter
    have hArrive := (mem_arrivedBy thread q).mp hArrived
    exact ⟨q, hForged _ hArrive hExtra, hCounter⟩
  · rw [if_neg hExtra] at hCounter
    simp at hCounter

/- A call that may use a counter of exchanges. -/
theorem countsApart_of_allowed
    {keys : List String}
    {q : Request}
    {answer : Answer Eff Eff.Res}
    {past : Past}
    (hKeys :
      ∀ key ∈ keys,
        ∃ exchange : Request,
          exchange.redeems.isSome = true ∧
            key ∈ exchange.counters P)
    (hAllowed : Allowed P cfg q past answer.effect)
    (hAdmitted :
      ∀ key window hits,
        answer = ⟨.redisIncr key window, hits⟩ →
          key ∈ keys → ¬OverLimit P q key hits) :
    CountsApart P keys q answer := by
  have hOther :
      ∀ key ∈ redisKey answer.effect,
        (∀ window, answer.effect ≠ .redisIncr key window) →
          key ∉ keys := by
    intro key hKey hNoCount hMem
    rcases allowed_key hAllowed hKey with
      ⟨family, text, hFamily, rfl⟩ | ⟨window, hCount, _⟩
    · rcases hKeys _ hMem with ⟨exchange, _, hCounter⟩
      rcases counter_key hCounter with
        ⟨scope, identifier, hEq⟩
      exact hFamily ((storeKey_inj _ _ _ _).mp hEq).1
    · exact hNoCount window hCount
  rcases answer with ⟨effect, value⟩
  cases effect with
  | redisIncr key window =>
      intro hMem
      rcases hKeys key hMem with
        ⟨exchange, hExchange, hCounter⟩
      exact
        ⟨redeems_of_counter hExchange hCounter hAllowed,
          hAdmitted key window value rfl hMem⟩
  | _ => exact fun key hKey => hOther key hKey (by simp)

/- Where none is refused, all of them stay apart. -/
theorem stays_apart
    {keys : List String}
    (hRecorded : Recorded P cfg history)
    (hKeys :
      ∀ key ∈ keys,
        ∃ exchange : Request,
          exchange.redeems.isSome = true ∧
            key ∈ exchange.counters P)
    (hLimits : NoneRefused P keys extra history) :
    Always (StaysApart P keys extra) history := by
  apply always_of_split
  rintro later entry earlier hSplit thread answer q rfl hKept
    hArrive
  have hMem : Entry.answer thread answer ∈ history := by
    rw [hSplit]
    exact List.mem_append_right _ List.mem_cons_self
  have hArrived : Entry.arrive thread q ∈ history := by
    rw [hSplit]
    exact List.mem_append_right _
      (List.mem_cons_of_mem _ hArrive)
  rcases hRecorded.step_of_arrive hArrived hMem with
    ⟨_, _, _, _, hStep⟩
  apply countsApart_of_allowed hKeys hStep.allowed
  rintro key window hits rfl hKey
  exact
    hLimits _ (mem_hitBy hMem) hKept hKey (thread, q)
      ((mem_arrivedBy thread q).mpr hArrived) rfl

/- A forged request counts, verifies and reports only. -/
theorem forged_harmless
    {thread : Nat}
    {answer : Answer Eff Eff.Res}
    {earlier : History}
    (hRecorded :
      Recorded P cfg (.answer thread answer :: earlier))
    (hForged : Forged extra earlier)
    (hExtra : extra thread = true) :
    Harmless answer.effect := by
  rcases hRecorded.conforms.1.keeps handler_verifiesFirst with
    ⟨q, hArrive, hFirst⟩
  apply hFirst (hForged _ hArrive hExtra)
  intro request hMem
  exact hForged _ (mem_of_past hMem) hExtra rfl

/- It counts under no key but its own. -/
theorem forged_key
    {thread : Nat}
    {q : Request}
    {effect : Eff}
    {past : Past}
    {key : String}
    (hArrive : Entry.arrive thread q ∈ history)
    (hExtra : extra thread = true)
    (hHarmless : Harmless effect)
    (hAllowed : Allowed P cfg q past effect)
    (hKey : key ∈ redisKey effect) :
    key ∈ forgedKeys P extra history := by
  apply List.mem_flatMap.mpr
  refine
    ⟨(thread, q), (mem_arrivedBy thread q).mpr hArrive, ?_⟩
  rw [if_pos hExtra]
  cases effect with
  | redisIncr other window =>
      rw [redisKey, Option.mem_some_iff] at hKey
      subst hKey
      exact hAllowed
  | verifySignature request => simp [redisKey] at hKey
  | emit event => simp [redisKey] at hKey
  | _ => exact hHarmless.elim

/- What forged requests do, and what the others use. -/
theorem keeps_apart
    (hRecorded : Recorded P cfg history)
    (hForged : Forged extra history)
    (hLimits :
      NoneRefused P (forgedKeys P extra history) extra history) :
    Always (KeepsApart P (forgedKeys P extra history) extra)
      history := by
  have hWithin :=
    stays_apart hRecorded
      (fun _ hKey => forgedKeys_counter hForged hKey) hLimits
  apply always_of_split
  intro later entry earlier hSplit
  have hLift :
      ∀ {other : ServiceEntry}, other ∈ earlier →
        other ∈ history := by
    intro other hMem
    rw [hSplit]
    exact List.mem_append_right _
      (List.mem_cons_of_mem _ hMem)
  have hEntry : Recorded P cfg (entry :: earlier) := by
    rw [hSplit] at hRecorded
    exact hRecorded.drop
  refine
    { kept := ?_
      forged := ?_
      refused := ?_ }
  · generalize forgedKeys P extra history = keys
      at hWithin ⊢
    rw [hSplit] at hWithin
    exact hWithin.split.1
  · rintro thread effect value rfl hExtra
    have hHarmless :=
      forged_harmless hEntry
        (fun other hMem => hForged other (hLift hMem)) hExtra
    rcases hEntry.step_head with ⟨q, hStep⟩
    refine ⟨hHarmless, ?_⟩
    intro key hKey
    exact
      forged_key (hLift hStep.arrived) hExtra hHarmless
        hStep.allowed hKey
  · rintro thread request value rfl hExtra
    have hMem :
        Entry.answer thread
            ⟨.verifySignature request, value⟩ ∈ history := by
      rw [hSplit]
      exact List.mem_append_right _ List.mem_cons_self
    exact hForged _ hMem hExtra

/- A hit that both runs count, each for itself. -/
theorem Alike.count
    {keys : List String}
    {q : Request}
    {world world' base base' : World}
    {key : String}
    {window : Nat}
    {hits hits' : Nat}
    {ext : External}
    (hAlike : Alike (· ∈ keys) world base)
    (hKey : key ∈ keys)
    (hWithin :
      CountsApart P keys q ⟨.redisIncr key window, hits⟩)
    (hWithin' :
      CountsApart P keys q ⟨.redisIncr key window, hits'⟩)
    (hExec :
      (worldSemantics P cfg).exec world
          (.redisIncr key window) ext =
        some (hits, world'))
    (hExec' :
      (worldSemantics P cfg).exec base
          (.redisIncr key window) ext =
        some (hits', base')) :
    Alike (· ∈ keys) world' base' ∧
      AgreesFor P q (.redisIncr key window) hits hits' := by
  simp only [worldSemantics, World.exec, World.backend,
    World.execRedis, Option.some.injEq, Prod.mk.injEq]
    at hExec hExec'
  rcases hExec with ⟨_, rfl⟩
  rcases hExec' with ⟨_, rfl⟩
  rcases hWithin hKey with ⟨hRedeems, hHits⟩
  refine ⟨hAlike.writeApart hKey _ _, ?_⟩
  exact Or.inr ⟨hRedeems, hHits, (hWithin' hKey).2⟩

/- A call of both, which none of the keys is used in. -/
theorem Alike.same
    {keys : List String}
    {q : Request}
    {world world' base base' : World}
    {effect : Eff}
    {value value' : effect.Res}
    {ext : External}
    (hAlike : Alike (· ∈ keys) world base)
    (hKeys : ∀ key ∈ redisKey effect, key ∉ keys)
    (hExec :
      (worldSemantics P cfg).exec world effect ext =
        some (value, world'))
    (hExec' :
      (worldSemantics P cfg).exec base effect ext =
        some (value', base')) :
    Alike (· ∈ keys) world' base' ∧
      AgreesFor P q effect value value' := by
  rcases hAlike.exec hKeys hExec with
    ⟨other, hOther, hAlike'⟩
  simp only [worldSemantics, hOther, Option.some.injEq,
    Prod.mk.injEq] at hExec'
  rcases hExec' with ⟨rfl, rfl⟩
  exact ⟨hAlike', agreesFor_refl P q effect value⟩

/- Worlds stay alike without the forged requests. -/
theorem forged_ignored
    (keys : List String)
    (extra : Nat → Bool) :
    Ignores (worldSemantics P cfg) extra passed
      (Alike (· ∈ keys)) (AgreesFor P)
      (KeepsApart P keys extra)
      (StaysApart P keys (fun _ => false)) where
  kept := by
    intro world world' base base' q effect value value' ext
      thread other earlier earlier' hKept hGood hGoodBase
      hArrive hArrive' hAlike hExec hExec'
    have hWithin := hGood.kept thread _ q rfl hKept hArrive
    have hWithin' := hGoodBase other _ q rfl rfl hArrive'
    cases effect with
    | redisIncr key window =>
        by_cases hKey : key ∈ keys
        · exact
            hAlike.count hKey hWithin hWithin' hExec hExec'
        · apply hAlike.same _ hExec hExec'
          intro own hOwn
          rw [redisKey, Option.mem_some_iff] at hOwn
          exact hOwn ▸ hKey
    | _ => exact hAlike.same hWithin hExec hExec'
  extra := by
    intro world world' base effect value ext thread earlier
      hExtra hGood hAlike hExec
    rcases hGood.forged thread effect value rfl hExtra with
      ⟨hHarmless, hKey⟩
    cases effect with
    | redisIncr key window =>
        simp only [worldSemantics, World.exec, World.backend,
          World.execRedis, Option.some.injEq, Prod.mk.injEq]
          at hExec
        rcases hExec with ⟨_, rfl⟩
        exact
          ⟨base, rfl,
            hAlike.writeExtra (hKey key rfl) (some _)⟩
    | verifySignature request =>
        have hRefused :=
          hGood.refused thread request value rfl hExtra
        rcases hAlike.refused hRefused hExec with
          ⟨milliseconds, base', rfl, hTick, hAlike'⟩
        refine ⟨base', ?_, hAlike'⟩
        simp only [passed, envs, worldSemantics, hTick,
          Option.bind_some]
    | emit event =>
        simp only [worldSemantics, World.exec, World.backend,
          World.execOther, Option.some.injEq, Prod.mk.injEq]
          at hExec
        rcases hExec with ⟨_, rfl⟩
        exact ⟨base, rfl, hAlike⟩
    | _ => exact hHarmless.elim
  env := by
    intro world world' base op hAlike hEnv
    exact hAlike.env hEnv

/-
  Whatever forged requests are added to a run, with whatever
  timing: where no limit that counts them refuses one of the
  other requests, each of these gets the same response with
  and without them.
-/
theorem forged_traffic_ignored
    {clients : String → Option RegisteredClient}
    {actions : List (Action Request External EnvOp)}
    {full base : ServiceState}
    (hFull : serve P cfg clients actions = some full)
    (hBase :
      serve P cfg clients
          (withoutForged P cfg clients extra actions) =
        some base)
    (hForged : Forged extra full.history)
    (hLimits :
      NoneRefused P (forgedKeys P extra full.history) extra
        full.history)
    (hLimitsBase :
      NoneRefused P (forgedKeys P extra full.history)
        (fun _ => false) base.history) :
    ∀ thread q,
      extra thread = false →
        Entry.arrive thread q ∈ full.history →
          ∀ outcome,
            Entry.respond thread outcome ∈ full.history ↔
              Entry.respond (rank extra thread) outcome ∈
                base.history := by
  have hReachable := Reachable.of_run hFull
  have hRecorded : Recorded P cfg full.history :=
    Run.recorded ⟨clients, full, hReachable⟩
  have hRecordedBase : Recorded P cfg base.history :=
    Run.recorded ⟨clients, base, Reachable.of_run hBase⟩
  have hWithin :=
    stays_apart hRecordedBase
      (fun _ hKey => forgedKeys_counter hForged hKey)
      hLimitsBase
  have hErased :=
    (forged_ignored (forgedKeys P extra full.history) extra).run
      handler_tolerates (Alike.refl _ (World.empty clients))
      (keeps_apart hRecorded hForged hLimits) hWithin hFull
      hBase
  intro thread q hKept hArrive outcome
  have hBound : thread < full.next := by
    by_contra hOver
    have hUnused :=
      hReachable.tracks.unused thread (not_lt.mp hOver)
    exact hUnused _ hArrive rfl
  rw [← mem_outcomesOf, ← mem_outcomesOf,
    hErased.outcomes thread hKept hBound]

end KisAuth

------------------------------------------------------------
-- A Ticket Redeemed Meanwhile
------------------------------------------------------------

namespace KisAuth

open Interaction

/- How a request ended: with an error, or without. -/
def endingOf : Except HttpError Response → Option HttpError
| .ok _ => none
| .error error => some error

def endingsOf
    (thread : Nat)
    (history : History) : List (Option HttpError) :=
  (outcomesOf thread history).map endingOf

/- The response of a request that ended. -/
theorem mem_endingsOf
    (thread : Nat)
    (history : History)
    (ending : Option HttpError) :
    ending ∈ endingsOf thread history ↔
      ∃ outcome,
        Entry.respond thread outcome ∈ history ∧
          endingOf outcome = ending := by
  unfold endingsOf
  simp only [List.mem_map, mem_outcomesOf]

/- A registration without a signature. -/
def forgedPost
    (ip : String)
    (body : JsValue) : Request :=
  .registrationExchange
    { ip := ip
      headers :=
        { timestamp := .absent
          nonce := .absent
          signature := .absent }
      body := body }

/- A ticket is issued. -/
def issuedActions : FlowActions :=
  [.env (.tick 1700000000000)] ++
    askActions 0 "registration" ++ readActions 1 ++
      startActions 1 "v1" ++ enterActions 2 "c1" ++
        completeActions 2 "t1"

/- It is redeemed, and the client's name is forged. -/
def besideActions : FlowActions :=
  issuedActions ++
    [.arrive
        (forgedPost "10.0.0.1"
          (.obj [("client_id", .str "kis-web")])),
      .arrive
        (.registrationExchange (ticketText.post "10.0.0.9")),
      .run 4 .none, .run 3 .none, .run 4 .none,
      .run 3 .none, .run 3 (.elapsed 5),
      .run 4 (.elapsed 0), .run 3 .none, .run 3 .none,
      .run 4 .none, .run 4 .none, .run 4 (.random "j1"),
      .run 4 .none, .run 4 .none]

def serveTicket (actions : FlowActions) :
    Option ServiceState :=
  serve signedPlatform testConfig
    (purposeClients "registration") actions

def serveWithout
    (extra : Nat → Bool)
    (actions after : FlowActions) : Option ServiceState :=
  serveTicket
    (withoutForged signedPlatform testConfig
        (purposeClients "registration") extra actions ++
      after)

/- The ticket is redeemed with and without the forgery. -/
theorem ticket_redeemed_beside_forged :
    ∃ full base,
      serveTicket besideActions = some full ∧
        serveWithout (· == 3) besideActions [] = some base ∧
        none ∈ endingsOf 4 full.history ∧
        none ∈ endingsOf 3 base.history := by
  have hFacts :
      (serveTicket besideActions).bind (fun full =>
          (serveWithout (· == 3) besideActions []).map
            (fun base =>
              decide
                (Forged (· == 3) full.history ∧
                  NoneRefused signedPlatform
                      (forgedKeys signedPlatform (· == 3)
                        full.history)
                      (· == 3) full.history ∧
                  NoneRefused signedPlatform
                      (forgedKeys signedPlatform (· == 3)
                        full.history)
                      (fun _ => false) base.history ∧
                  (∃ arrival ∈
                      full.history.filterMap arrivedBy,
                    arrival.1 = 4) ∧
                  none ∈ endingsOf 4 full.history))) =
        some true := by
    decide +kernel
  rcases Option.bind_eq_some_iff.mp hFacts with
    ⟨full, hFull, hRest⟩
  rcases Option.map_eq_some_iff.mp hRest with
    ⟨base, hBase, hTrue⟩
  rcases of_decide_eq_true hTrue with
    ⟨hForged, hLimits, hLimitsBase,
      ⟨⟨_, q⟩, hArrived, rfl⟩, hEnding⟩
  have hBase' := hBase
  unfold serveWithout at hBase'
  rw [List.append_nil] at hBase'
  have hSame :=
    forged_traffic_ignored hFull hBase' hForged hLimits
      hLimitsBase 4 q rfl ((mem_arrivedBy 4 q).mp hArrived)
  refine ⟨full, base, hFull, hBase, hEnding, ?_⟩
  rcases (mem_endingsOf 4 _ _).mp hEnding with
    ⟨outcome, hRespond, hEnd⟩
  exact
    (mem_endingsOf 3 _ _).mpr
      ⟨outcome, (hSame outcome).mp hRespond, hEnd⟩

end KisAuth

------------------------------------------------------------
-- Callers That Are Locked Out
------------------------------------------------------------

namespace KisAuth

open Interaction

/- The signature of a redemption is the one it should carry. -/
def CorrectlySigned
    (P : Platform)
    (cfg : KisAuthConfig)
    (route : Redemption)
    (post : InternalPost) : Prop :=
  ∃ texts ∈ headerTexts post.headers,
    expectedSignature P cfg.internalHmacSecret
        { method := "POST"
          url := route.url
          body := post.body
          headers := post.headers } texts =
      some texts.signature

instance
    (P : Platform)
    (cfg : KisAuthConfig)
    (route : Redemption)
    (post : InternalPost) :
    Decidable (CorrectlySigned P cfg route post) :=
  inferInstanceAs
    (Decidable
      (∃ texts ∈ headerTexts post.headers,
        expectedSignature P cfg.internalHmacSecret
            { method := "POST"
              url := route.url
              body := post.body
              headers := post.headers } texts =
          some texts.signature))

/- A correctly signed exchange request from an address. -/
def Authentic
    (P : Platform)
    (cfg : KisAuthConfig)
    (address : String)
    (q : Request) : Prop :=
  ∃ redemption ∈ q.redeems,
    redemption.2.2.ip = address ∧
      CorrectlySigned P cfg redemption.1 redemption.2.2

instance
    (P : Platform)
    (cfg : KisAuthConfig)
    (address : String)
    (q : Request) :
    Decidable (Authentic P cfg address q) :=
  inferInstanceAs
    (Decidable
      (∃ redemption ∈ q.redeems,
        redemption.2.2.ip = address ∧
          CorrectlySigned P cfg redemption.1
            redemption.2.2))

/- The extra requests come from other addresses. -/
def Elsewhere
    (extra : Nat → Bool)
    (address : String)
    (history : History) : Prop :=
  ∀ forged ∈ history.filterMap arrivedBy,
    extra forged.1 = true →
      ∀ redemption ∈ forged.2.redeems,
        redemption.2.2.ip ≠ address

instance
    (extra : Nat → Bool)
    (address : String)
    (history : History) :
    Decidable (Elsewhere extra address history) :=
  inferInstanceAs
    (Decidable
      (∀ forged ∈ history.filterMap arrivedBy,
        extra forged.1 = true →
          ∀ redemption ∈ forged.2.redeems,
            redemption.2.2.ip ≠ address))

/- The requests at hand are served further. -/
def stepsOf
    (steps : List (Nat × External)) :
    List (Action Request External EnvOp) :=
  steps.map (fun step => .run step.1 step.2)

/-
  A run, and the run without its forged requests, which come
  from other addresses. One of the two may go on, to answer
  what the other one has answered.
-/
structure Flooded
    (P : Platform)
    (cfg : KisAuthConfig)
    (extra : Nat → Bool)
    (address : String)
    (full base : ServiceState) : Prop where
  runs :
    ∃ clients actions steps steps',
      serve P cfg clients (actions ++ stepsOf steps) =
          some full ∧
        serve P cfg clients
            (withoutForged P cfg clients extra actions ++
              stepsOf steps') =
          some base ∧
        (steps = [] ∨ steps' = [])
  forged : Forged extra full.history
  elsewhere : Elsewhere extra address full.history

/-
  The correctly signed exchanges from an address that both
  runs answer get the same response.
-/
def SameResponses
    (P : Platform)
    (cfg : KisAuthConfig)
    (extra : Nat → Bool)
    (address : String)
    (full base : History) : Prop :=
  ∀ arrival ∈ full.filterMap arrivedBy,
    extra arrival.1 = false →
      Authentic P cfg address arrival.2 →
        ∀ outcome outcome',
          Entry.respond arrival.1 outcome ∈ full →
            Entry.respond (rank extra arrival.1) outcome' ∈
                base →
              outcome = outcome'

/- Forged requests change no response to a real caller. -/
def NotLockedOut
    (P : Platform)
    (cfg : KisAuthConfig) : Prop :=
  ∀ extra address full base,
    Flooded P cfg extra address full base →
      SameResponses P cfg extra address full.history
        base.history

/- A real caller's request ends in two ways. -/
def EndsApart
    (P : Platform)
    (cfg : KisAuthConfig)
    (extra : Nat → Bool)
    (address : String)
    (full base : History)
    (ending ending' : Option HttpError) : Prop :=
  ∃ arrival ∈ full.filterMap arrivedBy,
    extra arrival.1 = false ∧
      Authentic P cfg address arrival.2 ∧
      ending ∈ endingsOf arrival.1 full ∧
      ending' ∈ endingsOf (rank extra arrival.1) base

instance
    (P : Platform)
    (cfg : KisAuthConfig)
    (extra : Nat → Bool)
    (address : String)
    (full base : History)
    (ending ending' : Option HttpError) :
    Decidable
      (EndsApart P cfg extra address full base ending
        ending') :=
  inferInstanceAs
    (Decidable
      (∃ arrival ∈ full.filterMap arrivedBy,
        extra arrival.1 = false ∧
          Authentic P cfg address arrival.2 ∧
          ending ∈ endingsOf arrival.1 full ∧
          ending' ∈ endingsOf (rank extra arrival.1) base))

/- Such a request has two responses. -/
theorem EndsApart.differ
    {P : Platform}
    {cfg : KisAuthConfig}
    {extra : Nat → Bool}
    {address : String}
    {full base : History}
    {ending ending' : Option HttpError}
    (hApart :
      EndsApart P cfg extra address full base ending ending')
    (hNe : ending ≠ ending') :
    ¬SameResponses P cfg extra address full base := by
  intro hSame
  rcases hApart with
    ⟨arrival, hArrived, hKept, hAuthentic, hEnding, hEnding'⟩
  rcases (mem_endingsOf _ _ _).mp hEnding with
    ⟨outcome, hRespond, hEnd⟩
  rcases (mem_endingsOf _ _ _).mp hEnding' with
    ⟨outcome', hRespond', hEnd'⟩
  have hOutcome :=
    hSame arrival hArrived hKept hAuthentic outcome outcome'
      hRespond hRespond'
  subst hOutcome
  exact hNe (hEnd.symm.trans hEnd')

end KisAuth

------------------------------------------------------------
-- Two Floods
------------------------------------------------------------

namespace KisAuth

open Interaction

/- The extra redemptions name no client. -/
def Nameless
    (P : Platform)
    (extra : Nat → Bool)
    (history : History) : Prop :=
  ∀ forged ∈ history.filterMap arrivedBy,
    extra forged.1 = true →
      ∀ redemption ∈ forged.2.redeems,
        redemption.2.2.namedClient P = none

instance
    (P : Platform)
    (extra : Nat → Bool)
    (history : History) :
    Decidable (Nameless P extra history) :=
  inferInstanceAs
    (Decidable
      (∀ forged ∈ history.filterMap arrivedBy,
        extra forged.1 = true →
          ∀ redemption ∈ forged.2.redeems,
            redemption.2.2.namedClient P = none))

/- What is read off the end of a flood. -/
def EndsOtherwise
    (extra : Nat → Bool)
    (ending ending' : Option HttpError)
    (full base : History) : Prop :=
  Forged extra full ∧
    Elsewhere extra "10.0.0.9" full ∧
    EndsApart signedPlatform testConfig extra "10.0.0.9" full
      base ending ending'

instance
    (extra : Nat → Bool)
    (ending ending' : Option HttpError)
    (full base : History) :
    Decidable
      (EndsOtherwise extra ending ending' full base) :=
  inferInstanceAs (Decidable (_ ∧ _ ∧ _))

/- A flood, and how the caller's request ends in it. -/
def floodEnds
    (extra : Nat → Bool)
    (actions : FlowActions)
    (steps steps' : List (Nat × External))
    (ends : History → History → Bool) : Option Bool :=
  (serveTicket (actions ++ stepsOf steps)).bind (fun full =>
    (serveWithout extra actions (stepsOf steps')).map
      (fun base => ends full.history base.history))

theorem flooded_of_ends
    {extra : Nat → Bool}
    {actions : FlowActions}
    {steps steps' : List (Nat × External)}
    {ends : History → History → Bool}
    {ending ending' : Option HttpError}
    (hOne : steps = [] ∨ steps' = [])
    (hEnds :
      floodEnds extra actions steps steps' ends = some true)
    (hOtherwise :
      ∀ full base,
        ends full base = true →
          EndsOtherwise extra ending ending' full base)
    (hNe : ending ≠ ending') :
    ∃ full base,
      Flooded signedPlatform testConfig extra "10.0.0.9" full
          base ∧
        ends full.history base.history = true ∧
        ¬SameResponses signedPlatform testConfig extra
            "10.0.0.9" full.history base.history := by
  rcases Option.bind_eq_some_iff.mp hEnds with
    ⟨full, hFull, hRest⟩
  rcases Option.map_eq_some_iff.mp hRest with
    ⟨base, hBase, hTrue⟩
  rcases hOtherwise _ _ hTrue with
    ⟨hForged, hElsewhere, hApart⟩
  refine ⟨full, base, ?_, hTrue, hApart.differ hNe⟩
  exact
    { runs :=
        ⟨purposeClients "registration", actions, steps, steps',
          hFull, hBase, hOne⟩
      forged := hForged
      elsewhere := hElsewhere }

/- The threads from one number to another. -/
def between (first last thread : Nat) : Bool :=
  decide (first ≤ thread) && decide (thread ≤ last)

/- Requests are served one after the other. -/
def repeated
    (first last : Nat)
    (served : Nat → FlowActions) : FlowActions :=
  (List.range (last + 1 - first)).flatMap (fun n =>
    served (first + n))

/- A forged redemption that names the client. -/
def namedActions
    (ip : String)
    (thread : Nat) : FlowActions :=
  [.arrive (forgedPost ip (redemptionBody "t0")),
    .run thread .none, .run thread .none,
    .run thread (.elapsed 0), .run thread .none,
    .run thread .none]

/- A forged redemption that names no client. -/
def namelessActions (thread : Nat) : FlowActions :=
  [.arrive (forgedPost "10.0.0.8" (.obj [])),
    .run thread .none, .run thread (.elapsed 0),
    .run thread .none, .run thread .none]

/- The beginning of a redemption of the ticket. -/
def limitedActions
    (ip : String)
    (thread : Nat) : FlowActions :=
  [.arrive (.registrationExchange (ticketText.post ip)),
    .run thread .none, .run thread .none]

/- The end of a redemption of the ticket. -/
def redeemedSteps (thread : Nat) : List (Nat × External) :=
  [(thread, .none), (thread, .none),
    (thread, .random "j1"), (thread, .none),
    (thread, .none)]

/- The forged requests use up the limit of the client. -/
def lockActions : FlowActions :=
  issuedActions ++ repeated 3 32 (namedActions "10.0.0.1") ++
    repeated 33 62 (namedActions "10.0.0.2") ++
      limitedActions "10.0.0.9" 63 ++ [.run 63 (.elapsed 0)]

/-
  Requests that name the client of a real caller lock it out:
  its ticket is refused with 429, and redeemed without them.
-/
theorem caller_locked_out :
    ¬NotLockedOut signedPlatform testConfig := by
  have hEnds :
      floodEnds (between 3 62) lockActions []
          (redeemedSteps 3)
          (fun full base =>
            decide
              (EndsOtherwise (between 3 62)
                (some (.tooManyRequests rateLimitError)) none
                full base)) =
        some true := by
    decide +kernel
  rcases
      flooded_of_ends (Or.inl rfl) hEnds
        (fun _ _ hTrue => of_decide_eq_true hTrue) (by simp)
    with ⟨full, base, hFlooded, _, hDiffer⟩
  intro hNotLocked
  exact hDiffer (hNotLocked _ _ _ _ hFlooded)

/-
  The forged requests use up the limit of another caller's
  address, so that its requests are not counted any more for
  the client.
-/
def crowdActions : FlowActions :=
  issuedActions ++ repeated 3 32 namelessActions ++
    repeated 33 62 (limitedActions "10.0.0.8") ++
      repeated 63 92 (limitedActions "10.0.0.7") ++
        limitedActions "10.0.0.9" 93 ++ [.run 93 (.elapsed 0)]

/-
  It is not enough that they name no client: where they share
  an address with a third caller, a ticket is redeemed that
  is refused with 429 without them.
-/
theorem nameless_flood_felt :
    ∃ extra full base,
      Flooded signedPlatform testConfig extra "10.0.0.9" full
          base ∧
        Nameless signedPlatform extra full.history ∧
        ¬SameResponses signedPlatform testConfig extra
            "10.0.0.9" full.history base.history := by
  have hEnds :
      floodEnds (between 3 32) crowdActions
          (redeemedSteps 93) []
          (fun full base =>
            decide
              (Nameless signedPlatform (between 3 32) full ∧
                EndsOtherwise (between 3 32) none
                  (some (.tooManyRequests rateLimitError))
                  full base)) =
        some true := by
    decide +kernel
  rcases
      flooded_of_ends (Or.inr rfl) hEnds
        (fun _ _ hTrue => (of_decide_eq_true hTrue).2)
        (by simp)
    with ⟨full, base, hFlooded, hTrue, hDiffer⟩
  exact
    ⟨_, full, base, hFlooded, (of_decide_eq_true hTrue).1,
      hDiffer⟩

end KisAuth
