import KisAuth.Runtime.World
import KisAuth.Service.Conduct

/-
  How the lookup of a tenant's configuration fails.

  A lookup is answered from the cache or by Django. A reply
  that is no success, or lacks a field, resolves to a typed
  failure. Two replies escape this: a body that is `null`
  cannot be destructured, and throws, and the tenant that a
  complete body names is not compared with the one asked
  for.

  Key definitions include:
    * `FailsClosed`, `ProperReplies`

  Key theorems include:
    * `resolve_resolution`
    * `fails_closed_iff`
    * `null_body_throws`, `other_tenant_resolved`
-/

------------------------------------------------------------
-- Failing Closed
------------------------------------------------------------

namespace KisAuth

open Interaction

/- What a lookup ends in: a typed result, or an exception. -/
abbrev Lookup :=
  Except HttpError (Except ResolveFailure OidcPartnerConfig)

/- The fields a configuration needs. -/
def requiredFields : List String :=
  ["partner_id", "partner_slug", "issuer", "client_id",
    "client_secret", "discovery_url"]

/- The reply is a success with a complete body. -/
structure CompleteReply
    (partnerSlug : String)
    (reply : FetchReply) : Prop where
  success : 200 ≤ reply.status ∧ reply.status < 300
  fields :
    ∃ body,
      reply.body = some body ∧
        (∀ name ∈ requiredFields,
          ∃ text, body.member name = some (.str text)) ∧
        body.member "partner_slug" = some (.str partnerSlug)

/- A call that leaves the cached configurations alone. -/
def LeavesSsoCache
    (P : Platform)
    (cfg : KisAuthConfig)
    (effect : Eff) : Prop :=
  ∀ (world : World) ext value world',
    world.exec P cfg effect ext = some (value, world') →
      world'.ssoCache = world.ssoCache

/-
  The lookup ends in a typed result, takes a configuration
  from a complete reply about the tenant only, and leaves
  the cache alone where it finds none.
-/
structure FailsClosed
    (P : Platform)
    (cfg : KisAuthConfig)
    (partnerSlug : String)
    (past : Past)
    (outcome : Lookup) : Prop where
  typed : ∃ result, outcome = .ok result
  complete :
    ∀ config request reply,
      outcome = .ok (.ok config) →
        ⟨.fetch request, some reply⟩ ∈ past →
          CompleteReply partnerSlug reply
  unchanged :
    (∀ config, outcome ≠ .ok (.ok config)) →
      ∀ answer ∈ past, LeavesSsoCache P cfg answer.effect

/-
  No reply is a success whose body is `null`, or one whose
  complete body names another tenant.
-/
def ProperReplies (partnerSlug : String) (past : Past) : Prop :=
  ∀ request reply body,
    ⟨.fetch request, some reply⟩ ∈ past →
      reply.ok = true →
        reply.body = some body →
          body ≠ .null ∧
            ∀ config,
              partnerConfigOf body = some config →
                config.partnerSlug = partnerSlug

end KisAuth

------------------------------------------------------------
-- Replies
------------------------------------------------------------

namespace KisAuth

open Interaction

/- What the body of a success makes the lookup end in. -/
def bodyLookup : Option JsValue → Lookup
| none => .ok (.error .requestFailed)
| some .null => .error .internal
| some body =>
    match partnerConfigOf body with
    | some config => .ok (.ok config)
    | none => .ok (.error .misconfigured)

/- What a reply makes the lookup end in. -/
def repliedLookup : Option FetchReply → Lookup
| none => .ok (.error .requestFailed)
| some reply =>
    match statusFailure reply with
    | some failure => .ok (.error failure)
    | none => bodyLookup reply.body

theorem resolveReply_eq (reply : Option FetchReply) :
    resolveReply reply =
      Prog.ofOutcome (repliedLookup reply) := by
  unfold resolveReply repliedLookup bodyLookup
  cases reply with
  | none => rfl
  | some reply =>
      cases hStatus : statusFailure reply with
      | some failure =>
          simp only [hStatus]
          rfl
      | none =>
          simp only [hStatus]
          generalize reply.body = body
          cases body with
          | none => rfl
          | some body =>
              cases body with
              | null => rfl
              | _ =>
                  dsimp only
                  cases partnerConfigOf _ with
                  | none => rfl
                  | some config => rfl

/- Only a success has no failure status. -/
theorem statusFailure_eq_none_iff (reply : FetchReply) :
    statusFailure reply = none ↔ reply.ok = true := by
  unfold statusFailure FetchReply.ok
  by_cases hOk : 200 ≤ reply.status ∧ reply.status < 300
  · have h404 : reply.status ≠ 404 := by omega
    have h409 : reply.status ≠ 409 := by omega
    have h401 : reply.status ≠ 401 := by omega
    have h503 : reply.status ≠ 503 := by omega
    simp [h404, h409, h401, h503, hOk.1, hOk.2]
  · have hNot :
        (200 ≤ reply.status && reply.status < 300) =
          false := by
      simpa using hOk
    simp only [hNot, Bool.false_eq_true, if_false, iff_false]
    split_ifs <;> simp

/- A complete body has the required fields. -/
theorem requiredFields_of_config
    {body : JsValue}
    {config : OidcPartnerConfig}
    (hConfig : partnerConfigOf body = some config) :
    (∀ name ∈ requiredFields,
        ∃ text, body.member name = some (.str text)) ∧
      body.member "partner_slug" =
        some (.str config.partnerSlug) := by
  have hText :
      ∀ {name text : String},
        (body.member name).bind JsValue.asString =
            some text →
          body.member name = some (.str text) := by
    intro name text hBind
    rcases Option.bind_eq_some_iff.mp hBind with
      ⟨value, hMember, hString⟩
    rw [hMember, (JsValue.asString_eq_some_iff _ _).mp hString]
  simp only [partnerConfigOf] at hConfig
  split at hConfig
  · next partnerId slug issuer clientId clientSecret url hId
      hSlug hIssuer hClient hSecret hUrl =>
      simp only [Option.some.injEq] at hConfig
      subst hConfig
      refine ⟨?_, hText hSlug⟩
      intro name hName
      simp only [requiredFields, List.mem_cons,
        List.not_mem_nil, or_false] at hName
      rcases hName with rfl | rfl | rfl | rfl | rfl | rfl
      · exact ⟨_, hText hId⟩
      · exact ⟨_, hText hSlug⟩
      · exact ⟨_, hText hIssuer⟩
      · exact ⟨_, hText hClient⟩
      · exact ⟨_, hText hSecret⟩
      · exact ⟨_, hText hUrl⟩
  · simp at hConfig

/- A configuration comes from a success, with its body. -/
theorem repliedLookup_config
    {reply : Option FetchReply}
    {config : OidcPartnerConfig}
    (hLookup : repliedLookup reply = .ok (.ok config)) :
    ∃ found body,
      reply = some found ∧
        found.ok = true ∧
        found.body = some body ∧
        partnerConfigOf body = some config := by
  cases reply with
  | none => simp [repliedLookup] at hLookup
  | some found =>
      cases hStatus : statusFailure found with
      | some failure => simp [repliedLookup, hStatus] at hLookup
      | none =>
          have hOk := (statusFailure_eq_none_iff _).mp hStatus
          simp only [repliedLookup, hStatus] at hLookup
          cases hBody : found.body with
          | none => simp [hBody, bodyLookup] at hLookup
          | some body =>
              refine ⟨found, body, rfl, hOk, hBody, ?_⟩
              rw [hBody] at hLookup
              cases body with
              | null => simp [bodyLookup] at hLookup
              | _ =>
                  simp only [bodyLookup] at hLookup
                  split at hLookup
                  · next other hConfig =>
                      simp only [Except.ok.injEq] at hLookup
                      rw [hConfig, hLookup]
                  · simp at hLookup

/- Only the body `null` makes it throw. -/
theorem repliedLookup_typed
    {reply : Option FetchReply}
    (hNotNull :
      ∀ found,
        reply = some found →
          found.ok = true → found.body ≠ some .null) :
    ∃ result, repliedLookup reply = .ok result := by
  cases reply with
  | none => exact ⟨_, rfl⟩
  | some found =>
      cases hStatus : statusFailure found with
      | some failure =>
          simp only [repliedLookup, hStatus]
          exact ⟨_, rfl⟩
      | none =>
          have hOk := (statusFailure_eq_none_iff _).mp hStatus
          have hBody := hNotNull found rfl hOk
          simp only [repliedLookup, hStatus]
          generalize found.body = body at hBody ⊢
          cases body with
          | none => exact ⟨_, rfl⟩
          | some body =>
              cases body with
              | null => exact absurd rfl hBody
              | _ =>
                  simp only [bodyLookup]
                  split
                  · exact ⟨_, rfl⟩
                  · exact ⟨_, rfl⟩

end KisAuth

------------------------------------------------------------
-- Lookups
------------------------------------------------------------

namespace KisAuth

open Interaction Prog

variable {P : Platform} {cfg : KisAuthConfig}
variable {partnerSlug : String} {past : Past}
variable {outcome : Lookup}

/- A call that writes no configuration to the cache. -/
def WritesNoConfig : Eff → Prop
| .ssoCacheSet _ _ _ => False
| _ => True

theorem leavesSsoCache
    {effect : Eff}
    (hNoConfig : WritesNoConfig effect) :
    LeavesSsoCache P cfg effect := by
  intro world ext value world' hExec
  unfold World.exec at hExec
  split at hExec
  · rw [execRedis_frame hExec]
    rfl
  · unfold World.execSql at hExec
    split at hExec
    all_goals
      try split at hExec
      all_goals try split at hExec
      all_goals
        simp only [Option.some.injEq, Prod.mk.injEq,
          reduceCtorEq] at hExec
      all_goals exact hExec.2 ▸ rfl
  · cases effect with
    | ssoCacheSet slug config expiresAt =>
        exact hNoConfig.elim
    | _ =>
        simp only [World.execOther] at hExec
        all_goals try split at hExec
        all_goals try split at hExec
        all_goals
          simp only [Option.some.injEq, Prod.mk.injEq,
            reduceCtorEq] at hExec
        all_goals exact hExec.2 ▸ rfl

/-
  What a lookup ends in: what the reply makes of it, where
  there is one. The cache is written to for a configuration
  only.
-/
structure Resolution
    (past : Past)
    (outcome : Lookup) : Prop where
  replied :
    ∀ request reply,
      ⟨.fetch request, reply⟩ ∈ past →
        outcome = repliedLookup reply
  unasked :
    (∀ request reply, ⟨.fetch request, reply⟩ ∉ past) →
      ∃ result, outcome = .ok result
  unwritten :
    (∀ config, outcome ≠ .ok (.ok config)) →
      ∀ answer ∈ past, WritesNoConfig answer.effect

/- The URLs of a lookup parse. -/
structure LookupUrls
    (P : Platform)
    (cfg : KisAuthConfig) : Prop where
  configured :
    cfg.djangoSsoConfigUrl = "" ∨
      (P.parseUrl cfg.djangoSsoConfigUrl).isSome = true
  serialised :
    ∀ url base, (P.parseUrlAt (P.href url) base).isSome = true

theorem resolution_requestPartnerConfig
    {final : Past → Lookup → Prop}
    (hUrls : LookupUrls P cfg)
    (hSet : cfg.djangoSsoConfigUrl ≠ "")
    (hReplied :
      ∀ nonce now request reply,
        final
          (⟨.fetch request, reply⟩ :: ⟨.random, nonce⟩ ::
            ⟨.dateNow, now⟩ :: past)
          (repliedLookup reply)) :
    Obeys (fun _ _ => True) final
      (requestPartnerConfig P cfg partnerSlug) past := by
  rcases Option.isSome_iff_exists.mp
      (hUrls.configured.resolve_left hSet) with
    ⟨base, hBase⟩
  unfold requestPartnerConfig
  simp only [hBase, orCrash]
  refine ⟨trivial, fun now => ⟨trivial, fun nonce => ?_⟩⟩
  have hHeaders :
      ∃ headers,
        signedInternalHeaders P "GET"
            (P.href
              (P.setSearchParam base "partner_slug"
                partnerSlug))
            .undefined cfg.internalHmacSecret now nonce =
          some headers := by
    rcases Option.isSome_iff_exists.mp
        (hUrls.serialised
          (P.setSearchParam base "partner_slug" partnerSlug)
          "http://internal.local") with
      ⟨parsed, hParsed⟩
    unfold signedInternalHeaders pathWithQuery
    rw [hParsed]
    exact ⟨_, rfl⟩
  rcases hHeaders with ⟨headers, hHeaders⟩
  simp only [bind_eq, bind_ret, hHeaders]
  refine ⟨trivial, fun reply => ?_⟩
  simp only [bind_ret, resolveReply_eq]
  have hFinal := hReplied nonce now
  cases hLookup : repliedLookup reply with
  | ok result =>
      have hOk := hFinal _ reply
      rw [hLookup] at hOk
      exact hOk
  | error error =>
      have hError := hFinal _ reply
      rw [hLookup] at hError
      exact hError

end KisAuth

------------------------------------------------------------
-- Failing Lookups
------------------------------------------------------------

namespace KisAuth

open Interaction Prog

variable {P : Platform} {cfg : KisAuthConfig}
variable {partnerSlug : String} {past : Past}
variable {outcome : Lookup}

/- A lookup that never asked, and wrote nothing. -/
theorem resolution_unasked
    {result : Except ResolveFailure OidcPartnerConfig}
    (hUnasked :
      ∀ request reply,
        (⟨.fetch request, reply⟩ : Answer Eff Eff.Res) ∉
          past)
    (hQuiet :
      ∀ answer ∈ past, WritesNoConfig answer.effect) :
    Resolution past (.ok result) where
  replied := by
    intro request reply hMem
    exact absurd hMem (hUnasked request reply)
  unasked := fun _ => ⟨result, rfl⟩
  unwritten := fun _ => hQuiet

/- A lookup that asked once. -/
theorem resolution_asked
    {asked : FetchRequest}
    {reply : Option FetchReply}
    (hAsked :
      ∀ request other,
        (⟨.fetch request, other⟩ : Answer Eff Eff.Res) ∈
            past →
          other = reply)
    (hMem : ⟨.fetch asked, reply⟩ ∈ past)
    (hQuiet :
      (∀ config, repliedLookup reply ≠ .ok (.ok config)) →
        ∀ answer ∈ past, WritesNoConfig answer.effect) :
    Resolution past (repliedLookup reply) where
  replied := by
    intro request other hOther
    rw [hAsked request other hOther]
  unasked := fun hUnasked => absurd hMem (hUnasked _ _)
  unwritten := hQuiet

/- A lookup is answered by its reply, if it asks at all. -/
theorem resolve_resolution
    (hUrls : LookupUrls P cfg) :
    Obeys (fun _ _ => True) Resolution
      (OidcProviderResolverService.resolve P cfg partnerSlug)
      [] := by
  unfold OidcProviderResolverService.resolve
  refine ⟨trivial, fun cached => ⟨trivial, fun readAt => ?_⟩⟩
  simp only [bind_eq, bind_ret]
  split
  · next config hFresh =>
      apply resolution_unasked
      · simp
      · simp [WritesNoConfig]
  · split
    · apply resolution_unasked
      · simp
      · simp [WritesNoConfig]
    · next hSet =>
        apply Obeys.andThen
        apply resolution_requestPartnerConfig hUrls hSet
        intro nonce now request reply
        cases hLookup : repliedLookup reply with
        | error error =>
            rw [andThen_error, ← hLookup]
            refine resolution_asked ?_ List.mem_cons_self ?_
            · simp
            · simp [WritesNoConfig]
        | ok result =>
            rw [andThen_ok]
            cases result with
            | error failure =>
                show Resolution _ (.ok (.error failure))
                rw [← hLookup]
                refine resolution_asked ?_ List.mem_cons_self ?_
                · simp
                · simp [WritesNoConfig]
            | ok config =>
                refine
                  ⟨trivial, fun later => ⟨trivial, ?_⟩⟩
                intro done
                show Resolution _ (.ok (.ok config))
                rw [← hLookup]
                refine
                  resolution_asked ?_
                    (List.mem_cons_of_mem _
                      (List.mem_cons_of_mem _
                        List.mem_cons_self))
                    ?_
                · simp
                · intro hNone
                  exact absurd hLookup (hNone config)

/-
  A lookup fails closed exactly where every reply is proper.
-/
theorem fails_closed_iff
    (hUrls : LookupUrls P cfg)
    (hReaches :
      (OidcProviderResolverService.resolve P cfg
        partnerSlug).Reaches past (Prog.ofOutcome outcome)) :
    FailsClosed P cfg partnerSlug past outcome ↔
      ProperReplies partnerSlug past := by
  have hResolution : Resolution past outcome :=
    (resolve_resolution hUrls).final_of_reaches hReaches
  constructor
  · intro hClosed request reply body hMem hOk hBody
    have hLookup := hResolution.replied request _ hMem
    have hStatus := (statusFailure_eq_none_iff reply).mpr hOk
    simp only [repliedLookup, hStatus, hBody] at hLookup
    refine ⟨?_, ?_⟩
    · rintro rfl
      rcases hClosed.typed with ⟨result, hTyped⟩
      rw [hLookup] at hTyped
      simp [bodyLookup] at hTyped
    · intro config hConfig
      have hFound : outcome = .ok (.ok config) := by
        rw [hLookup]
        cases body with
        | null => simp [partnerConfigOf, JsValue.member] at hConfig
        | _ => simp only [bodyLookup, hConfig]
      rcases (hClosed.complete config request reply hFound
          hMem).fields with
        ⟨found, hSame, _, hSlug⟩
      rw [hBody, Option.some.injEq] at hSame
      subst hSame
      rw [(requiredFields_of_config hConfig).2] at hSlug
      simpa using hSlug
  · intro hProper
    refine
      { typed := ?_
        complete := ?_
        unchanged := ?_ }
    · by_cases hAsked :
          ∃ request reply,
            (⟨.fetch request, reply⟩ : Answer Eff Eff.Res) ∈
              past
      · rcases hAsked with ⟨request, reply, hMem⟩
        rw [hResolution.replied request reply hMem]
        apply repliedLookup_typed
        rintro found rfl hOk hNull
        exact (hProper request found _ hMem hOk hNull).1 rfl
      · apply hResolution.unasked
        intro request reply hMem
        exact hAsked ⟨request, reply, hMem⟩
    · intro config request reply hFound hMem
      have hLookup := hResolution.replied request _ hMem
      rw [hFound] at hLookup
      rcases repliedLookup_config hLookup.symm with
        ⟨found, body, hSame, hOk, hBody, hConfig⟩
      rw [Option.some.injEq] at hSame
      subst hSame
      have hSlug :=
        (hProper request reply body hMem hOk hBody).2 config
          hConfig
      have hFields := requiredFields_of_config hConfig
      rw [hSlug] at hFields
      unfold FetchReply.ok at hOk
      exact
        { success := by simpa using hOk
          fields := ⟨body, hBody, hFields⟩ }
    · intro hNone answer hMem
      exact leavesSsoCache (hResolution.unwritten hNone _ hMem)

end KisAuth

------------------------------------------------------------
-- Replies That Are Not Proper
------------------------------------------------------------

namespace KisAuth

open Interaction Prog

/- A platform that takes every text for a URL. -/
def lookupPlatform : Platform :=
  { Platform.bare with
    parseUrl := some
    parseUrlAt := fun url _ => some url }

theorem lookupPlatform_urls :
    LookupUrls lookupPlatform testConfig where
  configured := Or.inr rfl
  serialised := fun _ _ => rfl

/- What Django is asked for. -/
def tenantRequest : FetchRequest where
  method := "GET"
  url := testConfig.djangoSsoConfigUrl
  headers :=
    signedInternalHeaders lookupPlatform "GET"
      testConfig.djangoSsoConfigUrl .undefined
      testConfig.internalHmacSecret 0 "n1"

/- The answers up to the reply, with nothing cached. -/
def tenantPast (reply : FetchReply) : Past :=
  [⟨.fetch tenantRequest, some reply⟩, ⟨.random, "n1"⟩,
    ⟨.dateNow, (0 : Nat)⟩, ⟨.dateNow, (0 : Nat)⟩,
    ⟨.ssoCacheGet "acme", none⟩]

/- The answers where the configuration is cached then. -/
def resolvedPast
    (reply : FetchReply)
    (config : OidcPartnerConfig) : Past :=
  ⟨.ssoCacheSet "acme" config 60000, ()⟩ ::
    ⟨.dateNow, (0 : Nat)⟩ :: tenantPast reply

theorem tenantPast_reaches
    {reply : FetchReply}
    {failed : Lookup}
    (hLookup : repliedLookup (some reply) = failed)
    (hFailed : ∀ config, failed ≠ .ok (.ok config)) :
    (OidcProviderResolverService.resolve lookupPlatform
        testConfig "acme").Reaches (tenantPast reply)
      (Prog.ofOutcome failed) := by
  have hStart :=
    Reaches.start
      (p :=
        OidcProviderResolverService.resolve lookupPlatform
          testConfig "acme")
  have hAsked :=
    ((((hStart.answer none).answer (0 : Nat)).answer
      (0 : Nat)).answer "n1").answer (some reply)
  simp only [bind_eq, bind_ret, resolveReply_eq, hLookup]
    at hAsked
  cases failed with
  | error error => exact hAsked
  | ok result =>
      cases result with
      | error failure => exact hAsked
      | ok config => exact absurd rfl (hFailed config)

theorem resolvedPast_reaches
    {reply : FetchReply}
    {config : OidcPartnerConfig}
    (hLookup :
      repliedLookup (some reply) = .ok (.ok config)) :
    (OidcProviderResolverService.resolve lookupPlatform
        testConfig "acme").Reaches (resolvedPast reply config)
      (Prog.ofOutcome (.ok (.ok config))) := by
  have hStart :=
    Reaches.start
      (p :=
        OidcProviderResolverService.resolve lookupPlatform
          testConfig "acme")
  have hAsked :=
    ((((hStart.answer none).answer (0 : Nat)).answer
      (0 : Nat)).answer "n1").answer (some reply)
  simp only [bind_eq, bind_ret, resolveReply_eq, hLookup]
    at hAsked
  exact (hAsked.answer (0 : Nat)).answer ()

/- A complete body about a tenant. -/
def tenantReply (partnerSlug : String) : FetchReply where
  status := 200
  body :=
    some (.obj
      [("partner_id", .str "p1"),
        ("partner_slug", .str partnerSlug),
        ("issuer", .str "https://idp.test"),
        ("client_id", .str "c1"),
        ("client_secret", .str "s1"),
        ("discovery_url", .str "https://idp.test/d")])

def lookupConfig (partnerSlug : String) : OidcPartnerConfig where
  partnerId := "p1"
  partnerSlug := partnerSlug
  provider := "oidc"
  issuer := "https://idp.test"
  clientId := "c1"
  clientSecret := "s1"
  discoveryUrl := "https://idp.test/d"

theorem tenantReply_lookup (partnerSlug : String) :
    repliedLookup (some (tenantReply partnerSlug)) =
      .ok (.ok (lookupConfig partnerSlug)) := by
  rfl

/- A lookup that is answered about its own tenant. -/
theorem own_tenant_resolved :
    FailsClosed lookupPlatform testConfig "acme"
      (resolvedPast (tenantReply "acme") (lookupConfig "acme"))
      (.ok (.ok (lookupConfig "acme"))) := by
  apply
    (fails_closed_iff lookupPlatform_urls
      (resolvedPast_reaches (tenantReply_lookup "acme"))).mpr
  intro request reply body hMem _ hBody
  simp only [resolvedPast, tenantPast, List.mem_cons,
    Answer.mk.injEq, reduceCtorEq, false_and, false_or,
    List.not_mem_nil, or_false, Eff.fetch.injEq] at hMem
  rcases hMem with ⟨rfl, hReply⟩
  have hSame : reply = tenantReply "acme" := by
    simpa using hReply
  subst hSame
  have hBody' := hBody.symm
  simp only [tenantReply, Option.some.injEq] at hBody'
  subst hBody'
  refine ⟨by simp, ?_⟩
  intro config hConfig
  have hFound : some (lookupConfig "acme") = some config :=
    hConfig
  rw [Option.some.injEq] at hFound
  rw [← hFound]
  rfl

/- A success with the body `null` makes the lookup throw. -/
theorem null_body_throws :
    ¬∀ past outcome,
        (OidcProviderResolverService.resolve lookupPlatform
            testConfig "acme").Reaches past
            (Prog.ofOutcome outcome) →
          FailsClosed lookupPlatform testConfig "acme" past
            outcome := by
  intro hAlways
  have hLookup :
      repliedLookup (some ⟨200, some .null⟩) =
        .error .internal :=
    rfl
  have hClosed :=
    hAlways _ _ (tenantPast_reaches hLookup (by simp))
  rcases hClosed.typed with ⟨result, hTyped⟩
  simp at hTyped

/- A reply about another tenant is taken for its own. -/
theorem other_tenant_resolved :
    ∃ past outcome,
      (OidcProviderResolverService.resolve lookupPlatform
          testConfig "acme").Reaches past
          (Prog.ofOutcome outcome) ∧
        ¬FailsClosed lookupPlatform testConfig "acme" past
            outcome := by
  refine
    ⟨_, _, resolvedPast_reaches (tenantReply_lookup "other"),
      ?_⟩
  intro hClosed
  rcases (hClosed.complete _ tenantRequest
      (tenantReply "other") rfl
      (by simp [resolvedPast, tenantPast])).fields with
    ⟨body, hBody, _, hSlug⟩
  simp only [tenantReply, Option.some.injEq] at hBody
  subst hBody
  simp [JsValue.member, List.lookup_cons] at hSlug

end KisAuth
