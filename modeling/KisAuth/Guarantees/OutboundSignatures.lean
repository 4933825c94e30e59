import KisAuth.Guarantees.SignatureRoundTrip
import KisAuth.Guarantees.TenantResolution
import KisAuth.Security.SecurityEvents

/-
  Whether outgoing requests carry the signature of what is
  sent.

  A security event is sent to the configured URL, but signed
  for a fixed path, so it is refused wherever the two
  differ. A tenant's configuration is asked for under the
  URL that is signed.

  Key definitions include:
    * `AcceptedOnReceipt`, `SignedAsSent`

  Key theorems include:
    * `acceptedOnReceipt_iff`
    * `outbound_signatures_iff`
    * `example_event_refused`
-/

------------------------------------------------------------
-- Acceptance On Receipt
------------------------------------------------------------

namespace KisAuth

open Text

variable (P : Platform) (search : P.Url → String)

/- The path and query a request for this URL asks for. -/
def requestTarget (url : String) : Option String :=
  (P.parseUrl url).map
    (fun parsed => P.pathname parsed ++ search parsed)

/-
  The request that arrives is accepted by a verifier with
  the same secret, at any time within the skew, unless its
  nonce was used.
-/
def AcceptedOnReceipt
    (secret : String)
    (maxSkewSeconds signedAt : ℚ)
    (nonce : String)
    (request : OutboundRequest) : Prop :=
  ∃ target headers,
    requestTarget P search request.url = some target ∧
      request.headers = some headers ∧
        ∀ arrived checkedAt now cache,
          Arrives request.body arrived →
            |checkedAt - signedAt| ≤
                acceptedSkew maxSkewSeconds * 1000 →
              remembers (purge now cache) nonce = false →
                (verifyInternalSignature P secret
                    maxSkewSeconds checkedAt now
                    ⟨request.method, target, arrived,
                      headers⟩
                    cache).1 = some .ok

/- The signed URL has the path of the URL that is sent. -/
def SignedAsSent (signedUrl sentUrl : String) : Prop :=
  ∃ target,
    requestTarget P search sentUrl = some target ∧
      pathWithQuery P target = pathWithQuery P signedUrl

/-
  What is taken from the runtime: digests without
  collisions, and paths and letters that break no lines.
-/
structure OutboundRuntime (secret : String) : Prop where
  digests : CollisionFree P secret
  upperCase : UpperCaseKeepsLines P
  oneLine :
    ∀ url path,
      pathWithQuery P url = some path → SingleLine path

end KisAuth

------------------------------------------------------------
-- What An Accepted Request Was Signed For
------------------------------------------------------------

namespace KisAuth

open Text

variable {P : Platform} {search : P.Url → String}
variable {secret method nonce : String}
variable {maxSkewSeconds signedAt : ℚ}
variable {headers : InternalHeaders}
variable {body : JsValue} {signedUrl sentUrl : String}

/-
  A request is accepted under a signature only if its path
  and the hash of its body are the signed ones.
-/
theorem signed_for_of_accepted
    {checkedAt now : ℚ}
    {target : String}
    {arrived : JsValue}
    {cache : NonceCache}
    (hRuntime : OutboundRuntime P secret)
    (hSigning : SigningRuntime P secret nonce signedAt)
    (hMethod : SingleLine method)
    (hNonce : SingleLine nonce)
    (hSigned :
      signedInternalHeaders P method signedUrl body secret
        signedAt nonce = some headers)
    (hAccepted :
      (verifyInternalSignature P secret maxSkewSeconds
          checkedAt now ⟨method, target, arrived, headers⟩
          cache).1 = some .ok) :
    pathWithQuery P target = pathWithQuery P signedUrl ∧
      bodyHash P arrived = bodyHash P body := by
  rcases signed_header_texts hSigning hSigned with
    ⟨signedPath, signedHash, hSignedPath, hSignedHash,
      hTexts⟩
  let call : VerifyCall :=
    ⟨checkedAt, now, ⟨method, target, arrived, headers⟩⟩
  have hCall :
      (call.verify P secret maxSkewSeconds cache).1 =
        some .ok :=
    hAccepted
  rcases verify_accepted hCall with
    ⟨texts, hAcceptable, _, _⟩
  have hSame :
      some texts = some _ :=
    hAcceptable.headers.symm.trans hTexts
  rw [Option.some.injEq] at hSame
  rcases expectedSignature_eq_some_iff.mp
      hAcceptable.signature with
    ⟨path, hash, hPath, hPresented, hExpected⟩
  subst hSame
  have hPayloads := hRuntime.digests.mac hExpected
  have hLines :
      ∀ url value,
        OneLineParts P
          ⟨method, url, value,
            toString (Int.floor (signedAt / 1000)),
            nonce⟩ :=
    fun url value =>
      ⟨hMethod, hRuntime.oneLine url,
        singleLine_toString _, hNonce⟩
  have hParts :=
    payload_inj hRuntime.upperCase (hLines target arrived)
      (hLines signedUrl body) hPath hSignedPath hPayloads
  rcases hParts with ⟨_, hSamePath, _, _, hHash⟩
  refine ⟨?_, ?_⟩
  rotate_left
  · rw [hSignedHash, ← hHash]
    exact hPresented
  have hBoth :
      pathWithQuery P call.request.url =
        pathWithQuery P signedUrl := by
    rw [hPath, hSignedPath, hSamePath]
  exact hBoth

/- Every skew leaves room for the time of signing. -/
theorem acceptedSkew_nonneg (maxSkewSeconds : ℚ) :
    0 ≤ acceptedSkew maxSkewSeconds := by
  unfold acceptedSkew
  omega

/- Some value arrives for every body. -/
theorem exists_arrives
    (hBody : IsBody body)
    (hNames : DistinctNames body) :
    ∃ arrived, Arrives body arrived := by
  cases body with
  | undefined => exact ⟨.undefined, rfl⟩
  | obj members => exact ⟨_, arrives_transported hNames⟩
  | _ => simp [IsBody] at hBody

/-
  A signed request is accepted on receipt exactly when it is
  sent to the path it was signed for and its body has no
  infinite number.
-/
theorem acceptedOnReceipt_iff
    (hRuntime : OutboundRuntime P secret)
    (hSigning : SigningRuntime P secret nonce signedAt)
    (hMethod : SingleLine method)
    (hNonce : SingleLine nonce)
    (hBody : IsBody body)
    (hNames : DistinctNames body)
    (hSigned :
      signedInternalHeaders P method signedUrl body secret
        signedAt nonce = some headers) :
    AcceptedOnReceipt P search secret maxSkewSeconds
        signedAt nonce
        ⟨method, sentUrl, some headers, body⟩ ↔
      SignedAsSent P search signedUrl sentUrl ∧
        FiniteNumbers body := by
  constructor
  · rintro ⟨target, sent, hTarget, hHeaders, hAll⟩
    rw [Option.some.injEq] at hHeaders
    subst hHeaders
    rcases exists_arrives hBody hNames with
      ⟨arrived, hArrives⟩
    have hNow :
        |signedAt - signedAt| ≤
          (acceptedSkew maxSkewSeconds : ℚ) * 1000 := by
      have hSkew :
          (0 : ℚ) ≤ acceptedSkew maxSkewSeconds := by
        exact_mod_cast acceptedSkew_nonneg maxSkewSeconds
      rw [sub_self, abs_zero]
      linarith
    have hAccepted :=
      hAll arrived signedAt signedAt [] hArrives hNow rfl
    rcases signed_for_of_accepted hRuntime hSigning hMethod
        hNonce hSigned hAccepted with
      ⟨hPath, hHash⟩
    refine ⟨⟨target, hTarget, hPath⟩, ?_⟩
    rcases signed_headers hSigned with
      ⟨_, hash, _, hBodyHash, _⟩
    rw [hBodyHash] at hHash
    rcases Option.map_eq_some_iff.mp hBodyHash with
      ⟨text, hText, hHashed⟩
    rcases Option.map_eq_some_iff.mp hHash with
      ⟨text', hText', rfl⟩
    rw [← hArrives.stableBody_eq_iff P hBody hText, hText']
    exact
      congrArg some
        (String.ofList_inj.mp
          (hRuntime.digests.hash hHashed)).symm
  · rintro ⟨⟨target, hTarget, hPath⟩, hFinite⟩
    refine ⟨target, headers, hTarget, rfl, ?_⟩
    intro arrived checkedAt now cache hArrives hWithin hFresh
    exact signed_request_verified hSigning hSigned hPath
      (hArrives.bodyHash_eq P hBody hFinite) hWithin hFresh

end KisAuth

------------------------------------------------------------
-- Events
------------------------------------------------------------

namespace KisAuth

open Text

variable {P : Platform} {search : P.Url → String}
variable {secret nonce eventUrl : String}
variable {maxSkewSeconds signedAt : ℚ}
variable {event : SecurityEvent}

/- Every request sent for the event is accepted. -/
def EventAccepted
    (P : Platform)
    (search : P.Url → String)
    (secret eventUrl : String)
    (event : SecurityEvent)
    (maxSkewSeconds signedAt : ℚ)
    (nonce : String) : Prop :=
  ∀ request,
    SecurityEventService.emit P eventUrl secret event signedAt
        nonce = some request →
      AcceptedOnReceipt P search secret maxSkewSeconds
        signedAt nonce request

/- A path and query that parse can be signed for. -/
theorem exists_signed_headers
    {method url : String}
    {body : JsValue}
    (hUrl : (pathWithQuery P url).isSome = true)
    (hSerializes : Serializes P body) :
    ∃ headers,
      signedInternalHeaders P method url body secret signedAt
        nonce = some headers := by
  rcases Option.isSome_iff_exists.mp hUrl with ⟨path, hPath⟩
  unfold signedInternalHeaders bodyHash
  rw [hPath, stableBody_eq_print hSerializes]
  exact ⟨_, rfl⟩

/- Nothing is sent for an event that has no hash. -/
theorem emit_eq_none
    (hDeep : ¬Serializes P event.body) :
    SecurityEventService.emit P eventUrl secret event signedAt
      nonce = none := by
  have hHash : bodyHash P event.body = none := by
    unfold bodyHash
    rw [stableBody_eq_none hDeep, Option.map_none]
  unfold SecurityEventService.emit signedInternalHeaders
  rw [hHash]
  cases pathWithQuery P securityEventPath <;> simp

theorem eventAccepted_iff
    (hRuntime : OutboundRuntime P secret)
    (hSigning : SigningRuntime P secret nonce signedAt)
    (hNonce : SingleLine nonce)
    (hSet : eventUrl ≠ "")
    (hPath :
      (pathWithQuery P securityEventPath).isSome = true)
    (hNames : DistinctNames event.body) :
    EventAccepted P search secret eventUrl event
        maxSkewSeconds signedAt nonce ↔
      (Serializes P event.body →
        SignedAsSent P search securityEventPath eventUrl ∧
          FiniteNumbers event.body) := by
  by_cases hSerializes : Serializes P event.body
  swap
  · constructor
    · exact fun _ hDeep => absurd hDeep hSerializes
    · intro _ request hRequest
      rw [emit_eq_none hSerializes] at hRequest
      cases hRequest
  have hMethod : SingleLine "POST" := by decide
  have hBody : IsBody event.body := trivial
  rcases exists_signed_headers (P := P) hPath hSerializes with
    ⟨headers, hSigned⟩
  have hEmit :
      SecurityEventService.emit P eventUrl secret event
          signedAt nonce =
        some ⟨"POST", eventUrl, some headers, event.body⟩ := by
    unfold SecurityEventService.emit
    rw [if_neg hSet, hSigned]
    rfl
  have hReceipt :
      AcceptedOnReceipt P search secret maxSkewSeconds
          signedAt nonce
          ⟨"POST", eventUrl, some headers, event.body⟩ ↔
        SignedAsSent P search securityEventPath eventUrl ∧
          FiniteNumbers event.body :=
    acceptedOnReceipt_iff hRuntime hSigning hMethod hNonce
      hBody hNames hSigned
  rw [← hReceipt]
  constructor
  · intro hAll _
    exact hAll _ hEmit
  · intro hAccepted request hRequest
    rw [hEmit, Option.some.injEq] at hRequest
    rw [← hRequest]
    exact hAccepted hSerializes

end KisAuth

------------------------------------------------------------
-- Lookups
------------------------------------------------------------

namespace KisAuth

open Interaction Prog Text

variable {P : Platform} {search : P.Url → String}
variable {cfg : KisAuthConfig} {nonce partnerSlug : String}
variable {maxSkewSeconds : ℚ} {signedAt : Nat}

/- The URL a tenant's configuration is asked for under. -/
def lookupUrl
    (P : Platform)
    (cfg : KisAuthConfig)
    (partnerSlug : String) : Option String :=
  (P.parseUrl cfg.djangoSsoConfigUrl).map (fun base =>
    P.href (P.setSearchParam base "partner_slug" partnerSlug))

/-
  The request that is sent after the clock was read at
  `signedAt` and the nonce was drawn.
-/
structure SignedLookup
    (P : Platform)
    (cfg : KisAuthConfig)
    (partnerSlug : String)
    (signedAt : Nat)
    (nonce : String)
    (request : FetchRequest)
    (url : String)
    (headers : InternalHeaders) : Prop where
  asked : lookupUrl P cfg partnerSlug = some url
  signed :
    signedInternalHeaders P "GET" url .undefined
      cfg.internalHmacSecret signedAt nonce = some headers
  sent :
    request =
      { method := "GET"
        url := url
        headers := some headers }

/- What precedes a request of the resolver. -/
def FetchesSigned
    (P : Platform)
    (cfg : KisAuthConfig)
    (partnerSlug : String)
    (past : Past)
    (effect : Eff) : Prop :=
  ∀ request,
    effect = .fetch request →
      ∃ signedAt nonce earlier url headers,
        past =
            ⟨.random, nonce⟩ :: ⟨.dateNow, signedAt⟩ ::
              earlier ∧
          SignedLookup P cfg partnerSlug signedAt nonce
            request url headers

/- Nothing is sent by the other calls of the resolver. -/
theorem fetchesSigned_of_ne
    {past : Past}
    {effect : Eff}
    (hEffect : ∀ request, effect ≠ .fetch request) :
    FetchesSigned P cfg partnerSlug past effect :=
  fun request hFetch => absurd hFetch (hEffect request)

theorem requestPartnerConfig_fetchesSigned
    {final : Past → Lookup → Prop}
    (hFinal : ∀ past outcome, final past outcome)
    (past : Past) :
    Obeys (FetchesSigned P cfg partnerSlug) final
      (requestPartnerConfig P cfg partnerSlug) past := by
  unfold requestPartnerConfig
  cases hBase : P.parseUrl cfg.djangoSsoConfigUrl with
  | none => exact hFinal _ _
  | some base =>
      refine ⟨fetchesSigned_of_ne (by simp), ?_⟩
      intro signedAt
      refine ⟨fetchesSigned_of_ne (by simp), ?_⟩
      intro nonce
      simp only [bind_eq, bind_ret]
      cases hSigned :
          signedInternalHeaders P "GET"
            (P.href
              (P.setSearchParam base "partner_slug"
                partnerSlug))
            .undefined cfg.internalHmacSecret signedAt
            nonce with
      | none => exact hFinal _ _
      | some headers =>
          refine ⟨?_, ?_⟩
          · intro request hFetch
            rw [Eff.fetch.injEq] at hFetch
            have hAsked :
                lookupUrl P cfg partnerSlug =
                  some
                    (P.href
                      (P.setSearchParam base "partner_slug"
                        partnerSlug)) := by
              unfold lookupUrl
              rw [hBase, Option.map_some]
            exact
              ⟨signedAt, nonce, past, _, headers, rfl,
                ⟨hAsked, hSigned, hFetch.symm⟩⟩
          · intro reply
            simp only [bind_ret, resolveReply_eq]
            cases repliedLookup reply with
            | ok result => exact hFinal _ _
            | error error => exact hFinal _ _

/- The resolver signs what it sends, just before. -/
theorem resolve_fetchesSigned
    (P : Platform)
    (cfg : KisAuthConfig)
    (partnerSlug : String) :
    Obeys (FetchesSigned P cfg partnerSlug)
      (fun _ _ => True)
      (OidcProviderResolverService.resolve P cfg partnerSlug)
      [] := by
  unfold OidcProviderResolverService.resolve
  refine ⟨fetchesSigned_of_ne (by simp), ?_⟩
  intro cached
  refine ⟨fetchesSigned_of_ne (by simp), ?_⟩
  intro readAt
  simp only [bind_eq, bind_ret]
  split
  · trivial
  · split
    · trivial
    · rw [obeys_bind]
      apply requestPartnerConfig_fetchesSigned
      intro past outcome
      cases outcome with
      | error error => trivial
      | ok resolved =>
          cases resolved with
          | error failure => trivial
          | ok config =>
              refine ⟨fetchesSigned_of_ne (by simp), ?_⟩
              intro now
              refine ⟨fetchesSigned_of_ne (by simp), ?_⟩
              exact fun _ => trivial

/-
  Every request the resolver sends, having read the clock at
  `signedAt` and drawn this nonce, is accepted.
-/
def LookupAccepted
    (P : Platform)
    (search : P.Url → String)
    (cfg : KisAuthConfig)
    (partnerSlug : String)
    (maxSkewSeconds : ℚ)
    (signedAt : Nat)
    (nonce : String) : Prop :=
  ∀ earlier request next,
    (OidcProviderResolverService.resolve P cfg
        partnerSlug).Reaches
        (⟨.random, nonce⟩ :: ⟨.dateNow, signedAt⟩ :: earlier)
        (.call (.fetch request) next) →
      AcceptedOnReceipt P search cfg.internalHmacSecret
        maxSkewSeconds signedAt nonce request.outbound

/- A tenant that is not cached is asked for. -/
theorem lookup_reaches_fetch
    {url : String}
    {headers : InternalHeaders}
    (hSet : cfg.djangoSsoConfigUrl ≠ "")
    (hAsked : lookupUrl P cfg partnerSlug = some url)
    (hSigned :
      signedInternalHeaders P "GET" url .undefined
        cfg.internalHmacSecret signedAt nonce =
          some headers) :
    ∃ next,
      (OidcProviderResolverService.resolve P cfg
          partnerSlug).Reaches
        [⟨.random, nonce⟩, ⟨.dateNow, signedAt⟩,
          ⟨.dateNow, signedAt⟩, ⟨.ssoCacheGet partnerSlug,
            none⟩]
        (.call
          (.fetch
            { method := "GET"
              url := url
              headers := some headers })
          next) := by
  unfold lookupUrl at hAsked
  rw [Option.map_eq_some_iff] at hAsked
  rcases hAsked with ⟨base, hBase, rfl⟩
  have hStart :=
    Reaches.start
      (p :=
        OidcProviderResolverService.resolve P cfg partnerSlug)
  have hRead := (hStart.answer none).answer signedAt
  simp only [bind_eq, bind_ret, freshEntry, hSet, if_false,
    requestPartnerConfig, hBase, orCrash] at hRead
  have hDrawn := (hRead.answer signedAt).answer nonce
  simp only [bind_ret, hSigned] at hDrawn
  exact ⟨_, hDrawn⟩

theorem lookupAccepted_iff
    {url : String}
    (hRuntime : OutboundRuntime P cfg.internalHmacSecret)
    (hSigning :
      SigningRuntime P cfg.internalHmacSecret nonce signedAt)
    (hNonce : SingleLine nonce)
    (hSet : cfg.djangoSsoConfigUrl ≠ "")
    (hAsked : lookupUrl P cfg partnerSlug = some url)
    (hPath : (pathWithQuery P url).isSome = true) :
    LookupAccepted P search cfg partnerSlug maxSkewSeconds
        signedAt nonce ↔
      SignedAsSent P search url url := by
  have hMethod : SingleLine "GET" := by decide
  have hReceipt :
      ∀ headers,
        signedInternalHeaders P "GET" url .undefined
            cfg.internalHmacSecret signedAt nonce =
          some headers →
          (AcceptedOnReceipt P search cfg.internalHmacSecret
              maxSkewSeconds signedAt nonce
              ⟨"GET", url, some headers, .undefined⟩ ↔
            SignedAsSent P search url url ∧
              FiniteNumbers .undefined) :=
    fun headers hSigned =>
      acceptedOnReceipt_iff hRuntime hSigning hMethod hNonce
        trivial trivial hSigned
  constructor
  · intro hAll
    have hNothing : Serializes P .undefined := Nat.zero_le _
    rcases exists_signed_headers (P := P) hPath hNothing with
      ⟨headers, hSigned⟩
    rcases lookup_reaches_fetch hSet hAsked hSigned with
      ⟨next, hReaches⟩
    have hAccepted := hAll _ _ next hReaches
    exact ((hReceipt headers hSigned).mp hAccepted).1
  · intro hSame earlier request next hReaches
    have hFetch :=
      (resolve_fetchesSigned P cfg partnerSlug).guard_of_reaches
        hReaches request rfl
    rcases hFetch with
      ⟨readAt, drawn, before, asked, headers, hPast, hLookup⟩
    simp only [List.cons.injEq, Answer.mk.injEq, true_and,
      heq_eq_eq] at hPast
    rcases hPast with ⟨rfl, rfl, _⟩
    have hUrl : some asked = some url :=
      hLookup.asked.symm.trans hAsked
    rw [Option.some.injEq] at hUrl
    subst hUrl
    rw [hLookup.sent]
    exact (hReceipt headers hLookup.signed).mpr
      ⟨hSame, trivial⟩

end KisAuth

------------------------------------------------------------
-- A Runtime That Knows A Few Texts
------------------------------------------------------------

namespace KisAuth

open Text

/- Digests that are known for two texts. -/
def knownDigests
    (first second : String × String)
    (other : String) : String :=
  if other = first.1 then first.2
  else knownDigest second.1 second.2 other

theorem knownDigests_injective
    {first second : String × String}
    (hFirst : first.2.toList.head? ≠ some '?')
    (hSecond : second.2.toList.head? ≠ some '?')
    (hApart : first.2 ≠ second.2) :
    Function.Injective (knownDigests first second) := by
  have hOther :
      ∀ other, first.2 ≠ knownDigest second.1 second.2 other := by
    intro other
    unfold knownDigest
    split
    · exact hApart
    · intro hEq
      rw [hEq] at hFirst
      simp at hFirst
  intro left right hEq
  unfold knownDigests at hEq
  split at hEq <;> split at hEq
  · next hLeft hRight =>
      rw [hLeft, hRight]
  · exact absurd hEq (hOther right)
  · exact absurd hEq.symm (hOther left)
  · exact knownDigest_injective hSecond hEq

/- The parts of a parsed URL. -/
structure KnownUrl where
  origin : String
  path : String
  query : String
  deriving DecidableEq

/- The query with its question mark. -/
def KnownUrl.search (url : KnownUrl) : String :=
  if url.query = "" then "" else "?" ++ url.query

/- Where events go by the example configuration. -/
def exampleEventUrl : String :=
  "http://localhost:8000" ++
    "/api/v1/internal/kis-auth/security-event/"

/- Where events go when the URL has the signed path. -/
def signedEventUrl : String :=
  "http://localhost:8000" ++ securityEventPath

/- The URLs in use, and how they parse. -/
def knownUrls : List (String × KnownUrl) :=
  let django := "https://django.internal.test"
  let local' := "http://internal.local"
  let lookups := "/api/v1/kis-auth/sso-config/"
  let slug := "partner_slug=acme"
  let events := "/api/v1/internal/kis-auth/security-event/"
  [(exampleEventUrl, ⟨"http://localhost:8000", events, ""⟩),
    (signedEventUrl,
      ⟨"http://localhost:8000", securityEventPath, ""⟩),
    (testConfig.djangoSsoConfigUrl, ⟨django, lookups, ""⟩),
    (testConfig.djangoSsoConfigUrl ++ "?" ++ slug,
      ⟨django, lookups, slug⟩),
    (securityEventPath, ⟨local', securityEventPath, ""⟩),
    (events, ⟨local', events, ""⟩),
    (lookups ++ "?" ++ slug, ⟨local', lookups, slug⟩)]

/- The hashes of the event's body and of no body. -/
def eventHash : String :=
  "9cc1c1f2fcbfe9ae571c88c4637fcdd1" ++
    "f175664fb1cfac6f1f4ff6a396cbceaf"

def emptyHash : String :=
  "e3b0c44298fc1c149afbf4c8996fb924" ++
    "27ae41e4649b934ca495991b7852b855"

/- The signatures of the event and of the lookup. -/
def eventSignature : String :=
  "83c4e9f949289f13511177fc828c0c8e" ++
    "470ce16edaa5bac81b6434540e9e221e"

def lookupSignature : String :=
  "0287b9466b6d67a07da3e86d97a0a604" ++
    "8bae18cea7778cfbc7080704d865de19"

/- The digests of both, as the runtime computes them. -/
def outboundPlatform : Platform where
  Url := KnownUrl
  parseUrl := fun text => knownUrls.lookup text
  parseUrlAt := fun text _ => knownUrls.lookup text
  setSearchParam := fun url name value =>
    { url with query := name ++ "=" ++ value }
  href := fun url => url.origin ++ url.path ++ url.search
  pathname := KnownUrl.path
  searchParams := KnownUrl.query
  sha256Hex :=
    knownDigests
      ("\x7b\"client_id\":\"kis-web\"," ++
          "\"event_type\":\"exchange.failed\"," ++
          "\"ip\":\"10.0.0.9\",\"kis_user_id\":," ++
          "\"metadata\":\x7b\x7d,\"outcome\":\"failure\"," ++
          "\"reason\":\"invalid_code\"\x7d",
        eventHash)
      ("", emptyHash)
  sha256Base64url := fun _ => ""
  hmacSha256Hex := fun _ =>
    knownDigests
      ("POST\n/api/v1/kis-auth/security-event/\n" ++
          "1700000000\n" ++ sentNonce ++ "\n" ++ eventHash,
        eventSignature)
      ("GET\n/api/v1/kis-auth/sso-config/" ++
          "?partner_slug=acme\n1700000000\n" ++ sentNonce ++
          "\n" ++ emptyHash,
        lookupSignature)
  jsonParse := fun _ => none
  sqlText := fun _ => ""
  sqlBoolean := fun _ => none
  number := fun text =>
    if text = "1700000000" then some 1700000000 else none
  base64urlDecode := fun _ => ""
  toUpperCase := id
  importPKCS8 := fun _ => true
  signsRS256 := fun _ => true
  stringifyDepth := 3000
  joinDepth := 3000

def outboundSearch : outboundPlatform.Url → String :=
  KnownUrl.search

theorem knownUrls_oneLine :
    ∀ entry ∈ knownUrls,
      SingleLine (entry.2.path ++ "?" ++ entry.2.query) ∧
        SingleLine entry.2.path ∧ entry.2.path ≠ "" := by
  decide +kernel

/- A text that parses is in the table. -/
theorem known_of_lookup
    {text : String}
    {parsed : KnownUrl}
    (hParsed : knownUrls.lookup text = some parsed) :
    (text, parsed) ∈ knownUrls := by
  rw [List.lookup_eq_some_iff] at hParsed
  rcases hParsed with ⟨before, after, hSplit, _⟩
  rw [hSplit]
  simp

theorem outboundPlatform_runtime :
    OutboundRuntime outboundPlatform
      testConfig.internalHmacSecret where
  digests :=
    ⟨knownDigests_injective (by decide) (by decide)
        (by decide),
      knownDigests_injective (by decide) (by decide)
        (by decide)⟩
  upperCase := fun _ hLine => hLine
  oneLine := by
    intro url path hPath
    unfold pathWithQuery at hPath
    rw [Option.map_eq_some_iff] at hPath
    rcases hPath with ⟨parsed, hParsed, rfl⟩
    have hMem := known_of_lookup hParsed
    rcases knownUrls_oneLine _ hMem with
      ⟨hWhole, hAlone, hSome⟩
    have hPathname :
        outboundPlatform.pathname parsed = parsed.path := rfl
    simp only [hPathname, hSome, if_false]
    split
    · rw [String.append_empty]
      exact hAlone
    · rw [← String.append_assoc]
      exact hWhole

theorem outboundPlatform_signs :
    SigningRuntime outboundPlatform
      testConfig.internalHmacSecret sentNonce
      (1700000000500 : Nat) where
  nonce := by decide
  digest := by
    intro payload
    have hSome : eventSignature ≠ "" := by decide
    have hOther : lookupSignature ≠ "" := by decide
    change knownDigests _ _ payload ≠ ""
    unfold knownDigests
    split
    · exact hSome
    · exact knownDigest_ne_empty hOther payload
  clock := by
    have hSeconds :
        Int.floor (((1700000000500 : Nat) : ℚ) / 1000) =
          1700000000 := by
      norm_num
    rw [hSeconds]
    rfl

/- An exchange that failed. -/
def failedExchange : SecurityEvent where
  eventType := "exchange.failed"
  outcome := .failure
  clientId := .str "kis-web"
  reason := .str "invalid_code"
  ip := .str "10.0.0.9"

theorem failedExchange_distinct :
    DistinctNames failedExchange.body := by
  simp [SecurityEvent.body, failedExchange, orNull,
    DistinctNames, DistinctMembers]

theorem failedExchange_serializes :
    Serializes outboundPlatform failedExchange.body := by
  have hDepth : failedExchange.body.depth = 2 := by decide
  have hRoom : outboundPlatform.stringifyDepth = 3000 := rfl
  simp [Serializes, SecurityEvent.body] at hDepth ⊢
  omega

theorem failedExchange_finite :
    FiniteNumbers failedExchange.body := by
  simp [SecurityEvent.body, failedExchange, orNull,
    FiniteNumbers, FiniteMembers]

end KisAuth

------------------------------------------------------------
-- Outbound Requests
------------------------------------------------------------

namespace KisAuth

open Text

/-
  What is sent for a security event is accepted exactly when
  the configured URL has the path that events are signed
  for, and no number in the event is infinite. For an event
  that is nested too deeply to be signed, nothing is sent.
  What is sent for a tenant is accepted exactly when the path
  of the lookup URL is read again as the same path.
-/
theorem outbound_signatures_iff
    {P : Platform}
    {search : P.Url → String}
    {cfg : KisAuthConfig}
    {eventUrl nonce partnerSlug url : String}
    {event : SecurityEvent}
    {maxSkewSeconds : ℚ}
    {signedAt : Nat}
    (hRuntime : OutboundRuntime P cfg.internalHmacSecret)
    (hSigning :
      SigningRuntime P cfg.internalHmacSecret nonce signedAt)
    (hNonce : SingleLine nonce)
    (hEventUrl : eventUrl ≠ "")
    (hEventPath :
      (pathWithQuery P securityEventPath).isSome = true)
    (hNames : DistinctNames event.body)
    (hSsoUrl : cfg.djangoSsoConfigUrl ≠ "")
    (hAsked : lookupUrl P cfg partnerSlug = some url)
    (hPath : (pathWithQuery P url).isSome = true) :
    (EventAccepted P search cfg.internalHmacSecret eventUrl
          event maxSkewSeconds signedAt nonce ↔
        (Serializes P event.body →
          SignedAsSent P search securityEventPath eventUrl ∧
            FiniteNumbers event.body)) ∧
      (LookupAccepted P search cfg partnerSlug maxSkewSeconds
          signedAt nonce ↔
        SignedAsSent P search url url) :=
  ⟨eventAccepted_iff hRuntime hSigning hNonce hEventUrl
      hEventPath hNames,
    lookupAccepted_iff hRuntime hSigning hNonce hSsoUrl hAsked
      hPath⟩

/- Both are accepted where the event URL is the signed one. -/
theorem matching_urls_accepted :
    EventAccepted outboundPlatform outboundSearch
        testConfig.internalHmacSecret signedEventUrl
        failedExchange 300 (1700000000500 : Nat) sentNonce ∧
      LookupAccepted outboundPlatform outboundSearch
        testConfig "acme" 300 1700000000500 sentNonce := by
  have hLine : SingleLine sentNonce := by decide
  have hEventUrl : signedEventUrl ≠ "" := by decide
  have hEventPath :
      (pathWithQuery outboundPlatform
        securityEventPath).isSome = true := by
    decide +kernel
  have hSsoUrl : testConfig.djangoSsoConfigUrl ≠ "" := by
    decide
  have hAsked :
      lookupUrl outboundPlatform testConfig "acme" =
        some
          (testConfig.djangoSsoConfigUrl ++
            "?partner_slug=acme") := by
    decide +kernel
  have hPath :
      (pathWithQuery outboundPlatform
          (testConfig.djangoSsoConfigUrl ++
            "?partner_slug=acme")).isSome = true := by
    decide +kernel
  have hEvent :
      Serializes outboundPlatform failedExchange.body →
        SignedAsSent outboundPlatform outboundSearch
            securityEventPath signedEventUrl ∧
          FiniteNumbers failedExchange.body :=
    fun _ =>
      ⟨⟨securityEventPath, by decide +kernel, rfl⟩,
        failedExchange_finite⟩
  have hLookup :
      SignedAsSent outboundPlatform outboundSearch
        (testConfig.djangoSsoConfigUrl ++
          "?partner_slug=acme")
        (testConfig.djangoSsoConfigUrl ++
          "?partner_slug=acme") :=
    ⟨"/api/v1/kis-auth/sso-config/?partner_slug=acme",
      by decide +kernel, by decide +kernel⟩
  have hBoth :
      (EventAccepted outboundPlatform outboundSearch
            testConfig.internalHmacSecret signedEventUrl
            failedExchange 300 (1700000000500 : Nat)
            sentNonce ↔
          _) ∧
        (LookupAccepted outboundPlatform outboundSearch
            testConfig "acme" 300 1700000000500 sentNonce ↔
          _) :=
    outbound_signatures_iff outboundPlatform_runtime
      outboundPlatform_signs hLine hEventUrl hEventPath
      failedExchange_distinct hSsoUrl hAsked hPath
  exact ⟨hBoth.1.mpr hEvent, hBoth.2.mpr hLookup⟩

/-
  By the example configuration events go to another path,
  and none of them is accepted.
-/
theorem example_event_refused :
    ¬EventAccepted outboundPlatform outboundSearch
      testConfig.internalHmacSecret exampleEventUrl
      failedExchange 300 (1700000000500 : Nat) sentNonce := by
  have hLine : SingleLine sentNonce := by decide
  have hEventUrl : exampleEventUrl ≠ "" := by decide
  have hEventPath :
      (pathWithQuery outboundPlatform
        securityEventPath).isSome = true := by
    decide +kernel
  rw [eventAccepted_iff outboundPlatform_runtime
    outboundPlatform_signs hLine hEventUrl hEventPath
    failedExchange_distinct]
  intro hAll
  rcases hAll failedExchange_serializes with
    ⟨⟨target, hTarget, hPath⟩, _⟩
  have hKnown :
      requestTarget outboundPlatform outboundSearch
          exampleEventUrl =
        some "/api/v1/internal/kis-auth/security-event/" := by
    decide +kernel
  have hOther :
      pathWithQuery outboundPlatform
          "/api/v1/internal/kis-auth/security-event/" ≠
        pathWithQuery outboundPlatform securityEventPath := by
    decide +kernel
  rw [hKnown, Option.some.injEq] at hTarget
  subst hTarget
  exact hOther hPath

end KisAuth
