import KisAuth.Guarantees.RegistrationProvenance
import KisAuth.Guarantees.SessionCompletion

/-
  The shapes of the claims of a token.

  A registration token names a provider's subject and no
  user, and every other token names a user and no subject.
  But the purpose of an authorization token is whatever its
  session was created with, and nothing keeps a client that
  is allowed it from asking for the purpose that the tenants'
  callbacks give their registrations.

  Key definitions include:
    * `WellShaped`, `Relabelled`, `ClaimsShaped`

  Key theorems include:
    * `code_shape`, `ticket_shape`
    * `claim_shapes`, `registration_with_user`
-/

------------------------------------------------------------
-- Shapes
------------------------------------------------------------

namespace KisAuth

open Interaction Store

/- The purposes that stand for a registration. -/
def IsRegistration (purpose : String) : Prop :=
  purpose = "registration" ∨
    purpose = "enterprise_sso_registration"

instance (purpose : String) :
    Decidable (IsRegistration purpose) :=
  inferInstanceAs (Decidable (_ ∨ _))

/- The purpose agrees with which claims there are. -/
structure WellShaped (token : AuthorizationJwt) : Prop where
  user :
    IsRegistration token.purpose ↔
      token.sub = none ∧ token.authIdentityId = none
  subject :
    IsRegistration token.purpose ↔
      token.providerSubject ≠ none
  tenant :
    token.purpose = "enterprise_sso_registration" ↔
      token.provider = some "oidc" ∧
        token.partnerSlug ≠ none

/-
  The thread redeems a code that was issued for the purpose
  of the registrations of tenants.
-/
def Relabelled (history : History) (thread : Nat) : Prop :=
  ∃ post code payload,
    Entry.arrive thread (.authorizationExchange post) ∈
        history ∧
      Entry.answer thread
          ⟨.redisConsume (codeKey code),
            some (.code payload)⟩ ∈ history ∧
      payload.purpose = "enterprise_sso_registration"

/-
  A token has the shape of its purpose unless its code was
  relabelled, which takes a request to /authorize with that
  purpose.
-/
structure ClaimsShaped
    (P : Platform)
    (cfg : KisAuthConfig)
    (history : History) : Prop where
  shaped :
    ∀ later thread token earlier,
      history =
          later ++
            .respond thread (.ok (.token token)) ::
              earlier →
        (WellShaped token ↔ ¬Relabelled earlier thread)
  asked :
    ∀ thread,
      Relabelled history thread →
        ∃ minter query sessionId created,
          Minted P cfg history minter query sessionId
              created ∧
            query.purpose =
              some "enterprise_sso_registration"

end KisAuth

------------------------------------------------------------
-- The Two Exchanges
------------------------------------------------------------

namespace KisAuth

open Interaction Store

variable {P : Platform} {cfg : KisAuthConfig}
variable {history : History}
variable {thread : Nat} {post : InternalPost}
variable {token : AuthorizationJwt} {code : String}

/- A registration ticket's token has its shape. -/
theorem ticket_shape
    {payload : RegistrationTicketPayload}
    (hRecorded : Recorded P cfg history)
    (hRedeemed :
      TicketRedeemed P post (answersOf thread history) token
        code payload) :
    WellShaped token := by
  rcases ticket_proven hRecorded hRedeemed with
    ⟨_, _, _, _, _, _, _, _, _, _, _, _, _, _, hCalledBack⟩
  rcases hCalledBack with
    ⟨_, callback, _, _, _, _, _, _, _, hProvider, hSubject,
      _, hPurpose, hSlug⟩
  have hRegistration : IsRegistration token.purpose := by
    rw [hPurpose]
    unfold Callback.registrationPurpose
    split
    · exact Or.inl rfl
    · exact Or.inr rfl
  constructor
  · exact
      iff_of_true hRegistration
        ⟨hRedeemed.sub, hRedeemed.authIdentityId⟩
  · rw [hSubject]
    exact iff_of_true hRegistration (by simp)
  · rw [hPurpose, hProvider, hSlug]
    unfold Callback.registrationPurpose Callback.provider
    cases callback.tenant with
    | none => decide
    | some partnerSlug => simp [oidcProvider]

/-
  A code's token names a user, so it has the shape of its
  purpose where that is no registration.
-/
theorem code_shape
    {payload : AuthorizationCodePayload}
    {identity : AuthIdentity}
    (hRecorded : Recorded P cfg history)
    (hRedeemed :
      CodeRedeemed P post (answersOf thread history) token code
        payload identity) :
    WellShaped token ↔
      payload.purpose ≠ "enterprise_sso_registration" := by
  rcases consumed_code_origin hRecorded
      (mem_of_past hRedeemed.consumed) with
    ⟨_, earlier, _, _, _, _, session, _, _, hEarlier, _, _,
      hIssued⟩
  have hEntitled := code_entitled hEarlier hIssued
  have hNamed : payload.purpose ≠ "registration" := by
    rw [hEntitled.purpose]
    exact hEntitled.registered
  have hUser : token.sub = some payload.kisUserId := by
    rw [hRedeemed.sub, truthyText_eq_some_iff]
    exact ⟨rfl, hEntitled.named⟩
  constructor
  · intro hShaped hTenant
    rw [← hRedeemed.purpose] at hTenant
    have hNone := (hShaped.user.mp (Or.inr hTenant)).1
    rw [hUser] at hNone
    simp at hNone
  · intro hOther
    have hNot : ¬IsRegistration token.purpose := by
      rw [hRedeemed.purpose]
      rintro (hFirst | hSecond)
      · exact hNamed hFirst
      · exact hOther hSecond
    constructor
    · apply iff_of_false hNot
      rw [hUser]
      simp
    · apply iff_of_false hNot
      simp [hRedeemed.providerSubject]
    · apply iff_of_false
      · exact fun hTenant => hNot (Or.inr hTenant)
      · simp [hRedeemed.provider]

/- A thread that redeems a code consumed no other code. -/
theorem relabelled_iff
    {payload : AuthorizationCodePayload}
    {identity : AuthIdentity}
    (hRecorded : Recorded P cfg history)
    (hArrive :
      Entry.arrive thread (.authorizationExchange post) ∈
        history)
    (hRedeemed :
      CodeRedeemed P post (answersOf thread history) token code
        payload identity) :
    Relabelled history thread ↔
      payload.purpose = "enterprise_sso_registration" := by
  have hConsumed := mem_of_past hRedeemed.consumed
  constructor
  · rintro ⟨other, code', payload', _, hOther, hPurpose⟩
    rcases hRecorded.step_of_arrive hArrive hOther with
      ⟨later, earlier, rfl, _, hStep⟩
    rcases hStep.allowed with
      ⟨route, family, named, code'', hRoute, _, hNamed, hKey⟩
    simp only [Request.redeems, Option.some.injEq,
      Prod.mk.injEq] at hRoute
    rcases hRoute with ⟨rfl, rfl, rfl⟩
    rw [hRedeemed.named, Option.some.injEq] at hNamed
    subst hNamed
    have hCode : code' = code :=
      ((storeKey_inj _ _ _ _).mp hKey).2
    subst hCode
    rw [← consumed_code_unique hRecorded hOther hConsumed]
    exact hPurpose
  · intro hPurpose
    exact ⟨post, code, payload, hArrive, hConsumed, hPurpose⟩

/- A relabelled code comes from a session of that purpose. -/
theorem relabelled_asked
    (hRecorded : Recorded P cfg history)
    (hRelabelled : Relabelled history thread) :
    ∃ minter query sessionId created,
      Minted P cfg history minter query sessionId created ∧
        query.purpose =
          some "enterprise_sso_registration" := by
  rcases hRelabelled with
    ⟨_, code, payload, _, hConsumed, hPurpose⟩
  rcases consumed_code_origin hRecorded hConsumed with
    ⟨rest, earlier, _, _, _, sessionId, session, _, rfl,
      hEarlier, _, _, hIssued⟩
  have hEntitled := code_entitled hEarlier hIssued
  rcases session_read_origin hEarlier
      (mem_of_past hIssued.verified.reads.read) with
    ⟨minter, query, created, hMinted, hSame⟩
  refine
    ⟨minter, query, sessionId, created, hMinted.append rest,
      ?_⟩
  have hAsked :
      created.purpose = "enterprise_sso_registration" := by
    rw [← hSame.fields.2.2.1, ← hEntitled.purpose, hPurpose]
  rcases hMinted.position with
    ⟨_, _, _, _, _, _, hCreated⟩
  rw [hCreated.purpose, hAsked]

end KisAuth

------------------------------------------------------------
-- Shapes Over Runs
------------------------------------------------------------

namespace KisAuth

open Interaction Store

variable {P : Platform} {cfg : KisAuthConfig}

/-
  Whatever the registry allows, and whatever requests are
  served, a token has the shape of its purpose if and only
  if its code was not relabelled.
-/
theorem claim_shapes (run : Run P cfg) :
    ClaimsShaped P cfg run.history where
  shaped := by
    intro later thread token earlier hSplit
    have hRecorded := run.recorded
    rw [hSplit] at hRecorded
    rcases hRecorded.ended with
      ⟨q, hEarlier, hArrive, _, hAnswered⟩
    rcases hAnswered with
      ⟨post, code, payload, identity, rfl, hRedeemed⟩ |
      ⟨post, code, payload, rfl, hRedeemed⟩
    · rw [code_shape hEarlier hRedeemed,
        relabelled_iff hEarlier hArrive hRedeemed]
    · apply iff_of_true (ticket_shape hEarlier hRedeemed)
      rintro ⟨other, _, _, hOther, _⟩
      have hSame := hEarlier.request_unique hArrive hOther
      simp at hSame
  asked := by
    intro thread hRelabelled
    exact relabelled_asked run.recorded hRelabelled

end KisAuth

------------------------------------------------------------
-- Signed Requests On A Concrete Platform
------------------------------------------------------------

namespace KisAuth

open Interaction

/- A body that is signed, with the texts it is signed as. -/
structure SignedText where
  path : String
  nonce : String
  body : JsValue
  text : String
  digest : String
  mac : String

def signedSecond : String :=
  "1700000000"

/- What the signature is computed over. -/
def SignedText.payload (signed : SignedText) : String :=
  "POST\n" ++ signed.path ++ "\n" ++ signedSecond ++ "\n" ++
    signed.nonce ++ "\n" ++ signed.digest

def SignedText.post
    (signed : SignedText)
    (ip : String) : InternalPost where
  ip := ip
  headers :=
    { timestamp := .one signedSecond
      nonce := .one signed.nonce
      signature := .one signed.mac }
  body := signed.body

def signedUser : String :=
  "0a1b2c3d-0000-4000-8000-000000000001"

def signedRow : String :=
  "0a1b2c3d-0000-4000-8000-00000000000f"

/- The link of a subject of Google to a user. -/
def linkText : SignedText where
  path := "/internal/v1/identity/link"
  nonce := "n1"
  body :=
    .obj
      [("provider", .str "google"),
        ("provider_subject", .str "g1"),
        ("kis_user_id", .str signedUser)]
  text :=
    "\x7b\"kis_user_id\":\"" ++ signedUser ++
      "\",\"provider\":\"google\"," ++
      "\"provider_subject\":\"g1\"\x7d"
  digest :=
    "988e63083dbdfac5715bdedc0744f66b" ++
      "2343bcc78e89cd5bc5ecf5654b353f92"
  mac :=
    "f29446057323ef6b41342eba09f33337" ++
      "c421e2b6a2ac0f263660f95f1ddf219e"

/- The link of a subject of a tenant to a user. -/
def tenantLinkText : SignedText where
  path := "/internal/v1/identity/link"
  nonce := "n4"
  body :=
    .obj
      [("provider", .str "oidc"),
        ("provider_subject", .str "acme:x1"),
        ("kis_user_id", .str signedUser)]
  text :=
    "\x7b\"kis_user_id\":\"" ++ signedUser ++
      "\",\"provider\":\"oidc\"," ++
      "\"provider_subject\":\"acme:x1\"\x7d"
  digest :=
    "f9d05a7d15880fe68e611661b89ffa2c" ++
      "56175b180d80a93f4621778cc2cb1670"
  mac :=
    "d967e79cc7c489a5be53336a79b3f74d" ++
      "ba1220a1af03a35e33f6bc45b6ca2ac1"

/- The redemption of a code or ticket. -/
def redemptionBody (code : String) : JsValue :=
  .obj
    [("code", .str code), ("client_id", .str "kis-web"),
      ("redirect_uri", .str "https://kis.test/cb")]

def redemptionText (code : String) : String :=
  "\x7b\"client_id\":\"kis-web\",\"code\":\"" ++ code ++
    "\",\"redirect_uri\":\"https://kis.test/cb\"\x7d"

def codeText : SignedText where
  path := "/internal/v1/authorization/exchange"
  nonce := "n2"
  body := redemptionBody "k1"
  text := redemptionText "k1"
  digest :=
    "ad825d08bc0ab8bee47ac35dbffaafea" ++
      "519bfc55b833c721a114f6a00156a665"
  mac :=
    "973eb7d5f7430f650c1b0d9aeb929627" ++
      "541c43f8caf9843ce6f443062cfb016b"

def ticketText : SignedText where
  path := "/internal/v1/registration/exchange"
  nonce := "n3"
  body := redemptionBody "t1"
  text := redemptionText "t1"
  digest :=
    "7c2468d59845522beaae6078ee3c9689" ++
      "2bdb3fc276788701fcfd8b42a5b1d9ea"
  mac :=
    "8536dd5a969ceb245bded0fc02be7398" ++
      "60efffe49d487e624533d3f828f1f708"

def signedTexts : List SignedText :=
  [linkText, tenantLinkText, codeText, ticketText]

/- The runtime, with the digests of these texts. -/
def signedPlatform : Platform :=
  { flowPlatform with
    parseUrlAt := fun path base =>
      if base = "http://internal.local" then some path
      else some (base ++ path)
    sha256Hex := fun text =>
      ((signedTexts.find? (fun signed =>
        signed.text == text)).map SignedText.digest).getD ""
    hmacSha256Hex := fun secret payload =>
      if secret = "test-secret" then
        ((signedTexts.find? (fun signed =>
          signed.payload == payload)).map
            SignedText.mac).getD ""
      else
        ""
    number := fun text =>
      if text = signedSecond then some 1700000000 else none }

/- A registry with one client, for one purpose. -/
def purposeClients
    (purpose clientId : String) : Option RegisteredClient :=
  if clientId = "kis-web" then
    some {
      clientId := "kis-web"
      name := "KIS"
      status := .active
      allowedRedirectUris := ["https://kis.test/cb"]
      allowedScopes := []
      allowedPurposes := [purpose] }
  else
    none

/- Django links the subject, at the time of the signature. -/
def linkActions (thread : Nat) : FlowActions :=
  [.env (.tick 1700000000000),
    .arrive (.identityLink (linkText.post "10.0.0.9")),
    .run thread (.elapsed 0), .run thread .none,
    .run thread (.random signedRow), .run thread .none,
    .run thread .none]

/- A session begins for a purpose. -/
def askActions
    (thread : Nat)
    (purpose : String) : FlowActions :=
  [.arrive
      (.authorize
        { clientId := some "kis-web"
          redirectUri := some "https://kis.test/cb"
          purpose := some purpose
          state := some "app"
          linkTicket := none
          partnerSlug := none }
        newBrowser),
    .run thread .none, .run thread .none,
    .run thread (.random "st"), .run thread (.random "no"),
    .run thread (.random "s1"), .run thread .none,
    .run thread .none]

/- Google answers, and the callback issues a code. -/
def returnActions (thread : Nat) : FlowActions :=
  [.run thread
      (.reply
        (some
          { status := 200
            body := some (.obj [("id_token", .str "t")]) })),
    .run thread
      (.payload
        (some
          { iss := .str "https://accounts.google.com"
            aud := .str "test-google-client"
            nonce := .str "no"
            sub := .str "g1"
            email := .undefined
            emailVerified := .undefined })),
    .run thread .none, .run thread .none, .run thread .none,
    .run thread (.random "ch"), .run thread .none,
    .run thread .none, .run thread .none, .run thread .none,
    .run thread .none, .run thread .none,
    .run thread (.random "k1"), .run thread .none,
    .run thread .none]

/- Django redeems the code. -/
def redeemActions (thread : Nat) : FlowActions :=
  [.arrive
      (.authorizationExchange (codeText.post "10.0.0.9")),
    .run thread .none, .run thread .none,
    .run thread (.elapsed 0), .run thread .none,
    .run thread .none, .run thread .none,
    .run thread (.random "j1"), .run thread .none,
    .run thread .none]

def signedRun (purpose : String) (actions : FlowActions) :=
  Interaction.run (worldSemantics signedPlatform testConfig)
    (handler signedPlatform testConfig)
    (.init (World.empty (purposeClients purpose))) actions

end KisAuth

------------------------------------------------------------
-- A Registration With A User
------------------------------------------------------------

namespace KisAuth

open Interaction

def tokenOf : ServiceEntry → Option AuthorizationJwt
| .respond _ (.ok (.token token)) => some token
| _ => none

/- The tokens that were returned, newest first. -/
def tokensOf (history : History) : List AuthorizationJwt :=
  history.filterMap tokenOf

/- Every token has the shape of its purpose. -/
def ShapesNeverMix (history : History) : Prop :=
  ∀ token ∈ tokensOf history, WellShaped token

/-
  A linked user returns to a client that asks for the purpose
  of the tenants' registrations.
-/
def relabelActions : FlowActions :=
  linkActions 0 ++ askActions 1 "enterprise_sso_registration" ++
    readActions 2 ++ startActions 2 "v1" ++
      enterActions 3 "c1" ++ returnActions 3 ++ redeemActions 4

/- The token of the code is a registration with a user. -/
theorem registration_with_user :
    ∃ run : Run signedPlatform testConfig,
      ¬ShapesNeverMix run.history := by
  have hTokens :
      (signedRun "enterprise_sso_registration"
          relabelActions).map
          (fun state =>
            (tokensOf state.history).map
              (fun token => (token.purpose, token.sub))) =
        some
          [("enterprise_sso_registration",
            some signedUser)] := by
    decide +kernel
  rcases Option.map_eq_some_iff.mp hTokens with
    ⟨state, hRun, hTokensOf⟩
  refine ⟨⟨_, state, Reachable.of_run hRun⟩, ?_⟩
  intro hShapes
  rcases List.map_eq_cons_iff.mp hTokensOf with
    ⟨token, rest, hSplit, hToken, _⟩
  rw [Prod.mk.injEq] at hToken
  have hMem : token ∈ tokensOf state.history := by
    rw [hSplit]
    exact List.mem_cons_self
  have hNone :=
    ((hShapes token hMem).user.mp (Or.inr hToken.1)).1
  rw [hToken.2] at hNone
  simp at hNone

end KisAuth
