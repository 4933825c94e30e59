import KisAuth.OAuth.OidcEnterpriseController

/-
  What asking a provider calls: clocks, random values, the
  network and the caches of the process, but neither store,
  and no event is emitted.

  Key definitions include:
    * `Outbound`, `AsksOnly`

  Key theorems include:
    * `asksOnly_resolve`, `asksOnly_fetchDiscovery`
    * `asksOnly_googleIdentity`
    * `asksOnly_enterpriseIdentity`
-/

------------------------------------------------------------
-- Outbound Calls
------------------------------------------------------------

namespace KisAuth

open Interaction Prog

/- Calls that asking a provider makes. -/
def Outbound : Eff → Prop
| .dateNow => True
| .random => True
| .fetch _ => True
| .jwtVerify _ _ _ _ => True
| .ssoCacheGet _ => True
| .ssoCacheSet _ _ _ => True
| .discoveryCacheGet _ => True
| .discoveryCacheSet _ _ _ => True
| _ => False

/- Code that makes no other calls. -/
abbrev AsksOnly {α : Type} (program : KisM α) : Prop :=
  ∀ past : Past,
    Obeys (fun _ effect => Outbound effect) (fun _ _ => True)
      program past

variable {P : Platform} {cfg : KisAuthConfig}
variable {α β : Type}

theorem asksOnly_call
    {effect : Eff}
    {next : effect.Res → KisM α}
    (hOutbound : Outbound effect)
    (hNext : ∀ value, AsksOnly (next value)) :
    AsksOnly (call effect >>= next) :=
  fun _ => ⟨hOutbound, fun value => hNext value _⟩

theorem asksOnly_andThen
    {program : KisM α}
    {next : α → KisM β}
    (hFirst : AsksOnly program)
    (hNext : ∀ value, AsksOnly (next value)) :
    AsksOnly (program >>= next) := by
  intro past
  apply Obeys.andThen
  apply (hFirst past).mono (fun _ _ hGuard => hGuard)
  intro later outcome _
  cases outcome with
  | ok value => exact hNext value later
  | error error => trivial

theorem asksOnly_orCrash (value : Option α) :
    AsksOnly (orCrash value) := by
  intro past
  cases value with
  | none => trivial
  | some value => trivial

end KisAuth

------------------------------------------------------------
-- Asking A Provider
------------------------------------------------------------

namespace KisAuth

open Interaction Prog

variable {P : Platform} {cfg : KisAuthConfig}

theorem asksOnly_resolveReply (reply : Option FetchReply) :
    AsksOnly (resolveReply reply) := by
  intro past
  unfold resolveReply
  split
  · trivial
  · split
    · trivial
    · split
      · trivial
      · trivial
      · split
        · trivial
        · trivial

theorem asksOnly_requestPartnerConfig (partnerSlug : String) :
    AsksOnly (requestPartnerConfig P cfg partnerSlug) := by
  unfold requestPartnerConfig
  apply asksOnly_andThen (asksOnly_orCrash _)
  intro base
  refine asksOnly_call (by trivial) (fun now => ?_)
  refine asksOnly_call (by trivial) (fun nonce => ?_)
  apply asksOnly_andThen (asksOnly_orCrash _)
  intro headers
  exact asksOnly_call (by trivial) asksOnly_resolveReply

theorem asksOnly_resolve (partnerSlug : String) :
    AsksOnly
      (OidcProviderResolverService.resolve P cfg
        partnerSlug) := by
  unfold OidcProviderResolverService.resolve
  refine asksOnly_call (by trivial) (fun cached => ?_)
  refine asksOnly_call (by trivial) (fun readAt => ?_)
  split
  · exact fun _ => trivial
  · split
    · exact fun _ => trivial
    · apply asksOnly_andThen
        (asksOnly_requestPartnerConfig partnerSlug)
      intro resolved
      cases resolved with
      | error failure => exact fun _ => trivial
      | ok config =>
          refine asksOnly_call (by trivial) (fun now => ?_)
          exact asksOnly_call (by trivial) (fun _ _ => trivial)

theorem asksOnly_fetchDiscovery (discoveryUrl : String) :
    AsksOnly
      (OidcDiscoveryService.fetchDiscovery discoveryUrl) := by
  unfold OidcDiscoveryService.fetchDiscovery
  refine asksOnly_call (by trivial) (fun cached => ?_)
  refine asksOnly_call (by trivial) (fun readAt => ?_)
  split
  · exact fun _ => trivial
  · refine asksOnly_call (by trivial) (fun reply => ?_)
    split
    · exact fun _ => trivial
    · refine asksOnly_call (by trivial) (fun now => ?_)
      exact asksOnly_call (by trivial) (fun _ _ => trivial)

theorem asksOnly_verifyOidcIdToken
    (idToken : JsValue)
    (expected : IdTokenExpectation) :
    AsksOnly (verifyOidcIdToken idToken expected) := by
  unfold verifyOidcIdToken
  split
  · refine asksOnly_call (by trivial) (fun payload => ?_)
    split
    · exact fun _ => trivial
    · exact fun _ => trivial
  · exact fun _ => trivial

/- A code is exchanged before its token is verified. -/
theorem asksOnly_exchange
    {request : FetchRequest}
    {verify :
      JsValue →
        KisM (Except ProviderFailure VerifiedIdToken)}
    (hVerify : ∀ idToken, AsksOnly (verify idToken)) :
    AsksOnly (do
      let exchanged ← (do
        let reply ← doFetch request
        return idTokenOf reply)
      match exchanged with
      | .error failure => return .error failure
      | .ok idToken => verify idToken) := by
  apply asksOnly_andThen
  · exact asksOnly_call (by trivial) (fun _ _ => trivial)
  · intro exchanged
    cases exchanged with
    | error failure => exact fun _ => trivial
    | ok idToken => exact hVerify idToken

theorem asksOnly_googleIdentity
    (code codeVerifier nonce : String) :
    AsksOnly
      (OAuthController.verifiedIdentity cfg code codeVerifier
        nonce) :=
  asksOnly_exchange (fun _ => asksOnly_verifyOidcIdToken _ _)

theorem asksOnly_enterpriseIdentity
    (partnerSlug code codeVerifier nonce : String)
    (config : OidcPartnerConfig)
    (doc : OidcDiscoveryDocument) :
    AsksOnly
      (OidcEnterpriseController.verifiedIdentity P cfg
        partnerSlug code codeVerifier nonce config doc) := by
  unfold OidcEnterpriseController.verifiedIdentity
  split
  · exact fun _ => trivial
  · apply asksOnly_exchange
    intro idToken
    unfold OidcIdTokenService.verify
    split
    · exact fun _ => trivial
    · exact asksOnly_verifyOidcIdToken _ _

end KisAuth
