import KisAuth.Provenance.Sessions
import KisAuth.Text.Tree

/-
  Tenants: where their configuration comes from, and the
  keys their identities are kept under.

  Key definitions include:
    * `ValidTenant`, `identityKey`

  Key theorems include:
    * `config_origin`, `doc_origin`
    * `identityKey_inj`
    * `verified_tenant`
-/

------------------------------------------------------------
-- Configuration
------------------------------------------------------------

namespace KisAuth

open Interaction

variable {P : Platform} {cfg : KisAuthConfig}
variable {history : History}

/- A configuration was fetched from Django by some request. -/
theorem config_origin
    {thread : Nat}
    {partnerSlug : String}
    {config : OidcPartnerConfig}
    (hRecorded : Recorded P cfg history)
    (hResolved :
      ConfigResolved P cfg (answersOf thread history)
        partnerSlug config) :
    ∃ fetcher,
      ConfigFetched P cfg (answersOf fetcher history)
        partnerSlug config := by
  rcases hResolved with ⟨expiresAt, hCached⟩ | hFetched
  · rcases hRecorded.step (mem_of_past hCached) with
      ⟨later, earlier, q, rfl, hStep⟩
    rcases hStep.faithful config expiresAt rfl with
      ⟨fetcher, hSet⟩
    rcases hStep.recorded.step hSet with
      ⟨middle, before, q', rfl, hFetch⟩
    refine ⟨fetcher, hFetch.allowed.extend ?_⟩
    rw [List.append_cons, ← List.append_assoc,
      List.append_cons]
    exact answersOf_subset fetcher _ before
  · exact ⟨thread, hFetched⟩

/- A discovery document was fetched from its address. -/
theorem doc_origin
    {thread : Nat}
    {discoveryUrl : String}
    {doc : OidcDiscoveryDocument}
    (hRecorded : Recorded P cfg history)
    (hResolved :
      DocResolved (answersOf thread history) discoveryUrl
        doc) :
    ∃ fetcher,
      DocFetched (answersOf fetcher history) discoveryUrl
        doc := by
  rcases hResolved with ⟨expiresAt, hCached⟩ | hFetched
  · rcases hRecorded.step (mem_of_past hCached) with
      ⟨later, earlier, q, rfl, hStep⟩
    rcases hStep.faithful doc expiresAt rfl with
      ⟨fetcher, hSet⟩
    rcases hStep.recorded.step hSet with
      ⟨middle, before, q', rfl, hFetch⟩
    refine ⟨fetcher, hFetch.allowed.extend ?_⟩
    rw [List.append_cons, ← List.append_assoc,
      List.append_cons]
    exact answersOf_subset fetcher _ before
  · exact ⟨thread, hFetched⟩

end KisAuth

------------------------------------------------------------
-- Identity Keys
------------------------------------------------------------

namespace KisAuth

/- A tenant /authorize accepts, or no tenant. -/
def ValidTenant (tenant : Option String) : Prop :=
  tenant.all isPartnerSlug = true

/- Provider and subject of the identities of a tenant. -/
def identityKey
    (tenant : Option String)
    (sub : String) : String × String :=
  match tenant with
  | none => ("google", sub)
  | some partnerSlug =>
      (oidcProvider, compositeOidcSubject partnerSlug sub)

theorem Callback.key_eq
    (callback : Callback)
    (sub : String) :
    (callback.provider, callback.subject sub) =
      identityKey callback.tenant sub := by
  unfold Callback.provider Callback.subject identityKey
  cases callback.tenant <;> rfl

/- No colon is in a slug, so the first one ends it. -/
theorem colon_not_mem
    {slug : String}
    (hSlug : isPartnerSlug slug = true) :
    ':' ∉ slug.toList := by
  intro hMem
  unfold isPartnerSlug at hSlug
  rw [Bool.and_eq_true, List.all_eq_true] at hSlug
  have hColon := hSlug.2 ':' hMem
  simp [isSlugChar] at hColon

theorem compositeOidcSubject_inj
    {slug slug' sub sub' : String}
    (hSlug : isPartnerSlug slug = true)
    (hSlug' : isPartnerSlug slug' = true)
    (hEq :
      compositeOidcSubject slug sub =
        compositeOidcSubject slug' sub') :
    slug = slug' ∧ sub = sub' :=
  Text.mark_append_inj (colon_not_mem hSlug)
    (colon_not_mem hSlug') hEq

/- A key tells the tenant and the subject it was made of. -/
theorem identityKey_inj
    {tenant tenant' : Option String}
    {sub sub' : String}
    (hTenant : ValidTenant tenant)
    (hTenant' : ValidTenant tenant')
    (hEq : identityKey tenant sub = identityKey tenant' sub') :
    tenant = tenant' ∧ sub = sub' := by
  have hProvider : "google" ≠ oidcProvider := by decide
  cases tenant with
  | none =>
      cases tenant' with
      | none =>
          simp only [identityKey, Prod.mk.injEq] at hEq
          exact ⟨rfl, hEq.2⟩
      | some slug' =>
          simp only [identityKey, Prod.mk.injEq] at hEq
          exact absurd hEq.1 hProvider
  | some slug =>
      cases tenant' with
      | none =>
          simp only [identityKey, Prod.mk.injEq] at hEq
          exact absurd hEq.1.symm hProvider
      | some slug' =>
          simp only [identityKey, Prod.mk.injEq, true_and]
            at hEq
          rcases compositeOidcSubject_inj hTenant hTenant'
              hEq with ⟨rfl, rfl⟩
          exact ⟨rfl, rfl⟩

end KisAuth

------------------------------------------------------------
-- The Tenant Of A Callback
------------------------------------------------------------

namespace KisAuth

open Interaction

variable {P : Platform} {cfg : KisAuthConfig}
variable {history : History}

/- A created session has a tenant /authorize accepts. -/
theorem Minted.validTenant
    {thread : Nat}
    {query : AuthorizeQuery}
    {sessionId : String}
    {created : OAuthSession}
    (hMinted :
      Minted P cfg history thread query sessionId created) :
    ValidTenant created.partnerSlug := by
  rcases hMinted.position with
    ⟨later, earlier, ttl, req, rfl, _, hCreated⟩
  unfold ValidTenant
  rw [hCreated.partnerSlug]
  have hAllowed := hCreated.slugAllowed
  cases hSlug : truthyText query.partnerSlug with
  | none => rfl
  | some slug =>
      rw [((truthyText_eq_some_iff _ _).mp hSlug).1]
        at hAllowed
      exact hAllowed

/- So does the route a verified callback came in on. -/
theorem verified_tenant
    {thread : Nat}
    {callback : Callback}
    {sessionId : String}
    {session : OAuthSession}
    {token : VerifiedIdToken}
    (hRecorded : Recorded P cfg history)
    (hVerified :
      Verified P cfg callback (answersOf thread history)
        sessionId session token) :
    ValidTenant callback.tenant := by
  rcases session_read_origin hRecorded
      (mem_of_past hVerified.reads.read) with
    ⟨minter, query, created, hMinted, hSame⟩
  cases hTenant : callback.tenant with
  | none => rfl
  | some partnerSlug =>
      have hOwn := hVerified.tenant partnerSlug hTenant
      have hValid := hMinted.validTenant
      have hSlug := hSame.fields.2.2.2.2.2.2
      rw [← hSlug, hOwn] at hValid
      exact hValid

end KisAuth
