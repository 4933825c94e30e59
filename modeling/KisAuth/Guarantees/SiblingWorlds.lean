import KisAuth.Interaction.Lockstep
import KisAuth.OAuth.OidcEnterpriseController
import KisAuth.Runtime.World
import KisAuth.Security.RateLimit

/-
  What the Google callback finds and does, renamed to what
  the callback of one tenant finds and does.

  The provider is renamed, the subject is put after the
  tenant's slug, a registration ticket gets the tenant's
  purpose and slug, and a session the tenant's slug.

  Key definitions include:
    * `RenamedKey`, `RenamedRow`, `RenamedValue`
    * `SiblingWorlds`
    * `RenamedCall`, `RenamedAnswer`, `ChosenAlike`

  Key theorems include:
    * `siblingWorlds_correspond`
-/

------------------------------------------------------------
-- The Renaming
------------------------------------------------------------

namespace KisAuth

open Interaction Store

/-
  The provider and subject of a row, and of the row it is
  renamed to. Rows of the tenant are renamed back, and all
  other rows keep theirs.
-/
inductive RenamedKey (slug : String) :
    String → String → String → String → Prop where
  | renamed (subject : String) :
      RenamedKey slug "google" subject oidcProvider
        (compositeOidcSubject slug subject)
  | back (subject : String) :
      RenamedKey slug oidcProvider
        (compositeOidcSubject slug subject) "google" subject
  | other
      (provider subject : String)
      (hGoogle : provider ≠ "google")
      (hTenant :
        ∀ renamed,
          provider = oidcProvider →
            subject ≠ compositeOidcSubject slug renamed) :
      RenamedKey slug provider subject provider subject

/- Identities that differ in their keys only. -/
structure RenamedIdentity
    (slug : String)
    (google tenant : AuthIdentity) : Prop where
  key :
    RenamedKey slug google.provider google.providerSubject
      tenant.provider tenant.providerSubject
  rest :
    tenant =
      { google with
        provider := tenant.provider
        providerSubject := tenant.providerSubject }

structure RenamedRow
    (slug : String)
    (google tenant : AuthIdentityRow) : Prop where
  identity :
    RenamedIdentity slug google.toAuthIdentity
      tenant.toAuthIdentity
  seen :
    tenant.lastAuthenticatedAt = google.lastAuthenticatedAt

/- The parameters of an INSERT by the Google callback. -/
def googleIdentity (row : NewIdentity) : NewIdentity :=
  { row with provider := "google" }

/- The same of the tenant's. -/
def tenantIdentity
    (slug : String)
    (row : NewIdentity) : NewIdentity :=
  { row with
    provider := oidcProvider
    providerSubject :=
      compositeOidcSubject slug row.providerSubject }

/- A ticket of the Google callback. -/
def googleTicket
    (ticket : RegistrationTicketPayload) :
    RegistrationTicketPayload :=
  { ticket with
    purpose := "registration"
    provider := "google"
    partnerSlug := none }

/- The same of the tenant's. -/
def tenantTicket
    (slug : String)
    (ticket : RegistrationTicketPayload) :
    RegistrationTicketPayload :=
  { ticket with
    purpose := "enterprise_sso_registration"
    provider := oidcProvider
    providerSubject :=
      compositeOidcSubject slug ticket.providerSubject
    partnerSlug := some slug }

/- Stored values, and what they are renamed to. -/
inductive RenamedValue (slug : String) :
    RedisValue → RedisValue → Prop where
  | same (value : RedisValue) : RenamedValue slug value value
  | session (session : OAuthSession) :
      RenamedValue slug
        (.session { session with partnerSlug := none })
        (.session { session with partnerSlug := some slug })
  | ticket (ticket : RegistrationTicketPayload) :
      RenamedValue slug (.ticket (googleTicket ticket))
        (.ticket (tenantTicket slug ticket))

/- Items with the same deadline. -/
def RenamedItem
    (slug : String)
    (google tenant : Item RedisValue) : Prop :=
  google.deadline = tenant.deadline ∧
    RenamedValue slug google.value tenant.value

/- The session of the request's cookie is the tenant's. -/
def MintedFor
    (slug : String)
    (req : BrowserRequest)
    (key : String)
    (value : Option RedisValue) : Prop :=
  ∀ sessionId session,
    sessionCookie req = some (some sessionId) →
      key = sessionKey sessionId →
        value = some (.session session) →
          session.partnerSlug = some slug

/-
  A world for the Google callback, and the renamed one for
  the tenant's.
-/
structure SiblingWorlds
    (slug : String)
    (req : BrowserRequest)
    (google tenant : World) : Prop where
  stored :
    ∀ family id,
      family ≠ .rateLimit →
        Option.Rel (RenamedItem slug)
          (google.redis (storeKey family id))
          (tenant.redis (storeKey family id))
  minted :
    ∀ key,
      MintedFor slug req key
        ((tenant.redis key).map Item.value)
  rows :
    List.Forall₂ (RenamedRow slug) google.tables.identities
      tenant.tables.identities

end KisAuth

------------------------------------------------------------
-- Renamed Calls
------------------------------------------------------------

namespace KisAuth

open Interaction

/-
  A call of the Google callback, and of the tenant's. Events
  may carry other metadata.
-/
inductive RenamedCall
    (slug : String)
    (req : BrowserRequest) : Eff → Eff → Prop where
  | hit (windowSeconds : Nat) :
      RenamedCall slug req
        (.redisIncr
          (rateLimitKey RateLimits.oauthGoogleCallback.scope
            req.ip) windowSeconds)
        (.redisIncr
          (rateLimitKey
            RateLimits.oauthEnterpriseCallback.scope req.ip)
          windowSeconds)
  | get
      (family : KeyFamily)
      (id : String)
      (hFamily : family ≠ .rateLimit) :
      RenamedCall slug req (.redisGet (storeKey family id))
        (.redisGet (storeKey family id))
  | ttl
      (family : KeyFamily)
      (id : String)
      (hFamily : family ≠ .rateLimit) :
      RenamedCall slug req (.redisTtl (storeKey family id))
        (.redisTtl (storeKey family id))
  | set
      (family : KeyFamily)
      (id : String)
      (value value' : RedisValue)
      (ttlSeconds : ℚ)
      (hSession : family ≠ .session)
      (hValue : RenamedValue slug value value') :
      RenamedCall slug req
        (.redisSet (storeKey family id) value ttlSeconds)
        (.redisSet (storeKey family id) value' ttlSeconds)
  | del (family : KeyFamily) (id : String) :
      RenamedCall slug req (.redisDel (storeKey family id))
        (.redisDel (storeKey family id))
  | find (subject : String) :
      RenamedCall slug req (.selectIdentity "google" subject)
        (.selectIdentity oidcProvider
          (compositeOidcSubject slug subject))
  | insert (row : NewIdentity) :
      RenamedCall slug req
        (.insertIdentity (googleIdentity row))
        (.insertIdentity (tenantIdentity slug row))
  | update
      (providerEmail : Option String)
      (providerEmailVerified : Option Bool)
      (id : String) :
      RenamedCall slug req
        (.updateIdentity providerEmail providerEmailVerified
          id)
        (.updateIdentity providerEmail providerEmailVerified
          id)
  | touch (id : String) :
      RenamedCall slug req (.touchIdentity id)
        (.touchIdentity id)
  | random : RenamedCall slug req .random .random
  | emit
      (event : SecurityEvent)
      (metadata : List (String × JsValue)) :
      RenamedCall slug req (.emit event)
        (.emit { event with metadata := metadata })

/- Results that fail alike or are related. -/
inductive SameResult
    {ε α β : Type}
    (same : α → β → Prop) :
    Except ε α → Except ε β → Prop where
  | ok {left : α} {right : β} (hSame : same left right) :
      SameResult same (.ok left) (.ok right)
  | error (error : ε) :
      SameResult same (.error error) (.error error)

/- Both routes let the client through, or neither does. -/
def AdmittedAlike (hits hits' : Nat) : Prop :=
  hits ≤ RateLimits.oauthGoogleCallback.limit ↔
    hits' ≤ RateLimits.oauthEnterpriseCallback.limit

/- Their answers. -/
def RenamedAnswer
    (slug : String)
    (req : BrowserRequest) :
    Answer Eff Eff.Res → Answer Eff Eff.Res → Prop
| ⟨.redisIncr _ _, hits⟩, ⟨.redisIncr _ _, hits'⟩ =>
    AdmittedAlike hits hits'
| ⟨.redisGet _, found⟩, ⟨.redisGet key, found'⟩ =>
    Option.Rel (RenamedValue slug) found found' ∧
      MintedFor slug req key found'
| ⟨.redisTtl _, ttl⟩, ⟨.redisTtl _, ttl'⟩ => ttl = ttl'
| ⟨.redisSet _ _ _, result⟩, ⟨.redisSet _ _ _, result'⟩ =>
    result = result'
| ⟨.redisDel _, _⟩, ⟨.redisDel _, _⟩ => True
| ⟨.selectIdentity _ _, result⟩,
    ⟨.selectIdentity _ _, result'⟩ =>
    SameResult (Option.Rel (RenamedIdentity slug)) result
      result'
| ⟨.insertIdentity _, result⟩,
    ⟨.insertIdentity _, result'⟩ =>
    SameResult (RenamedIdentity slug) result result'
| ⟨.updateIdentity _ _ _, result⟩,
    ⟨.updateIdentity _ _ _, result'⟩ =>
    SameResult (Option.Rel (RenamedIdentity slug)) result
      result'
| ⟨.touchIdentity _, result⟩, ⟨.touchIdentity _, result'⟩ =>
    result = result'
| ⟨.random, value⟩, ⟨.random, value'⟩ => value = value'
| ⟨.emit _, _⟩, ⟨.emit _, _⟩ => True
| _, _ => False

/- The random text an answer is made of. -/
def randomText : Answer Eff Eff.Res → Option String
| ⟨.random, value⟩ => some value
| ⟨.insertIdentity _, .ok row⟩ => some row.id
| _ => none

/- The hits an answer counts. -/
def hitsCounted : Answer Eff Eff.Res → Option Nat
| ⟨.redisIncr _ _, hits⟩ => some hits
| _ => none

/-
  What neither callback decides: random texts are the same,
  and the limit is used up for both or for neither.
-/
structure ChosenAlike
    (left right : Answer Eff Eff.Res) : Prop where
  texts :
    ∀ text ∈ randomText left,
      ∀ text' ∈ randomText right, text = text'
  admitted :
    ∀ hits ∈ hitsCounted left,
      ∀ hits' ∈ hitsCounted right, AdmittedAlike hits hits'

instance : DecidableRel ChosenAlike := fun left right =>
  decidable_of_iff
    ((∀ text ∈ randomText left,
        ∀ text' ∈ randomText right, text = text') ∧
      ∀ hits ∈ hitsCounted left,
        ∀ hits' ∈ hitsCounted right,
          hits ≤ RateLimits.oauthGoogleCallback.limit ↔
            hits' ≤ RateLimits.oauthEnterpriseCallback.limit)
    ⟨fun hBoth => ⟨hBoth.1, hBoth.2⟩,
      fun hAlike => ⟨hAlike.texts, hAlike.admitted⟩⟩

/- Time passes. -/
def passes (world later : World) : Prop :=
  ∃ milliseconds,
    world.env (.tick milliseconds) = some later

/- Calls that reach neither store. -/
def reachesNoStore (effect : Eff) : Prop :=
  World.backend effect = .other

end KisAuth

------------------------------------------------------------
-- Renamed Texts
------------------------------------------------------------

namespace KisAuth

variable {slug : String}

theorem compositeOidcSubject_right_inj
    (sub sub' : String) :
    compositeOidcSubject slug sub =
        compositeOidcSubject slug sub' ↔
      sub = sub' :=
  String.append_right_inj (slug ++ ":")

/- The characters of a slug are no NUL. -/
theorem validText_of_isPartnerSlug
    (hSlug : isPartnerSlug slug = true) :
    validText slug = true := by
  unfold isPartnerSlug at hSlug
  rw [Bool.and_eq_true, List.all_eq_true] at hSlug
  unfold validText
  rw [List.all_eq_true]
  intro c hMem
  have hChar := hSlug.2 c hMem
  by_cases hNul : c.toNat = 0
  · have hEq : c = Char.ofNat 0 := by
      rw [← hNul, Char.ofNat_toNat]
    rw [hEq] at hChar
    exact absurd hChar (by decide)
  · simpa using hNul

/- A renamed subject is stored where the subject is. -/
theorem validText_composite
    (hSlug : isPartnerSlug slug = true)
    (sub : String) :
    validText (compositeOidcSubject slug sub) =
      validText sub := by
  have hValid := validText_of_isPartnerSlug hSlug
  unfold validText at hValid ⊢
  unfold compositeOidcSubject
  rw [String.toList_append, String.toList_append,
    List.all_append, List.all_append, hValid]
  rfl

/- A row is found under the renamed key. -/
theorem RenamedKey.matches
    {provider subject provider' subject' : String}
    (hKey :
      RenamedKey slug provider subject provider' subject')
    (sought : String) :
    (provider == "google" && subject == sought) =
      (provider' == oidcProvider &&
        subject' == compositeOidcSubject slug sought) := by
  have hNe : "google" ≠ oidcProvider := by decide
  rw [Bool.eq_iff_iff]
  simp only [Bool.and_eq_true, beq_iff_eq]
  cases hKey with
  | renamed subject =>
      rw [compositeOidcSubject_right_inj]
      exact and_congr_left' (by simp)
  | back subject =>
      constructor
      · exact fun hBoth => absurd hBoth.1.symm hNe
      · exact fun hBoth => absurd hBoth.1 hNe
  | other provider subject hGoogle hTenant =>
      constructor
      · exact fun hBoth => absurd hBoth.1 hGoogle
      · exact fun hBoth =>
          absurd hBoth.2 (hTenant sought hBoth.1)

end KisAuth

------------------------------------------------------------
-- Renamed Rows
------------------------------------------------------------

/- Related values, read from related values. -/
theorem Option.Rel.mapBoth
    {α α' β β' : Type}
    {related : α → α' → Prop}
    {related' : β → β' → Prop}
    {f : α → β}
    {f' : α' → β'}
    {left : Option α}
    {right : Option α'}
    (hRel : Option.Rel related left right)
    (hRead :
      ∀ value value',
        related value value' →
          related' (f value) (f' value')) :
    Option.Rel related' (left.map f) (right.map f') := by
  cases hRel with
  | some hRelated => exact .some (hRead _ _ hRelated)
  | none => exact .none

namespace KisAuth

variable {slug : String}
variable {identity identity' : AuthIdentity}
variable {row row' : AuthIdentityRow}

theorem RenamedIdentity.id_eq
    (hSame : RenamedIdentity slug identity identity') :
    identity'.id = identity.id := by
  rw [hSame.rest]

theorem RenamedIdentity.kisUserId_eq
    (hSame : RenamedIdentity slug identity identity') :
    identity'.kisUserId = identity.kisUserId := by
  rw [hSame.rest]

/- New e-mail fields in both. -/
theorem RenamedRow.withEmail
    (hRow : RenamedRow slug row row')
    (email : Option String)
    (verified : Bool)
    (now : Nat) :
    RenamedRow slug (Tables.withEmail email verified now row)
      (Tables.withEmail email verified now row') where
  identity := by
    refine ⟨hRow.identity.key, ?_⟩
    have hRest := hRow.identity.rest
    unfold Tables.withEmail
    simp only
    rw [hRest]
  seen := rfl

/- A new time of authentication in both. -/
theorem RenamedRow.touched
    (hRow : RenamedRow slug row row')
    (now : Nat) :
    RenamedRow slug (Tables.touched now row)
      (Tables.touched now row') where
  identity := hRow.identity
  seen := rfl

/- New rows with the same id at the same time. -/
theorem renamedRow_newRow
    (args : NewIdentity)
    (id : String)
    (now : Nat) :
    RenamedRow slug
      (Tables.newRow (googleIdentity args) id now)
      (Tables.newRow (tenantIdentity slug args) id now) where
  identity := ⟨.renamed args.providerSubject, rfl⟩
  seen := rfl

/- The first row both predicates find. -/
theorem find?_renamed
    {rows rows' : List AuthIdentityRow}
    {sought sought' : AuthIdentityRow → Bool}
    (hRows : List.Forall₂ (RenamedRow slug) rows rows')
    (hSought :
      ∀ row row',
        RenamedRow slug row row' → sought row = sought' row') :
    Option.Rel (RenamedRow slug) (rows.find? sought)
      (rows'.find? sought') := by
  induction hRows with
  | nil => exact .none
  | @cons row row' rest rest' hRow _ ih =>
      rw [List.find?_cons, List.find?_cons,
        hSought row row' hRow]
      cases sought' row' with
      | true => exact .some hRow
      | false => exact ih

theorem any_renamed
    {rows rows' : List AuthIdentityRow}
    {sought sought' : AuthIdentityRow → Bool}
    (hRows : List.Forall₂ (RenamedRow slug) rows rows')
    (hSought :
      ∀ row row',
        RenamedRow slug row row' → sought row = sought' row') :
    rows.any sought = rows'.any sought' := by
  induction hRows with
  | nil => rfl
  | cons hRow _ ih =>
      rw [List.any_cons, List.any_cons, hSought _ _ hRow, ih]

end KisAuth

------------------------------------------------------------
-- Renamed Tables
------------------------------------------------------------

namespace KisAuth

variable {slug : String}
variable {google tenant : Tables}

/- The google rows, and what they are renamed to. -/
abbrev RenamedTables
    (slug : String)
    (google tenant : Tables) : Prop :=
  List.Forall₂ (RenamedRow slug) google.identities
    tenant.identities

theorem RenamedTables.selectIdentity
    (hSlug : isPartnerSlug slug = true)
    (hTables : RenamedTables slug google tenant)
    (subject : String) :
    SameResult (Option.Rel (RenamedIdentity slug))
      (google.selectIdentity "google" subject)
      (tenant.selectIdentity oidcProvider
        (compositeOidcSubject slug subject)) := by
  have hGoogle : validText "google" = true := by decide
  have hOidc : validText oidcProvider = true := by decide
  have hFind :=
    find?_renamed hTables
      (fun row row' hRow =>
        hRow.identity.key.matches subject)
  unfold Tables.selectIdentity
  rw [validText_composite hSlug, hGoogle, hOidc]
  by_cases hValid : (true && validText subject) = true
  · rw [if_pos hValid, if_pos hValid]
    exact .ok (hFind.mapBoth (fun _ _ hRow => hRow.identity))
  · rw [if_neg hValid, if_neg hValid]
    exact .error _

theorem RenamedTables.findRow
    (hTables : RenamedTables slug google tenant)
    (id : String) :
    Option.Rel (RenamedIdentity slug)
      ((google.findRow id).map
        AuthIdentityRow.toAuthIdentity)
      ((tenant.findRow id).map
        AuthIdentityRow.toAuthIdentity) := by
  have hFind :
      Option.Rel (RenamedRow slug) (google.findRow id)
        (tenant.findRow id) := by
    apply find?_renamed hTables
    intro row row' hRow
    rw [hRow.identity.id_eq]
  exact hFind.mapBoth (fun _ _ hRow => hRow.identity)

/- The unique constraints refuse the same rows. -/
theorem RenamedTables.conflicts
    (hTables : RenamedTables slug google tenant)
    (args : NewIdentity) :
    google.conflicts (googleIdentity args) =
      tenant.conflicts (tenantIdentity slug args) := by
  apply any_renamed hTables
  intro row row' hRow
  have hKey :=
    hRow.identity.key.matches args.providerSubject
  rw [hRow.identity.kisUserId_eq]
  exact congrArg (· || row.kisUserId == args.kisUserId) hKey

theorem RenamedTables.checkInsert
    (hSlug : isPartnerSlug slug = true)
    (hTables : RenamedTables slug google tenant)
    (args : NewIdentity) :
    (∃ error,
        google.checkInsert (googleIdentity args) =
            .error error ∧
          tenant.checkInsert (tenantIdentity slug args) =
            .error error) ∨
      ∃ accepted,
        google.checkInsert (googleIdentity args) =
            .ok (googleIdentity accepted) ∧
          tenant.checkInsert (tenantIdentity slug args) =
            .ok (tenantIdentity slug accepted) := by
  have hGoogle : validText "google" = true := by decide
  have hOidc : validText oidcProvider = true := by decide
  unfold Tables.checkInsert
  simp only [googleIdentity, tenantIdentity, hGoogle, hOidc,
    validText_composite hSlug]
  by_cases hValid :
      (true && validText args.providerSubject &&
          args.providerEmail.all validText &&
        args.providerEmailVerified.isSome) = true
  · rw [if_pos hValid, if_pos hValid]
    cases hUser : uuidIn args.kisUserId with
    | none => exact Or.inl ⟨.invalidText, rfl, rfl⟩
    | some kisUserId =>
        have hConflicts :=
          hTables.conflicts { args with kisUserId }
        simp only [googleIdentity, tenantIdentity]
          at hConflicts
        simp only [hConflicts]
        by_cases hConflict :
            tenant.conflicts
                (tenantIdentity slug
                  { args with kisUserId }) = true
        · simp only [tenantIdentity] at hConflict
          simp only [hConflict, if_true]
          exact Or.inl ⟨.uniqueViolation, rfl, rfl⟩
        · simp only [tenantIdentity] at hConflict
          simp only [hConflict]
          exact
            Or.inr ⟨{ args with kisUserId }, rfl, rfl⟩
  · rw [if_neg hValid, if_neg hValid]
    exact Or.inl ⟨.invalidText, rfl, rfl⟩

/- A change of the rows with one id. -/
theorem RenamedTables.modifyRow
    {change : AuthIdentityRow → AuthIdentityRow}
    (hTables : RenamedTables slug google tenant)
    (hChange :
      ∀ row row',
        RenamedRow slug row row' →
          RenamedRow slug (change row) (change row'))
    (id : String) :
    RenamedTables slug (google.modifyRow id change)
      (tenant.modifyRow id change) := by
  unfold RenamedTables Tables.modifyRow
  rw [List.forall₂_map_left_iff, List.forall₂_map_right_iff]
  apply hTables.imp
  intro row row' hRow
  rw [hRow.identity.id_eq]
  by_cases hId : row.id = id
  · rw [if_pos hId, if_pos hId]
    exact hChange row row' hRow
  · rw [if_neg hId, if_neg hId]
    exact hRow

theorem RenamedTables.addRow
    {row row' : AuthIdentityRow}
    (hTables : RenamedTables slug google tenant)
    (hRow : RenamedRow slug row row') :
    RenamedTables slug (google.addRow row)
      (tenant.addRow row') :=
  List.rel_append hTables (.cons hRow .nil)

end KisAuth

------------------------------------------------------------
-- Sibling Worlds
------------------------------------------------------------

namespace KisAuth

open Interaction Store

variable {slug : String}
variable {req : BrowserRequest}
variable {google google' tenant tenant' : World}

/- Both stores of both worlds are all that counts. -/
theorem SiblingWorlds.of_stores
    (hWorlds : SiblingWorlds slug req google tenant)
    (hRedis : google'.redis = google.redis)
    (hTables : google'.tables = google.tables)
    (hRedis' : tenant'.redis = tenant.redis)
    (hTables' : tenant'.tables = tenant.tables) :
    SiblingWorlds slug req google' tenant' where
  stored := by
    rw [hRedis, hRedis']
    exact hWorlds.stored
  minted := by
    rw [hRedis']
    exact hWorlds.minted
  rows := by
    rw [hTables, hTables']
    exact hWorlds.rows

theorem SiblingWorlds.with_tables
    {rows rows' : Tables}
    (hWorlds : SiblingWorlds slug req google tenant)
    (hRows : RenamedTables slug rows rows') :
    SiblingWorlds slug req (google.withTables rows)
      (tenant.withTables rows') where
  stored := hWorlds.stored
  minted := hWorlds.minted
  rows := hRows

/- A live item in one is one in the other. -/
theorem SiblingWorlds.find
    {family : KeyFamily}
    (hWorlds : SiblingWorlds slug req google tenant)
    (hFamily : family ≠ .rateLimit)
    (now : Nat)
    (id : String) :
    Option.Rel (RenamedItem slug)
      (google.redis.find now (storeKey family id))
      (tenant.redis.find now (storeKey family id)) := by
  have hStored := hWorlds.stored family id hFamily
  unfold Expiring.find
  cases hItem : google.redis (storeKey family id) with
  | none =>
      cases hItem' : tenant.redis (storeKey family id) with
      | none => exact .none
      | some item' =>
          rw [hItem, hItem'] at hStored
          cases hStored
  | some item =>
      cases hItem' : tenant.redis (storeKey family id) with
      | none =>
          rw [hItem, hItem'] at hStored
          cases hStored
      | some item' =>
          rw [hItem, hItem'] at hStored
          cases hStored with
          | some hSame =>
              have hLive : item.live now = item'.live now := by
                unfold Item.live
                rw [hSame.1]
              simp only [hLive]
              by_cases hNow : item'.live now = true
              · rw [if_pos hNow, if_pos hNow]
                exact .some hSame
              · rw [if_neg hNow, if_neg hNow]
                exact .none

theorem SiblingWorlds.read
    {family : KeyFamily}
    (hWorlds : SiblingWorlds slug req google tenant)
    (hFamily : family ≠ .rateLimit)
    (now : Nat)
    (id : String) :
    Option.Rel (RenamedValue slug)
      (google.redis.read now (storeKey family id))
      (tenant.redis.read now (storeKey family id)) :=
  (hWorlds.find hFamily now id).mapBoth
    (fun _ _ hItem => hItem.2)

/- What is read under a key is what it holds. -/
theorem SiblingWorlds.minted_read
    (hWorlds : SiblingWorlds slug req google tenant)
    (now : Nat)
    (key : String) :
    MintedFor slug req key (tenant.redis.read now key) := by
  intro sessionId session hCookie hKey hRead
  rcases Expiring.exists_item_of_read hRead with
    ⟨item, hItem, _, hValue⟩
  apply hWorlds.minted key sessionId session hCookie hKey
  rw [hItem, ← hValue]
  rfl

/- The keys of the limiter are no others. -/
theorem rateLimitKey_ne
    {family : KeyFamily}
    {scope identifier id : String}
    (hFamily : family ≠ .rateLimit) :
    storeKey family id ≠ rateLimitKey scope identifier :=
  fun hEq => hFamily ((storeKey_inj _ _ _ _).mp hEq).1

/- Related items under a key, none that is a session. -/
theorem SiblingWorlds.write
    {family : KeyFamily}
    {id : String}
    {item item' : Option (Item RedisValue)}
    (hWorlds : SiblingWorlds slug req google tenant)
    (hItem : Option.Rel (RenamedItem slug) item item')
    (hSession : family = .session → item' = none) :
    SiblingWorlds slug req
      (google.withRedis
        (google.redis.write (storeKey family id) item))
      (tenant.withRedis
        (tenant.redis.write (storeKey family id) item')) where
  stored := by
    intro other otherId hOther
    show
      Option.Rel _ (google.redis.write _ _ _)
        (tenant.redis.write _ _ _)
    by_cases hKey :
        storeKey other otherId = storeKey family id
    · rw [hKey, Expiring.write_self, Expiring.write_self]
      exact hItem
    · rw [Expiring.write_of_ne hKey,
        Expiring.write_of_ne hKey]
      exact hWorlds.stored other otherId hOther
  minted := by
    intro key sessionId session hCookie hKey hValue
    change (tenant.redis.write _ _ key).map _ = _ at hValue
    by_cases hWritten : key = storeKey family id
    · rw [hWritten, Expiring.write_self] at hValue
      have hIsSession : family = .session := by
        rw [hWritten] at hKey
        exact ((storeKey_inj _ _ _ _).mp hKey).1
      rw [hSession hIsSession] at hValue
      exact absurd hValue (by simp)
    · rw [Expiring.write_of_ne hWritten] at hValue
      exact
        hWorlds.minted key sessionId session hCookie hKey
          hValue
  rows := hWorlds.rows

/- One more hit of the client in both. -/
theorem SiblingWorlds.count
    (hWorlds : SiblingWorlds slug req google tenant)
    (scope scope' identifier identifier' : String)
    (item item' : Item RedisValue) :
    SiblingWorlds slug req
      (google.withRedis
        (google.redis.put (rateLimitKey scope identifier)
          item))
      (tenant.withRedis
        (tenant.redis.put (rateLimitKey scope' identifier')
          item')) where
  stored := by
    intro family id hFamily
    show
      Option.Rel _ (google.redis.put _ _ _)
        (tenant.redis.put _ _ _)
    rw [Expiring.put_eq_write, Expiring.put_eq_write,
      Expiring.write_of_ne (rateLimitKey_ne hFamily),
      Expiring.write_of_ne (rateLimitKey_ne hFamily)]
    exact hWorlds.stored family id hFamily
  minted := by
    intro key sessionId session hCookie hKey hValue
    change (tenant.redis.put _ _ key).map _ = _ at hValue
    have hNe :
        sessionKey sessionId ≠
          rateLimitKey scope' identifier' :=
      rateLimitKey_ne (by decide)
    subst hKey
    rw [Expiring.put_eq_write, Expiring.write_of_ne hNe]
      at hValue
    exact
      hWorlds.minted _ sessionId session hCookie rfl hValue
  rows := hWorlds.rows

end KisAuth

------------------------------------------------------------
-- Renamed Redis Calls
------------------------------------------------------------

namespace KisAuth

open Interaction Store

/-
  At the same time, with the same choices, the two calls are
  answered alike and leave sibling worlds.
-/
def AnsweredAlike
    (P : Platform)
    (cfg : KisAuthConfig)
    (slug : String)
    (req : BrowserRequest)
    (effect effect' : Eff) : Prop :=
  ∀ google google' tenant tenant' ext ext' value value',
    SiblingWorlds slug req google tenant →
      google.clock = tenant.clock →
        World.exec P cfg google effect ext =
            some (value, google') →
          World.exec P cfg tenant effect' ext' =
              some (value', tenant') →
            ChosenAlike ⟨effect, value⟩ ⟨effect', value'⟩ →
              RenamedAnswer slug req ⟨effect, value⟩
                  ⟨effect', value'⟩ ∧
                SiblingWorlds slug req google' tenant'

variable {P : Platform} {cfg : KisAuthConfig}
variable {slug : String}
variable {req : BrowserRequest}
variable {family : KeyFamily}

theorem answeredAlike_hit
    (windowSeconds : Nat) :
    AnsweredAlike P cfg slug req
      (.redisIncr
        (rateLimitKey RateLimits.oauthGoogleCallback.scope
          req.ip) windowSeconds)
      (.redisIncr
        (rateLimitKey
          RateLimits.oauthEnterpriseCallback.scope req.ip)
        windowSeconds) := by
  intro google google' tenant tenant' ext ext' value value'
    hWorlds _ hExec hExec' hChosen
  simp only [World.exec, World.backend, World.execRedis,
    Option.some.injEq, Prod.mk.injEq] at hExec hExec'
  rcases hExec with ⟨rfl, rfl⟩
  rcases hExec' with ⟨rfl, rfl⟩
  exact
    ⟨hChosen.admitted _ rfl _ rfl,
      hWorlds.count _ _ _ _ _ _⟩

theorem answeredAlike_get
    (hFamily : family ≠ .rateLimit)
    (id : String) :
    AnsweredAlike P cfg slug req
      (.redisGet (storeKey family id))
      (.redisGet (storeKey family id)) := by
  intro google google' tenant tenant' ext ext' value value'
    hWorlds hClock hExec hExec' _
  simp only [World.exec, World.backend, World.execRedis,
    Option.some.injEq, Prod.mk.injEq] at hExec hExec'
  rcases hExec with ⟨rfl, rfl⟩
  rcases hExec' with ⟨rfl, rfl⟩
  refine ⟨⟨?_, hWorlds.minted_read _ _⟩, hWorlds⟩
  rw [hClock]
  exact hWorlds.read hFamily _ _

/- Deadlines are not renamed. -/
theorem remainingTtl_renamed
    {now : Nat}
    {item item' : Option (Item RedisValue)}
    (hItem : Option.Rel (RenamedItem slug) item item') :
    remainingTtl now item = remainingTtl now item' := by
  cases hItem with
  | some hSame =>
      unfold remainingTtl
      simp only [hSame.1]
  | none => rfl

theorem answeredAlike_ttl
    (hFamily : family ≠ .rateLimit)
    (id : String) :
    AnsweredAlike P cfg slug req
      (.redisTtl (storeKey family id))
      (.redisTtl (storeKey family id)) := by
  intro google google' tenant tenant' ext ext' value value'
    hWorlds hClock hExec hExec' _
  simp only [World.exec, World.backend, World.execRedis,
    Option.some.injEq, Prod.mk.injEq] at hExec hExec'
  rcases hExec with ⟨rfl, rfl⟩
  rcases hExec' with ⟨rfl, rfl⟩
  refine ⟨?_, hWorlds⟩
  rw [hClock]
  exact remainingTtl_renamed (hWorlds.find hFamily _ _)

theorem answeredAlike_set
    {value value' : RedisValue}
    (hSession : family ≠ .session)
    (hValue : RenamedValue slug value value')
    (id : String)
    (ttlSeconds : ℚ) :
    AnsweredAlike P cfg slug req
      (.redisSet (storeKey family id) value ttlSeconds)
      (.redisSet (storeKey family id) value' ttlSeconds) := by
  intro google google' tenant tenant' ext ext' result result'
    hWorlds hClock hExec hExec' _
  simp only [World.exec, World.backend, World.execRedis]
    at hExec hExec'
  rw [hClock] at hExec
  cases hValid : validExpire tenant.clock ttlSeconds with
  | none =>
      simp only [hValid, Option.some.injEq, Prod.mk.injEq]
        at hExec hExec'
      rcases hExec with ⟨rfl, rfl⟩
      rcases hExec' with ⟨rfl, rfl⟩
      exact ⟨rfl, hWorlds⟩
  | some deadline =>
      simp only [hValid, Option.some.injEq, Prod.mk.injEq]
        at hExec hExec'
      rcases hExec with ⟨rfl, rfl⟩
      rcases hExec' with ⟨rfl, rfl⟩
      refine ⟨rfl, ?_⟩
      rw [Expiring.put_eq_write, Expiring.put_eq_write]
      exact
        hWorlds.write (.some ⟨rfl, hValue⟩)
          (fun hIsSession => absurd hIsSession hSession)

theorem answeredAlike_del
    (family : KeyFamily)
    (id : String) :
    AnsweredAlike P cfg slug req
      (.redisDel (storeKey family id))
      (.redisDel (storeKey family id)) := by
  intro google google' tenant tenant' ext ext' value value'
    hWorlds hClock hExec hExec' _
  simp only [World.exec, World.backend, World.execRedis,
    Option.some.injEq, Prod.mk.injEq] at hExec hExec'
  rcases hExec with ⟨_, rfl⟩
  rcases hExec' with ⟨_, rfl⟩
  refine ⟨trivial, ?_⟩
  rw [Expiring.remove_eq_write, Expiring.remove_eq_write]
  exact hWorlds.write .none (fun _ => rfl)

end KisAuth

------------------------------------------------------------
-- Renamed Statements
------------------------------------------------------------

namespace KisAuth

open Interaction

variable {P : Platform} {cfg : KisAuthConfig}
variable {slug : String}
variable {req : BrowserRequest}

theorem answeredAlike_find
    (hSlug : isPartnerSlug slug = true)
    (subject : String) :
    AnsweredAlike P cfg slug req
      (.selectIdentity "google" subject)
      (.selectIdentity oidcProvider
        (compositeOidcSubject slug subject)) := by
  intro google google' tenant tenant' ext ext' value value'
    hWorlds hClock hExec hExec' _
  simp only [World.exec, World.backend, World.execSql,
    Option.some.injEq, Prod.mk.injEq] at hExec hExec'
  rcases hExec with ⟨rfl, rfl⟩
  rcases hExec' with ⟨rfl, rfl⟩
  exact
    ⟨RenamedTables.selectIdentity hSlug hWorlds.rows subject,
      hWorlds⟩

theorem answeredAlike_insert
    (hSlug : isPartnerSlug slug = true)
    (args : NewIdentity) :
    AnsweredAlike P cfg slug req
      (.insertIdentity (googleIdentity args))
      (.insertIdentity (tenantIdentity slug args)) := by
  intro google google' tenant tenant' ext ext' value value'
    hWorlds hClock hExec hExec' hChosen
  have hSql :
      google.execSql ext
          (.insertIdentity (googleIdentity args)) =
        some (value, google') :=
    hExec
  have hSql' :
      tenant.execSql ext'
          (.insertIdentity (tenantIdentity slug args)) =
        some (value', tenant') :=
    hExec'
  -- The same rows are accepted, with the same new ids.
  rcases RenamedTables.checkInsert hSlug hWorlds.rows args
    with ⟨refusal, hRefused, hRefused'⟩ |
      ⟨accepted, hAccepted, hAccepted'⟩
  · rcases execSql_insert hSql with
      ⟨error, hCheck, rfl, rfl⟩ | ⟨row, _, hCheck, _⟩
    · rcases execSql_insert hSql' with
        ⟨error', hCheck', rfl, rfl⟩ | ⟨row', _, hCheck', _⟩
      · rw [hRefused] at hCheck
        rw [hRefused'] at hCheck'
        cases hCheck
        cases hCheck'
        exact ⟨.error _, hWorlds⟩
      · rw [hRefused'] at hCheck'
        cases hCheck'
    · rw [hRefused] at hCheck
      cases hCheck
  · rcases execSql_insert hSql with
      ⟨error, hCheck, _⟩ |
        ⟨row, id, hCheck, _, _, rfl, rfl⟩
    · rw [hAccepted] at hCheck
      cases hCheck
    · rcases execSql_insert hSql' with
        ⟨error', hCheck', _⟩ |
          ⟨row', id', hCheck', _, _, rfl, rfl⟩
      · rw [hAccepted'] at hCheck'
        cases hCheck'
      · rw [hAccepted] at hCheck
        rw [hAccepted'] at hCheck'
        cases hCheck
        cases hCheck'
        have hId : id = id' := hChosen.texts id rfl id' rfl
        subst hId
        rw [hClock]
        have hRow :
            RenamedRow slug
              (Tables.newRow (googleIdentity accepted) id
                tenant.clock)
              (Tables.newRow (tenantIdentity slug accepted)
                id tenant.clock) :=
          renamedRow_newRow accepted id tenant.clock
        refine ⟨.ok hRow.identity, ?_⟩
        exact
          (hWorlds.with_tables
            (RenamedTables.addRow hWorlds.rows
              hRow)).of_stores rfl rfl rfl rfl

theorem answeredAlike_update
    (providerEmail : Option String)
    (providerEmailVerified : Option Bool)
    (id : String) :
    AnsweredAlike P cfg slug req
      (.updateIdentity providerEmail providerEmailVerified id)
      (.updateIdentity providerEmail providerEmailVerified
        id) := by
  intro google google' tenant tenant' ext ext' value value'
    hWorlds hClock hExec hExec' _
  simp only [World.exec, World.backend, World.execSql]
    at hExec hExec'
  cases hId : uuidIn id with
  | none =>
      simp only [hId, Option.some.injEq, Prod.mk.injEq]
        at hExec hExec'
      rcases hExec with ⟨rfl, rfl⟩
      rcases hExec' with ⟨rfl, rfl⟩
      exact ⟨.error _, hWorlds⟩
  | some canonical =>
      simp only [hId] at hExec hExec'
      by_cases hValid :
          (providerEmail.all validText &&
            providerEmailVerified.isSome) = true
      · rw [if_pos hValid, Option.some.injEq,
          Prod.mk.injEq] at hExec hExec'
        rcases hExec with ⟨rfl, rfl⟩
        rcases hExec' with ⟨rfl, rfl⟩
        rw [hClock]
        have hRows :=
          RenamedTables.modifyRow hWorlds.rows
            (fun _ _ hRow =>
              hRow.withEmail providerEmail
                (providerEmailVerified.getD false)
                tenant.clock)
            canonical
        exact
          ⟨.ok (RenamedTables.findRow hRows canonical),
            hWorlds.with_tables hRows⟩
      · rw [if_neg hValid, Option.some.injEq,
          Prod.mk.injEq] at hExec hExec'
        rcases hExec with ⟨rfl, rfl⟩
        rcases hExec' with ⟨rfl, rfl⟩
        exact ⟨.error _, hWorlds⟩

theorem answeredAlike_touch
    (id : String) :
    AnsweredAlike P cfg slug req (.touchIdentity id)
      (.touchIdentity id) := by
  intro google google' tenant tenant' ext ext' value value'
    hWorlds hClock hExec hExec' _
  simp only [World.exec, World.backend, World.execSql]
    at hExec hExec'
  cases hId : uuidIn id with
  | none =>
      simp only [hId, Option.some.injEq, Prod.mk.injEq]
        at hExec hExec'
      rcases hExec with ⟨rfl, rfl⟩
      rcases hExec' with ⟨rfl, rfl⟩
      exact ⟨rfl, hWorlds⟩
  | some canonical =>
      simp only [hId, Option.some.injEq, Prod.mk.injEq]
        at hExec hExec'
      rcases hExec with ⟨rfl, rfl⟩
      rcases hExec' with ⟨rfl, rfl⟩
      rw [hClock]
      exact
        ⟨rfl,
          hWorlds.with_tables
            (RenamedTables.modifyRow hWorlds.rows
              (fun _ _ hRow => hRow.touched tenant.clock)
              canonical)⟩

end KisAuth

------------------------------------------------------------
-- Renamed Worlds
------------------------------------------------------------

namespace KisAuth

open Interaction

variable {P : Platform} {cfg : KisAuthConfig}
variable {slug : String}
variable {req : BrowserRequest}

theorem passes_stores
    {world later : World}
    (hPasses : passes world later) :
    later.redis = world.redis ∧
      later.tables = world.tables := by
  rcases hPasses with ⟨milliseconds, hTick⟩
  simp only [World.env, Option.some.injEq] at hTick
  subst hTick
  exact ⟨rfl, rfl⟩

theorem reachesNoStore_stores
    {world later : World}
    {effect : Eff}
    {ext : External}
    {value : effect.Res}
    (hEffect : reachesNoStore effect)
    (hExec :
      World.exec P cfg world effect ext =
        some (value, later)) :
    later.redis = world.redis ∧
      later.tables = world.tables := by
  have hOther :
      world.execOther P cfg ext effect =
        some (value, later) := by
    unfold reachesNoStore at hEffect
    unfold World.exec at hExec
    rw [hEffect] at hExec
    exact hExec
  have hFrame := execOther_frame hOther
  exact ⟨hFrame.1, hFrame.2.1⟩

theorem answeredAlike_random :
    AnsweredAlike P cfg slug req .random .random := by
  intro google google' tenant tenant' ext ext' value value'
    hWorlds _ hExec hExec' hChosen
  have hNoStore : reachesNoStore .random := rfl
  have hStores := reachesNoStore_stores hNoStore hExec
  have hStores' := reachesNoStore_stores hNoStore hExec'
  exact
    ⟨hChosen.texts value rfl value' rfl,
      hWorlds.of_stores hStores.1 hStores.2 hStores'.1
        hStores'.2⟩

theorem answeredAlike_emit
    (event event' : SecurityEvent) :
    AnsweredAlike P cfg slug req (.emit event)
      (.emit event') := by
  intro google google' tenant tenant' ext ext' value value'
    hWorlds _ hExec hExec' _
  have hNoStore : ∀ event, reachesNoStore (.emit event) :=
    fun _ => rfl
  have hStores :=
    reachesNoStore_stores (hNoStore event) hExec
  have hStores' :=
    reachesNoStore_stores (hNoStore event') hExec'
  exact
    ⟨trivial,
      hWorlds.of_stores hStores.1 hStores.2 hStores'.1
        hStores'.2⟩

/- One lemma for each call. -/
theorem RenamedCall.answeredAlike
    {effect effect' : Eff}
    (hSlug : isPartnerSlug slug = true)
    (hCall : RenamedCall slug req effect effect') :
    AnsweredAlike P cfg slug req effect effect' := by
  cases hCall with
  | hit windowSeconds =>
      exact answeredAlike_hit windowSeconds
  | get family id hFamily =>
      exact answeredAlike_get hFamily id
  | ttl family id hFamily =>
      exact answeredAlike_ttl hFamily id
  | set family id value value' ttl hSession hValue =>
      exact answeredAlike_set hSession hValue id ttl
  | del family id => exact answeredAlike_del family id
  | find subject => exact answeredAlike_find hSlug subject
  | insert args => exact answeredAlike_insert hSlug args
  | update email verified id =>
      exact answeredAlike_update email verified id
  | touch id => exact answeredAlike_touch id
  | random => exact answeredAlike_random
  | emit event metadata =>
      exact answeredAlike_emit event _

/- Sibling worlds stay siblings. -/
theorem siblingWorlds_correspond
    (hSlug : isPartnerSlug slug = true) :
    Correspondence (worldSemantics P cfg) passes World.clock
      (RenamedCall slug req) ChosenAlike (RenamedAnswer slug req)
      reachesNoStore (SiblingWorlds slug req) where
  left_moves := by
    intro google google' tenant hPasses hWorlds
    have hStores := passes_stores hPasses
    exact
      hWorlds.of_stores hStores.1 hStores.2 rfl rfl
  right_moves := by
    intro google tenant tenant' hPasses hWorlds
    have hStores := passes_stores hPasses
    exact
      hWorlds.of_stores rfl rfl hStores.1 hStores.2
  left_quiet := by
    intro google effect ext value google' tenant hEffect hExec
      hWorlds
    have hStores := reachesNoStore_stores hEffect hExec
    exact
      hWorlds.of_stores hStores.1 hStores.2 rfl rfl
  right_quiet := by
    intro google tenant effect ext value tenant' hEffect hExec
      hWorlds
    have hStores := reachesNoStore_stores hEffect hExec
    exact
      hWorlds.of_stores rfl rfl hStores.1 hStores.2
  both := by
    intro google google' tenant tenant' effect effect' ext
      ext' value value' hWorlds hCall hClock hExec hExec'
      hChosen
    exact
      hCall.answeredAlike hSlug _ _ _ _ _ _ _ _ hWorlds
        hClock hExec hExec' hChosen

end KisAuth
