import KisAuth.Interaction.Conformance
import KisAuth.Service.Handler
import KisAuth.Store.WriteLog

/-
  The world as its history tells it.

  `Mirrors` ties the world to what has happened: Redis holds
  the last write to each key, the identity rows are the
  accepted inserts, and every cached value was cached by
  some request.

  Key definitions include:
    * `touch`, `drawn`, `IdentityBinding`, `bindings`
    * `Mirrors`

  Key theorems include:
    * `Mirrors.exec`
    * `Run.mirrors`
-/

------------------------------------------------------------
-- What A History Records
------------------------------------------------------------

namespace KisAuth

open Interaction Store

/- What an answered call does to one Redis key. -/
def touchOf :
    Answer Eff Eff.Res → String → Option (Option RedisValue)
| ⟨.redisSet key value _, .ok _⟩, other =>
    if other = key then some (some value) else none
| ⟨.redisSetNx key _, .ok true⟩, other =>
    if other = key then some (some .claimed) else none
| ⟨.redisDel key, _⟩, other =>
    if other = key then some none else none
| ⟨.redisConsume key, _⟩, other =>
    if other = key then some none else none
| ⟨.redisIncr key _, hits⟩, other =>
    if other = key then some (some (.count hits)) else none
| _, _ => none

/- What an entry does to one Redis key. -/
def touch
    (entry : ServiceEntry)
    (key : String) : Option (Option RedisValue) :=
  match entry with
  | .answer _ answer => touchOf answer key
  | _ => none

/- The random value a call drew, a row's id included. -/
def drawnOf : Answer Eff Eff.Res → Option String
| ⟨.random, value⟩ => some value
| ⟨.insertIdentity _, .ok row⟩ => some row.id
| _ => none

def drawnBy (entry : ServiceEntry) : Option String :=
  match entry with
  | .answer _ answer => drawnOf answer
  | _ => none

/- The random values drawn so far, newest first. -/
def drawn (history : History) : List String :=
  history.filterMap drawnBy

/-
  The part of an identity row that no statement of the
  service changes.
-/
structure IdentityBinding where
  id : String
  provider : String
  providerSubject : String
  kisUserId : String
  deriving DecidableEq

def AuthIdentity.binding
    (identity : AuthIdentity) : IdentityBinding where
  id := identity.id
  provider := identity.provider
  providerSubject := identity.providerSubject
  kisUserId := identity.kisUserId

/- The row an accepted insert added. -/
def addedOf : Answer Eff Eff.Res → Option IdentityBinding
| ⟨.insertIdentity _, .ok row⟩ => some row.binding
| _ => none

def addedBy (entry : ServiceEntry) : Option IdentityBinding :=
  match entry with
  | .answer _ answer => addedOf answer
  | _ => none

/- The rows added so far, oldest first. -/
def bindings (history : History) : List IdentityBinding :=
  (history.filterMap addedBy).reverse

/- The bindings of the rows of a table. -/
def Tables.bindings (tables : Tables) : List IdentityBinding :=
  tables.identities.map
    (fun row => row.toAuthIdentity.binding)

/- The value the last write left under a Redis key. -/
def stored (history : History) (key : String) :
    Option RedisValue :=
  lastWrite touch key history

theorem mem_bindings_iff
    (history : History)
    (binding : IdentityBinding) :
    binding ∈ bindings history ↔
      ∃ thread args row,
        Entry.answer thread
            ⟨.insertIdentity args, .ok row⟩ ∈ history ∧
          row.binding = binding := by
  unfold bindings
  rw [List.mem_reverse, List.mem_filterMap]
  constructor
  · rintro ⟨entry, hMem, hAdded⟩
    unfold addedBy at hAdded
    split at hAdded
    · next thread answer =>
        unfold addedOf at hAdded
        split at hAdded
        · next args row =>
            exact ⟨thread, args, row, hMem,
              Option.some.inj hAdded⟩
        · simp at hAdded
    · simp at hAdded
  · rintro ⟨thread, args, row, hMem, rfl⟩
    exact ⟨_, hMem, rfl⟩

end KisAuth

------------------------------------------------------------
-- The World Mirrors The History
------------------------------------------------------------

namespace KisAuth

open Interaction Store

/- The world is what the history made of it. -/
structure Mirrors (world : World) (history : History) :
    Prop where
  redis : world.redis.Agrees (stored history)
  randoms : world.randoms = drawn history
  rows : world.tables.bindings = bindings history
  ssoCache :
    ∀ slug config expiresAt,
      world.ssoCache slug = some (config, expiresAt) →
        ∃ thread,
          Entry.answer thread
            ⟨.ssoCacheSet slug config expiresAt, ()⟩ ∈
              history
  discoveryCache :
    ∀ url doc expiresAt,
      world.discoveryCache url = some (doc, expiresAt) →
        ∃ thread,
          Entry.answer thread
            ⟨.discoveryCacheSet url doc expiresAt, ()⟩ ∈
              history

theorem mirrors_empty
    (clients : String → Option RegisteredClient) :
    Mirrors (World.empty clients) [] where
  redis := by
    intro key item hItem
    simp [World.empty] at hItem
  randoms := rfl
  rows := rfl
  ssoCache := by
    intro slug config expiresAt hCached
    simp [World.empty] at hCached
  discoveryCache := by
    intro url doc expiresAt hCached
    simp [World.empty] at hCached

/- An entry that concerns neither Redis, rows nor randoms. -/
structure Silent (entry : ServiceEntry) : Prop where
  touch : ∀ key, touch entry key = none
  drawn : drawnBy entry = none
  added : addedBy entry = none

theorem stored_cons_of_silent
    {entry : ServiceEntry}
    (hSilent : Silent entry)
    (history : History) :
    stored (entry :: history) = stored history := by
  funext key
  exact lastWrite_cons_of_untouched (hSilent.touch key) history

/- Silent entries that leave the world's content alone. -/
theorem Mirrors.silent
    {world world' : World}
    {history : History}
    {entry : ServiceEntry}
    (hMirrors : Mirrors world history)
    (hSilent : Silent entry)
    (hRedis : world'.redis = world.redis)
    (hRandoms : world'.randoms = world.randoms)
    (hRows : world'.tables.bindings = world.tables.bindings)
    (hSso : world'.ssoCache = world.ssoCache)
    (hDiscovery :
      world'.discoveryCache = world.discoveryCache) :
    Mirrors world' (entry :: history) where
  redis := by
    rw [stored_cons_of_silent hSilent, hRedis]
    exact hMirrors.redis
  randoms := by
    rw [hRandoms, hMirrors.randoms]
    simp [drawn, hSilent.drawn]
  rows := by
    rw [hRows, hMirrors.rows]
    simp [bindings, hSilent.added]
  ssoCache := by
    intro slug config expiresAt hCached
    rw [hSso] at hCached
    rcases hMirrors.ssoCache slug config expiresAt hCached
      with ⟨thread, hMem⟩
    exact ⟨thread, List.mem_cons_of_mem _ hMem⟩
  discoveryCache := by
    intro url doc expiresAt hCached
    rw [hDiscovery] at hCached
    rcases hMirrors.discoveryCache url doc expiresAt hCached
      with ⟨thread, hMem⟩
    exact ⟨thread, List.mem_cons_of_mem _ hMem⟩

/-
  An entry that only writes one Redis key, and the world
  after the same write.
-/
theorem Mirrors.redisWrite
    {world : World}
    {history : History}
    {entry : ServiceEntry}
    {key : String}
    (hMirrors : Mirrors world history)
    (item : Option (Item RedisValue))
    (hTouch :
      ∀ other,
        touch entry other =
          if other = key then some (item.map Item.value)
          else none)
    (hDrawn : drawnBy entry = none)
    (hAdded : addedBy entry = none) :
    Mirrors (world.withRedis (world.redis.write key item))
      (entry :: history) where
  redis := by
    have hOther :
        ∀ other, other ≠ key →
          stored (entry :: history) other =
            stored history other := by
      intro other hNe
      apply lastWrite_cons_of_untouched
      rw [hTouch other, if_neg hNe]
    have hKey :
        stored (entry :: history) key =
          item.map Item.value := by
      apply lastWrite_cons_of_touched
      rw [hTouch key, if_pos rfl]
    exact hMirrors.redis.write hKey hOther
  randoms := by
    have hSame : drawn (entry :: history) = drawn history := by
      simp [drawn, hDrawn]
    rw [hSame]
    exact hMirrors.randoms
  rows := by
    have hSame :
        bindings (entry :: history) = bindings history := by
      simp [bindings, hAdded]
    rw [hSame]
    exact hMirrors.rows
  ssoCache := by
    intro slug config expiresAt hCached
    rcases hMirrors.ssoCache slug config expiresAt hCached
      with ⟨thread, hMem⟩
    exact ⟨thread, List.mem_cons_of_mem _ hMem⟩
  discoveryCache := by
    intro url doc expiresAt hCached
    rcases hMirrors.discoveryCache url doc expiresAt hCached
      with ⟨thread, hMem⟩
    exact ⟨thread, List.mem_cons_of_mem _ hMem⟩

end KisAuth

------------------------------------------------------------
-- Steps Keep The Mirror
------------------------------------------------------------

namespace KisAuth

open Interaction Store

variable {P : Platform} {cfg : KisAuthConfig}
variable {world world' : World} {history : History}

/- Statements that change no binding. -/
theorem bindings_modifyRow
    (tables : Tables)
    (id : String)
    (change : AuthIdentityRow → AuthIdentityRow)
    (hChange :
      ∀ row,
        (change row).toAuthIdentity.binding =
          row.toAuthIdentity.binding) :
    (tables.modifyRow id change).bindings =
      tables.bindings := by
  unfold Tables.bindings Tables.modifyRow
  rw [List.map_map]
  apply List.map_congr_left
  intro row _
  by_cases hId : row.id = id
  · simp [hId, hChange row]
  · simp [hId]

/-
  A Redis command leaves the store alone, or it changes what
  is under one key.
-/
theorem execRedis_cases
    {effect : Eff}
    {value : effect.Res}
    (hExec :
      world.execRedis effect = some (value, world')) :
    (world' = world ∧
        ∀ other, touchOf ⟨effect, value⟩ other = none) ∨
      ∃ key item,
        world' =
            world.withRedis (world.redis.write key item) ∧
          ∀ other,
            touchOf ⟨effect, value⟩ other =
              if other = key then some (item.map Item.value)
              else none := by
  cases effect with
  | redisSet key stored ttl =>
      simp only [World.execRedis] at hExec
      cases hExpire : validExpire world.clock ttl with
      | none =>
          simp only [hExpire, Option.some.injEq,
            Prod.mk.injEq] at hExec
          rcases hExec with ⟨rfl, rfl⟩
          exact Or.inl ⟨rfl, fun _ => rfl⟩
      | some deadline =>
          simp only [hExpire, Option.some.injEq,
            Prod.mk.injEq] at hExec
          rcases hExec with ⟨rfl, rfl⟩
          exact
            Or.inr
              ⟨key, some ⟨stored, some deadline⟩, rfl,
                fun _ => rfl⟩
  | redisSetNx key ttl =>
      simp only [World.execRedis] at hExec
      cases hExpire : validExpire world.clock ttl with
      | none =>
          simp only [hExpire, Option.some.injEq,
            Prod.mk.injEq] at hExec
          rcases hExec with ⟨rfl, rfl⟩
          exact Or.inl ⟨rfl, fun _ => rfl⟩
      | some deadline =>
          simp only [hExpire] at hExec
          cases hFind : world.redis.find world.clock key with
          | some item =>
              simp only [hFind, Option.some.injEq,
                Prod.mk.injEq] at hExec
              rcases hExec with ⟨rfl, rfl⟩
              exact Or.inl ⟨rfl, fun _ => rfl⟩
          | none =>
              simp only [hFind, Option.some.injEq,
                Prod.mk.injEq] at hExec
              rcases hExec with ⟨rfl, rfl⟩
              exact
                Or.inr
                  ⟨key, some ⟨.claimed, some deadline⟩, rfl,
                    fun _ => rfl⟩
  | redisGet key =>
      simp only [World.execRedis, Option.some.injEq,
        Prod.mk.injEq] at hExec
      exact Or.inl ⟨hExec.2.symm, fun _ => rfl⟩
  | redisTtl key =>
      simp only [World.execRedis, Option.some.injEq,
        Prod.mk.injEq] at hExec
      exact Or.inl ⟨hExec.2.symm, fun _ => rfl⟩
  | redisDel key =>
      simp only [World.execRedis, Option.some.injEq,
        Prod.mk.injEq] at hExec
      exact
        Or.inr ⟨key, none, hExec.2.symm, fun _ => rfl⟩
  | redisConsume key =>
      simp only [World.execRedis, Option.some.injEq,
        Prod.mk.injEq] at hExec
      exact
        Or.inr ⟨key, none, hExec.2.symm, fun _ => rfl⟩
  | redisIncr key window =>
      simp only [World.execRedis, Option.some.injEq,
        Prod.mk.injEq] at hExec
      rcases hExec with ⟨rfl, rfl⟩
      exact
        Or.inr
          ⟨key,
            some
              (countHit world.clock window
                (world.redis.find world.clock key)),
            rfl, fun _ => rfl⟩
  | _ => simp [World.execRedis] at hExec

/- It neither draws a random value nor adds a row. -/
theorem execRedis_adds_nothing
    {effect : Eff}
    {value : effect.Res}
    (hExec :
      world.execRedis effect = some (value, world'))
    (thread : Nat) :
    drawnBy (.answer thread ⟨effect, value⟩) = none ∧
      addedBy (.answer thread ⟨effect, value⟩) = none := by
  cases effect with
  | random => simp [World.execRedis] at hExec
  | insertIdentity row => simp [World.execRedis] at hExec
  | _ => exact ⟨rfl, rfl⟩

/- Redis calls keep the mirror. -/
theorem Mirrors.execRedis
    {effect : Eff}
    {value : effect.Res}
    (hMirrors : Mirrors world history)
    (hExec :
      world.execRedis effect = some (value, world'))
    (thread : Nat) :
    Mirrors world'
      (.answer thread ⟨effect, value⟩ :: history) := by
  rcases execRedis_adds_nothing hExec thread with
    ⟨hDrawn, hAdded⟩
  rcases execRedis_cases hExec with
    ⟨rfl, hTouch⟩ | ⟨key, item, rfl, hTouch⟩
  · exact
      hMirrors.silent ⟨hTouch, hDrawn, hAdded⟩ rfl rfl rfl rfl
        rfl
  · exact hMirrors.redisWrite item hTouch hDrawn hAdded

/- An accepted insert adds its row. -/
theorem Mirrors.insert
    {args accepted : NewIdentity}
    {id : String}
    {now : Nat}
    (hMirrors : Mirrors world history)
    (thread : Nat) :
    Mirrors
      ((world.withTables (world.tables.addRow
        (Tables.newRow accepted id now))).draw id)
      (.answer thread
        ⟨.insertIdentity args,
          .ok (Tables.newRow accepted id
            now).toAuthIdentity⟩ :: history) where
  redis := by
    have hStored :
        stored (.answer thread
            ⟨.insertIdentity args,
              .ok (Tables.newRow accepted id
                now).toAuthIdentity⟩ :: history) =
          stored history := by
      funext key
      exact lastWrite_cons_of_untouched rfl history
    rw [hStored]
    exact hMirrors.redis
  randoms := by
    have hRandoms := hMirrors.randoms
    simp only [World.draw, World.withTables]
    rw [hRandoms]
    rfl
  rows := by
    have hRows := hMirrors.rows
    unfold Tables.bindings at hRows ⊢
    simp only [World.draw, World.withTables, Tables.addRow,
      List.map_append, List.map_cons, List.map_nil]
    rw [hRows]
    simp [bindings, addedBy, addedOf]
  ssoCache := by
    intro slug config expiresAt hCached
    rcases hMirrors.ssoCache slug config expiresAt hCached
      with ⟨other, hMem⟩
    exact ⟨other, List.mem_cons_of_mem _ hMem⟩
  discoveryCache := by
    intro url doc expiresAt hCached
    rcases hMirrors.discoveryCache url doc expiresAt hCached
      with ⟨other, hMem⟩
    exact ⟨other, List.mem_cons_of_mem _ hMem⟩

/- SQL statements keep the mirror. -/
theorem Mirrors.execSql
    {effect : Eff}
    {value : effect.Res}
    {ext : External}
    (hMirrors : Mirrors world history)
    (hExec :
      world.execSql ext effect = some (value, world'))
    (thread : Nat) :
    Mirrors world'
      (.answer thread ⟨effect, value⟩ :: history) := by
  cases effect with
  | selectClient clientId =>
      simp only [World.execSql, Option.some.injEq,
        Prod.mk.injEq] at hExec
      rcases hExec with ⟨rfl, rfl⟩
      exact hMirrors.silent ⟨fun _ => rfl, rfl, rfl⟩
        rfl rfl rfl rfl rfl
  | selectIdentity provider providerSubject =>
      simp only [World.execSql, Option.some.injEq,
        Prod.mk.injEq] at hExec
      rcases hExec with ⟨rfl, rfl⟩
      exact hMirrors.silent ⟨fun _ => rfl, rfl, rfl⟩
        rfl rfl rfl rfl rfl
  | selectIdentityById id =>
      simp only [World.execSql, Option.some.injEq,
        Prod.mk.injEq] at hExec
      rcases hExec with ⟨rfl, rfl⟩
      exact hMirrors.silent ⟨fun _ => rfl, rfl, rfl⟩
        rfl rfl rfl rfl rfl
  | insertIdentity args =>
      rcases execSql_insert hExec with
        ⟨error, _, rfl, rfl⟩ | ⟨accepted, id, _, _, _, rfl, rfl⟩
      · exact hMirrors.silent ⟨fun _ => rfl, rfl, rfl⟩
          rfl rfl rfl rfl rfl
      · exact hMirrors.insert thread
  | updateIdentity email verified id =>
      rcases execSql_update hExec with
        ⟨_, rfl, rfl⟩ | ⟨canonical, _, rfl, rfl⟩
      · exact hMirrors.silent ⟨fun _ => rfl, rfl, rfl⟩
          rfl rfl rfl rfl rfl
      · exact hMirrors.silent ⟨fun _ => rfl, rfl, rfl⟩
          rfl rfl
          (bindings_modifyRow _ _ _ (fun _ => rfl))
          rfl rfl
  | touchIdentity id =>
      rcases execSql_touch hExec with
        ⟨_, rfl, rfl⟩ | ⟨canonical, _, rfl, rfl⟩
      · exact hMirrors.silent ⟨fun _ => rfl, rfl, rfl⟩
          rfl rfl rfl rfl rfl
      · exact hMirrors.silent ⟨fun _ => rfl, rfl, rfl⟩
          rfl rfl
          (bindings_modifyRow _ _ _ (fun _ => rfl))
          rfl rfl
  | _ => simp [World.execSql] at hExec

/- A cached value is cached by the entry that caches it. -/
theorem Mirrors.cacheSso
    {slug : String}
    {config : OidcPartnerConfig}
    {expiresAt : Nat}
    (hMirrors : Mirrors world history)
    (thread : Nat) :
    Mirrors
      { world with
        ssoCache := fun other =>
          if other = slug then some (config, expiresAt)
          else world.ssoCache other }
      (.answer thread
        ⟨.ssoCacheSet slug config expiresAt, ()⟩ ::
          history) where
  redis := by
    have hStored :
        stored (.answer thread
            ⟨.ssoCacheSet slug config expiresAt, ()⟩ ::
              history) =
          stored history :=
      stored_cons_of_silent ⟨fun _ => rfl, rfl, rfl⟩ history
    rw [hStored]
    exact hMirrors.redis
  randoms := hMirrors.randoms
  rows := hMirrors.rows
  ssoCache := by
    intro other found foundExpiry hCached
    by_cases hSlug : other = slug
    · subst hSlug
      simp only [if_true, Option.some.injEq,
        Prod.mk.injEq] at hCached
      rcases hCached with ⟨rfl, rfl⟩
      exact ⟨thread, by simp⟩
    · simp only [hSlug, if_false] at hCached
      rcases hMirrors.ssoCache other found foundExpiry hCached
        with ⟨setter, hMem⟩
      exact ⟨setter, List.mem_cons_of_mem _ hMem⟩
  discoveryCache := by
    intro url doc foundExpiry hCached
    rcases hMirrors.discoveryCache url doc foundExpiry hCached
      with ⟨setter, hMem⟩
    exact ⟨setter, List.mem_cons_of_mem _ hMem⟩

theorem Mirrors.cacheDiscovery
    {url : String}
    {doc : OidcDiscoveryDocument}
    {expiresAt : Nat}
    (hMirrors : Mirrors world history)
    (thread : Nat) :
    Mirrors
      { world with
        discoveryCache := fun other =>
          if other = url then some (doc, expiresAt)
          else world.discoveryCache other }
      (.answer thread
        ⟨.discoveryCacheSet url doc expiresAt, ()⟩ ::
          history) where
  redis := by
    have hStored :
        stored (.answer thread
            ⟨.discoveryCacheSet url doc expiresAt, ()⟩ ::
              history) =
          stored history :=
      stored_cons_of_silent ⟨fun _ => rfl, rfl, rfl⟩ history
    rw [hStored]
    exact hMirrors.redis
  randoms := hMirrors.randoms
  rows := hMirrors.rows
  ssoCache := by
    intro slug config foundExpiry hCached
    rcases hMirrors.ssoCache slug config foundExpiry hCached
      with ⟨setter, hMem⟩
    exact ⟨setter, List.mem_cons_of_mem _ hMem⟩
  discoveryCache := by
    intro other found foundExpiry hCached
    by_cases hUrl : other = url
    · subst hUrl
      simp only [if_true, Option.some.injEq,
        Prod.mk.injEq] at hCached
      rcases hCached with ⟨rfl, rfl⟩
      exact ⟨thread, by simp⟩
    · simp only [hUrl, if_false] at hCached
      rcases hMirrors.discoveryCache other found foundExpiry
          hCached with ⟨setter, hMem⟩
      exact ⟨setter, List.mem_cons_of_mem _ hMem⟩

end KisAuth

namespace KisAuth

open Interaction Store

variable {P : Platform} {cfg : KisAuthConfig}
variable {world world' : World} {history : History}

/- All other calls keep the mirror. -/
theorem Mirrors.execOther
    {effect : Eff}
    {value : effect.Res}
    {ext : External}
    (hMirrors : Mirrors world history)
    (hExec :
      world.execOther P cfg ext effect =
        some (value, world'))
    (thread : Nat) :
    Mirrors world'
      (.answer thread ⟨effect, value⟩ :: history) := by
  cases effect with
  | random =>
      cases ext with
      | random drawnValue =>
          simp only [World.execOther] at hExec
          split at hExec
          · simp at hExec
          · simp only [Option.some.injEq,
              Prod.mk.injEq] at hExec
            rcases hExec with ⟨rfl, rfl⟩
            exact
              { redis := hMirrors.redis
                randoms := by
                  have hRandoms := hMirrors.randoms
                  simp only [World.draw]
                  rw [hRandoms]
                  rfl
                rows := hMirrors.rows
                ssoCache := by
                  intro slug config expiresAt hCached
                  rcases hMirrors.ssoCache slug config
                      expiresAt hCached with ⟨other, hMem⟩
                  exact
                    ⟨other, List.mem_cons_of_mem _ hMem⟩
                discoveryCache := by
                  intro url doc expiresAt hCached
                  rcases hMirrors.discoveryCache url doc
                      expiresAt hCached with ⟨other, hMem⟩
                  exact
                    ⟨other, List.mem_cons_of_mem _ hMem⟩ }
      | _ => simp [World.execOther] at hExec
  | verifySignature request =>
      cases ext with
      | elapsed milliseconds =>
          simp only [World.execOther, Option.some.injEq,
            Prod.mk.injEq] at hExec
          rcases hExec with ⟨rfl, rfl⟩
          exact hMirrors.silent ⟨fun _ => rfl, rfl, rfl⟩
            rfl rfl rfl rfl rfl
      | _ => simp [World.execOther] at hExec
  | fetch request =>
      cases ext with
      | reply reply =>
          simp only [World.execOther, Option.some.injEq,
            Prod.mk.injEq] at hExec
          rcases hExec with ⟨rfl, rfl⟩
          exact hMirrors.silent ⟨fun _ => rfl, rfl, rfl⟩
            rfl rfl rfl rfl rfl
      | _ => simp [World.execOther] at hExec
  | jwtVerify idToken jwksUri issuer audience =>
      cases ext with
      | payload payload =>
          simp only [World.execOther, Option.some.injEq,
            Prod.mk.injEq] at hExec
          rcases hExec with ⟨rfl, rfl⟩
          exact hMirrors.silent ⟨fun _ => rfl, rfl, rfl⟩
            rfl rfl rfl rfl rfl
      | _ => simp [World.execOther] at hExec
  | dateNow =>
      simp only [World.execOther, Option.some.injEq,
        Prod.mk.injEq] at hExec
      rcases hExec with ⟨rfl, rfl⟩
      exact hMirrors.silent ⟨fun _ => rfl, rfl, rfl⟩
        rfl rfl rfl rfl rfl
  | ssoCacheGet slug =>
      simp only [World.execOther, Option.some.injEq,
        Prod.mk.injEq] at hExec
      rcases hExec with ⟨rfl, rfl⟩
      exact hMirrors.silent ⟨fun _ => rfl, rfl, rfl⟩
        rfl rfl rfl rfl rfl
  | ssoCacheSet slug config expiresAt =>
      simp only [World.execOther, Option.some.injEq,
        Prod.mk.injEq] at hExec
      rcases hExec with ⟨-, rfl⟩
      exact hMirrors.cacheSso thread
  | discoveryCacheGet url =>
      simp only [World.execOther, Option.some.injEq,
        Prod.mk.injEq] at hExec
      rcases hExec with ⟨rfl, rfl⟩
      exact hMirrors.silent ⟨fun _ => rfl, rfl, rfl⟩
        rfl rfl rfl rfl rfl
  | discoveryCacheSet url doc expiresAt =>
      simp only [World.execOther, Option.some.injEq,
        Prod.mk.injEq] at hExec
      rcases hExec with ⟨-, rfl⟩
      exact hMirrors.cacheDiscovery thread
  | emit event =>
      simp only [World.execOther, Option.some.injEq,
        Prod.mk.injEq] at hExec
      rcases hExec with ⟨-, rfl⟩
      exact hMirrors.silent ⟨fun _ => rfl, rfl, rfl⟩
        rfl rfl rfl rfl rfl
  | _ => simp [World.execOther] at hExec

/- Every answered call keeps the mirror. -/
theorem Mirrors.exec
    {effect : Eff}
    {value : effect.Res}
    {ext : External}
    (hMirrors : Mirrors world history)
    (hExec :
      world.exec P cfg effect ext = some (value, world'))
    (thread : Nat) :
    Mirrors world'
      (.answer thread ⟨effect, value⟩ :: history) := by
  unfold World.exec at hExec
  split at hExec
  · exact hMirrors.execRedis hExec thread
  · exact hMirrors.execSql hExec thread
  · exact hMirrors.execOther hExec thread

/- So does every operation of the environment. -/
theorem Mirrors.env
    {op : EnvOp}
    (hMirrors : Mirrors world history)
    (hEnv : world.env op = some world') :
    Mirrors world' (.env op :: history) := by
  cases op with
  | tick milliseconds =>
      simp only [World.env, Option.some.injEq] at hEnv
      subst hEnv
      exact hMirrors.silent ⟨fun _ => rfl, rfl, rfl⟩
        rfl rfl rfl rfl rfl
  | setIdentityStatus id status =>
      simp only [World.env, Option.some.injEq] at hEnv
      subst hEnv
      exact hMirrors.silent ⟨fun _ => rfl, rfl, rfl⟩
        rfl rfl
        (bindings_modifyRow _ _ _ (fun _ => rfl)) rfl rfl
  | setClient clientId client =>
      simp only [World.env, Option.some.injEq] at hEnv
      subst hEnv
      exact hMirrors.silent ⟨fun _ => rfl, rfl, rfl⟩
        rfl rfl rfl rfl rfl

/- The world of every reachable state mirrors its history. -/
theorem Run.mirrors (run : Run P cfg) :
    Mirrors run.state.world run.history := by
  apply Reachable.invariant Mirrors
    (mirrors_empty run.clients) ?_ ?_ ?_ ?_ run.reachable
  · intro world history thread request hMirrors
    exact hMirrors.silent ⟨fun _ => rfl, rfl, rfl⟩
      rfl rfl rfl rfl rfl
  · intro world history thread effect ext value world' _ _
      hExec hMirrors
    exact hMirrors.exec hExec thread
  · intro world history thread outcome hMirrors
    exact hMirrors.silent ⟨fun _ => rfl, rfl, rfl⟩
      rfl rfl rfl rfl rfl
  · intro world history op world' hEnv hMirrors
    exact hMirrors.env hEnv

end KisAuth
