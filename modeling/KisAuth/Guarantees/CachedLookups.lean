import KisAuth.Guarantees.TenantResolution
import KisAuth.Interaction.Turns

/-
  What cached configurations are worth.

  Any number of tenants and discovery documents are looked
  up at once. Network requests are all that a lookup waits
  for, so that it takes two turns at most, and the clock
  stands still in a turn. Replies arrive in any order and
  after any time.

  Key definitions include:
    * `CacheQuery`, `cacheLookup`, `CacheRun`
    * `Received`, `FreshResult`, `SameWithout`
    * `CachesSound`

  Key theorems include:
    * `cacheLookup_endsTurn`, `afterReply_endsTurn`
    * `CacheInvariant.run`, `CacheRun.without`
    * `caches_sound`
-/

------------------------------------------------------------
-- Lookups
------------------------------------------------------------

namespace KisAuth

open Interaction

/- What is looked up: a tenant or a discovery document. -/
inductive CacheQuery where
  | tenant (partnerSlug : String)
  | discovery (discoveryUrl : String)
  deriving DecidableEq

@[reducible] def CacheQuery.Value : CacheQuery → Type
| .tenant _ => OidcPartnerConfig
| .discovery _ => OidcDiscoveryDocument

/- What a lookup returns. -/
inductive CacheResult where
  | resolved
      (result : Except ResolveFailure OidcPartnerConfig)
  | discovered (doc : Option OidcDiscoveryDocument)

/- The value looked up, where the lookup succeeds. -/
def CacheResult.value :
    (query : CacheQuery) → CacheResult → Option query.Value
| .tenant _, .resolved (.ok config) => some config
| .discovery _, .discovered doc => doc
| _, _ => none

def cacheLookup
    (P : Platform)
    (cfg : KisAuthConfig) : CacheQuery → KisM CacheResult
| .tenant partnerSlug => do
    let result ←
      OidcProviderResolverService.resolve P cfg partnerSlug
    return .resolved result
| .discovery discoveryUrl => do
    let doc ←
      OidcDiscoveryService.fetchDiscovery discoveryUrl
    return .discovered doc

/-
  The calls that the code waits for. Others are answered
  within the turn.
-/
def Eff.awaited : Eff → Bool
| .dateNow => false
| .random => false
| .verifySignature _ => false
| .ssoCacheGet _ => false
| .ssoCacheSet _ _ _ => false
| .discoveryCacheGet _ => false
| .discoveryCacheSet _ _ _ => false
| .emit _ => false
| _ => true

abbrev CacheMove := Move CacheQuery External EnvOp

/- A turn of a lookup, with the time in milliseconds. -/
abbrev CacheTurn :=
  Turn Nat Eff Eff.Res HttpError CacheQuery CacheResult

abbrev CacheProcess :=
  Process Nat Eff Eff.Res HttpError CacheQuery CacheResult
    World

abbrev runLookups
    (P : Platform)
    (cfg : KisAuthConfig) :
    CacheProcess → List CacheMove → Option CacheProcess :=
  runTurns (worldSemantics P cfg) Eff.awaited
    (cacheLookup P cfg) World.clock

/-
  A run of the process: lookups, replies and ticks of the
  clock in any order, from when the caches are empty.
-/
structure CacheRun
    (P : Platform)
    (cfg : KisAuthConfig) where
  clients : String → Option RegisteredClient
  moves : List CacheMove
  process : CacheProcess
  run :
    runLookups P cfg (.init (World.empty clients)) moves =
      some process

end KisAuth

------------------------------------------------------------
-- Freshness
------------------------------------------------------------

namespace KisAuth

open Interaction

variable (P : Platform) (cfg : KisAuthConfig)

/- How long a value is served, in milliseconds. -/
def CacheQuery.lifetime : CacheQuery → Nat
| .tenant _ => 60000
| .discovery _ => 300000

/- The request is the one that is made for the query. -/
def CacheQuery.Asks :
    CacheQuery → FetchRequest → Prop
| .tenant partnerSlug, request =>
    ∃ base,
      P.parseUrl cfg.djangoSsoConfigUrl = some base ∧
        request.url =
          P.href
            (P.setSearchParam base "partner_slug" partnerSlug)
| .discovery discoveryUrl, request =>
    request.url = discoveryUrl

/- What is parsed from the body of a success. -/
def CacheQuery.parsed :
    (query : CacheQuery) → FetchReply → Option query.Value
| .tenant _, reply => reply.body.bind partnerConfigOf
| .discovery _, reply => discoveryDocOf (some reply)

/-
  The turn began with a success as the reply to the request
  for the query, and the value was parsed from it.
-/
def Received
    (query : CacheQuery)
    (value : query.Value)
    (turn : CacheTurn) : Prop :=
  turn.request = query ∧
    ∃ request reply,
      turn.answer = some ⟨.fetch request, some reply⟩ ∧
        query.Asks P cfg request ∧
        200 ≤ reply.status ∧
        reply.status < 300 ∧
        query.parsed reply = some value

/- The turn ended the lookup with the value. -/
def Returned
    (query : CacheQuery)
    (value : query.Value)
    (turn : CacheTurn) : Prop :=
  turn.request = query ∧
    ∃ result,
      turn.outcome = some (.ok result) ∧
        result.value query = some value

/-
  A value that is returned was received in the same turn, or
  in an earlier one for the same query, less than its
  lifetime ago.
-/
def FreshResult
    (turn : CacheTurn)
    (earlier : List CacheTurn) : Prop :=
  ∀ query value,
    Returned query value turn →
      Received P cfg query value turn ∨
        ∃ source ∈ earlier,
          Received P cfg query value source ∧
            source.time ≤ turn.time ∧
            turn.time < source.time + query.lifetime

/- The turn began with a complete success for its query. -/
def Complete (turn : CacheTurn) : Prop :=
  ∃ query value, Received P cfg query value turn

variable {P cfg}

/-
  Without some of the calls, all moves of the others are
  possible, and their turns are the same.
-/
def SameWithout
    (run : CacheRun P cfg)
    (kept : Nat → Bool) : Prop :=
  ∃ base : CacheRun P cfg,
    base.moves = run.moves.filter (Move.isKept kept) ∧
      base.process.turns =
        run.process.turns.filter (fun turn => kept turn.call)

/-
  What is returned is fresh and of its query. Lookups that
  received no complete success make no difference to the
  others, and neither do those of other queries.
-/
structure CachesSound (run : CacheRun P cfg) : Prop where
  fresh : Always (FreshResult P cfg) run.process.turns
  failuresIgnored :
    ∀ kept : Nat → Bool,
      (∀ turn ∈ run.process.turns,
        kept turn.call = false → ¬Complete P cfg turn) →
        SameWithout run kept
  othersIgnored :
    ∀ kept : Nat → Bool,
      (∀ turn ∈ run.process.turns,
        ∀ other ∈ run.process.turns,
          kept turn.call = true →
            kept other.call = false →
              turn.request ≠ other.request) →
        SameWithout run kept

end KisAuth

------------------------------------------------------------
-- The Caches
------------------------------------------------------------

namespace KisAuth

open Interaction

/- The entry of a query in its cache. -/
def CacheQuery.entry :
    (query : CacheQuery) → World → Option (query.Value × Nat)
| .tenant partnerSlug, world => world.ssoCache partnerSlug
| .discovery discoveryUrl, world =>
    world.discoveryCache discoveryUrl

def CacheQuery.store :
    (query : CacheQuery) → World → query.Value → Nat → World
| .tenant partnerSlug, world, config, expiresAt =>
    { world with
      ssoCache := fun other =>
        if other = partnerSlug then some (config, expiresAt)
        else world.ssoCache other }
| .discovery discoveryUrl, world, doc, expiresAt =>
    { world with
      discoveryCache := fun other =>
        if other = discoveryUrl then some (doc, expiresAt)
        else world.discoveryCache other }

@[simp] theorem clock_store
    (query : CacheQuery)
    (world : World)
    (value : query.Value)
    (expiresAt : Nat) :
    (query.store world value expiresAt).clock =
      world.clock := by
  cases query with
  | tenant partnerSlug => rfl
  | discovery discoveryUrl => rfl

@[simp] theorem randoms_store
    (query : CacheQuery)
    (world : World)
    (value : query.Value)
    (expiresAt : Nat) :
    (query.store world value expiresAt).randoms =
      world.randoms := by
  cases query with
  | tenant partnerSlug => rfl
  | discovery discoveryUrl => rfl

@[simp] theorem entry_store_self
    (query : CacheQuery)
    (world : World)
    (value : query.Value)
    (expiresAt : Nat) :
    query.entry (query.store world value expiresAt) =
      some (value, expiresAt) := by
  cases query with
  | tenant partnerSlug =>
      simp [CacheQuery.entry, CacheQuery.store]
  | discovery discoveryUrl =>
      simp [CacheQuery.entry, CacheQuery.store]

/- Other queries keep their entries. -/
theorem entry_store_of_ne
    {query other : CacheQuery}
    (hNe : other ≠ query)
    (world : World)
    (value : query.Value)
    (expiresAt : Nat) :
    other.entry (query.store world value expiresAt) =
      other.entry world := by
  cases query with
  | tenant partnerSlug =>
      cases other with
      | tenant otherSlug =>
          have hSlug : otherSlug ≠ partnerSlug :=
            fun hEq => hNe (by rw [hEq])
          simp [CacheQuery.entry, CacheQuery.store, hSlug]
      | discovery otherUrl => rfl
  | discovery discoveryUrl =>
      cases other with
      | tenant otherSlug => rfl
      | discovery otherUrl =>
          have hUrl : otherUrl ≠ discoveryUrl :=
            fun hEq => hNe (by rw [hEq])
          simp [CacheQuery.entry, CacheQuery.store, hUrl]

/- Random values are drawn, and nothing else is changed. -/
def Draws (world world' : World) : Prop :=
  ∃ drawn,
    world' = { world with randoms := drawn ++ world.randoms }

theorem Draws.clock_eq
    {world world' : World}
    (hDraws : Draws world world') :
    world'.clock = world.clock := by
  obtain ⟨drawn, rfl⟩ := hDraws
  rfl

theorem Draws.entry_eq
    {world world' : World}
    (hDraws : Draws world world')
    (query : CacheQuery) :
    query.entry world' = query.entry world := by
  obtain ⟨drawn, rfl⟩ := hDraws
  cases query with
  | tenant partnerSlug => rfl
  | discovery discoveryUrl => rfl

theorem Draws.randoms_subset
    {world world' : World}
    (hDraws : Draws world world') :
    world.randoms ⊆ world'.randoms := by
  obtain ⟨drawn, rfl⟩ := hDraws
  exact List.subset_append_right _ _

end KisAuth

------------------------------------------------------------
-- The Turns Of A Lookup
------------------------------------------------------------

namespace KisAuth

open Interaction

/- What a lookup returns for a value. -/
def CacheQuery.result :
    (query : CacheQuery) → query.Value → CacheResult
| .tenant _, config => .resolved (.ok config)
| .discovery _, doc => .discovered (some doc)

@[simp] theorem value_result
    (query : CacheQuery)
    (value : query.Value) :
    (query.result value).value query = some value := by
  cases query with
  | tenant partnerSlug => rfl
  | discovery discoveryUrl => rfl

/- A lookup that ends so has no value. -/
def NoValue
    (query : CacheQuery)
    (outcome : Except HttpError CacheResult) : Prop :=
  ∀ result, outcome = .ok result → result.value query = none

/- The rest of a lookup, once it has its reply. -/
def CacheQuery.afterReply :
    CacheQuery → Option FetchReply → KisM CacheResult
| .tenant partnerSlug, reply =>
    match repliedLookup reply with
    | .ok (.ok config) => do
        let now ← dateNow
        call
          (.ssoCacheSet partnerSlug config
            (now + ssoCacheTtlMs))
        return .resolved (.ok config)
    | .ok (.error failure) =>
        return .resolved (.error failure)
    | .error error => .throw error
| .discovery discoveryUrl, reply =>
    match discoveryDocOf reply with
    | some doc => do
        let now ← dateNow
        call
          (.discoveryCacheSet discoveryUrl doc
            (now + discoveryCacheTtlMs))
        return .discovered (some doc)
    | none => return .discovered none

/- What the reply has for the query. -/
def CacheQuery.found :
    (query : CacheQuery) → Option FetchReply →
      Option query.Value
| .tenant _, reply =>
    match repliedLookup reply with
    | .ok (.ok config) => some config
    | _ => none
| .discovery _, reply => discoveryDocOf reply

/- Only a success has something. -/
theorem CacheQuery.found_success
    {query : CacheQuery}
    {reply : Option FetchReply}
    {value : query.Value}
    (hFound : query.found reply = some value) :
    ∃ success,
      reply = some success ∧
        200 ≤ success.status ∧
        success.status < 300 ∧
        query.parsed success = some value := by
  cases query with
  | tenant partnerSlug =>
      simp only [CacheQuery.found] at hFound
      split at hFound
      · next config hLookup =>
          obtain ⟨success, body, rfl, hOk, hBody, hConfig⟩ :=
            repliedLookup_config hLookup
          obtain ⟨hLeast, hMost⟩ :=
            (Bool.and_eq_true _ _).mp hOk
          rw [← hFound]
          refine
            ⟨success, rfl, of_decide_eq_true hLeast,
              of_decide_eq_true hMost, ?_⟩
          rw [CacheQuery.parsed, hBody]
          exact hConfig
      · simp at hFound
  | discovery discoveryUrl =>
      cases reply with
      | none => simp [CacheQuery.found, discoveryDocOf] at hFound
      | some success =>
          have hOk : success.ok = true := by
            by_contra hNot
            simp [CacheQuery.found, discoveryDocOf, hNot]
              at hFound
          obtain ⟨hLeast, hMost⟩ :=
            (Bool.and_eq_true _ _).mp hOk
          exact
            ⟨success, rfl, of_decide_eq_true hLeast,
              of_decide_eq_true hMost, hFound⟩

/- The last turn of a lookup, from its reply. -/
inductive LastTurn
    (query : CacheQuery)
    (reply : Option FetchReply)
    (world : World) : KisM CacheResult → World → Prop where
  | found
      {value : query.Value}
      (hFound : query.found reply = some value) :
      LastTurn query reply world (.ret (query.result value))
        (query.store world value
          (world.clock + query.lifetime))
  | refused
      {program : KisM CacheResult}
      {outcome : Except HttpError CacheResult}
      (hNone : query.found reply = none)
      (hEnded : program.outcome = some outcome)
      (hNoValue : NoValue query outcome) :
      LastTurn query reply world program world

section

variable {P : Platform} {cfg : KisAuthConfig}
variable {world : World}
variable {post : KisM CacheResult → World → Prop}

/- The rule for a call that is answered within the turn. -/
theorem endsTurn_call
    {effect : Eff}
    {next : effect.Res → KisM CacheResult}
    (hAtOnce : Eff.awaited effect = false)
    (hNext :
      ∀ ext value world',
        World.exec P cfg world effect ext =
            some (value, world') →
          EndsTurn (worldSemantics P cfg) Eff.awaited post
            (next value) world') :
    EndsTurn (worldSemantics P cfg) Eff.awaited post
      (call effect >>= next) world := by
  have hNot : Eff.awaited effect ≠ true := by
    rw [hAtOnce]
    simp
  exact endsTurn_answered hNot hNext

theorem endsTurn_dateNow
    {next : Nat → KisM CacheResult}
    (hNext :
      EndsTurn (worldSemantics P cfg) Eff.awaited post
        (next world.clock) world) :
    EndsTurn (worldSemantics P cfg) Eff.awaited post
      (dateNow >>= next) world := by
  apply endsTurn_call rfl
  intro ext value world' hExec
  obtain ⟨rfl, rfl⟩ :=
    Prod.mk.inj (Option.some.inj hExec)
  exact hNext

theorem endsTurn_randomId
    {next : String → KisM CacheResult}
    (hNext :
      ∀ value world',
        Draws world world' →
          EndsTurn (worldSemantics P cfg) Eff.awaited post
            (next value) world') :
    EndsTurn (worldSemantics P cfg) Eff.awaited post
      (randomId >>= next) world := by
  apply endsTurn_call rfl
  intro ext value world' hExec
  apply hNext
  simp only [World.exec, World.backend, World.execOther]
    at hExec
  split at hExec
  · next drawn =>
      split at hExec
      · simp at hExec
      · obtain ⟨_, rfl⟩ := Prod.mk.inj (Option.some.inj hExec)
        exact ⟨[drawn], rfl⟩
  · simp at hExec

/- A network request ends the turn. -/
theorem endsTurn_doFetch
    {request : FetchRequest}
    {next : Option FetchReply → KisM CacheResult}
    (hPost : post (.call (.fetch request) next) world) :
    EndsTurn (worldSemantics P cfg) Eff.awaited post
      (doFetch request >>= next) world :=
  endsTurn_awaited rfl hPost

/- A value that the runtime may fail to make. -/
theorem endsTurn_orCrash
    {α : Type}
    {made : Option α}
    {next : α → KisM CacheResult}
    (hCrash : made = none → post (.throw .internal) world)
    (hNext :
      ∀ value,
        made = some value →
          EndsTurn (worldSemantics P cfg) Eff.awaited post
            (next value) world) :
    EndsTurn (worldSemantics P cfg) Eff.awaited post
      (orCrash made >>= next) world := by
  cases made with
  | none => exact hCrash rfl
  | some value => exact hNext value rfl

end

theorem afterReply_endsTurn
    (P : Platform)
    (cfg : KisAuthConfig)
    (query : CacheQuery)
    (reply : Option FetchReply)
    (world : World) :
    EndsTurn (worldSemantics P cfg) Eff.awaited
      (LastTurn query reply world) (query.afterReply reply)
      world := by
  cases query with
  | tenant partnerSlug =>
      simp only [CacheQuery.afterReply]
      split
      · next config hLookup =>
          apply endsTurn_dateNow
          apply endsTurn_call rfl
          intro ext value world' hExec
          obtain ⟨_, rfl⟩ :=
            Prod.mk.inj (Option.some.inj hExec)
          have hFound :
              (CacheQuery.tenant partnerSlug).found reply =
                some config := by
            simp only [CacheQuery.found, hLookup]
          exact LastTurn.found hFound
      · next failure hLookup =>
          have hNone :
              (CacheQuery.tenant partnerSlug).found reply =
                none := by
            simp only [CacheQuery.found, hLookup]
          refine LastTurn.refused hNone rfl ?_
          rintro result ⟨⟩
          rfl
      · next error hLookup =>
          have hNone :
              (CacheQuery.tenant partnerSlug).found reply =
                none := by
            simp only [CacheQuery.found, hLookup]
          refine LastTurn.refused hNone rfl ?_
          rintro result ⟨⟩
  | discovery discoveryUrl =>
      simp only [CacheQuery.afterReply]
      split
      · next doc hDoc =>
          apply endsTurn_dateNow
          apply endsTurn_call rfl
          intro ext value world' hExec
          obtain ⟨_, rfl⟩ :=
            Prod.mk.inj (Option.some.inj hExec)
          have hFound :
              (CacheQuery.discovery discoveryUrl).found reply =
                some doc := hDoc
          exact LastTurn.found hFound
      · next hDoc =>
          have hNone :
              (CacheQuery.discovery discoveryUrl).found reply =
                none := hDoc
          refine LastTurn.refused hNone rfl ?_
          rintro result ⟨⟩
          rfl

/- The first turn of a lookup. -/
inductive FirstTurn
    (P : Platform)
    (cfg : KisAuthConfig)
    (query : CacheQuery)
    (world : World) : KisM CacheResult → World → Prop where
  | cached
      {value : query.Value}
      {expiresAt : Nat}
      (hEntry : query.entry world = some (value, expiresAt))
      (hFresh : world.clock < expiresAt) :
      FirstTurn P cfg query world
        (.ret (query.result value)) world
  | asked
      {request : FetchRequest}
      {world' : World}
      (hAsks : query.Asks P cfg request)
      (hDraws : Draws world world') :
      FirstTurn P cfg query world
        (.call (.fetch request) query.afterReply) world'
  | failed
      {program : KisM CacheResult}
      {outcome : Except HttpError CacheResult}
      {world' : World}
      (hEnded : program.outcome = some outcome)
      (hNoValue : NoValue query outcome)
      (hDraws : Draws world world') :
      FirstTurn P cfg query world program world'

theorem FirstTurn.asked_of_eq
    {P : Platform}
    {cfg : KisAuthConfig}
    {query : CacheQuery}
    {world world' : World}
    {request : FetchRequest}
    {next : Option FetchReply → KisM CacheResult}
    (hRest : ∀ reply, next reply = query.afterReply reply)
    (hAsks : query.Asks P cfg request)
    (hDraws : Draws world world') :
    FirstTurn P cfg query world
      (.call (.fetch request) next) world' := by
  obtain rfl : next = query.afterReply := funext hRest
  exact FirstTurn.asked hAsks hDraws

theorem Draws.refl (world : World) : Draws world world :=
  ⟨[], rfl⟩

theorem freshEntry_eq_some
    {α : Type}
    {cached : Option (α × Nat)}
    {now : Nat}
    {value : α}
    (hFresh : freshEntry cached now = some value) :
    ∃ expiresAt,
      cached = some (value, expiresAt) ∧ now < expiresAt := by
  unfold freshEntry at hFresh
  split at hFresh
  · next found expiresAt =>
      split at hFresh
      · next hBefore =>
          obtain rfl := Option.some.inj hFresh
          exact ⟨expiresAt, rfl, hBefore⟩
      · simp at hFresh
  · simp at hFresh

/- The rest of a tenant's lookup, as the code has it. -/
theorem afterReply_tenant
    (partnerSlug : String)
    (reply : Option FetchReply) :
    (CacheQuery.tenant partnerSlug).afterReply reply =
      (do
        let resolved ← resolveReply reply
        match resolved with
        | .error failure =>
            return .resolved (.error failure)
        | .ok config =>
            let now ← dateNow
            call
              (.ssoCacheSet partnerSlug config
                (now + ssoCacheTtlMs))
            return .resolved (.ok config)) := by
  rw [resolveReply_eq]
  simp only [CacheQuery.afterReply]
  cases repliedLookup reply with
  | error error => rfl
  | ok resolved =>
      cases resolved with
      | error failure => rfl
      | ok config => rfl

/- Without a fresh entry, Django is asked. -/
theorem requestPartnerConfig_endsTurn
    {P : Platform}
    {cfg : KisAuthConfig}
    {partnerSlug : String}
    {world : World}
    {next :
      Except ResolveFailure OidcPartnerConfig →
        KisM CacheResult}
    (hRest :
      ∀ reply,
        (resolveReply reply >>= next) =
          (CacheQuery.tenant partnerSlug).afterReply reply) :
    EndsTurn (worldSemantics P cfg) Eff.awaited
      (FirstTurn P cfg (.tenant partnerSlug) world)
      (requestPartnerConfig P cfg partnerSlug >>= next)
      world := by
  have hCrash :
      ∀ world',
        Draws world world' →
          FirstTurn P cfg (.tenant partnerSlug) world
            (.throw .internal) world' := by
    intro world' hDraws
    refine FirstTurn.failed rfl ?_ hDraws
    rintro result ⟨⟩
  simp only [requestPartnerConfig, Prog.bind_eq,
    Prog.bind_assoc]
  apply endsTurn_orCrash (fun _ => hCrash _ (.refl world))
  intro base hBase
  apply endsTurn_dateNow
  apply endsTurn_randomId
  intro nonce world' hDraws
  apply endsTurn_orCrash (fun _ => hCrash _ hDraws)
  intro headers hHeaders
  apply endsTurn_doFetch
  exact FirstTurn.asked_of_eq hRest ⟨base, hBase, rfl⟩ hDraws

theorem cacheLookup_endsTurn
    (P : Platform)
    (cfg : KisAuthConfig)
    (query : CacheQuery)
    (world : World) :
    EndsTurn (worldSemantics P cfg) Eff.awaited
      (FirstTurn P cfg query world) (cacheLookup P cfg query)
      world := by
  cases query with
  | tenant partnerSlug =>
      simp only [cacheLookup,
        OidcProviderResolverService.resolve, Prog.bind_eq,
        Prog.bind_assoc]
      apply endsTurn_call rfl
      intro ext cached world' hExec
      obtain ⟨rfl, rfl⟩ :=
        Prod.mk.inj (Option.some.inj hExec)
      apply endsTurn_dateNow
      split
      · next config hFresh =>
          obtain ⟨expiresAt, hEntry, hBefore⟩ :=
            freshEntry_eq_some hFresh
          exact FirstTurn.cached hEntry hBefore
      · split
        · refine FirstTurn.failed rfl ?_ (.refl world)
          rintro result ⟨⟩
          rfl
        · simp only [Prog.bind_assoc]
          apply requestPartnerConfig_endsTurn
          intro reply
          rw [afterReply_tenant]
          congr 1
          funext resolved
          cases resolved with
          | error failure => rfl
          | ok config => rfl
  | discovery discoveryUrl =>
      simp only [cacheLookup,
        OidcDiscoveryService.fetchDiscovery, Prog.bind_eq,
        Prog.bind_assoc]
      apply endsTurn_call rfl
      intro ext cached world' hExec
      obtain ⟨rfl, rfl⟩ :=
        Prod.mk.inj (Option.some.inj hExec)
      apply endsTurn_dateNow
      split
      · next doc hFresh =>
          obtain ⟨expiresAt, hEntry, hBefore⟩ :=
            freshEntry_eq_some hFresh
          exact FirstTurn.cached hEntry hBefore
      · simp only [Prog.bind_assoc]
        apply endsTurn_doFetch
        refine FirstTurn.asked_of_eq ?_ rfl (.refl world)
        intro reply
        simp only [CacheQuery.afterReply]
        cases discoveryDocOf reply with
        | none => rfl
        | some doc => rfl

end KisAuth

------------------------------------------------------------
-- Entries And Their Sources
------------------------------------------------------------

namespace KisAuth

open Interaction

variable {P : Platform} {cfg : KisAuthConfig}
variable {process process' : CacheProcess}
variable {query : CacheQuery}

/-
  Every entry was received in some turn, at its time. Calls
  that wait do so for the reply to their own request.
-/
structure CacheInvariant
    (P : Platform)
    (cfg : KisAuthConfig)
    (process : CacheProcess) : Prop where
  entries :
    ∀ (query : CacheQuery) value expiresAt,
      query.entry process.world = some (value, expiresAt) →
        ∃ source ∈ process.turns,
          Received P cfg query value source ∧
            source.time ≤ process.world.clock ∧
            expiresAt = source.time + query.lifetime
  waiting :
    ∀ call thread,
      process.waiting call = some thread →
        ∃ request,
          thread.request.Asks P cfg request ∧
            thread.program =
              .call (.fetch request) thread.request.afterReply
  fresh : Always (FreshResult P cfg) process.turns

/- A turn that ends the lookup without a value is fresh. -/
theorem freshResult_of_noValue
    {turn : CacheTurn}
    {earlier : List CacheTurn}
    (hNoValue :
      ∀ outcome,
        turn.outcome = some outcome →
          NoValue turn.request outcome) :
    FreshResult P cfg turn earlier := by
  rintro query value ⟨rfl, result, hOutcome, hValue⟩
  rw [hNoValue _ hOutcome result rfl] at hValue
  cases hValue

/- Drawing random values touches no entry. -/
theorem CacheInvariant.draws
    {world' : World}
    (hInv : CacheInvariant P cfg process)
    (hDraws : Draws process.world world')
    {turns : List CacheTurn}
    (hTurns : process.turns ⊆ turns)
    {value : query.Value}
    {expiresAt : Nat}
    (hEntry : query.entry world' = some (value, expiresAt)) :
    ∃ source ∈ turns,
      Received P cfg query value source ∧
        source.time ≤ world'.clock ∧
        expiresAt = source.time + query.lifetime := by
  rw [hDraws.entry_eq] at hEntry
  obtain ⟨source, hMem, hReceived, hTime, hExpires⟩ :=
    hInv.entries query value expiresAt hEntry
  rw [hDraws.clock_eq]
  exact
    ⟨source, hTurns hMem, hReceived, hTime, hExpires⟩

/- A call that waits, after a turn of some call. -/
theorem CacheInvariant.waiting_turned
    {call : Nat}
    {time : Nat}
    {answer : Option (Answer Eff Eff.Res)}
    {settled : KisM CacheResult × World}
    (hInv : CacheInvariant P cfg process)
    (hSettled :
      settled.1.outcome = none →
        ∃ request,
          query.Asks P cfg request ∧
            settled.1 =
              .call (.fetch request) query.afterReply)
    {other : Nat}
    {thread :
      Thread Eff Eff.Res HttpError CacheQuery CacheResult}
    (hWaiting :
      (process.turned call query time answer
          settled).waiting other =
        some thread) :
    ∃ request,
      thread.request.Asks P cfg request ∧
        thread.program =
          .call (.fetch request) thread.request.afterReply := by
  by_cases hSame : other = call
  · subst hSame
    simp only [Process.turned, setThread, if_true] at hWaiting
    split at hWaiting
    · cases hWaiting
    · next hNot =>
        obtain rfl := Option.some.inj hWaiting
        exact hSettled (by simpa using hNot)
  · simp only [Process.turned, setThread, hSame, if_false]
      at hWaiting
    exact hInv.waiting other thread hWaiting

theorem CacheInvariant.first
    {call : Nat}
    {settled : KisM CacheResult × World}
    (hInv : CacheInvariant P cfg process)
    (hFirst :
      FirstTurn P cfg query process.world settled.1
        settled.2) :
    CacheInvariant P cfg
      (process.turned call query process.world.clock none
        settled) := by
  have hTurns :
      process.turns ⊆
        (process.turned call query process.world.clock none
          settled).turns :=
    List.subset_cons_self _ _
  obtain ⟨program, world'⟩ := settled
  cases hFirst with
  | @cached value expiresAt hEntry hFresh =>
      refine
        { entries := fun other found expires hOther =>
            hInv.draws (.refl _) hTurns hOther
          waiting := fun other thread hWaiting =>
            hInv.waiting_turned (by simp [Prog.outcome])
              hWaiting
          fresh := ⟨?_, hInv.fresh⟩ }
      rintro other found ⟨rfl, result, hOutcome, hValue⟩
      obtain ⟨source, hMem, hReceived, hTime, rfl⟩ :=
        hInv.entries _ _ _ hEntry
      obtain rfl := Except.ok.inj (Option.some.inj hOutcome)
      rw [value_result] at hValue
      obtain rfl := Option.some.inj hValue
      exact Or.inr ⟨source, hMem, hReceived, hTime, hFresh⟩
  | @asked request _ hAsks hDraws =>
      refine
        { entries := fun other found expires hOther =>
            hInv.draws hDraws hTurns hOther
          waiting := fun other thread hWaiting =>
            hInv.waiting_turned
              (fun _ => ⟨request, hAsks, rfl⟩) hWaiting
          fresh := ⟨?_, hInv.fresh⟩ }
      apply freshResult_of_noValue
      rintro outcome ⟨⟩
  | failed hEnded hNoValue hDraws =>
      refine
        { entries := fun other found expires hOther =>
            hInv.draws hDraws hTurns hOther
          waiting := fun other thread hWaiting =>
            hInv.waiting_turned (by simp [hEnded]) hWaiting
          fresh := ⟨?_, hInv.fresh⟩ }
      apply freshResult_of_noValue
      intro outcome hOutcome
      obtain rfl :=
        Option.some.inj (hEnded.symm.trans hOutcome)
      exact hNoValue

/- A reply with something for the query, in its turn. -/
theorem received_of_found
    {turn : CacheTurn}
    {request : FetchRequest}
    {reply : Option FetchReply}
    {value : query.Value}
    (hRequest : turn.request = query)
    (hAnswer : turn.answer = some ⟨.fetch request, reply⟩)
    (hAsks : query.Asks P cfg request)
    (hFound : query.found reply = some value) :
    Received P cfg query value turn := by
  obtain ⟨success, rfl, hLeast, hMost, hParsed⟩ :=
    CacheQuery.found_success hFound
  exact
    ⟨hRequest, request, success, hAnswer, hAsks, hLeast,
      hMost, hParsed⟩

theorem CacheInvariant.last
    {call : Nat}
    {request : FetchRequest}
    {reply : Option FetchReply}
    {settled : KisM CacheResult × World}
    (hInv : CacheInvariant P cfg process)
    (hAsks : query.Asks P cfg request)
    (hLast :
      LastTurn query reply process.world settled.1
        settled.2) :
    CacheInvariant P cfg
      (process.turned call query process.world.clock
        (some ⟨.fetch request, reply⟩) settled) := by
  have hTurns :
      process.turns ⊆
        (process.turned call query process.world.clock
          (some ⟨.fetch request, reply⟩) settled).turns :=
    List.subset_cons_self _ _
  obtain ⟨program, world'⟩ := settled
  cases hLast with
  | @found value hFound =>
      refine
        { entries := ?_
          waiting := fun other thread hWaiting =>
            hInv.waiting_turned (by simp [Prog.outcome])
              hWaiting
          fresh := ⟨?_, hInv.fresh⟩ }
      · intro other entered expires hEntry
        by_cases hSame : other = query
        · subst hSame
          obtain ⟨rfl, rfl⟩ :=
            Prod.mk.inj
              (Option.some.inj
                ((entry_store_self _ _ _ _).symm.trans
                  hEntry))
          refine
            ⟨_, List.mem_cons_self,
              received_of_found rfl rfl hAsks hFound,
              (clock_store other _ value _).ge, rfl⟩
        · have hBefore :
              other.entry process.world =
                some (entered, expires) :=
            (entry_store_of_ne hSame _ _ _).symm.trans hEntry
          obtain ⟨source, hMem, hReceived, hTime, hExpires⟩ :=
            hInv.entries _ _ _ hBefore
          exact
            ⟨source, hTurns hMem, hReceived,
              hTime.trans (clock_store query _ value _).ge,
              hExpires⟩
      · rintro other returned ⟨rfl, result, hOutcome, hValue⟩
        obtain rfl := Except.ok.inj (Option.some.inj hOutcome)
        rw [value_result] at hValue
        obtain rfl := Option.some.inj hValue
        exact
          Or.inl (received_of_found rfl rfl hAsks hFound)
  | refused hNone hEnded hNoValue =>
      refine
        { entries := fun other entered expires hEntry =>
            hInv.draws (.refl _) hTurns hEntry
          waiting := fun other thread hWaiting =>
            hInv.waiting_turned (by simp [hEnded]) hWaiting
          fresh := ⟨?_, hInv.fresh⟩ }
      apply freshResult_of_noValue
      intro outcome hOutcome
      obtain rfl :=
        Option.some.inj (hEnded.symm.trans hOutcome)
      exact hNoValue

/- What the environment does leaves the caches alone. -/
theorem env_caches
    {world world' : World}
    {op : EnvOp}
    (hEnv : world.env op = some world')
    (query : CacheQuery) :
    query.entry world' = query.entry world ∧
      world'.randoms = world.randoms := by
  cases op with
  | tick milliseconds =>
      obtain rfl := Option.some.inj hEnv
      cases query with
      | tenant partnerSlug => exact ⟨rfl, rfl⟩
      | discovery discoveryUrl => exact ⟨rfl, rfl⟩
  | setIdentityStatus id status =>
      obtain rfl := Option.some.inj hEnv
      cases query with
      | tenant partnerSlug => exact ⟨rfl, rfl⟩
      | discovery discoveryUrl => exact ⟨rfl, rfl⟩
  | setClient clientId client =>
      obtain rfl := Option.some.inj hEnv
      cases query with
      | tenant partnerSlug => exact ⟨rfl, rfl⟩
      | discovery discoveryUrl => exact ⟨rfl, rfl⟩

/-
  The move of a call that waits: it has its reply, and what
  is left is its last turn.
-/
theorem CacheInvariant.resumed
    {call : Nat}
    {effect : Eff}
    {next : effect.Res → KisM CacheResult}
    {ext : External}
    {value : effect.Res}
    {world : World}
    {exts : List External}
    {settled : KisM CacheResult × World}
    (hInv : CacheInvariant P cfg process)
    (hWaiting :
      process.waiting call =
        some ⟨query, .call effect next⟩)
    (hExec :
      (worldSemantics P cfg).exec process.world effect ext =
        some (value, world))
    (hSettle :
      settle (worldSemantics P cfg) Eff.awaited (next value)
          world exts =
        some settled) :
    ∃ request reply,
      query.Asks P cfg request ∧
        (⟨effect, value⟩ : Answer Eff Eff.Res) =
          ⟨.fetch request, reply⟩ ∧
        next value = query.afterReply reply ∧
        world = process.world ∧
        LastTurn query reply process.world settled.1
          settled.2 := by
  obtain ⟨request, hAsks, hProgram⟩ :=
    hInv.waiting call _ hWaiting
  simp only [Prog.call.injEq] at hProgram
  obtain ⟨rfl, hNext⟩ := hProgram
  obtain rfl := eq_of_heq hNext
  have hFetched : world = process.world := by
    simp only [worldSemantics, World.exec, World.backend,
      World.execOther] at hExec
    split at hExec
    · exact
        (Prod.mk.inj (Option.some.inj hExec)).2.symm
    · cases hExec
  subst hFetched
  exact
    ⟨request, value, hAsks, rfl, rfl, rfl,
      (afterReply_endsTurn P cfg query value _).settle
        hSettle⟩

theorem CacheInvariant.move
    {move : CacheMove}
    (hInv : CacheInvariant P cfg process)
    (hTurn :
      takeTurn (worldSemantics P cfg) Eff.awaited
          (cacheLookup P cfg) World.clock process move =
        some process') :
    CacheInvariant P cfg process' := by
  rcases takeTurn_cases hTurn with
    ⟨call, query, exts, settled, rfl, hNew, hSettle, rfl⟩ |
    ⟨call, ext, exts, query, effect, next, value, world,
      settled, rfl, hWaiting, hExec, hSettle, rfl⟩ |
    ⟨op, world, rfl, hEnv, rfl⟩
  · exact
      hInv.first
        ((cacheLookup_endsTurn P cfg query _).settle hSettle)
  · obtain ⟨request, reply, hAsks, hAnswer, _, _, hLast⟩ :=
      hInv.resumed hWaiting hExec hSettle
    rw [hAnswer]
    exact hInv.last hAsks hLast
  · refine
      { entries := ?_
        waiting := hInv.waiting
        fresh := hInv.fresh }
    intro query value expiresAt hEntry
    rw [(env_caches hEnv query).1] at hEntry
    obtain ⟨source, hMem, hReceived, hTime, hExpires⟩ :=
      hInv.entries query value expiresAt hEntry
    exact
      ⟨source, hMem, hReceived,
        hTime.trans (env_frame hEnv).2, hExpires⟩

theorem cacheInvariant_init
    (clients : String → Option RegisteredClient) :
    CacheInvariant P cfg (.init (World.empty clients)) where
  entries := by
    intro query value expiresAt hEntry
    cases query with
    | tenant partnerSlug => cases hEntry
    | discovery discoveryUrl => cases hEntry
  waiting := by
    rintro call thread ⟨⟩
  fresh := trivial

theorem CacheInvariant.run
    {moves : List CacheMove}
    (hInv : CacheInvariant P cfg process)
    (hRun :
      runLookups P cfg process moves = some process') :
    CacheInvariant P cfg process' :=
  runTurns_invariant (fun hInv hTurn => hInv.move hTurn) hInv
    hRun

end KisAuth

------------------------------------------------------------
-- Worlds That Are The Same For Some Queries
------------------------------------------------------------

namespace KisAuth

open Interaction

variable {P : Platform} {cfg : KisAuthConfig}
variable {keys : CacheQuery → Prop}
variable {query : CacheQuery}
variable {world world' base : World}

/-
  The entries of these queries are the same, and what is new
  as a random value to the one world is new to the other.
-/
structure SameFor
    (keys : CacheQuery → Prop)
    (world base : World) : Prop where
  clock : world.clock = base.clock
  entries :
    ∀ query, keys query → query.entry world = query.entry base
  randoms : base.randoms ⊆ world.randoms

theorem SameFor.store
    (hSame : SameFor keys world base)
    (value : query.Value)
    (expiresAt : Nat) :
    SameFor keys (query.store world value expiresAt)
      (query.store base value expiresAt) where
  clock := by
    rw [clock_store, clock_store]
    exact hSame.clock
  entries := by
    intro other hKey
    by_cases hQuery : other = query
    · subst hQuery
      rw [entry_store_self, entry_store_self]
    · rw [entry_store_of_ne hQuery, entry_store_of_ne hQuery]
      exact hSame.entries other hKey
  randoms := by
    rw [randoms_store, randoms_store]
    exact hSame.randoms

/- An entry of another query makes no difference. -/
theorem SameFor.storeOther
    (hSame : SameFor keys world base)
    (hOther : ¬keys query)
    (value : query.Value)
    (expiresAt : Nat) :
    SameFor keys (query.store world value expiresAt) base where
  clock := by
    rw [clock_store]
    exact hSame.clock
  entries := by
    intro other hKey
    have hQuery : other ≠ query := by
      rintro rfl
      exact hOther hKey
    rw [entry_store_of_ne hQuery]
    exact hSame.entries other hKey
  randoms := by
    rw [randoms_store]
    exact hSame.randoms

theorem SameFor.draws
    (hSame : SameFor keys world base)
    (hDraws : Draws world world') :
    SameFor keys world' base where
  clock := hDraws.clock_eq.trans hSame.clock
  entries := fun query hKey =>
    (hDraws.entry_eq query).trans (hSame.entries query hKey)
  randoms :=
    List.Subset.trans hSame.randoms hDraws.randoms_subset

/- Both draw the same value. -/
theorem SameFor.draw
    (hSame : SameFor keys world base)
    (value : String) :
    SameFor keys (world.draw value) (base.draw value) where
  clock := hSame.clock
  entries := by
    intro query hKey
    have hEntry := hSame.entries query hKey
    cases query with
    | tenant partnerSlug => exact hEntry
    | discovery discoveryUrl => exact hEntry
  randoms := List.cons_subset_cons value hSame.randoms

/- The calls that a lookup may make. -/
def CacheQuery.Uses (query : CacheQuery) : Eff → Prop
| .ssoCacheGet partnerSlug => query = .tenant partnerSlug
| .ssoCacheSet partnerSlug _ _ => query = .tenant partnerSlug
| .discoveryCacheGet discoveryUrl =>
    query = .discovery discoveryUrl
| .discoveryCacheSet discoveryUrl _ _ =>
    query = .discovery discoveryUrl
| .dateNow => True
| .random => True
| .fetch _ => True
| _ => False

/- Such calls are answered alike. -/
theorem SameFor.exec
    {effect : Eff}
    {ext : External}
    {value : effect.Res}
    (hKey : keys query)
    (hUses : query.Uses effect)
    (hSame : SameFor keys world base)
    (hExec :
      (worldSemantics P cfg).exec world effect ext =
        some (value, world')) :
    ∃ base',
      (worldSemantics P cfg).exec base effect ext =
          some (value, base') ∧
        SameFor keys world' base' := by
  cases effect with
  | dateNow =>
      obtain ⟨rfl, rfl⟩ :=
        Prod.mk.inj (Option.some.inj hExec)
      refine ⟨base, ?_, hSame⟩
      rw [hSame.clock]
      rfl
  | random =>
      simp only [worldSemantics, World.exec, World.backend,
        World.execOther] at hExec
      split at hExec
      · next drawn =>
          split at hExec
          · cases hExec
          · next hNew =>
              obtain ⟨rfl, rfl⟩ :=
                Prod.mk.inj (Option.some.inj hExec)
              have hNew' : drawn ∉ base.randoms :=
                fun hMem => hNew (hSame.randoms hMem)
              refine
                ⟨base.draw drawn, ?_, hSame.draw drawn⟩
              simp only [worldSemantics, World.exec,
                World.backend, World.execOther, hNew',
                if_false]
      · cases hExec
  | fetch request =>
      simp only [worldSemantics, World.exec, World.backend,
        World.execOther] at hExec
      split at hExec
      · obtain ⟨rfl, rfl⟩ :=
          Prod.mk.inj (Option.some.inj hExec)
        exact ⟨base, rfl, hSame⟩
      · cases hExec
  | ssoCacheGet partnerSlug =>
      obtain rfl := hUses
      obtain ⟨rfl, rfl⟩ :=
        Prod.mk.inj (Option.some.inj hExec)
      refine ⟨base, ?_, hSame⟩
      have hEntry := hSame.entries _ hKey
      simp only [CacheQuery.entry] at hEntry
      rw [hEntry]
      rfl
  | ssoCacheSet partnerSlug config expiresAt =>
      obtain rfl := hUses
      obtain ⟨rfl, rfl⟩ :=
        Prod.mk.inj (Option.some.inj hExec)
      exact
        ⟨_, rfl, @SameFor.store keys (.tenant partnerSlug) _ _
          hSame config expiresAt⟩
  | discoveryCacheGet discoveryUrl =>
      obtain rfl := hUses
      obtain ⟨rfl, rfl⟩ :=
        Prod.mk.inj (Option.some.inj hExec)
      refine ⟨base, ?_, hSame⟩
      have hEntry := hSame.entries _ hKey
      simp only [CacheQuery.entry] at hEntry
      rw [hEntry]
      rfl
  | discoveryCacheSet discoveryUrl doc expiresAt =>
      obtain rfl := hUses
      obtain ⟨rfl, rfl⟩ :=
        Prod.mk.inj (Option.some.inj hExec)
      exact
        ⟨_, rfl,
          @SameFor.store keys (.discovery discoveryUrl) _ _
            hSame doc expiresAt⟩
  | _ => exact hUses.elim

end KisAuth

------------------------------------------------------------
-- Some Of The Calls
------------------------------------------------------------

namespace KisAuth

open Interaction

variable {P : Platform} {cfg : KisAuthConfig}
variable {query : CacheQuery} {past : Past}

/- The program makes calls of the query's own cache only. -/
abbrev StaysWithin
    (query : CacheQuery)
    (program : KisM CacheResult)
    (past : Past) : Prop :=
  program.Obeys (fun _ => query.Uses) (fun _ _ => True) past

theorem staysWithin_orCrash
    {α : Type}
    {made : Option α}
    {next : α → KisM CacheResult}
    (hNext : ∀ value, StaysWithin query (next value) past) :
    StaysWithin query (orCrash made >>= next) past := by
  cases made with
  | none => trivial
  | some value => exact hNext value

theorem afterReply_staysWithin
    (query : CacheQuery)
    (reply : Option FetchReply)
    (past : Past) :
    StaysWithin query (query.afterReply reply) past := by
  cases query with
  | tenant partnerSlug =>
      simp only [CacheQuery.afterReply]
      split
      · exact
          ⟨trivial, fun now => ⟨rfl, fun done => trivial⟩⟩
      · trivial
      · trivial
  | discovery discoveryUrl =>
      simp only [CacheQuery.afterReply]
      split
      · exact
          ⟨trivial, fun now => ⟨rfl, fun done => trivial⟩⟩
      · trivial

theorem cacheLookup_staysWithin
    (query : CacheQuery) :
    StaysWithin query (cacheLookup P cfg query) [] := by
  cases query with
  | tenant partnerSlug =>
      simp only [cacheLookup,
        OidcProviderResolverService.resolve, Prog.bind_eq,
        Prog.bind_assoc]
      refine ⟨rfl, fun cached => ⟨trivial, fun readAt => ?_⟩⟩
      simp only [Prog.bind_ret]
      split
      · trivial
      · split
        · trivial
        · simp only [requestPartnerConfig, Prog.bind_eq,
            Prog.bind_assoc]
          apply staysWithin_orCrash
          intro base
          refine
            ⟨trivial, fun now => ⟨trivial, fun nonce => ?_⟩⟩
          apply staysWithin_orCrash
          intro headers
          refine ⟨trivial, fun reply => ?_⟩
          simp only [Prog.bind_ret, resolveReply_eq]
          cases repliedLookup reply with
          | error error => trivial
          | ok resolved =>
              cases resolved with
              | error failure => trivial
              | ok config =>
                  exact
                    ⟨trivial, fun now =>
                      ⟨rfl, fun done => trivial⟩⟩
  | discovery discoveryUrl =>
      simp only [cacheLookup,
        OidcDiscoveryService.fetchDiscovery, Prog.bind_eq,
        Prog.bind_assoc]
      refine ⟨rfl, fun cached => ⟨trivial, fun readAt => ?_⟩⟩
      simp only [Prog.bind_ret]
      split
      · trivial
      · refine ⟨trivial, fun reply => ?_⟩
        simp only [Prog.bind_ret]
        split
        · trivial
        · exact
            ⟨trivial, fun now => ⟨rfl, fun done => trivial⟩⟩

variable {kept : Nat → Bool} {keys : CacheQuery → Prop}
variable {full full' base : CacheProcess}

/-
  The process without the calls that are not kept: the kept
  calls are where they are in the full one.
-/
structure KeptPart
    (kept : Nat → Bool)
    (keys : CacheQuery → Prop)
    (full base : CacheProcess) : Prop where
  world : SameFor keys full.world base.world
  waiting :
    ∀ call,
      kept call = true →
        base.waiting call = full.waiting call
  turns :
    base.turns =
      full.turns.filter (fun turn => kept turn.call)

/- A turn of a kept call, in both. -/
theorem KeptPart.turned
    {call time : Nat}
    {answer : Option (Answer Eff Eff.Res)}
    {program : KisM CacheResult}
    {world world' : World}
    (hPart : KeptPart kept keys full base)
    (hCall : kept call = true)
    (hWorld : SameFor keys world world') :
    KeptPart kept keys
      (full.turned call query time answer (program, world))
      (base.turned call query time answer
        (program, world')) where
  world := hWorld
  waiting := by
    intro other hOther
    by_cases hSame : other = call
    · simp [Process.turned, setThread, hSame]
    · simpa [Process.turned, setThread, hSame]
        using hPart.waiting other hOther
  turns := by
    simp only [Process.turned, List.filter_cons, hCall,
      if_true]
    rw [hPart.turns]

/- A turn that is left out. -/
theorem KeptPart.skipped
    {call time : Nat}
    {answer : Option (Answer Eff Eff.Res)}
    {settled : KisM CacheResult × World}
    (hPart : KeptPart kept keys full base)
    (hCall : kept call = false)
    (hWorld : SameFor keys settled.2 base.world) :
    KeptPart kept keys
      (full.turned call query time answer settled) base where
  world := hWorld
  waiting := by
    intro other hOther
    have hNe : other ≠ call := by
      rintro rfl
      rw [hCall] at hOther
      cases hOther
    simpa [Process.turned, setThread, hNe]
      using hPart.waiting other hOther
  turns := by
    simp only [Process.turned, List.filter_cons, hCall,
      Bool.false_eq_true, if_false]
    exact hPart.turns

/- What a kept call does, it does in the base process. -/
theorem KeptPart.settled
    {program : KisM CacheResult}
    {world world' : World}
    {exts : List External}
    {settled : KisM CacheResult × World}
    (hKey : keys query)
    (hStays : StaysWithin query program past)
    (hWorld : SameFor keys world world')
    (hSettle :
      settle (worldSemantics P cfg) Eff.awaited program world
          exts =
        some settled) :
    ∃ last,
      settle (worldSemantics P cfg) Eff.awaited program world'
          exts =
        some (settled.1, last) ∧
        SameFor keys settled.2 last :=
  settle_alike
    (fun hUses hSame hExec =>
      SameFor.exec hKey hUses hSame hExec)
    hStays hWorld hSettle

/- A first turn leaves the entries alone. -/
theorem FirstTurn.sameFor
    {program : KisM CacheResult}
    {world world' other : World}
    (hFirst : FirstTurn P cfg query world program world')
    (hWorld : SameFor keys world other) :
    SameFor keys world' other := by
  cases hFirst with
  | cached hEntry hFresh => exact hWorld
  | asked hAsks hDraws => exact hWorld.draws hDraws
  | failed hEnded hNoValue hDraws =>
      exact hWorld.draws hDraws

/- So does a last turn, but for what it found. -/
theorem LastTurn.sameFor
    {reply : Option FetchReply}
    {program : KisM CacheResult}
    {world world' other : World}
    (hLast : LastTurn query reply world program world')
    (hWorld : SameFor keys world other)
    (hOther :
      ∀ value, query.found reply = some value → ¬keys query) :
    SameFor keys world' other := by
  cases hLast with
  | found hFound =>
      exact hWorld.storeOther (hOther _ hFound) _ _
  | refused hNone hEnded hNoValue => exact hWorld

/- The environment acts in both worlds. -/
theorem SameFor.env
    {world world' other : World}
    {op : EnvOp}
    (hWorld : SameFor keys world other)
    (hEnv : world.env op = some world') :
    ∃ other',
      World.env other op = some other' ∧
        SameFor keys world' other' := by
  obtain ⟨other', hOther⟩ :
      ∃ other', other.env op = some other' := by
    cases op with
    | tick milliseconds => exact ⟨_, rfl⟩
    | setIdentityStatus id status => exact ⟨_, rfl⟩
    | setClient clientId client => exact ⟨_, rfl⟩
  refine ⟨other', hOther, ?_⟩
  constructor
  · have hClock := hWorld.clock
    cases op with
    | tick milliseconds =>
        obtain rfl := Option.some.inj hEnv
        obtain rfl := Option.some.inj hOther
        simp only [hClock]
    | setIdentityStatus id status =>
        obtain rfl := Option.some.inj hEnv
        obtain rfl := Option.some.inj hOther
        exact hClock
    | setClient clientId client =>
        obtain rfl := Option.some.inj hEnv
        obtain rfl := Option.some.inj hOther
        exact hClock
  · intro query hKey
    rw [(env_caches hEnv query).1, (env_caches hOther query).1]
    exact hWorld.entries query hKey
  · rw [(env_caches hEnv (.tenant "")).2,
      (env_caches hOther (.tenant "")).2]
    exact hWorld.randoms

/- A kept call starts in the base process too. -/
theorem KeptPart.start
    {call : Nat}
    {exts : List External}
    {settled : KisM CacheResult × World}
    (hPart : KeptPart kept keys full base)
    (hCall : kept call = true)
    (hKey : keys query)
    (hNew : ∀ turn ∈ full.turns, turn.call ≠ call)
    (hSettle :
      settle (worldSemantics P cfg) Eff.awaited
          (cacheLookup P cfg query) full.world exts =
        some settled) :
    ∃ base',
      takeTurn (worldSemantics P cfg) Eff.awaited
          (cacheLookup P cfg) World.clock base
          (.start call query exts) =
        some base' ∧
        KeptPart kept keys
          (full.turned call query full.world.clock none
            settled)
          base' := by
  obtain ⟨last, hLast, hWorld⟩ :=
    KeptPart.settled hKey (cacheLookup_staysWithin query)
      hPart.world hSettle
  have hUnused :
      ¬∃ turn ∈ base.turns, turn.call = call := by
    rintro ⟨turn, hMem, hSame⟩
    rw [hPart.turns] at hMem
    exact hNew turn (List.mem_of_mem_filter hMem) hSame
  refine
    ⟨base.turned call query full.world.clock none
      (settled.1, last), ?_, hPart.turned hCall hWorld⟩
  simp only [takeTurn, hUnused, if_false, hLast,
    Option.map_some]
  rw [hPart.world.clock]

/- It goes on there with the same answer. -/
theorem KeptPart.resume
    {call : Nat}
    {effect : Eff}
    {next : effect.Res → KisM CacheResult}
    {ext : External}
    {exts : List External}
    {value : effect.Res}
    {world : World}
    {settled : KisM CacheResult × World}
    (hPart : KeptPart kept keys full base)
    (hCall : kept call = true)
    (hKey : keys query)
    (hUses : query.Uses effect)
    (hStays : StaysWithin query (next value) [])
    (hWaiting :
      full.waiting call = some ⟨query, .call effect next⟩)
    (hExec :
      World.exec P cfg full.world effect ext =
        some (value, world))
    (hSettle :
      settle (worldSemantics P cfg) Eff.awaited (next value)
          world exts =
        some settled) :
    ∃ base',
      takeTurn (worldSemantics P cfg) Eff.awaited
          (cacheLookup P cfg) World.clock base
          (.resume call ext exts) =
        some base' ∧
        KeptPart kept keys
          (full.turned call query full.world.clock
            (some ⟨effect, value⟩) settled)
          base' := by
  obtain ⟨middle, hBase, hMiddle⟩ :=
    hPart.world.exec hKey hUses hExec
  obtain ⟨last, hLast, hWorld⟩ :=
    KeptPart.settled hKey hStays hMiddle hSettle
  refine
    ⟨base.turned call query full.world.clock
        (some ⟨effect, value⟩) (settled.1, last),
      ?_, hPart.turned hCall hWorld⟩
  simp only [takeTurn, hPart.waiting call hCall, hWaiting,
    hBase, Option.bind_some, hLast, Option.map_some]
  rw [hPart.world.clock]

/- The environment acts in both processes. -/
theorem KeptPart.env
    {op : EnvOp}
    {world : World}
    (hPart : KeptPart kept keys full base)
    (hEnv : World.env full.world op = some world) :
    ∃ base',
      takeTurn (worldSemantics P cfg) Eff.awaited
          (cacheLookup P cfg) World.clock base (.env op) =
        some base' ∧
        KeptPart kept keys { full with world := world }
          base' := by
  obtain ⟨base', hBase, hWorld⟩ := hPart.world.env hEnv
  refine ⟨{ base with world := base' }, ?_, ?_⟩
  · simp only [takeTurn]
    show (World.env base.world op).map _ = _
    rw [hBase]
    rfl
  · exact ⟨hWorld, hPart.waiting, hPart.turns⟩

/- A move of the full process, and what is left of it. -/
theorem KeptPart.move
    {move : CacheMove}
    (hInv : CacheInvariant P cfg full)
    (hPart : KeptPart kept keys full base)
    (hKept :
      ∀ turn ∈ full'.turns,
        kept turn.call = true → keys turn.request)
    (hApart :
      ∀ turn ∈ full'.turns,
        kept turn.call = false →
          Complete P cfg turn → ¬keys turn.request)
    (hTurn :
      takeTurn (worldSemantics P cfg) Eff.awaited
          (cacheLookup P cfg) World.clock full move =
        some full') :
    ∃ base',
      (if move.isKept kept then
          takeTurn (worldSemantics P cfg) Eff.awaited
            (cacheLookup P cfg) World.clock base move
        else some base) =
          some base' ∧
        KeptPart kept keys full' base' := by
  rcases takeTurn_cases hTurn with
    ⟨call, query, exts, settled, rfl, hNew, hSettle, rfl⟩ |
    ⟨call, ext, exts, query, effect, next, value, world,
      settled, rfl, hWaiting, hExec, hSettle, rfl⟩ |
    ⟨op, world, rfl, hEnv, rfl⟩
  · cases hCall : kept call with
    | true =>
        rw [Move.isKept, if_pos hCall]
        exact
          hPart.start hCall
            (hKept _ List.mem_cons_self hCall) hNew hSettle
    | false =>
        have hFirst :=
          (cacheLookup_endsTurn P cfg query _).settle hSettle
        refine ⟨base, by simp [Move.isKept, hCall], ?_⟩
        exact hPart.skipped hCall (hFirst.sameFor hPart.world)
  · obtain ⟨request, reply, hAsks, hAnswer, hNext, rfl, hLast⟩ :=
      hInv.resumed hWaiting hExec hSettle
    cases hCall : kept call with
    | true =>
        have hUses : query.Uses effect := by
          rw [(Answer.mk.inj hAnswer).1]
          trivial
        have hStays : StaysWithin query (next value) [] := by
          rw [hNext]
          exact afterReply_staysWithin query reply []
        rw [Move.isKept, if_pos hCall]
        exact
          hPart.resume hCall
            (hKept _ List.mem_cons_self hCall) hUses hStays
            hWaiting hExec hSettle
    | false =>
        refine ⟨base, by simp [Move.isKept, hCall], ?_⟩
        apply hPart.skipped hCall
        apply hLast.sameFor hPart.world
        intro found hFound
        refine hApart _ List.mem_cons_self hCall ?_
        rw [hAnswer]
        exact
          ⟨query, found,
            received_of_found rfl rfl hAsks hFound⟩
  · rw [Move.isKept, if_pos rfl]
    exact hPart.env hEnv

/- All moves of the full process, without the others. -/
theorem KeptPart.run
    {moves : List CacheMove}
    (hInv : CacheInvariant P cfg full)
    (hPart : KeptPart kept keys full base)
    (hKept :
      ∀ turn ∈ full'.turns,
        kept turn.call = true → keys turn.request)
    (hApart :
      ∀ turn ∈ full'.turns,
        kept turn.call = false →
          Complete P cfg turn → ¬keys turn.request)
    (hRun : runLookups P cfg full moves = some full') :
    ∃ base',
      runLookups P cfg base
          (moves.filter (Move.isKept kept)) =
          some base' ∧
        KeptPart kept keys full' base' := by
  induction moves generalizing full base with
  | nil =>
      obtain rfl := Option.some.inj hRun
      exact ⟨base, rfl, hPart⟩
  | cons move moves ih =>
      obtain ⟨middle, hTurn, hRest⟩ :=
        Option.bind_eq_some_iff.mp hRun
      have hSub := runTurns_turns hRest
      obtain ⟨middle', hMove, hMiddle⟩ :=
        hPart.move hInv
          (fun turn hMem => hKept turn (hSub hMem))
          (fun turn hMem => hApart turn (hSub hMem)) hTurn
      obtain ⟨base', hLater, hLast⟩ :=
        ih (hInv.move hTurn) hMiddle hRest
      refine ⟨base', ?_, hLast⟩
      cases hMoveKept : move.isKept kept with
      | true =>
          rw [if_pos hMoveKept] at hMove
          rw [List.filter_cons_of_pos hMoveKept]
          exact
            Option.bind_eq_some_iff.mpr
              ⟨middle', hMove, hLater⟩
      | false =>
          have hNot : ¬move.isKept kept = true := by
            rw [hMoveKept]
            simp
          rw [if_neg hNot] at hMove
          obtain rfl := Option.some.inj hMove
          rw [List.filter_cons_of_neg hNot]
          exact hLater

/-
  Calls that are left out make no difference, where those
  that received a complete success are not for the query of
  a kept call.
-/
theorem CacheRun.without
    (run : CacheRun P cfg)
    (kept : Nat → Bool)
    (hApart :
      ∀ turn ∈ run.process.turns,
        kept turn.call = false →
          Complete P cfg turn →
            ∀ other ∈ run.process.turns,
              kept other.call = true →
                other.request ≠ turn.request) :
    SameWithout run kept := by
  have hStart :
      KeptPart kept
        (fun query =>
          ∃ turn ∈ run.process.turns,
            kept turn.call = true ∧ turn.request = query)
        (Process.init (World.empty run.clients))
        (Process.init (World.empty run.clients)) :=
    { world := ⟨rfl, fun _ _ => rfl, List.Subset.refl _⟩
      waiting := fun _ _ => rfl
      turns := rfl }
  obtain ⟨base, hRun, hPart⟩ :=
    hStart.run (cacheInvariant_init run.clients)
      (fun turn hMem hKept => ⟨turn, hMem, hKept, rfl⟩)
      (fun turn hMem hDropped hComplete
        ⟨other, hOther, hKept, hRequest⟩ =>
        hApart turn hMem hDropped hComplete other hOther hKept
          hRequest)
      run.run
  exact ⟨⟨run.clients, _, base, hRun⟩, rfl, hPart.turns⟩

/-
  Cached configurations are fresh and belong to their query,
  in every run.
-/
theorem caches_sound
    (run : CacheRun P cfg) :
    CachesSound run where
  fresh :=
    ((cacheInvariant_init run.clients).run run.run).fresh
  failuresIgnored := by
    intro kept hFailed
    apply run.without
    intro turn hMem hDropped hComplete
    exact absurd hComplete (hFailed turn hMem hDropped)
  othersIgnored := by
    intro kept hOthers
    apply run.without
    intro turn hMem hDropped _ other hOther hKept
    exact hOthers other hOther turn hMem hKept hDropped

/-
  A lookup of another document gets a refusal, while the
  first document is served for five minutes, and then no
  more.
-/
def lookupMoves : List CacheMove :=
  [.start 0 (.discovery "d") [.none, .none],
    .start 1 (.discovery "e") [.none, .none],
    .resume 0
      (.reply
        (some
          ⟨200,
            some
              (.obj
                [("authorization_endpoint", .str "a"),
                  ("token_endpoint", .str "t"),
                  ("jwks_uri", .str "j")])⟩))
      [.none, .none],
    .resume 1 (.reply (some ⟨503, none⟩)) [.none],
    .env (.tick 299999),
    .start 2 (.discovery "d") [.none, .none],
    .env (.tick 1),
    .start 3 (.discovery "d") [.none, .none]]

example :
    ∃ run : CacheRun Platform.bare testConfig,
      run.process.turns.map
          (fun turn =>
            (turn.call, turn.time, turn.outcome.isSome)) =
        [(3, 300000, false), (2, 299999, true),
          (1, 0, true), (0, 0, true), (1, 0, false),
          (0, 0, false)] := by
  have hTurns :
      (runLookups Platform.bare testConfig
          (.init (World.empty (fun _ => none)))
          lookupMoves).map
          (fun process =>
            process.turns.map
              (fun turn =>
                (turn.call, turn.time,
                  turn.outcome.isSome))) =
        some
          [(3, 300000, false), (2, 299999, true),
            (1, 0, true), (0, 0, true), (1, 0, false),
            (0, 0, false)] := by
    decide +kernel
  rcases Option.map_eq_some_iff.mp hTurns with
    ⟨process, hRun, hAll⟩
  exact ⟨⟨_, lookupMoves, process, hRun⟩, hAll⟩

end KisAuth
