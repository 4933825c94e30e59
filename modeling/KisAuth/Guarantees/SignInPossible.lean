import KisAuth.Guarantees.SessionCompletion
import KisAuth.Guarantees.SessionCookie
import KisAuth.Guarantees.StoreContents
import KisAuth.Identity.TableHistory
import KisAuth.Service.Redeeming

/-
  A sign-in is always possible.

  Whatever requests were served, are in progress, or were
  left behind half way, a user can sign in once the open
  rate windows are over: there is a way on in which each of
  the four requests is served, and the last is answered with
  the user's token.

  Key definitions include:
    * `SignInAttempt`, `Eligible`, `SignInServed`

  Key theorems include:
    * `Run.sound`, `Run.quiet`
    * `sign_in_possible`
-/

------------------------------------------------------------
-- The Browser's Cookie
------------------------------------------------------------

namespace KisAuth

/- The header of a browser that has only this cookie. -/
def returnedCookie (setCookie : String) : String :=
  cookieHeader [cookiePair setCookie]

/- It is read back, whatever the identifier is. -/
theorem sessionCookie_returned
    (ip sessionId : String)
    (secure : Bool)
    (maxAgeSeconds : Nat) :
    sessionCookie
        ⟨ip,
          some
            (returnedCookie
              (serializeSessionCookie sessionCookieName
                sessionId secure maxAgeSeconds))⟩ =
      some (some sessionId) := by
  have hName := sessionCookieName_isToken
  have hOwn :=
    @readable_cookiePair sessionCookieName sessionId secure
      maxAgeSeconds hName
  have hMark :=
    @semicolon_not_mem_cookiePair sessionCookieName sessionId
      secure maxAgeSeconds hName
  have hText :=
    @cookiePair_serialize sessionCookieName sessionId secure
      maxAgeSeconds hName
  have hLast :=
    @lastSet_header sessionCookieName sessionId secure
      maxAgeSeconds [] [] hName
  unfold returnedCookie
  generalize
    cookiePair
        (serializeSessionCookie sessionCookieName sessionId
          secure maxAgeSeconds) =
      pair at hOwn hMark hText hLast ⊢
  have hReadable : ∀ part ∈ [pair], Readable part := by
    simpa using hOwn
  have hClean : ∀ part ∈ [pair], ';' ∉ part := by
    simpa using hMark
  have hEquals : '=' ∈ pair := by simp [hText]
  have hParse :
      parseCookieHeader (some (cookieHeader [pair])) =
        some ([pair].filterMap entryOf) :=
    (parseCookieHeader_eq_some_iff hClean
      (cookieHeader_ne_empty hEquals [] [])).mpr
      ⟨hReadable, rfl⟩
  have hProto : sessionCookieName ≠ "__proto__" := by decide
  have hValue :
      cookieValue ([pair].filterMap entryOf)
          sessionCookieName =
        some sessionId := by
    rw [List.nil_append] at hLast
    rw [cookieValue_entries hProto hReadable, hLast,
      Option.bind_some, decoded_getD_iff]
    simp [lastSet]
  unfold sessionCookie
  rw [hParse, Option.map_some, hValue]

end KisAuth

------------------------------------------------------------
-- Sound Tables, Quiet Counters
------------------------------------------------------------

namespace KisAuth

open Interaction Store

variable {P : Platform} {cfg : KisAuthConfig}
variable {world world' : World} {history : History}

/- The id of a row was drawn when it was added. -/
theorem Mirrors.rowDrawn
    (hMirrors : Mirrors world history)
    {row : AuthIdentityRow}
    (hRow : row ∈ world.tables.identities) :
    row.id ∈ world.randoms := by
  have hBinding :
      row.toAuthIdentity.binding ∈ bindings history := by
    rw [← hMirrors.rows]
    exact List.mem_map_of_mem hRow
  rcases (mem_bindings_iff _ _).mp hBinding with
    ⟨thread, args, added, hMem, hAdded⟩
  have hId : added.id = row.id :=
    congrArg IdentityBinding.id hAdded
  rw [hMirrors.randoms]
  exact List.mem_filterMap.mpr ⟨_, hMem, congrArg some hId⟩

/- A statement keeps the constraints of the table. -/
theorem Tables.Sound.execSql
    {effect : Eff}
    {value : effect.Res}
    {ext : External}
    (hSound : world.tables.Sound)
    (hMirrors : Mirrors world history)
    (hExec :
      world.execSql ext effect = some (value, world')) :
    world'.tables.Sound := by
  cases effect with
  | insertIdentity args =>
      rcases execSql_insert hExec with
        ⟨error, _, _, rfl⟩ |
        ⟨accepted, id, hCheck, hFresh, hId, _, rfl⟩
      · exact hSound
      · apply hSound.addRow hCheck hId
        rintro other hOther rfl
        exact hFresh (hMirrors.rowDrawn hOther)
  | updateIdentity email verified id =>
      rcases execSql_update hExec with
        ⟨_, _, rfl⟩ | ⟨canonical, _, _, rfl⟩
      · exact hSound
      · exact hSound.modifyRow canonical (fun _ => rfl)
  | touchIdentity id =>
      rcases execSql_touch hExec with
        ⟨_, _, rfl⟩ | ⟨canonical, _, _, rfl⟩
      · exact hSound
      · exact hSound.modifyRow canonical (fun _ => rfl)
  | selectClient clientId =>
      simp only [World.execSql, Option.some.injEq,
        Prod.mk.injEq] at hExec
      exact hExec.2 ▸ hSound
  | selectIdentity provider providerSubject =>
      simp only [World.execSql, Option.some.injEq,
        Prod.mk.injEq] at hExec
      exact hExec.2 ▸ hSound
  | selectIdentityById id =>
      simp only [World.execSql, Option.some.injEq,
        Prod.mk.injEq] at hExec
      exact hExec.2 ▸ hSound
  | _ => simp [World.execSql] at hExec

/- So does every other call. -/
theorem Tables.Sound.exec
    {effect : Eff}
    {value : effect.Res}
    {ext : External}
    (hSound : world.tables.Sound)
    (hMirrors : Mirrors world history)
    (hExec :
      world.exec P cfg effect ext = some (value, world')) :
    world'.tables.Sound := by
  unfold World.exec at hExec
  split at hExec
  · rw [execRedis_frame hExec]
    exact hSound
  · exact hSound.execSql hMirrors hExec
  · rw [(execOther_frame hExec).2.1]
    exact hSound

/- And every operation of the environment. -/
theorem Tables.Sound.env
    {op : EnvOp}
    (hSound : world.tables.Sound)
    (hEnv : world.env op = some world') :
    world'.tables.Sound := by
  cases op with
  | tick milliseconds =>
      simp only [World.env, Option.some.injEq] at hEnv
      exact hEnv ▸ hSound
  | setIdentityStatus id status =>
      simp only [World.env, Option.some.injEq] at hEnv
      subst hEnv
      exact hSound.modifyRow id (fun _ => rfl)
  | setClient clientId client =>
      simp only [World.env, Option.some.injEq] at hEnv
      subst hEnv
      exact ⟨⟨hSound.typed.ids, hSound.typed.canonical⟩,
        ⟨hSound.oneToOne.pairs, hSound.oneToOne.users⟩⟩

/- The constraints hold in every reachable state. -/
theorem Run.sound (run : Run P cfg) :
    run.state.world.tables.Sound := by
  have hBoth :
      Mirrors run.state.world run.history ∧
        run.state.world.tables.Sound := by
    apply
      Reachable.invariant
        (fun world history =>
          Mirrors world history ∧ world.tables.Sound)
        _ _ _ _ _ run.reachable
    · exact
        ⟨mirrors_empty run.clients,
          ⟨⟨List.nodup_nil, fun _ hRow => by
              simp [World.empty] at hRow⟩,
            ⟨List.nodup_nil, List.nodup_nil⟩⟩⟩
    · exact fun world history thread request hBoth =>
        ⟨hBoth.1.silent ⟨fun _ => rfl, rfl, rfl⟩ rfl rfl rfl
          rfl rfl, hBoth.2⟩
    · exact fun world history thread effect ext value world' _
          _ hExec hBoth =>
        ⟨hBoth.1.exec hExec thread, hBoth.2.exec hBoth.1 hExec⟩
    · exact fun world history thread outcome hBoth =>
        ⟨hBoth.1.silent ⟨fun _ => rfl, rfl, rfl⟩ rfl rfl rfl
          rfl rfl, hBoth.2⟩
    · exact fun world history op world' hEnv hBoth =>
        ⟨hBoth.1.env hEnv, hBoth.2.env hEnv⟩
  exact hBoth.2

/- No counter outlasts a minute. -/
theorem Run.quiet
    (run : Run P cfg)
    (scope identifier : String) :
    run.state.world.redis.find
        (run.state.world.clock + 60 * 1000)
        (rateLimitKey scope identifier) =
      none := by
  unfold Expiring.find
  cases hItem :
      run.state.world.redis (rateLimitKey scope identifier) with
  | none => rfl
  | some item =>
      have hKept := run.termsKept.store _ item hItem
      have hTerm : item.value.family.term cfg = some 60 := by
        rw [hKept.family_eq]
        rfl
      rcases hKept.ends_within hTerm with
        ⟨deadline, hEnd, seconds, hSeconds, hLe⟩
      have hMinute : seconds = 60 := by
        exact_mod_cast hSeconds.symm
      subst hMinute
      have hDead :
          item.live (run.state.world.clock + 60 * 1000) =
            false := by
        unfold Item.live
        rw [hEnd]
        exact decide_eq_false (not_lt.mpr hLe)
      simp only [hDead]
      rfl

end KisAuth

------------------------------------------------------------
-- The Row Of A User
------------------------------------------------------------

namespace KisAuth

variable {tables : Tables}

/- What the constraints say about a row that is found. -/
theorem Tables.Sound.found
    {provider sub : String}
    {identity : AuthIdentity}
    (hSound : tables.Sound)
    (hFound :
      tables.selectIdentity provider sub =
        .ok (some identity)) :
    uuidIn identity.id = some identity.id ∧
      identity.id ≠ "" ∧ identity.kisUserId ≠ "" := by
  rcases selectIdentity_row hFound with ⟨row, hRow, rfl, _⟩
  rcases hSound.typed.canonical row hRow with ⟨hId, hUser⟩
  have hEmpty : uuidIn "" = none := by decide
  refine ⟨hId, ?_, ?_⟩
  · intro hBlank
    rw [hBlank, hEmpty] at hId
    cases hId
  · intro hBlank
    rw [hBlank, hEmpty] at hUser
    cases hUser

/- It is found by its id when its use has been counted. -/
theorem Tables.Sound.touched
    {provider sub : String}
    {identity : AuthIdentity}
    (hSound : tables.Sound)
    (now : Nat)
    (hFound :
      tables.selectIdentity provider sub =
        .ok (some identity)) :
    (tables.modifyRow identity.id
        (Tables.touched now)).selectIdentityById identity.id =
      .ok (some identity) := by
  have hId := (hSound.found hFound).1
  rcases selectIdentity_row hFound with ⟨row, hRow, rfl, _⟩
  have hTouched :
      Tables.touched now row ∈
        (tables.modifyRow row.id
          (Tables.touched now)).identities := by
    have hMem :=
      mem_modifyRow row.id (Tables.touched now) hRow
    rwa [if_pos rfl] at hMem
  have hSound' :
      (tables.modifyRow row.id (Tables.touched now)).Sound :=
    hSound.modifyRow row.id (fun _ => rfl)
  have hFind :
      (tables.modifyRow row.id
          (Tables.touched now)).findRow row.id =
        some (Tables.touched now row) := by
    unfold Tables.findRow
    cases hRows :
        (tables.modifyRow row.id
            (Tables.touched now)).identities.find?
          (fun other => other.id == row.id) with
    | none =>
        have hNone := List.find?_eq_none.mp hRows _ hTouched
        exact absurd (beq_self_eq_true row.id) hNone
    | some other =>
        have hOther := List.mem_of_find?_eq_some hRows
        have hSame := List.find?_some hRows
        rw [beq_iff_eq] at hSame
        exact
          congrArg some
            (row_unique hSound'.typed hOther hTouched hSame)
  unfold Tables.selectIdentityById
  rw [hId]
  simp only [hFind]
  rfl

end KisAuth

------------------------------------------------------------
-- A Sign-In, Request By Request
------------------------------------------------------------

namespace KisAuth

open Interaction Prog Store

variable {P : Platform} {cfg : KisAuthConfig}

/-
  Who signs in, for what, and through which client: the
  addresses of the browser and of the client's server, and
  what the provider is going to vouch for.
-/
structure SignInAttempt where
  browserIp : String
  serverIp : String
  clientId : String
  redirectUri : String
  purpose : String
  clientState : String
  providerCode : String
  sub : String

namespace SignInAttempt

variable (attempt : SignInAttempt)

def query : AuthorizeQuery :=
  signInQuery attempt.clientId attempt.redirectUri
    attempt.purpose attempt.clientState

def session (state nonce : String) : OAuthSession :=
  signInSession attempt.clientId attempt.redirectUri
    attempt.purpose attempt.clientState state nonce none

/- What the browser is told to keep. -/
def setCookie
    (cfg : KisAuthConfig)
    (sessionId : String) : String :=
  serializeSessionCookie sessionCookieName sessionId
    (decide (cfg.nodeEnv = "production")) 600

/- A request of the browser that kept it. -/
def browser
    (cfg : KisAuthConfig)
    (sessionId : String) : BrowserRequest :=
  ⟨attempt.browserIp,
    some (returnedCookie (setCookie cfg sessionId))⟩

/- The status page a success leads to. -/
def success : String :=
  if attempt.purpose = "registration" then
    "registration_continue"
  else
    "recovery_success"

/- The request of the client's server. -/
def redemption
    (headers : InternalHeaders)
    (code : String) : Request :=
  let post : InternalPost :=
    ⟨attempt.serverIp, headers,
      redeemingBody code attempt.clientId attempt.redirectUri⟩
  if attempt.purpose = "registration" then
    .registrationExchange post
  else
    .authorizationExchange post

end SignInAttempt

/-
  The client may ask for the sign-in, and the user it is for
  has the active row that is found, or none and registers.
-/
structure Eligible
    (P : Platform)
    (tables : Tables)
    (attempt : SignInAttempt)
    (found : Option AuthIdentity) : Prop where
  client :
    ∃ client,
      tables.selectClient attempt.clientId =
          .ok (some client) ∧
        isRedirectUriAllowed client attempt.redirectUri =
          true ∧
        isPurposeAllowed client attempt.purpose = true
  target : P.parseUrl attempt.redirectUri ≠ none
  purpose : attempt.purpose ≠ "link"
  user :
    tables.selectIdentity "google" attempt.sub =
      .ok found
  known : attempt.purpose = "registration" ↔ found = none
  active : ∀ identity ∈ found, identity.status = .active
  clientId : attempt.clientId ≠ ""
  redirectUri : attempt.redirectUri ≠ ""
  clientState : attempt.clientState ≠ ""
  providerCode : attempt.providerCode ≠ ""
  sub : attempt.sub ≠ ""

/-
  The four requests of a sign-in, each handled after the one
  before, with what the answer to it gave.
-/
def SignInServed
    (deployment : Deployment P cfg)
    (attempt : SignInAttempt)
    (token : AuthorizationJwt)
    (before after : History) : Prop :=
  ∃ sessionId state nonce codeVerifier code headers target
      begun left returned,
    P.parseUrl attempt.redirectUri = some target ∧
      Handled
        (.authorize attempt.query ⟨attempt.browserIp, none⟩)
        (.ok
          (.redirect "/oauth/google/start"
            (some (SignInAttempt.setCookie cfg sessionId))))
        before begun ∧
      Handled (.googleStart (attempt.browser cfg sessionId))
        (.ok
          (.redirect
            (googleLocation P cfg deployment.googleUrl
              (attempt.session state nonce) codeVerifier)
            none))
        begun left ∧
      Handled
        (.googleCallback
          (returnQuery attempt.providerCode state)
          (attempt.browser cfg sessionId))
        (.ok
          (.redirect
            (statusLocation P deployment.statusUrl target
              attempt.success
              [("code", code), ("state", attempt.clientState)])
            none))
        left returned ∧
      Handled (attempt.redemption headers code)
        (.ok (.token token)) returned after

/- The token is for the client and names the user. -/
structure IssuedFor
    (attempt : SignInAttempt)
    (found : Option AuthIdentity)
    (token : AuthorizationJwt) : Prop where
  aud : token.aud = attempt.clientId
  purpose : token.purpose = attempt.purpose
  sub : token.sub = found.map AuthIdentity.kisUserId
  identity : token.authIdentityId = found.map AuthIdentity.id
  providerSubject :
    found = none → token.providerSubject = some attempt.sub

end KisAuth

------------------------------------------------------------
-- To The Provider
------------------------------------------------------------

namespace KisAuth

open Interaction Prog Store

variable {P : Platform} {cfg : KisAuthConfig}
variable {quiet world : World} {keys : List String}

/- No counter holds a hit. -/
def Unhit (world : World) : Prop :=
  ∀ scope identifier,
    world.redis.find world.clock
        (rateLimitKey scope identifier) =
      none

/- What is written elsewhere uses up no limit. -/
theorem Unhit.hasRoom
    {policy : RateLimitPolicy}
    {identifier : String}
    (hUnhit : Unhit quiet)
    (hBeside : SameBeside keys quiet world)
    (hKey : rateLimitKey policy.scope identifier ∉ keys)
    (hLimit : 0 < policy.limit) :
    HasRoom world policy identifier := by
  unfold HasRoom
  rw [hBeside.find hKey, hUnhit]
  exact hLimit

theorem Deployment.Timely.beside
    {deployment : Deployment P cfg}
    (hTimely : deployment.Timely quiet)
    (hBeside : SameBeside keys quiet world) :
    deployment.Timely world := by
  unfold Deployment.Timely
  rw [hBeside.clock]
  exact hTimely

/- The browser has been sent to the provider. -/
structure AtProvider
    (attempt : SignInAttempt)
    (sessionId state nonce codeVerifier : String)
    (quiet world : World) : Prop where
  hId : sessionId ≠ ""
  hState : state ≠ ""
  hVerifier : codeVerifier ≠ ""
  beside :
    SameBeside
      [sessionKey sessionId,
        rateLimitKey RateLimits.oauthGoogleStart.scope
          attempt.browserIp,
        sessionKey sessionId,
        rateLimitKey RateLimits.authorize.scope
          attempt.browserIp]
      quiet world
  tables : world.tables = quiet.tables
  stored :
    StoredUntil world (sessionKey sessionId)
      (.session
        { attempt.session state nonce with
          codeVerifier := some codeVerifier })
      (sessionDeadline quiet)

/- Two requests lead the browser there. -/
theorem reaches_provider
    {start : World}
    {here : ServiceState}
    {attempt : SignInAttempt}
    {found : Option AuthIdentity}
    (deployment : Deployment P cfg)
    (hReachable :
      Reachable (worldSemantics P cfg) (handler P cfg) start
        here)
    (hUnhit : Unhit here.world)
    (hTimely : deployment.Timely here.world)
    (hEligible : Eligible P here.world.tables attempt found) :
    ∃ sessionId state nonce codeVerifier begun,
      ∃ final : ServiceState,
        Reachable (worldSemantics P cfg) (handler P cfg) start
            final ∧
          Handled
            (.authorize attempt.query ⟨attempt.browserIp, none⟩)
            (.ok
              (.redirect "/oauth/google/start"
                (some (SignInAttempt.setCookie cfg sessionId))))
            here.history begun ∧
          Handled (.googleStart (attempt.browser cfg sessionId))
            (.ok
              (.redirect
                (googleLocation P cfg deployment.googleUrl
                  (attempt.session state nonce) codeVerifier)
                none))
            begun final.history ∧
          AtProvider attempt sessionId state nonce codeVerifier
            here.world final.world := by
  rcases hEligible.client with
    ⟨client, hClient, hUri, hPurpose⟩
  have hAuthorizeRoom :
      HasRoom here.world RateLimits.authorize
        attempt.browserIp :=
    hUnhit.hasRoom (SameBeside.refl _) (by simp) (by decide)
  rcases authorize_leads hAuthorizeRoom hClient hUri hPurpose
      hEligible.purpose hEligible.clientState
      hTimely.session with
    ⟨sessionId, state, nonce, last, hId, hState, hLeads,
      hBeside, hTables, hStored⟩
  rcases
      hReachable.led .none
        (Request.authorize attempt.query
          ⟨attempt.browserIp, none⟩)
        hLeads with
    ⟨middle, hMiddle, hHandled, rfl⟩
  have hStartRoom :
      HasRoom middle.world RateLimits.oauthGoogleStart
        (attempt.browser cfg sessionId).ip := by
    apply hUnhit.hasRoom hBeside _ (by decide)
    simp [sessionKey, counter_ne_record, counters_ne,
      RateLimits.authorize, RateLimits.oauthGoogleStart]
  have hDeadline :
      sessionDeadline here.world =
        sessionDeadline middle.world := by
    unfold sessionDeadline
    rw [hBeside.clock]
  rw [hDeadline] at hStored
  have hCookie :
      sessionCookie (attempt.browser cfg sessionId) =
        some (some sessionId) :=
    sessionCookie_returned _ _ _ _
  rcases start_leads deployment hStartRoom hCookie hId hStored
      (hTimely.beside hBeside).session with
    ⟨codeVerifier, last', hVerifier, hLeads', hBeside',
      hTables', hStored'⟩
  rcases
      hMiddle.led .none
        (Request.googleStart (attempt.browser cfg sessionId))
        hLeads'
      with
    ⟨final, hFinal, hHandled', rfl⟩
  exact
    ⟨sessionId, state, nonce, codeVerifier, middle.history,
      final, hFinal, hHandled, hHandled',
      { hId := hId
        hState := hState
        hVerifier := hVerifier
        beside := hBeside.trans hBeside'
        tables := hTables'.trans hTables
        stored := by
          rw [hDeadline]
          exact hStored' }⟩

end KisAuth

------------------------------------------------------------
-- Back To The Client
------------------------------------------------------------

namespace KisAuth

open Interaction Prog Store

variable {P : Platform} {cfg : KisAuthConfig}
variable {quiet world : World} {keys : List String}
variable {attempt : SignInAttempt}

/- A server can sign a redemption that is admitted. -/
theorem leads_signedRedemption
    {code clientId redirectUri : String}
    {route : Redemption}
    (ip : String)
    (deployment : Deployment P cfg)
    (hRoute : route ∈ redemptionRoutes)
    (hUnhit : Unhit quiet)
    (hBeside : SameBeside keys quiet world)
    (hTimely : deployment.Timely quiet)
    (hIp : rateLimitKey route.perIp.scope ip ∉ keys)
    (hClient :
      rateLimitKey route.perClient.scope clientId ∉ keys)
    (hScopes :
      rateLimitKey route.perClient.scope clientId ≠
        rateLimitKey route.perIp.scope ip)
    (hIpLimit : 0 < route.perIp.limit)
    (hClientLimit : 0 < route.perClient.limit)
    (hCode : code ≠ "")
    (hClientId : clientId ≠ "")
    (hRedirectUri : redirectUri ≠ "") :
    ∃ headers request,
      Leading P cfg
        (admitRedemption P route
          ⟨ip, headers,
            redeemingBody code clientId redirectUri⟩)
        world
        ⟨.str code, .str clientId, .str redirectUri⟩
        ((world.counted route ip clientId).accepted P cfg
          request) := by
  rcases exists_nonce world.nonceCache with
    ⟨nonce, hNonce, hFresh⟩
  rcases deployment.headers hRoute "POST" code clientId
      redirectUri world.clock nonce with
    ⟨headers, hSigned⟩
  have hClientRoom :
      HasRoom
        (world.hit (rateLimitKey route.perIp.scope ip)
          route.perIp.windowSeconds)
        route.perClient clientId :=
    hUnhit.hasRoom (hBeside.write _ _)
      (List.not_mem_cons_of_ne_of_not_mem hScopes hClient)
      hClientLimit
  exact
    ⟨headers, _,
      leads_admitRedemption deployment (hTimely.beside hBeside)
        (hUnhit.hasRoom hBeside hIp hIpLimit) hClientRoom hCode
        hClientId hRedirectUri hNonce hFresh hSigned⟩

/- The last two requests, and the token at their end. -/
def Completes
    (deployment : Deployment P cfg)
    (attempt : SignInAttempt)
    (found : Option AuthIdentity)
    (start : World)
    (here : ServiceState)
    (sessionId state : String) : Prop :=
  ∃ code headers target token returned,
    ∃ final : ServiceState,
      Reachable (worldSemantics P cfg) (handler P cfg) start
          final ∧
        P.parseUrl attempt.redirectUri = some target ∧
        Handled
          (.googleCallback
            (returnQuery attempt.providerCode state)
            (attempt.browser cfg sessionId))
          (.ok
            (.redirect
              (statusLocation P deployment.statusUrl target
                attempt.success
                [("code", code),
                  ("state", attempt.clientState)])
              none))
          here.history returned ∧
        Handled (attempt.redemption headers code)
          (.ok (.token token)) returned final.history ∧
        IssuedFor attempt found token

/- The world in which a callback is finalized. -/
def World.calledBack
    (world : World)
    (attempt : SignInAttempt) : World :=
  world.hit
    (rateLimitKey RateLimits.oauthGoogleCallback.scope
      attempt.browserIp)
    RateLimits.oauthGoogleCallback.windowSeconds

/- What the identity is finalized with. -/
def SignInAttempt.args
    (attempt : SignInAttempt)
    (sessionId state nonce codeVerifier : String) :
    OutcomeArgs :=
  returnArgs
    { attempt.session state nonce with
      codeVerifier := some codeVerifier }
    sessionId attempt.sub attempt.browserIp

/- A callback at the provider is handled as it is finalized. -/
theorem AtProvider.calledBack
    {sessionId state nonce codeVerifier : String}
    {found : Option AuthIdentity}
    {response : Response}
    {last : World}
    (hAt :
      AtProvider attempt sessionId state nonce codeVerifier
        quiet world)
    (hUnhit : Unhit quiet)
    (hEligible : Eligible P quiet.tables attempt found)
    (hFinalize :
      Leading P cfg
        (finalizeIdentity P cfg
          (attempt.args sessionId state nonce codeVerifier)
          "registration" none)
        (world.calledBack attempt) response last) :
    Leading P cfg
      (OAuthController.callback P cfg
        (returnQuery attempt.providerCode state)
        (attempt.browser cfg sessionId))
      world response last := by
  have hRoom :
      HasRoom world RateLimits.oauthGoogleCallback
        (attempt.browser cfg sessionId).ip := by
    apply hUnhit.hasRoom hAt.beside _ (by decide)
    simp [sessionKey, counter_ne_record, counters_ne,
      RateLimits.authorize, RateLimits.oauthGoogleStart,
      RateLimits.oauthGoogleCallback]
  have hCookie :
      sessionCookie (attempt.browser cfg sessionId) =
        some (some sessionId) :=
    sessionCookie_returned _ _ _ _
  have hArgs :
      attempt.args sessionId state nonce codeVerifier =
        returnArgs
          { attempt.session state nonce with
            codeVerifier := some codeVerifier }
          sessionId attempt.sub
          (attempt.browser cfg sessionId).ip :=
    rfl
  have hWorld :
      world.calledBack attempt =
        world.hit
          (rateLimitKey RateLimits.oauthGoogleCallback.scope
            (attempt.browser cfg sessionId).ip)
          RateLimits.oauthGoogleCallback.windowSeconds :=
    rfl
  rw [hArgs, hWorld] at hFinalize
  have hLeads :=
    leads_callback (attempt.browser cfg sessionId) hRoom
      hCookie hAt.hId hAt.stored hEligible.providerCode
      hAt.hState rfl hAt.hVerifier hEligible.sub hFinalize
  exact hLeads

/- The keys that have changed since no counter was hit. -/
theorem AtProvider.calledBack_beside
    {sessionId state nonce codeVerifier : String}
    (hAt :
      AtProvider attempt sessionId state nonce codeVerifier
        quiet world) :
    SameBeside
      (rateLimitKey RateLimits.oauthGoogleCallback.scope
          attempt.browserIp ::
        [sessionKey sessionId,
          rateLimitKey RateLimits.oauthGoogleStart.scope
            attempt.browserIp,
          sessionKey sessionId,
          rateLimitKey RateLimits.authorize.scope
            attempt.browserIp])
      quiet (world.calledBack attempt) :=
  hAt.beside.write _ _

/- The limits of a redemption are no limits of the browser. -/
theorem counter_apart
    {records : List String}
    {scope : String}
    (identifier sessionId : String)
    (hRecords :
      ∀ key ∈ records,
        ∃ family id,
          KeyFamily.rateLimit ≠ family ∧
            key = storeKey family id)
    (hColon : ':' ∉ scope.toList)
    (hScope :
      scope ∉
        [RateLimits.authorize.scope,
          RateLimits.oauthGoogleStart.scope,
          RateLimits.oauthGoogleCallback.scope]) :
    rateLimitKey scope identifier ∉
      records ++
        rateLimitKey RateLimits.oauthGoogleCallback.scope
            attempt.browserIp ::
          [sessionKey sessionId,
            rateLimitKey RateLimits.oauthGoogleStart.scope
              attempt.browserIp,
            sessionKey sessionId,
            rateLimitKey RateLimits.authorize.scope
              attempt.browserIp] := by
  simp only [List.mem_cons, List.not_mem_nil, or_false,
    not_or] at hScope
  rcases hScope with ⟨hAuthorize, hStart, hCallback⟩
  have hRecord : rateLimitKey scope identifier ∉ records := by
    intro hMem
    rcases hRecords _ hMem with ⟨family, id, hFamily, hKey⟩
    exact counter_ne_record hFamily scope identifier id hKey
  have hSession :
      rateLimitKey scope identifier ≠ sessionKey sessionId :=
    counter_ne_record (by decide) scope identifier sessionId
  simp only [List.mem_append, List.mem_cons, List.not_mem_nil,
    or_false, not_or]
  exact
    ⟨hRecord, counters_ne hColon (by decide) hCallback _ _,
      hSession, counters_ne hColon (by decide) hStart _ _,
      hSession, counters_ne hColon (by decide) hAuthorize _ _⟩

end KisAuth

------------------------------------------------------------
-- Users Who Return
------------------------------------------------------------

namespace KisAuth

open Interaction Prog Store

variable {P : Platform} {cfg : KisAuthConfig}
variable {quiet : World} {attempt : SignInAttempt}

theorem completes_returning
    {start : World}
    {here : ServiceState}
    {identity : AuthIdentity}
    {sessionId state nonce codeVerifier : String}
    (deployment : Deployment P cfg)
    (hReachable :
      Reachable (worldSemantics P cfg) (handler P cfg) start
        here)
    (hUnhit : Unhit quiet)
    (hTimely : deployment.Timely quiet)
    (hSound : quiet.tables.Sound)
    (hEligible : Eligible P quiet.tables attempt (some identity))
    (hAt :
      AtProvider attempt sessionId state nonce codeVerifier
        quiet here.world) :
    Completes deployment attempt (some identity) start here
      sessionId state := by
  have hPurpose : attempt.purpose ≠ "registration" := by
    intro hRegistration
    cases hEligible.known.mp hRegistration
  rcases Option.ne_none_iff_exists'.mp hEligible.target with
    ⟨target, hTarget⟩
  rcases hSound.found hEligible.user with
    ⟨hCanonical, hNonempty, hUser⟩
  rcases exists_fresh (here.world.calledBack attempt).randoms
    with ⟨challengeId, hChallengeFresh, _⟩
  rcases exists_fresh
      (challengeId ::
        (here.world.calledBack attempt).randoms) with
    ⟨code, hCodeFresh, hCode⟩
  have hCalledBack := hAt.calledBack_beside
  have hReturning :=
    leads_returningUser
      (attempt.args sessionId state nonce codeVerifier)
      deployment (hTimely.beside hCalledBack) hCanonical
      hNonempty hUser hChallengeFresh hCodeFresh hTarget
  have hFound :
      (here.world.calledBack attempt).tables.selectIdentity
          "google" attempt.sub =
        .ok (some identity) := by
    have hSelect := hEligible.user
    rw [← hAt.tables] at hSelect
    exact hSelect
  have hCallback :=
    hAt.calledBack hUnhit hEligible
      (leads_finalizeReturning hEligible.purpose hPurpose
        hFound hReturning)
  rcases
      hReachable.led .none
        (Request.googleCallback
          (returnQuery attempt.providerCode state)
          (attempt.browser cfg sessionId))
        hCallback with
    ⟨middle, hMiddle, hHandled, hWorld⟩
  have hBeside :=
    hCalledBack.trans
      (returned_beside deployment
        (attempt.args sessionId state nonce codeVerifier)
        identity challengeId code)
  rw [← hWorld] at hBeside
  have hRecords :
      ∀ key ∈
          [codeKey code, challengeKey challengeId,
            sessionKey sessionId, challengeKey challengeId],
        ∃ family id,
          KeyFamily.rateLimit ≠ family ∧
            key = storeKey family id := by
    simp only [List.forall_mem_cons]
    exact
      ⟨⟨.code, code, by decide, rfl⟩,
        ⟨.challenge, challengeId, by decide, rfl⟩,
        ⟨.session, sessionId, by decide, rfl⟩,
        ⟨.challenge, challengeId, by decide, rfl⟩, by simp⟩
  rcases
      leads_signedRedemption attempt.serverIp deployment
        List.mem_cons_self hUnhit hBeside hTimely
        (counter_apart _ _ hRecords (by decide)
          (by decide))
        (counter_apart _ _ hRecords (by decide)
          (by decide))
        (counters_ne (by decide) (by decide) (by decide) _ _)
        (by decide) (by decide) hCode hEligible.clientId
        hEligible.redirectUri with
    ⟨headers, request, hAdmit⟩
  have hIssued :
      StoredUntil middle.world (codeKey code)
        (.code
          (returningCode (attempt.session state nonce)
            identity))
        (here.world.clock + deployment.codeSeconds * 1000) := by
    rw [hWorld]
    exact
      StoredUntil.store
        (Nat.lt_add_of_pos_right
          (Nat.mul_pos deployment.codePositive (by decide)))
  have hStored :=
    hIssued.admitted P cfg (by decide)
      authorizationRedemption attempt.serverIp
      attempt.clientId request
  have hIdentity :
      ((middle.world.counted authorizationRedemption
            attempt.serverIp attempt.clientId).accepted P cfg
          request).tables.selectIdentityById identity.id =
        .ok (some identity) := by
    have hTouched :=
      hSound.touched here.world.clock hEligible.user
    rw [← hAt.tables] at hTouched
    rw [hWorld]
    exact hTouched
  have hRedeemable :
      redeemable
          (returningCode (attempt.session state nonce) identity)
          identity =
        true := by
    simp [redeemable, returningCode,
      hEligible.active identity rfl]
  rcases leads_exchange deployment hAdmit hStored hIdentity hRedeemable
    with ⟨token, last, hAttests, hExchange⟩
  have hRequest :
      attempt.redemption headers code =
        .authorizationExchange
          ⟨attempt.serverIp, headers,
            redeemingBody code attempt.clientId
              attempt.redirectUri⟩ :=
    if_neg hPurpose
  rcases
      hMiddle.led .none
        (Request.authorizationExchange
          ⟨attempt.serverIp, headers,
            redeemingBody code attempt.clientId
              attempt.redirectUri⟩)
        hExchange with
    ⟨final, hFinal, hRedeemed, _⟩
  have hSuccess : attempt.success = "recovery_success" :=
    if_neg hPurpose
  refine
    ⟨code, headers, target, token, middle.history, final,
      hFinal, hTarget, ?_, ?_, ?_⟩
  · rw [hSuccess]
    exact hHandled
  · rw [hRequest]
    exact hRedeemed
  · have hSub :
        truthyText (some identity.kisUserId) =
          some identity.kisUserId :=
      if_neg hUser
    exact
      { aud := hAttests.aud
        purpose := hAttests.purpose
        sub := hAttests.sub.trans hSub
        identity := hAttests.authIdentityId
        providerSubject := by simp }

end KisAuth

------------------------------------------------------------
-- Users Who Register
------------------------------------------------------------

namespace KisAuth

open Interaction Prog Store

variable {P : Platform} {cfg : KisAuthConfig}
variable {quiet : World} {attempt : SignInAttempt}

theorem completes_registering
    {start : World}
    {here : ServiceState}
    {sessionId state nonce codeVerifier : String}
    (deployment : Deployment P cfg)
    (hReachable :
      Reachable (worldSemantics P cfg) (handler P cfg) start
        here)
    (hUnhit : Unhit quiet)
    (hTimely : deployment.Timely quiet)
    (hEligible : Eligible P quiet.tables attempt none)
    (hAt :
      AtProvider attempt sessionId state nonce codeVerifier
        quiet here.world) :
    Completes deployment attempt none start here sessionId
      state := by
  have hPurpose : attempt.purpose = "registration" :=
    hEligible.known.mpr rfl
  rcases Option.ne_none_iff_exists'.mp hEligible.target with
    ⟨target, hTarget⟩
  rcases exists_fresh (here.world.calledBack attempt).randoms
    with ⟨ticket, hFresh, hTicket⟩
  have hCalledBack := hAt.calledBack_beside
  have hRegistration :=
    leads_registration
      (attempt.args sessionId state nonce codeVerifier)
      deployment (hTimely.beside hCalledBack) hFresh hTarget
  have hFound :
      (here.world.calledBack attempt).tables.selectIdentity
          "google" attempt.sub =
        .ok none := by
    have hSelect := hEligible.user
    rw [← hAt.tables] at hSelect
    exact hSelect
  have hCallback :=
    hAt.calledBack hUnhit hEligible
      (leads_finalizeRegistering hPurpose hFound hRegistration)
  rcases
      hReachable.led .none
        (Request.googleCallback
          (returnQuery attempt.providerCode state)
          (attempt.browser cfg sessionId))
        hCallback with
    ⟨middle, hMiddle, hHandled, hWorld⟩
  have hBeside :=
    hCalledBack.trans
      (ticketed_beside deployment
        (attempt.args sessionId state nonce codeVerifier)
        ticket)
  rw [← hWorld] at hBeside
  have hRecords :
      ∀ key ∈ [regTicketKey ticket, sessionKey sessionId],
        ∃ family id,
          KeyFamily.rateLimit ≠ family ∧
            key = storeKey family id := by
    simp only [List.forall_mem_cons]
    exact
      ⟨⟨.regTicket, ticket, by decide, rfl⟩,
        ⟨.session, sessionId, by decide, rfl⟩, by simp⟩
  rcases
      leads_signedRedemption attempt.serverIp deployment
        (List.mem_cons_of_mem _ List.mem_cons_self) hUnhit
        hBeside hTimely
        (counter_apart _ _ hRecords (by decide)
          (by decide))
        (counter_apart _ _ hRecords (by decide)
          (by decide))
        (counters_ne (by decide) (by decide) (by decide) _ _)
        (by decide) (by decide) hTicket hEligible.clientId
        hEligible.redirectUri with
    ⟨headers, request, hAdmit⟩
  have hIssued :
      StoredUntil middle.world (regTicketKey ticket)
        (.ticket
          (newUserTicket
            (attempt.args sessionId state nonce
              codeVerifier)))
        (here.world.clock + deployment.codeSeconds * 1000) := by
    rw [hWorld]
    exact
      StoredUntil.store
        (Nat.lt_add_of_pos_right
          (Nat.mul_pos deployment.codePositive (by decide)))
  have hStored :=
    hIssued.admitted P cfg (by decide) registrationRedemption
      attempt.serverIp attempt.clientId request
  rcases leads_registrationExchange deployment hAdmit hStored with
    ⟨token, last, hAttests, hExchange⟩
  have hRequest :
      attempt.redemption headers ticket =
        .registrationExchange
          ⟨attempt.serverIp, headers,
            redeemingBody ticket attempt.clientId
              attempt.redirectUri⟩ :=
    if_pos hPurpose
  rcases
      hMiddle.led .none
        (Request.registrationExchange
          ⟨attempt.serverIp, headers,
            redeemingBody ticket attempt.clientId
              attempt.redirectUri⟩)
        hExchange with
    ⟨final, hFinal, hRedeemed, _⟩
  have hSuccess : attempt.success = "registration_continue" :=
    if_pos hPurpose
  refine
    ⟨ticket, headers, target, token, middle.history, final,
      hFinal, hTarget, ?_, ?_, ?_⟩
  · rw [hSuccess]
    exact hHandled
  · rw [hRequest]
    exact hRedeemed
  · exact
      { aud := hAttests.aud
        purpose := hAttests.purpose.trans hPurpose.symm
        sub := hAttests.sub
        identity := hAttests.authIdentityId
        providerSubject := fun _ => hAttests.providerSubject }

end KisAuth

------------------------------------------------------------
-- The Whole Way
------------------------------------------------------------

namespace KisAuth

open Interaction Prog Store

variable {P : Platform} {cfg : KisAuthConfig}

/-
  From every reachable state, an eligible sign-in can be
  completed one minute later, whatever else is in progress:
  there is a way on that handles its four requests one after
  the other and ends with the user's token.
-/
theorem sign_in_possible
    (run : Run P cfg)
    (deployment : Deployment P cfg)
    (attempt : SignInAttempt)
    (found : Option AuthIdentity)
    (hEligible :
      Eligible P run.state.world.tables attempt found)
    (hTimely :
      run.state.world.clock +
          (660 + deployment.challengeSeconds +
              deployment.codeSeconds) *
            1000 <
        safeIntegers) :
    ∃ later : Run P cfg, ∃ token,
      later.clients = run.clients ∧
        SignInServed deployment attempt token
          (.env (.tick (60 * 1000)) :: run.history)
          later.history ∧
        IssuedFor attempt found token := by
  have hWaited :
      act (worldSemantics P cfg) (handler P cfg) run.state
          (.env (.tick (60 * 1000))) =
        some
          { run.state with
            world :=
              { run.state.world with
                clock := run.state.world.clock + 60 * 1000 }
            history :=
              .env (.tick (60 * 1000)) :: run.history } :=
    rfl
  have hUnhit :
      Unhit
        { run.state.world with
          clock := run.state.world.clock + 60 * 1000 } :=
    run.quiet
  have hTimely' :
      deployment.Timely
        { run.state.world with
          clock := run.state.world.clock + 60 * 1000 } := by
    apply lt_of_le_of_lt _ hTimely
    simp only
    omega
  rcases reaches_provider deployment
      (run.reachable.step _ hWaited) hUnhit hTimely' hEligible
    with
    ⟨sessionId, state, nonce, codeVerifier, begun, here,
      hHere, hBegun, hLeft, hAt⟩
  have hCompletes :
      Completes deployment attempt found
        (World.empty run.clients) here sessionId state := by
    cases found with
    | none =>
        exact
          completes_registering deployment hHere hUnhit hTimely'
            hEligible hAt
    | some identity =>
        exact
          completes_returning deployment hHere hUnhit hTimely'
            run.sound hEligible hAt
  rcases hCompletes with
    ⟨code, headers, target, token, returned, final, hFinal,
      hTarget, hReturned, hRedeemed, hIssued⟩
  exact
    ⟨⟨run.clients, final, hFinal⟩, token, rfl,
      ⟨sessionId, state, nonce, codeVerifier, code, headers,
        target, begun, here.history, returned, hTarget, hBegun,
        hLeft, hReturned, hRedeemed⟩,
      hIssued⟩

/- The number a text is the numeral of. -/
def readNumeral (text : String) : Option ℚ :=
  let count := Nat.ofDigitChars 10 text.toList 0
  if toString count = text then some (count : ℚ) else none

theorem readNumeral_toString (count : Nat) :
    readNumeral (toString count) = some (count : ℚ) := by
  have hDigits :
      Nat.ofDigitChars 10 (toString count).toList 0 = count := by
    rw [Nat.toString_eq_repr, Nat.toList_repr]
    exact Nat.ofDigitChars_ten_toDigits
  unfold readNumeral
  rw [hDigits]
  exact if_pos rfl

/-
  A runtime that reads decimal numbers. The digest of a text
  is a text.
-/
def signInPlatform : Platform :=
  { flowPlatform with
    parseUrlAt := fun path base =>
      if base = "http://internal.local" then some path
      else some (base ++ path)
    hmacSha256Hex := fun _ payload => "mac-" ++ payload
    number := readNumeral }

def testDeployment :
    Deployment signInPlatform testConfig where
  googleUrl := googleAuthUrl
  statusUrl := "http://localhost:4100/status"
  challengeSeconds := 30
  codeSeconds := 60
  parseGoogle := rfl
  parseStatus := rfl
  parseInternal := by simp [signInPlatform]
  challengeTtl := by simp [testConfig]
  challengePositive := by decide
  codeTtl := by simp [testConfig]
  codePositive := by decide
  attempts := by norm_num [testConfig]
  imports := rfl
  signsTokens := rfl
  flat := by decide
  digest := by simp [signInPlatform]
  seconds := fun count _ => readNumeral_toString count

/- A first user registers with the client of the registry. -/
def firstAttempt : SignInAttempt where
  browserIp := "10.0.0.1"
  serverIp := "10.0.0.9"
  clientId := "kis-web"
  redirectUri := "https://kis.test/cb"
  purpose := "registration"
  clientState := "s1"
  providerCode := "c1"
  sub := "g1"

theorem firstAttempt_eligible :
    Eligible signInPlatform (World.empty flowClients).tables
      firstAttempt none where
  client := ⟨_, rfl, rfl, rfl⟩
  target := by simp [signInPlatform, flowPlatform]
  purpose := by decide
  user := rfl
  known := by simp [firstAttempt]
  active := by simp
  clientId := by decide
  redirectUri := by decide
  clientState := by decide
  providerCode := by decide
  sub := by decide

theorem first_registration_possible :
    ∃ later : Run signInPlatform testConfig, ∃ token,
      SignInServed testDeployment firstAttempt token
          [.env (.tick (60 * 1000))] later.history ∧
        IssuedFor firstAttempt none token := by
  have hTimely :
      (World.empty flowClients).clock +
          (660 + testDeployment.challengeSeconds +
              testDeployment.codeSeconds) *
            1000 <
        safeIntegers := by
    decide
  rcases
      sign_in_possible
        ⟨flowClients, .init (World.empty flowClients), .init⟩
        testDeployment firstAttempt none
        firstAttempt_eligible hTimely with
    ⟨later, token, _, hServed, hIssued⟩
  exact ⟨later, token, hServed, hIssued⟩

end KisAuth
