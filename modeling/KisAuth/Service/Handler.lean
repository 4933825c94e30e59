import KisAuth.Exchange.ExchangeController
import KisAuth.Exchange.IdentityLinkController
import KisAuth.OAuth.OidcEnterpriseController
import KisAuth.Runtime.World
import KisAuth.Web.WebController

/-
  The service as a whole: its routes, and the states it can
  reach while any number of requests are served at once.

  Key definitions include:
    * `Request`, `handler`
    * `History`, `Run`
-/

------------------------------------------------------------
-- Routes
------------------------------------------------------------

namespace KisAuth

open Interaction

/- A request to one of the routes. -/
inductive Request where
  | authorize (query : AuthorizeQuery) (req : BrowserRequest)
  | googleStart (req : BrowserRequest)
  | googleCallback
      (query : CallbackQuery) (req : BrowserRequest)
  | enterpriseStart
      (partnerSlug : String) (req : BrowserRequest)
  | enterpriseCallback
      (partnerSlug : String)
      (query : CallbackQuery)
      (req : BrowserRequest)
  | authorizationExchange (post : InternalPost)
  | registrationExchange (post : InternalPost)
  | identityLink (post : InternalPost)
  | status (query : StatusQuery)
  | welcome
  | jwks
  | healthz
  | readyz

/-
  The program of each route. The last three answer with data
  that depends on nothing modelled here.
-/
def handler
    (P : Platform)
    (cfg : KisAuthConfig) : Request → KisM Response
| .authorize query req =>
    OAuthController.authorize P cfg query req
| .googleStart req => OAuthController.start P cfg req
| .googleCallback query req =>
    OAuthController.callback P cfg query req
| .enterpriseStart partnerSlug req =>
    OidcEnterpriseController.start P cfg partnerSlug req
| .enterpriseCallback partnerSlug query req =>
    OidcEnterpriseController.callback P cfg partnerSlug query
      req
| .authorizationExchange post =>
    ExchangeController.exchange P cfg post
| .registrationExchange post =>
    RegistrationExchangeController.exchange P cfg post
| .identityLink post => IdentityLinkController.link P post
| .status query => WebController.status P query
| .welcome => WebController.welcome
| .jwks => return .data
| .healthz => return .data
| .readyz => return .data

end KisAuth

------------------------------------------------------------
-- Runs
------------------------------------------------------------

namespace KisAuth

open Interaction

/- One recorded step of the service. -/
abbrev ServiceEntry :=
  Entry Eff Eff.Res HttpError Request Response EnvOp

/- What has happened so far, newest first. -/
abbrev History := List ServiceEntry

abbrev ServiceState :=
  State Eff Eff.Res HttpError Request Response World EnvOp

/-
  A state the service reaches by serving any requests in any
  interleaving, from a world without sessions or identities
  and with any client registry.
-/
structure Run (P : Platform) (cfg : KisAuthConfig) where
  clients : String → Option RegisteredClient
  state : ServiceState
  reachable :
    Reachable (worldSemantics P cfg) (handler P cfg)
      (World.empty clients) state

/- What happened up to the state. -/
def Run.history
    {P : Platform}
    {cfg : KisAuthConfig}
    (run : Run P cfg) : History :=
  run.state.history

end KisAuth
