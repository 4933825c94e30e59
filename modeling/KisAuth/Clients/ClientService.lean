import KisAuth.Runtime.Effect

/-
  The client registry.

  Key definitions include:
    * `ClientService.findByClientId`
    * `isRedirectUriAllowed`, `isPurposeAllowed`
    * `ClientService.register`
-/

------------------------------------------------------------
-- Clients
------------------------------------------------------------

namespace KisAuth

def ClientService.findByClientId
    (clientId : String) :
    KisM (Option RegisteredClient) := do
  let rows ← call (.selectClient clientId)
  orSqlCrash rows

/- Exact match only, and only for an active client. -/
def isRedirectUriAllowed
    (client : RegisteredClient)
    (redirectUri : String) : Bool :=
  decide (client.status = .active) &&
    client.allowedRedirectUris.contains redirectUri

def isPurposeAllowed
    (client : RegisteredClient)
    (purpose : String) : Bool :=
  decide (client.status = .active) &&
    client.allowedPurposes.contains purpose

end KisAuth

------------------------------------------------------------
-- Registration
------------------------------------------------------------

namespace KisAuth

/- What a client is registered with. -/
structure ClientRegistration where
  clientId : String
  name : String
  allowedRedirectUris : List String
  allowedScopes : List String
  allowedPurposes : List String
  deriving DecidableEq

/-
  The row that registering leaves for the client. A new row
  has the status the schema gives it, and one that exists
  keeps its own.
-/
def ClientService.register
    (client : ClientRegistration)
    (row : Option RegisteredClient) : RegisteredClient where
  clientId := client.clientId
  name := client.name
  status :=
    match row with
    | none => .active
    | some old => old.status
  allowedRedirectUris := client.allowedRedirectUris
  allowedScopes := client.allowedScopes
  allowedPurposes := client.allowedPurposes

end KisAuth
