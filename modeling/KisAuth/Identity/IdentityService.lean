import KisAuth.Runtime.Effect

/-
  Identities and explicit linking.

  Key definitions include:
    * `IdentityService.findByProviderSubject`
    * `IdentityService.link`, `IdentityService.findById`
    * `IdentityService.touchLastAuthenticated`
-/

------------------------------------------------------------
-- Identities
------------------------------------------------------------

namespace KisAuth

/- A linked identity, or the reason there is none. -/
inductive LinkResult where
  | ok (identity : AuthIdentity)
  | alreadyLinked
  deriving DecidableEq

namespace IdentityService

def findByProviderSubject
    (provider providerSubject : String) :
    KisM (Option AuthIdentity) := do
  let rows ← call (.selectIdentity provider providerSubject)
  orSqlCrash rows

def findById (id : String) :
    KisM (Option AuthIdentity) := do
  let rows ← call (.selectIdentityById id)
  orSqlCrash rows

def touchLastAuthenticated (id : String) : KisM Unit := do
  let result ← call (.touchIdentity id)
  orSqlCrash result

/-
  Link a provider's subject to a user. A pair that is linked
  to the same user already is a retry and succeeds.
-/
def link (args : NewIdentity) : KisM LinkResult := do
  let existing ←
    findByProviderSubject args.provider args.providerSubject
  match existing with
  | some existing =>
      if existing.kisUserId ≠ args.kisUserId then
        return .alreadyLinked
      else
        let rows ←
          call (.updateIdentity args.providerEmail
            args.providerEmailVerified existing.id)
        let row ← orSqlCrash rows
        match row with
        | some row => return .ok row
        | none => crash
  | none =>
      let result ← call (.insertIdentity args)
      match result with
      | .ok row => return .ok row
      | .error .uniqueViolation => return .alreadyLinked
      | .error .invalidText => crash

end IdentityService

end KisAuth
