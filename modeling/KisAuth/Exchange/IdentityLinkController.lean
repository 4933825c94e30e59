import KisAuth.Exchange.Redemption
import KisAuth.Identity.IdentityService

/-
  The server-to-server link of a provider's subject to a
  user.

  Key definitions include:
    * `IdentityLinkController.link`
-/

------------------------------------------------------------
-- Identity Link
------------------------------------------------------------

namespace KisAuth

def identityLinkUrl : String :=
  "/internal/v1/identity/link"

def linkError : String :=
  "We could not complete this request."

/- A text parameter, as the database receives it. -/
def textParameter (P : Platform) : JsValue → String
| .str value => value
| value => P.sqlText value

/- `value ?? null`, as a text parameter. -/
def optionalText
    (P : Platform) : JsValue → Option String
| .undefined => none
| .null => none
| value => some (textParameter P value)

/- `value ?? false`, as a boolean parameter. -/
def booleanParameter
    (P : Platform) : JsValue → Option Bool
| .undefined => some false
| .null => some false
| .bool value => some value
| value => P.sqlBoolean value

/-
  The identity a body names, or `none` where a required
  field is missing. No value but a string is rendered as the
  text of a uuid, so comparing the rendered user is the
  comparison of the code.
-/
def requestedLink
    (P : Platform)
    (body : JsValue) : Option NewIdentity :=
  let field (name : String) : JsValue :=
    (body.member name).getD .undefined
  if (field "provider").truthy &&
      (field "provider_subject").truthy &&
      (field "kis_user_id").truthy then
    some {
      provider := textParameter P (field "provider")
      providerSubject :=
        textParameter P (field "provider_subject")
      kisUserId := textParameter P (field "kis_user_id")
      providerEmail :=
        optionalText P (field "provider_email")
      providerEmailVerified :=
        booleanParameter P
          (field "provider_email_verified") }
  else
    none

/- The user a body names, as an event shows it. -/
def namedUser (body : JsValue) : JsValue :=
  (body.member "kis_user_id").getD .undefined

def IdentityLinkController.link
    (P : Platform)
    (post : InternalPost) : KisM Response := do
  let verification ← verifySignedPost identityLinkUrl post
  match verification with
  | .fail _ => .throw (.unauthorized linkError)
  | .ok =>
      -- Reading a field of an absent body throws.
      let _ ← orCrash (post.body.member "provider")
      match requestedLink P post.body with
      | none => .throw (.badRequest linkError)
      | some identity =>
          let result ← IdentityService.link identity
          match result with
          | .alreadyLinked =>
              emit {
                eventType := "link.already_linked"
                outcome := .failure
                kisUserId := namedUser post.body
                reason :=
                  .str "post_registration_link_conflict" }
              .throw (.conflict linkError)
          | .ok row =>
              emit {
                eventType := "link.succeeded"
                outcome := .success
                kisUserId := namedUser post.body
                metadata := [("via", .str "registration")] }
              return .linked row.id

end KisAuth
