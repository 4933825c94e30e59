import KisAuth.Security.InternalSigning
import KisAuth.Data.Records

/-
  What the routes receive and what they answer with.

  A query parameter is the text it was given, or absent. It
  is given at most once.

  Key definitions include:
    * `BrowserRequest`, `AuthorizeQuery`, `CallbackQuery`
    * `StatusQuery`, `InternalPost`
    * `PageOptions`, `Page`, `renderPage`, `Response`
-/

------------------------------------------------------------
-- Requests
------------------------------------------------------------

namespace KisAuth

/- What the browser routes read of a request. -/
structure BrowserRequest where
  ip : String
  cookie : Option String

structure AuthorizeQuery where
  clientId : Option String
  redirectUri : Option String
  purpose : Option String
  state : Option String
  linkTicket : Option String
  partnerSlug : Option String

structure CallbackQuery where
  code : Option String
  state : Option String
  error : Option String

structure StatusQuery where
  state : Option String
  clientRedirect : Option String

/- What the internal routes read of a request. -/
structure InternalPost where
  ip : String
  headers : InternalHeaders
  body : JsValue

end KisAuth

------------------------------------------------------------
-- Pages And Responses
------------------------------------------------------------

namespace KisAuth

inductive Tone where
  | success
  | error
  | neutral
  deriving DecidableEq

/- Where a page sends the browser back to. -/
structure ReturnTo where
  url : String
  label : String
  delaySeconds : Option Nat := none
  deriving DecidableEq

structure PageOptions where
  title : String
  heading : String
  message : String
  tone : Tone
  returnTo : Option ReturnTo := none
  deriving DecidableEq

/-
  A rendered page: its texts, the delay and address of its
  refresh tag and the address and label of its button.
-/
structure Page where
  title : String
  heading : String
  message : String
  tone : Tone
  refresh : Option (Nat × String)
  button : Option (String × String)
  deriving DecidableEq

def renderPage (opts : PageOptions) : Page where
  title := opts.title
  heading := opts.heading
  message := opts.message
  tone := opts.tone
  refresh :=
    opts.returnTo.map (fun returnTo =>
      (returnTo.delaySeconds.getD 2, returnTo.url))
  button :=
    opts.returnTo.map (fun returnTo =>
      (returnTo.url, returnTo.label))

/-
  The answer of a route: a redirect with status 303, a
  token, the confirmation of a link, a page, or data.
-/
inductive Response where
  | redirect (location : String) (setCookie : Option String)
  | token (token : AuthorizationJwt)
  | linked (identityId : String)
  | page (page : Page)
  | data

end KisAuth
