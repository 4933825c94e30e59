import KisAuth.Http.Cookies
import KisAuth.Http.Messages
import KisAuth.OAuth.SessionStore

/-
  What the two OAuth controllers share: the session of the
  request's cookie and the hand-off through the status page.

  Key definitions include:
    * `sessionIdOf`, `sessionOf`
    * `statusRedirectUrl`, `redirectToStatus`
-/

------------------------------------------------------------
-- The Session Cookie
------------------------------------------------------------

namespace KisAuth

def sessionCookieName : String :=
  "kisauth_session"

/-
  `parseCookieHeader(req.headers.cookie)[SESSION_COOKIE]`,
  or `none` where decoding the header throws.
-/
def sessionCookie
    (req : BrowserRequest) : Option (Option String) :=
  (parseCookieHeader req.cookie).map
    (fun entries => cookieValue entries sessionCookieName)

def sessionIdOf (req : BrowserRequest) :
    KisM (Option String) :=
  orCrash (sessionCookie req)

/- `sessionId ? await this.sessions.get(sessionId) : null` -/
def sessionOf (sessionId : Option String) :
    KisM (Option (String × OAuthSession)) :=
  match sessionId with
  | none => return none
  | some sessionId =>
      if sessionId = "" then
        return none
      else do
        let session ← OAuthSessionStore.get sessionId
        return session.map (fun session =>
          (sessionId, session))

end KisAuth

------------------------------------------------------------
-- The Status Page
------------------------------------------------------------

namespace KisAuth

def genericError : String :=
  "We could not complete this authentication request."

def badRequest {α : Type} : KisM α :=
  .throw (.badRequest genericError)

/- Set query parameters, first to last. -/
def setSearchParams
    (P : Platform)
    (url : P.Url)
    (params : List (String × String)) : P.Url :=
  params.foldl
    (fun url param => P.setSearchParam url param.1 param.2)
    url

def statusRedirectUrl
    (P : Platform)
    (cfg : KisAuthConfig)
    (state clientTarget : String) : Option String :=
  (P.parseUrlAt "/status" cfg.baseUrl).map (fun url =>
    P.href (setSearchParams P url
      [("state", state), ("client_redirect", clientTarget)]))

/-
  Redirect to the status page, which hands off to the redirect
  URI with the given parameters set.
-/
def redirectToStatus
    (P : Platform)
    (cfg : KisAuthConfig)
    (state redirectUri : String)
    (params : List (String × String)) : KisM Response := do
  let target ← orCrash (P.parseUrl redirectUri)
  let url ←
    orCrash (statusRedirectUrl P cfg state
      (P.href (setSearchParams P target params)))
  return .redirect url none

end KisAuth
