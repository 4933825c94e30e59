import KisAuth.Http.Messages
import KisAuth.Runtime.Effect

/-
  The two pages.

  Key definitions include:
    * `pageStates`
    * `WebController.welcome`, `WebController.status`
-/

------------------------------------------------------------
-- Pages
------------------------------------------------------------

namespace KisAuth

/- The copy shown for an outcome nothing else is known of. -/
def invalidRequestPage : PageOptions where
  title := "Something went wrong"
  heading := "We couldn't complete this request"
  message := "Please return to KIS and try again."
  tone := .error

/- `STATES`: the copy for each terminal outcome. -/
def pageStates : List (String × PageOptions) :=
  [("success", {
      title := "Signed in"
      heading := "Authentication successful"
      message :=
        "You're verified with Google. Returning you to KIS…"
      tone := .success }),
    ("recovery_success", {
      title := "Account recovered"
      heading := "Your KIS account has been verified"
      message :=
        "You can now continue using KIS on this device."
      tone := .success }),
    ("registration_continue", {
      title := "Almost there"
      heading := "Google account verified"
      message :=
        "Finishing your KIS account setup — returning you " ++
          "to the app…"
      tone := .success }),
    ("cancelled", {
      title := "Cancelled"
      heading := "Sign-in was cancelled"
      message :=
        "You closed or cancelled Google sign-in. No changes " ++
          "were made to your account."
      tone := .neutral }),
    ("not_linked", {
      title := "Account not linked"
      heading :=
        "This Google account isn't linked to a KIS account"
      message :=
        "To use Google sign-in for recovery, first log in " ++
          "to KIS the usual way and link your Google account " ++
          "from Settings."
      tone := .neutral }),
    ("already_linked", {
      title := "Already linked"
      heading := "This Google account is already linked"
      message :=
        "It's already connected to a different KIS account. " ++
          "Sign in to that account instead."
      tone := .error }),
    ("already_registered", {
      title := "Already registered"
      heading := "You already have a KIS account"
      message :=
        "This Google account is already associated with a " ++
          "KIS account. Try signing in instead of signing up."
      tone := .neutral }),
    ("expired", {
      title := "Session expired"
      heading := "This sign-in session expired"
      message :=
        "For your security, sign-in sessions time out after " ++
          "a few minutes. Please try again."
      tone := .error }),
    ("rate_limited", {
      title := "Too many attempts"
      heading := "Please try again shortly"
      message :=
        "Too many attempts in a short time. Wait a minute " ++
          "and try again."
      tone := .error }),
    ("invalid_request", invalidRequestPage),
    ("server_error", {
      title := "Temporary error"
      heading := "Something went wrong on our end"
      message :=
        "This wasn't caused by anything you did. Please try " ++
          "again in a moment."
      tone := .error })]

/- The names every object has without being given them. -/
def inheritedNames : List String :=
  ["constructor", "__defineGetter__", "__defineSetter__",
    "hasOwnProperty", "__lookupGetter__",
    "__lookupSetter__", "isPrototypeOf",
    "propertyIsEnumerable", "toString", "valueOf",
    "__proto__", "toLocaleString"]

/-
  The copy for a named outcome. An inherited name finds
  something without a title, which cannot be rendered.
-/
def pageCopy (state : Option String) : Option PageOptions :=
  match truthyText state with
  | none => some invalidRequestPage
  | some name =>
      match pageStates.lookup name with
      | some copy => some copy
      | none =>
          if inheritedNames.contains name then none
          else some invalidRequestPage

namespace WebController

def welcome : KisM Response :=
  return .page (renderPage {
    title := "Welcome"
    heading := "KIS Auth"
    message :=
      "Secure authentication for Kingdom Impact Social. Open " ++
          "this from the KIS app to sign in or recover your " ++
          "account with Google — this page has nothing to do on " ++
          "its own."
    tone := .neutral })

/-
  The page hands off to any complete URL it is given. One
  that does not parse is left out.
-/
def status
    (P : Platform)
    (query : StatusQuery) : KisM Response := do
  let returnTo :=
    match truthyText query.clientRedirect with
    | none => none
    | some clientRedirect =>
        (P.parseUrl clientRedirect).map (fun target =>
          { url := P.href target
            label := "Return to KIS" })
  let copy ← orCrash (pageCopy query.state)
  return .page (renderPage { copy with returnTo := returnTo })

end WebController

end KisAuth
