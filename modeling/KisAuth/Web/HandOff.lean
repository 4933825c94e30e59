import KisAuth.OAuth.StatusRedirect
import KisAuth.Text.CharacterReferences
import KisAuth.Text.Urls
import KisAuth.Web.Page
import KisAuth.Web.WebController

/-
  What a browser does with the redirect to the status page
  and with the page: it asks for the URL, and follows the
  link of the button or the refresh tag.

  Key definitions include:
    * `Platform.withUrls`, `statusQueryOf`
    * `holeAfter`, `buttonHref`, `refreshContent`
    * `refreshTarget`
-/

------------------------------------------------------------
-- Requests For The Status Page
------------------------------------------------------------

namespace KisAuth

/- The platform with URLs that follow the rules. -/
def Platform.withUrls
    (P : Platform)
    (rules : Urls.Rules) : Platform :=
  { P with
    Url := Urls.Url
    parseUrl := fun text =>
      Urls.parse rules.toBaseRules text.toList
    parseUrlAt := fun text against =>
      rules.resolve text.toList against.toList
    setSearchParam := Urls.setSearchParam rules
    href := fun url => String.ofList (Urls.href url)
    pathname := fun url =>
      String.ofList (rules.pathname url.base)
    searchParams := fun url =>
      String.ofList
        (FormUrlencoded.serialize (Urls.params rules url)) }

/- The query of a request, as the server decodes it. -/
def statusQueryOf
    (rules : Urls.Rules)
    (url : Urls.Url) : StatusQuery where
  state := (Urls.params rules url).lookup "state"
  clientRedirect :=
    (Urls.params rules url).lookup "client_redirect"

end KisAuth

------------------------------------------------------------
-- Links Of A Page
------------------------------------------------------------

namespace KisAuth

open Markup

/- What is put in right after a text of the template. -/
def holeAfter
    (marker : String) : List Segment → Option String
| [] => none
| .fixed text :: .hole inside :: rest =>
    if text = marker then some inside
    else holeAfter marker rest
| _ :: rest => holeAfter marker rest

/- The value of the button's `href`, as it stands. -/
def buttonHref (segments : List Segment) : Option String :=
  holeAfter "<a class=\"btn\" href=\"" segments

/- The `content` of the refresh tag, as it stands. -/
def refreshContent (segments : List Segment) :
    Option String :=
  holeAfter "<meta http-equiv=\"refresh\" content=\""
    segments

/- A URL between quotes ends with the second one. -/
def unquote : List Char → List Char
| '"' :: text => text.takeWhile (· ≠ '"')
| '\'' :: text => text.takeWhile (· ≠ '\'')
| text => text

/- The URL after the delay, with or without `url=`. -/
def refreshUrl (text : List Char) : List Char :=
  match text with
  | u :: rest =>
      if lower u = 'u' then
        match rest with
        | r :: l :: after =>
            if lower r = 'r' ∧ lower l = 'l' then
              match after.dropWhile isSpace with
              | '=' :: url => unquote (url.dropWhile isSpace)
              | _ => text
            else
              text
        | _ => text
      else
        unquote text
  | [] => []

/- Where a refresh tag leads, if it names a URL. -/
def refreshTarget (content : List Char) :
    Option (List Char) :=
  let text := content.dropWhile isSpace
  if (text.takeWhile Char.isDigit = []) ∧
      text.head? ≠ some '.' then
    none
  else
    let after :=
      text.dropWhile (fun c => c.isDigit || c = '.')
    match after with
    | [] => none
    | c :: _ =>
        if c = ';' ∨ c = ',' ∨ isSpace c then
          let rest :=
            match after.dropWhile isSpace with
            | ';' :: rest => rest.dropWhile isSpace
            | ',' :: rest => rest.dropWhile isSpace
            | rest => rest
          if rest = [] then none else some (refreshUrl rest)
        else
          none

example :
    refreshTarget "2;url=https://a.example/?x=1".toList =
      some "https://a.example/?x=1".toList := by
  decide +kernel

end KisAuth
