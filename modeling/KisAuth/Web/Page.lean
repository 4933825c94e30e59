import KisAuth.Http.Messages
import KisAuth.Text.Markup

/-
  The page that the web routes show, as the text that the
  template gives: what is put in is escaped first, except for
  the configured base URL and the tone.

  Key definitions include:
    * `escapeHtml`, `icons`
    * `Page.segments`, `Page.html`
-/

------------------------------------------------------------
-- Escaping
------------------------------------------------------------

namespace KisAuth

/- `replace` of every occurrence of a character. -/
def replaceChar
    (c : Char)
    (replacement text : String) : String :=
  String.ofList (text.toList.flatMap (fun d =>
    if d = c then replacement.toList else [d]))

def escapeHtml (value : String) : String :=
  replaceChar '\'' "&#39;"
    (replaceChar '"' "&quot;"
      (replaceChar '>' "&gt;"
        (replaceChar '<' "&lt;"
          (replaceChar '&' "&amp;" value))))

end KisAuth

------------------------------------------------------------
-- The Template
------------------------------------------------------------

namespace KisAuth

/- Lines of the template, each with its end. -/
def templateLines (texts : List String) : String :=
  String.join (texts.map (fun text => text ++ "\n"))

/- The drawing of each tone. -/
def icons : Tone → String
| .success =>
    "<svg width=\"40\" height=\"40\" viewBox=\"0 0 24 24\" " ++
    "fill=\"none\" aria-hidden=\"true\"><circle cx=\"12\" " ++
    "cy=\"12\" r=\"11\" stroke=\"currentColor\" " ++
    "stroke-width=\"1.5\"/><path d=\"M7.5 12.5l3 3 6-6.5\" " ++
    "stroke=\"currentColor\" stroke-width=\"1.75\" " ++
    "stroke-linecap=\"round\" " ++
    "stroke-linejoin=\"round\"/></svg>"
| .error =>
    "<svg width=\"40\" height=\"40\" viewBox=\"0 0 24 24\" " ++
    "fill=\"none\" aria-hidden=\"true\"><circle cx=\"12\" " ++
    "cy=\"12\" r=\"11\" stroke=\"currentColor\" " ++
    "stroke-width=\"1.5\"/><path d=\"M12 7v6\" " ++
    "stroke=\"currentColor\" stroke-width=\"1.75\" " ++
    "stroke-linecap=\"round\"/><circle cx=\"12\" " ++
    "cy=\"16.25\" r=\"1\" fill=\"currentColor\"/></svg>"
| .neutral =>
    "<svg width=\"40\" height=\"40\" viewBox=\"0 0 24 24\" " ++
    "fill=\"none\" aria-hidden=\"true\"><circle cx=\"12\" " ++
    "cy=\"12\" r=\"11\" stroke=\"currentColor\" " ++
    "stroke-width=\"1.5\"/><path d=\"M12 8v4.5l3 2\" " ++
    "stroke=\"currentColor\" stroke-width=\"1.75\" " ++
    "stroke-linecap=\"round\" " ++
    "stroke-linejoin=\"round\"/></svg>"

/- The tone as the class of its icon. -/
def toneClass : Tone → String
| .success => "success"
| .error => "error"
| .neutral => "neutral"

def pageStart : String :=
  templateLines
    ["<!doctype html>",
      "<html lang=\"en\">",
      "<head>",
      "<meta charset=\"utf-8\">",
      "<meta name=\"viewport\" " ++
        "content=\"width=device-width, initial-scale=1\">",
      "<meta name=\"robots\" content=\"noindex, nofollow\">"]

def pageLinks : String :=
  templateLines
    ["<link rel=\"icon\" type=\"image/png\" " ++
        "sizes=\"32x32\" href=\"/brand/icon-32.png\">",
      "<link rel=\"apple-touch-icon\" sizes=\"180x180\" " ++
        "href=\"/brand/icon-180.png\">",
      "<link rel=\"icon\" type=\"image/png\" " ++
        "sizes=\"512x512\" href=\"/brand/icon-512.png\">",
      "<meta property=\"og:type\" content=\"website\">",
      "<meta property=\"og:site_name\" content=\"KIS " ++
        "Auth\">"]

def pageStyle : String :=
  templateLines
    ["  :root \x7b",
      "    --bg: #12100b;",
      "    --card: #1b1812;",
      "    --border: #33291a;",
      "    --ink: #f4efe4;",
      "    --ink-soft: #b8ac93;",
      "    --gold: #d4af6a;",
      "    --gold-ink: #12100b;",
      "    --success: #7fb88a;",
      "    --error: #e0796f;",
      "  \x7d",
      "  * \x7b box-sizing: border-box; \x7d",
      "  body \x7b",
      "    margin: 0;",
      "    min-height: 100vh;",
      "    display: flex;",
      "    align-items: center;",
      "    justify-content: center;",
      "    padding: 1.5rem;",
      "    background: radial-gradient(circle at 50% 0%, " ++
        "#1d1912 0%, var(--bg) 60%);",
      "    color: var(--ink);",
      "    font-family: -apple-system, BlinkMacSystemFont, " ++
        "\"Segoe UI\", Roboto, Helvetica, Arial, sans-serif;",
      "  \x7d",
      "  .card \x7b",
      "    width: 100%;",
      "    max-width: 380px;",
      "    background: var(--card);",
      "    border: 1px solid var(--border);",
      "    border-radius: 16px;",
      "    padding: 2.25rem 1.75rem;",
      "    text-align: center;",
      "  \x7d",
      "  .brand \x7b",
      "    display: flex;",
      "    align-items: center;",
      "    justify-content: center;",
      "    gap: 0.5rem;",
      "    font-size: 0.72rem;",
      "    letter-spacing: 0.16em;",
      "    text-transform: uppercase;",
      "    color: var(--gold);",
      "    font-weight: 600;",
      "    margin-bottom: 1.5rem;",
      "  \x7d",
      "  .brand img \x7b",
      "    width: 22px;",
      "    height: 22px;",
      "    border-radius: 6px;",
      "  \x7d",
      "  .icon \x7b",
      "    display: inline-flex;",
      "    align-items: center;",
      "    justify-content: center;",
      "    width: 64px;",
      "    height: 64px;",
      "    border-radius: 50%;",
      "    margin-bottom: 1.25rem;",
      "  \x7d",
      "  .icon.success \x7b background: rgba(127, 184, " ++
        "138, 0.14); color: var(--success); \x7d",
      "  .icon.error \x7b background: rgba(224, 121, 111, " ++
        "0.14); color: var(--error); \x7d",
      "  .icon.neutral \x7b background: rgba(212, 175, " ++
        "106, 0.14); color: var(--gold); \x7d",
      "  h1 \x7b",
      "    font-size: 1.3rem;",
      "    font-weight: 600;",
      "    margin: 0 0 0.6rem;",
      "    text-wrap: balance;",
      "  \x7d",
      "  p.message \x7b",
      "    color: var(--ink-soft);",
      "    font-size: 0.95rem;",
      "    line-height: 1.55;",
      "    margin: 0 0 1.75rem;",
      "  \x7d",
      "  .btn \x7b",
      "    display: inline-block;",
      "    width: 100%;",
      "    padding: 0.85rem 1rem;",
      "    border-radius: 999px;",
      "    background: var(--gold);",
      "    color: var(--gold-ink);",
      "    font-weight: 600;",
      "    font-size: 0.95rem;",
      "    text-decoration: none;",
      "  \x7d",
      "  .btn:focus-visible \x7b",
      "    outline: 2px solid var(--gold);",
      "    outline-offset: 3px;",
      "  \x7d",
      "  .hint \x7b",
      "    margin-top: 1rem;",
      "    font-size: 0.8rem;",
      "    color: var(--ink-soft);",
      "  \x7d"]

/- From the style to the class of the icon. -/
def pageCard : String :=
  templateLines
    ["</style>",
      "</head>",
      "<body>",
      "  <main class=\"card\" role=\"main\">",
      "    <div class=\"brand\"><img " ++
        "src=\"/brand/icon-180.png\" alt=\"\" width=\"22\" " ++
        "height=\"22\">KIS Auth</div>"] ++
    "    <div class=\"icon "

/- The meta tag that returns the browser by itself. -/
def refreshMeta : Option (Nat × String) → List Markup.Segment
| none => []
| some (delay, url) =>
    [.fixed "<meta http-equiv=\"refresh\" content=\"",
      .hole (toString delay ++ ";url=" ++ escapeHtml url),
      .fixed "\">"]

/- The button and what is said below it. -/
def returnButton :
    Option (String × String) → List Markup.Segment
| none => []
| some (url, label) =>
    [.fixed "<a class=\"btn\" href=\"",
      .hole (escapeHtml url),
      .fixed "\">",
      .hole (escapeHtml label),
      .fixed
        ("</a>\n    <p class=\"hint\">" ++
          "Returning you to KIS automatically…</p>")]

/- `replace(/\/$/, '')`. -/
def dropTrailingSlash (text : String) : String :=
  if text.toList.getLast? = some '/' then
    String.ofList text.toList.dropLast
  else
    text

/- The template, piece by piece, with what is put in. -/
def Page.segments
    (baseUrl : String)
    (page : Page) : List Markup.Segment :=
  let siteUrl := dropTrailingSlash baseUrl
  let ogImage := siteUrl ++ "/brand/og-image.jpg"
  let pageUrl := siteUrl ++ "/status"
  .fixed pageStart ::
    refreshMeta page.refresh ++
    [.fixed "\n<title>",
      .hole (escapeHtml page.title),
      .fixed " · KIS Auth</title>\n",
      .fixed pageLinks,
      .fixed "<meta property=\"og:title\" content=\"",
      .hole (escapeHtml page.heading),
      .fixed
        ("\">\n<meta property=\"og:description\" " ++
          "content=\""),
      .hole (escapeHtml page.message),
      .fixed "\">\n<meta property=\"og:image\" content=\"",
      .fixed ogImage,
      .fixed "\">\n<meta property=\"og:url\" content=\"",
      .fixed pageUrl,
      .fixed
        ("\">\n<meta name=\"twitter:card\" " ++
          "content=\"summary\">\n" ++
          "<meta name=\"twitter:title\" content=\""),
      .hole (escapeHtml page.heading),
      .fixed
        ("\">\n<meta name=\"twitter:description\" " ++
          "content=\""),
      .hole (escapeHtml page.message),
      .fixed "\">\n<meta name=\"twitter:image\" content=\"",
      .fixed ogImage,
      .fixed "\">\n<style>\n",
      .fixed pageStyle,
      .fixed pageCard,
      .fixed (toneClass page.tone),
      .fixed "\">",
      .fixed (icons page.tone),
      .fixed "</div>\n    <h1>",
      .hole (escapeHtml page.heading),
      .fixed "</h1>\n    <p class=\"message\">",
      .hole (escapeHtml page.message),
      .fixed "</p>\n    "] ++
    returnButton page.button ++
    [.fixed "\n  </main>\n</body>\n</html>"]

def Page.html (baseUrl : String) (page : Page) : String :=
  String.ofList (Markup.pageText (page.segments baseUrl))

end KisAuth
