import Mathlib.Algebra.Order.Floor.Ring
import Mathlib.Data.List.Lex
import Mathlib.Data.List.Sort
import Mathlib.Data.Rat.Floor
import KisAuth.Data.Platform

/-
  Signed service-to-service requests: the canonical text of
  a body, the signed payload, signing and verification with
  the in-process nonce cache.

  Key definitions include:
    * `stableStringify`, `bodyHash`, `pathWithQuery`
    * `signaturePayload`, `signedInternalHeaders`
    * `verifyInternalSignature`
-/

------------------------------------------------------------
-- Canonical Text
------------------------------------------------------------

namespace KisAuth

/- The UTF-16 code units of a string. -/
def utf16Units (text : String) : List Nat :=
  text.toList.flatMap (fun c =>
    if c.toNat < 0x10000 then
      [c.toNat]
    else
      [0xD800 + (c.toNat - 0x10000) / 0x400,
        0xDC00 + (c.toNat - 0x10000) % 0x400])

/- The order `sort` puts strings in. -/
def codeUnitLe (left right : String) : Prop :=
  utf16Units left ≤ utf16Units right

instance : DecidableRel codeUnitLe :=
  fun left right =>
    inferInstanceAs
      (Decidable (utf16Units left ≤ utf16Units right))

/- A lower case hexadecimal digit. -/
def lowerHexDigit (n : Nat) : Char :=
  if n < 10 then Char.ofNat (48 + n)
  else Char.ofNat (87 + n)

/- One character inside a JSON string literal. -/
def escapeJsonChar (c : Char) : List Char :=
  if c = '"' then ['\\', '"']
  else if c = '\\' then ['\\', '\\']
  else if c.toNat = 8 then ['\\', 'b']
  else if c.toNat = 12 then ['\\', 'f']
  else if c.toNat = 10 then ['\\', 'n']
  else if c.toNat = 13 then ['\\', 'r']
  else if c.toNat = 9 then ['\\', 't']
  else if c.toNat < 32 then
    ['\\', 'u', '0', '0', lowerHexDigit (c.toNat / 16),
      lowerHexDigit (c.toNat % 16)]
  else [c]

/- `JSON.stringify` of a string. -/
def quoteJson (text : String) : List Char :=
  '"' :: text.toList.flatMap escapeJsonChar ++ ['"']

/- Pieces joined by commas. -/
def joinComma : List (List Char) → List Char
| [] => []
| [piece] => piece
| piece :: next :: rest =>
    piece ++ ',' :: joinComma (next :: rest)

/- Members in the order of their names. -/
def sortMembers
    (members : List (String × List Char)) :
    List (String × List Char) :=
  members.insertionSort
    (fun left right => codeUnitLe left.1 right.1)

/- One member of an object, as text. -/
def memberText (member : String × List Char) : List Char :=
  quoteJson member.1 ++ ':' :: member.2

mutual

/-
  The canonical text of a value. An absent value and `null`
  are written as nothing.
-/
def stableText : JsValue → List Char
| .undefined => []
| .null => []
| .bool true => "true".toList
| .bool false => "false".toList
| .num value => value.text.toList
| .infinite _ => "null".toList
| .str value => quoteJson value
| .arr items =>
    '[' :: joinComma (stableItems items) ++ [']']
| .obj members =>
    '{' ::
      joinComma
        ((sortMembers (stableMembers members)).map
          memberText) ++
      ['}']

/- The canonical texts of array items. -/
def stableItems : List JsValue → List (List Char)
| [] => []
| item :: rest => stableText item :: stableItems rest

/- The canonical texts of the members that are defined. -/
def stableMembers :
    List (String × JsValue) → List (String × List Char)
| [] => []
| (_, .undefined) :: rest => stableMembers rest
| (name, value) :: rest =>
    (name, stableText value) :: stableMembers rest

end

/-
  The recursion over a value throws where the value is
  nested more deeply than the call stack allows.
-/
def stableStringify
    (P : Platform)
    (value : JsValue) : Option (List Char) :=
  if value.depth ≤ P.stringifyDepth then
    some (stableText value)
  else
    none

/-
  The text that is hashed. A body that is a string is read
  as JSON, and taken as it is where that throws or the
  recursion over what was read does.
-/
def stableBody
    (P : Platform)
    (body : JsValue) : Option (List Char) :=
  match body with
  | .str text =>
      some
        (((P.jsonParse text).bind
            (stableStringify P)).getD text.toList)
  | value => stableStringify P value

def bodyHash
    (P : Platform)
    (body : JsValue) : Option String :=
  (stableBody P body).map
    (fun text => P.sha256Hex (String.ofList text))

example :
    String.ofList
        (stableText
          (.obj [("b", .null), ("a", .arr [.str "x\""])])) =
      "\x7b\"a\":[\"x\\\"\"],\"b\":\x7d" := by
  decide +kernel

end KisAuth

------------------------------------------------------------
-- Signing
------------------------------------------------------------

namespace KisAuth

/- The normalised path and query of a URL or path. -/
def pathWithQuery
    (P : Platform)
    (url : String) : Option String :=
  (P.parseUrlAt url "http://internal.local").map
    (fun parsed =>
      let query := P.searchParams parsed
      let path :=
        if P.pathname parsed = "" then "/"
        else P.pathname parsed
      path ++ (if query = "" then "" else "?" ++ query))

/- What a signature is computed over. -/
structure SignatureInput where
  method : String
  path : String
  timestamp : String
  nonce : String
  bodyHash : String

def signaturePayload
    (P : Platform)
    (input : SignatureInput) : String :=
  P.toUpperCase input.method ++ "\n" ++
    ((if input.path = "" then "/" else input.path) ++ "\n" ++
      (input.timestamp ++ "\n" ++
        (input.nonce ++ "\n" ++ input.bodyHash)))

def sign
    (P : Platform)
    (secret payload : String) : String :=
  P.hmacSha256Hex secret payload

/- One request header. -/
inductive HeaderValue where
  | absent
  | one (value : String)
  | many (values : List String)
  deriving DecidableEq

def firstHeader : HeaderValue → Option String
| .absent => none
| .one value => some value
| .many values => values.head?

/- The three signature headers. -/
structure InternalHeaders where
  timestamp : HeaderValue
  nonce : HeaderValue
  signature : HeaderValue
  deriving DecidableEq

/-
  The headers a caller sends at clock reading `now`, in
  milliseconds, with the random nonce it drew. There are
  none where the URL or the body cannot be signed.
-/
def signedInternalHeaders
    (P : Platform)
    (method url : String)
    (body : JsValue)
    (secret : String)
    (now : ℚ)
    (nonce : String) : Option InternalHeaders :=
  let timestamp := toString (Int.floor (now / 1000))
  (pathWithQuery P url).bind (fun path =>
    (bodyHash P body).map (fun hash =>
      { timestamp := .one timestamp
        nonce := .one nonce
        signature := .one (sign P secret
          (signaturePayload P
            { method := method
              path := path
              timestamp := timestamp
              nonce := nonce
              bodyHash := hash })) }))

end KisAuth

------------------------------------------------------------
-- Verification
------------------------------------------------------------

namespace KisAuth

/- A request as the verifier is given it. -/
structure SignedRequest where
  method : String
  url : String
  body : JsValue
  headers : InternalHeaders

inductive VerifyResult where
  | ok
  | fail (reason : String)
  deriving DecidableEq

/- The nonces seen, with the times they may be forgotten. -/
abbrev NonceCache := List (String × ℚ)

/- The accepted clock skew in seconds. -/
def acceptedSkew (maxSkewSeconds : ℚ) : Int :=
  max 30 (Int.floor maxSkewSeconds)

/- Forget the nonces that expired. -/
def purge (now : ℚ) (cache : NonceCache) : NonceCache :=
  cache.filter (fun entry => decide (now < entry.2))

/- Whether a nonce is remembered. -/
def remembers (cache : NonceCache) (nonce : String) : Bool :=
  cache.any (fun entry => entry.1 == nonce)

/- The values of the three headers, when all are present. -/
structure HeaderTexts where
  timestamp : String
  nonce : String
  signature : String
  deriving DecidableEq

/- The headers as text. An empty header counts as missing. -/
def headerTexts
    (headers : InternalHeaders) : Option HeaderTexts :=
  match firstHeader headers.timestamp,
      firstHeader headers.nonce,
      firstHeader headers.signature with
  | some timestamp, some nonce, some signature =>
      if timestamp = "" ∨ nonce = "" ∨ signature = "" then
        none
      else
        some ⟨timestamp, nonce, signature⟩
  | _, _, _ => none

/-
  The signature a request should carry. Computing it throws
  where the URL constructor or the hash of the body does.
-/
def expectedSignature
    (P : Platform)
    (secret : String)
    (request : SignedRequest)
    (texts : HeaderTexts) : Option String :=
  (pathWithQuery P request.url).bind (fun path =>
    (bodyHash P request.body).map (fun hash =>
      sign P secret
        (signaturePayload P
          { method := request.method
            path := path
            timestamp := texts.timestamp
            nonce := texts.nonce
            bodyHash := hash })))

/- Whether a timestamp is outside the accepted window. -/
def outsideWindow (now ts : ℚ) (skew : Int) : Prop :=
  (skew : ℚ) < |(Int.floor (now / 1000) : ℚ) - ts|

instance (now ts : ℚ) (skew : Int) :
    Decidable (outsideWindow now ts skew) :=
  inferInstanceAs (Decidable (_ < _))

/-
  Verification. The clock is read twice, in milliseconds:
  `checkedAt` for the window and `now` for the nonces. The
  result is `none` where the expected signature throws.
-/
def verifyInternalSignature
    (P : Platform)
    (secret : String)
    (maxSkewSeconds : ℚ)
    (checkedAt now : ℚ)
    (request : SignedRequest)
    (cache : NonceCache) :
    Option VerifyResult × NonceCache :=
  match headerTexts request.headers with
  | none =>
      (some (.fail "missing_signature_headers"), cache)
  | some texts =>
      match P.number texts.timestamp with
      | none => (some (.fail "invalid_timestamp"), cache)
      | some ts =>
          let skew := acceptedSkew maxSkewSeconds
          if outsideWindow checkedAt ts skew then
            (some (.fail "timestamp_outside_window"), cache)
          else
            let live := purge now cache
            if remembers live texts.nonce then
              (some (.fail "replayed_nonce"), live)
            else
              match expectedSignature P secret request
                  texts with
              | none => (none, live)
              | some expected =>
                  if expected = texts.signature then
                    (some .ok,
                      live ++
                        [(texts.nonce, now + skew * 1000)])
                  else
                    (some (.fail "signature_mismatch"), live)

end KisAuth
