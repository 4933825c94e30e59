import Mathlib.Data.List.Basic

/-
  Cookies and the percent encoding they use.

  Key definitions include:
    * `encodeURIComponent`, `decodeURIComponent`
    * `parseCookieHeader`, `serializeSessionCookie`
-/

------------------------------------------------------------
-- Percent Encoding
------------------------------------------------------------

namespace KisAuth

/- The UTF-8 bytes of a character. -/
def utf8Bytes (c : Char) : List Nat :=
  let n := c.toNat
  if n < 0x80 then
    [n]
  else if n < 0x800 then
    [0xC0 + n / 0x40, 0x80 + n % 0x40]
  else if n < 0x10000 then
    [0xE0 + n / 0x1000, 0x80 + n / 0x40 % 0x40,
      0x80 + n % 0x40]
  else
    [0xF0 + n / 0x40000, 0x80 + n / 0x1000 % 0x40,
      0x80 + n / 0x40 % 0x40, 0x80 + n % 0x40]

/- An upper case hexadecimal digit. -/
def upperHexDigit (n : Nat) : Char :=
  if n < 10 then Char.ofNat (48 + n)
  else Char.ofNat (55 + n)

/- The characters `encodeURIComponent` leaves alone. -/
def isUriUnreserved (c : Char) : Bool :=
  c.isAlphanum || "-_.!~*'()".toList.contains c

/- One byte as a percent escape. -/
def percentByte (byte : Nat) : List Char :=
  ['%', upperHexDigit (byte / 16), upperHexDigit (byte % 16)]

def encodeURIComponent (text : String) : String :=
  String.ofList (text.toList.flatMap (fun c =>
    if isUriUnreserved c then [c]
    else (utf8Bytes c).flatMap percentByte))

/- The value of a hexadecimal digit. -/
def hexValue (c : Char) : Option Nat :=
  if c.isDigit then some (c.toNat - 48)
  else if 'a' ≤ c ∧ c ≤ 'f' then some (c.toNat - 87)
  else if 'A' ≤ c ∧ c ≤ 'F' then some (c.toNat - 55)
  else none

/- The value of two hexadecimal digits. -/
def hexByte (high low : Char) : Option Nat :=
  match hexValue high, hexValue low with
  | some high, some low => some (16 * high + low)
  | _, _ => none

/- The six payload bits of a continuation byte. -/
def continuation (high low : Char) : Option Nat :=
  match hexByte high low with
  | some byte =>
      if 0x80 ≤ byte ∧ byte < 0xC0 then some (byte - 0x80)
      else none
  | none => none

/- The character with a code point in a given range. -/
def charInRange (least : Nat) (code : Nat) : Option Char :=
  if least ≤ code ∧ code.isValidChar then
    some (Char.ofNat code)
  else
    none

/- How many continuation bytes follow a first byte. -/
def trailingBytes (byte : Nat) : Option Nat :=
  if byte < 0x80 then some 0
  else if 0xC0 ≤ byte ∧ byte < 0xE0 then some 1
  else if 0xE0 ≤ byte ∧ byte < 0xF0 then some 2
  else if 0xF0 ≤ byte ∧ byte < 0xF8 then some 3
  else none

/-
  Replace each maximal run of escapes that encodes one
  character. An escape that is malformed, or bytes that are
  not UTF-8, throw a URIError.
-/
def decodeChars : List Char → Option (List Char)
| [] => some []
| '%' :: a :: b :: rest =>
    match hexByte a b with
    | none => none
    | some byte =>
        match trailingBytes byte, rest with
        | some 0, rest =>
            (decodeChars rest).map
              (fun decoded => Char.ofNat byte :: decoded)
        | some 1, '%' :: c :: d :: rest =>
            match continuation c d, decodeChars rest with
            | some y, some decoded =>
                (charInRange 0x80
                  ((byte - 0xC0) * 0x40 + y)).map
                  (fun char => char :: decoded)
            | _, _ => none
        | some 2, '%' :: c :: d :: '%' :: e :: f :: rest =>
            match continuation c d, continuation e f,
                decodeChars rest with
            | some y, some z, some decoded =>
                (charInRange 0x800
                  (((byte - 0xE0) * 0x40 + y) * 0x40 + z)).map
                  (fun char => char :: decoded)
            | _, _, _ => none
        | some 3, '%' :: c :: d :: '%' :: e :: f ::
            '%' :: g :: h :: rest =>
            match continuation c d, continuation e f,
                continuation g h, decodeChars rest with
            | some y, some z, some u, some decoded =>
                (charInRange 0x10000
                  ((((byte - 0xF0) * 0x40 + y) * 0x40 + z) *
                    0x40 + u)).map
                  (fun char => char :: decoded)
            | _, _, _, _ => none
        | _, _ => none
| '%' :: _ => none
| c :: rest =>
    (decodeChars rest).map (fun decoded => c :: decoded)

def decodeURIComponent (text : String) : Option String :=
  (decodeChars text.toList).map String.ofList

example :
    decodeURIComponent (encodeURIComponent "a%;é€😀") =
      some "a%;é€😀" := by
  decide +kernel

end KisAuth

------------------------------------------------------------
-- Cookies
------------------------------------------------------------

namespace KisAuth

/- The white space `trim` removes. -/
def isJsSpace (c : Char) : Bool :=
  [9, 10, 11, 12, 13, 32, 0xA0, 0x1680, 0x2028, 0x2029,
    0x202F, 0x205F, 0x3000, 0xFEFF].contains c.toNat ||
    (0x2000 ≤ c.toNat && c.toNat ≤ 0x200A)

def trim (text : List Char) : List Char :=
  ((text.dropWhile isJsSpace).reverse.dropWhile
    isJsSpace).reverse

/- The pieces between the occurrences of a character. -/
def splitAtChar
    (separator : Char) : List Char → List (List Char)
| [] => [[]]
| c :: rest =>
    if c = separator then
      [] :: splitAtChar separator rest
    else
      match splitAtChar separator rest with
      | [] => [[c]]
      | piece :: pieces => (c :: piece) :: pieces

/- Split at the first `=`, if there is one. -/
def cutAtEquals :
    List Char → Option (List Char × List Char)
| [] => none
| '=' :: rest => some ([], rest)
| c :: rest =>
    (cutAtEquals rest).map
      (fun parts => (c :: parts.1, parts.2))

/-
  The entries of a Cookie header, in order. A value that
  does not decode throws. Later entries replace earlier ones
  of the same name, and an assignment to `__proto__` is not
  one to an entry.
-/
def parseCookieParts :
    List (List Char) → Option (List (String × String))
| [] => some []
| part :: parts =>
    match cutAtEquals part with
    | none => parseCookieParts parts
    | some (name, value) =>
        if trim name = [] then
          parseCookieParts parts
        else
          match decodeChars (trim value),
              parseCookieParts parts with
          | some decoded, some entries =>
              if trim name = "__proto__".toList then
                some entries
              else
                some ((String.ofList (trim name),
                  String.ofList decoded) :: entries)
          | _, _ => none

def parseCookieHeader
    (header : Option String) :
    Option (List (String × String)) :=
  match header with
  | none => some []
  | some text =>
      if text = "" then
        some []
      else
        parseCookieParts (splitAtChar ';' text.toList)

/- The entry the parsed header holds for a name. -/
def cookieValue
    (entries : List (String × String))
    (name : String) : Option String :=
  entries.reverse.lookup name

def serializeSessionCookie
    (name value : String)
    (secure : Bool)
    (maxAgeSeconds : Nat) : String :=
  name ++ "=" ++ encodeURIComponent value ++
    "; Path=/; HttpOnly; SameSite=Lax; Max-Age=" ++
    toString maxAgeSeconds ++
    (if secure then "; Secure" else "")

end KisAuth
