import KisAuth.Text.Base64
import KisAuth.Text.Pieces

/-
  The keys of earlier rotations, as the environment lists
  them: `kid:base64(PEM)` entries with commas between them.

  Key definitions include:
    * `PreviousKey`, `BufferText`
    * `parsePreviousKeys`, `encodePreviousKeys`
-/

------------------------------------------------------------
-- Buffers
------------------------------------------------------------

namespace KisAuth

/- The UTF-8 bytes of a text. -/
def utf8Of (text : String) : List UInt8 :=
  text.toByteArray.data.toList

/-
  `Buffer.from(text, 'base64').toString('utf8')`, of which
  it is known that it reads what was written from a text,
  with its padding or without.
-/
structure BufferText where
  read : List Char → String
  read_encode :
    ∀ text pads,
      read
          (Base64.encode (utf8Of text) ++
            List.replicate pads '=') =
        text

/- A reader that passes over what is not base64. -/
def BufferText.lenient : BufferText where
  read := fun text =>
    (String.fromUTF8?
      ⟨(Base64.lenientDecode text).toArray⟩).getD "\uFFFD"
  read_encode := by
    intro text pads
    have hBytes :
        (⟨(utf8Of text).toArray⟩ : ByteArray) =
          text.toByteArray := by
      simp [utf8Of]
    simp only [Base64.lenientDecode_encode, hBytes,
      String.fromUTF8?, dif_pos text.isValidUTF8]
    rfl

end KisAuth

------------------------------------------------------------
-- Previous Keys
------------------------------------------------------------

namespace KisAuth

structure PreviousKey where
  kid : String
  publicKeyPem : String
  deriving DecidableEq

def malformedEntry (entry : List Char) : String :=
  "Malformed KISAUTH_JWT_PREVIOUS_KEYS entry: \"" ++
    String.ofList entry ++ "\""

/- The entries of the list that are not empty. -/
def previousKeyEntries (raw : String) : List (List Char) :=
  ((splitAtChar ',' raw.toList).map trim).filter
    (fun entry => entry ≠ [])

/- One entry. What follows a second colon is not looked at. -/
def readPreviousKey
    (buffer : BufferText)
    (entry : List Char) : Except String PreviousKey :=
  match splitAtChar ':' entry with
  | kid :: base64Pem :: _ =>
      if kid = [] ∨ base64Pem = [] then
        .error (malformedEntry entry)
      else
        .ok ⟨String.ofList kid, buffer.read base64Pem⟩
  | _ => .error (malformedEntry entry)

def parsePreviousKeys
    (buffer : BufferText)
    (raw : Option String) :
    Except String (List PreviousKey) :=
  match raw with
  | none => .ok []
  | some raw =>
      if trim raw.toList = [] then
        .ok []
      else
        (previousKeyEntries raw).mapM (readPreviousKey buffer)

/- The documented form of one key. -/
def encodePreviousKey (key : PreviousKey) : List Char :=
  key.kid.toList ++
    ':' :: Base64.encodePadded (utf8Of key.publicKeyPem)

/- The documented form of a list of keys. -/
def encodePreviousKeys (keys : List PreviousKey) : String :=
  String.ofList
    ([','].intercalate (keys.map encodePreviousKey))

end KisAuth
