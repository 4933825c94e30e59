import KisAuth.Security.CanonicalText
import KisAuth.Security.Verification

/-
  What a signature binds.

  A request that is accepted under a signature made for
  another request has the same method, path, timestamp and
  nonce, and the same body up to what the canonical text
  does not show: the order of members, null where nothing
  else stands, and the value of overflowing numbers.

  Key definitions include:
    * `SignedParts`, `SameParts`
    * `CollisionFree`

  Key theorems include:
    * `payload_inj`, `signature_binding`
    * `lone_null_accepted`
-/

------------------------------------------------------------
-- The Signed Parts Of A Request
------------------------------------------------------------

namespace KisAuth

open Text

/- What a caller signs. -/
structure SignedParts where
  method : String
  url : String
  body : JsValue
  timestamp : String
  nonce : String

/- What a verified request presents. -/
def SignedRequest.parts
    (request : SignedRequest)
    (texts : HeaderTexts) : SignedParts where
  method := request.method
  url := request.url
  body := request.body
  timestamp := texts.timestamp
  nonce := texts.nonce

variable (P : Platform)

/- The parts other than the body are single lines. -/
structure OneLineParts (parts : SignedParts) : Prop where
  method : SingleLine parts.method
  path :
    ∀ path,
      pathWithQuery P parts.url = some path →
        SingleLine path
  timestamp : SingleLine parts.timestamp
  nonce : SingleLine parts.nonce

/- Two requests that say the same. -/
structure SameParts (left right : SignedParts) : Prop where
  method :
    P.toUpperCase left.method = P.toUpperCase right.method
  path :
    pathWithQuery P left.url = pathWithQuery P right.url
  timestamp : left.timestamp = right.timestamp
  nonce : left.nonce = right.nonce
  body : SameBody P left.body right.body

/- No two texts have one digest. -/
structure CollisionFree (secret : String) : Prop where
  hash : Function.Injective P.sha256Hex
  mac : Function.Injective (P.hmacSha256Hex secret)

/- Upper case letters do not break lines. -/
def UpperCaseKeepsLines : Prop :=
  ∀ text, SingleLine text → SingleLine (P.toUpperCase text)

/- What is signed for the parts of a request. -/
def SignedParts.input
    (parts : SignedParts)
    (path bodyHash : String) : SignatureInput where
  method := parts.method
  path := path
  timestamp := parts.timestamp
  nonce := parts.nonce
  bodyHash := bodyHash

end KisAuth

------------------------------------------------------------
-- The Payload
------------------------------------------------------------

namespace KisAuth

open Text

variable {P : Platform}

/- A normalised path is never empty. -/
theorem pathWithQuery_ne_empty
    {url path : String}
    (hPath : pathWithQuery P url = some path) :
    path ≠ "" := by
  unfold pathWithQuery at hPath
  rw [Option.map_eq_some_iff] at hPath
  rcases hPath with ⟨parsed, _, rfl⟩
  intro hEmpty
  have hStart := (String.append_eq_empty_iff.mp hEmpty).1
  by_cases hNone : P.pathname parsed = ""
  · simp [hNone] at hStart
  · simp only [hNone, if_false] at hStart

/- The time of signing is written on one line. -/
theorem singleLine_toString (n : Int) :
    SingleLine (toString n) := by
  have hDigits :
      ∀ m : Nat, '\n' ∉ (Nat.repr m).toList := by
    intro m hMem
    have hDigit :=
      @Nat.isDigit_of_mem_toDigits 10 m '\n' (by decide)
        (by decide) (by simpa [Nat.repr] using hMem)
    simp at hDigit
  unfold SingleLine
  rw [Int.toString_eq_repr, Int.repr_eq_if]
  split
  · exact hDigits _
  · intro hMem
    rw [String.toList_append, List.mem_append] at hMem
    rcases hMem with hSign | hDigit
    · simp at hSign
    · exact hDigits _ hDigit

/- The payload tells all its parts. -/
theorem payload_inj
    {left right : SignedParts}
    {path path' hash hash' : String}
    (hUpper : UpperCaseKeepsLines P)
    (hLeft : OneLineParts P left)
    (hRight : OneLineParts P right)
    (hPath : pathWithQuery P left.url = some path)
    (hPath' : pathWithQuery P right.url = some path')
    (hEq :
      signaturePayload P (left.input path hash) =
        signaturePayload P (right.input path' hash')) :
    P.toUpperCase left.method =
        P.toUpperCase right.method ∧
      path = path' ∧
      left.timestamp = right.timestamp ∧
      left.nonce = right.nonce ∧
      hash = hash' := by
  unfold signaturePayload at hEq
  simp only [SignedParts.input, pathWithQuery_ne_empty hPath,
    pathWithQuery_ne_empty hPath', if_false] at hEq
  rcases line_append_inj (hUpper _ hLeft.method)
      (hUpper _ hRight.method) hEq with ⟨hMethod, hRest⟩
  rcases line_append_inj (hLeft.path path hPath)
      (hRight.path path' hPath') hRest with
    ⟨hSamePath, hRest⟩
  rcases line_append_inj hLeft.timestamp hRight.timestamp
      hRest with ⟨hTimestamp, hRest⟩
  rcases line_append_inj hLeft.nonce hRight.nonce hRest with
    ⟨hNonce, hHash⟩
  exact ⟨hMethod, hSamePath, hTimestamp, hNonce, hHash⟩

/- The hash tells bodies apart up to their normal form. -/
theorem sameBody_of_hash
    {secret : String}
    (hDigests : CollisionFree P secret)
    {left right : JsValue}
    {hash : String}
    (hLeft : bodyHash P left = some hash)
    (hRight : bodyHash P right = some hash) :
    SameBody P left right := by
  rcases Option.map_eq_some_iff.mp hLeft with
    ⟨text, hText, hHashed⟩
  rcases Option.map_eq_some_iff.mp hRight with
    ⟨text', hText', rfl⟩
  have hSame := hDigests.hash hHashed
  rw [String.ofList_inj] at hSame
  subst hSame
  exact
    (stableBody_eq_iff hText' (serializes_of_some hText).1).mp
      hText

end KisAuth

------------------------------------------------------------
-- Signatures
------------------------------------------------------------

namespace KisAuth

open Text

variable {P : Platform} {secret : String}

/- The headers that are sent for a request. -/
theorem signed_headers
    {method url nonce : String}
    {body : JsValue}
    {now : ℚ}
    {headers : InternalHeaders}
    (hSigned :
      signedInternalHeaders P method url body secret now
        nonce = some headers) :
    ∃ path hash,
      pathWithQuery P url = some path ∧
        bodyHash P body = some hash ∧
        firstHeader headers.signature =
          some
            (sign P secret
              (signaturePayload P
                (SignedParts.input
                  ⟨method, url, body,
                    toString (Int.floor (now / 1000)),
                    nonce⟩ path hash))) := by
  unfold signedInternalHeaders at hSigned
  rw [Option.bind_eq_some_iff] at hSigned
  rcases hSigned with ⟨path, hPath, hHeaders⟩
  rcases Option.map_eq_some_iff.mp hHeaders with
    ⟨hash, hHash, rfl⟩
  exact ⟨path, hash, hPath, hHash, rfl⟩

/-
  A request that is accepted under a signature made for
  another one says the same as the other one. Where neither
  body is a text or contains null, the bodies are equal up
  to the order of their members.
-/
theorem signature_binding
    {method url nonce : String}
    {body : JsValue}
    {signedAt maxSkewSeconds : ℚ}
    {headers : InternalHeaders}
    {call : VerifyCall}
    {cache : NonceCache}
    {texts : HeaderTexts}
    (hDigests : CollisionFree P secret)
    (hUpper : UpperCaseKeepsLines P)
    (hSigned :
      signedInternalHeaders P method url body secret signedAt
        nonce = some headers)
    (hMethod : SingleLine method)
    (hPath :
      ∀ path,
        pathWithQuery P url = some path → SingleLine path)
    (hNonce : SingleLine nonce)
    (hAccepted :
      (call.verify P secret maxSkewSeconds cache).1 =
        some .ok)
    (hTexts :
      headerTexts call.request.headers = some texts)
    (hLines : OneLineParts P (call.request.parts texts))
    (hSignature :
      firstHeader headers.signature =
        some texts.signature) :
    SameParts P (call.request.parts texts)
        ⟨method, url, body,
          toString (Int.floor (signedAt / 1000)), nonce⟩ ∧
      (IsStructured call.request.body → IsStructured body →
        sortKeys call.request.body = sortKeys body) := by
  rcases signed_headers hSigned with
    ⟨sentPath, sentHash, hSentPath, hSentHash, hSent⟩
  rcases verify_accepted hAccepted with
    ⟨presented, hAcceptable, _, _⟩
  have hSame := hAcceptable.headers
  rw [hTexts, Option.some.injEq] at hSame
  subst hSame
  rcases expectedSignature_eq_some_iff.mp
      hAcceptable.signature with
    ⟨path, hash, hUrl, hPresented, hExpected⟩
  have hMacs :
      sign P secret
          (signaturePayload P
            ((call.request.parts texts).input path hash)) =
        sign P secret
          (signaturePayload P
            (SignedParts.input
              ⟨method, url, body,
                toString (Int.floor (signedAt / 1000)),
                nonce⟩ sentPath sentHash)) := by
    rw [hSent, Option.some.injEq] at hSignature
    rw [hSignature]
    exact hExpected
  have hPayloads := hDigests.mac hMacs
  have hSentLines :
      OneLineParts P
        ⟨method, url, body,
          toString (Int.floor (signedAt / 1000)), nonce⟩ :=
    ⟨hMethod, hPath, singleLine_toString _, hNonce⟩
  rcases payload_inj hUpper hLines hSentLines hUrl hSentPath
      hPayloads with
    ⟨hSameMethod, rfl, hTimestamp, hSameNonce, rfl⟩
  have hBody :=
    sameBody_of_hash hDigests hPresented hSentHash
  constructor
  · exact
      ⟨hSameMethod, hUrl.trans hSentPath.symm, hTimestamp,
        hSameNonce, hBody⟩
  · exact hBody.sortKeys_eq

end KisAuth

------------------------------------------------------------
-- One Signature
------------------------------------------------------------

namespace KisAuth

open Text

/- A digest that is known for one text. -/
def knownDigest (text digest other : String) : String :=
  if other = text then digest else "?" ++ other

theorem knownDigest_injective
    {text digest : String}
    (hDigest : digest.toList.head? ≠ some '?') :
    Function.Injective (knownDigest text digest) := by
  have hOther : ∀ other, digest ≠ "?" ++ other := by
    rintro other rfl
    simp at hDigest
  intro left right hEq
  unfold knownDigest at hEq
  split at hEq <;> split at hEq
  · next hLeft hRight =>
      rw [hLeft, hRight]
  · exact absurd hEq (hOther right)
  · exact absurd hEq.symm (hOther left)
  · exact (String.append_right_inj "?").mp hEq

/- The hash of the body with the empty list. -/
def emptyListHash : String :=
  "eef46741adfc3a9f76294d3b78f37a45" ++
    "f113092ac9d44ee77c7a038a88ff09a1"

/- The signature of one request with that body. -/
def emptyListSignature : String :=
  "bcd442f4521bafb92c2e6a8267cbc4e0" ++
    "5936511841c3d7a344cb0fe7b4498d6d"

/-
  The digests of that request, as the runtime computes them.
  No other text has one of them.
-/
def emptyListPlatform : Platform :=
  { Platform.bare with
    parseUrlAt := fun text _ => some text
    number := fun text =>
      if text = "1000" then some 1000 else none
    sha256Hex :=
      knownDigest "\x7b\"items\":[]\x7d" emptyListHash
    hmacSha256Hex := fun _ =>
      knownDigest
        ("POST\n/internal/v1/identity/link\n1000\na1b2c3\n" ++
          emptyListHash)
        emptyListSignature }

theorem emptyList_collisionFree :
    CollisionFree emptyListPlatform "test-secret" :=
  ⟨knownDigest_injective (by decide),
    knownDigest_injective (by decide)⟩

/- A body with one list in it. -/
def itemsBody (items : List JsValue) : JsValue :=
  .obj [("items", .arr items)]

/- The headers of the request with the empty list. -/
def emptyListHeaders : InternalHeaders where
  timestamp := .one "1000"
  nonce := .one "a1b2c3"
  signature := .one emptyListSignature

/- Those headers with another body. -/
def emptyListCall (items : List JsValue) : VerifyCall where
  checkedAt := 1000000
  now := 1000000
  request :=
    { method := "POST"
      url := "/internal/v1/identity/link"
      body := itemsBody items
      headers := emptyListHeaders }

theorem emptyList_signed :
    signedInternalHeaders emptyListPlatform "POST"
        "/internal/v1/identity/link" (itemsBody [])
        "test-secret" 1000000 "a1b2c3" =
      some emptyListHeaders := by
  decide +kernel

theorem emptyList_path
    (path : String)
    (hPath :
      pathWithQuery emptyListPlatform
        "/internal/v1/identity/link" = some path) :
    SingleLine path := by
  have hKnown :
      pathWithQuery emptyListPlatform
          "/internal/v1/identity/link" =
        some "/internal/v1/identity/link" := by
    decide +kernel
  rw [hKnown, Option.some.injEq] at hPath
  subst hPath
  decide

theorem emptyList_lines (items : List JsValue) :
    OneLineParts emptyListPlatform
      ((emptyListCall items).request.parts
        ⟨"1000", "a1b2c3", emptyListSignature⟩) := by
  have hMethod : SingleLine "POST" := by decide
  have hTimestamp : SingleLine "1000" := by decide
  have hNonce : SingleLine "a1b2c3" := by decide
  exact ⟨hMethod, emptyList_path, hTimestamp, hNonce⟩

/-
  A body with a list of one null is accepted under the
  signature made for the empty list.
-/
theorem lone_null_accepted :
    CollisionFree emptyListPlatform "test-secret" ∧
      OneLineParts emptyListPlatform
        ((emptyListCall [.null]).request.parts
          ⟨"1000", "a1b2c3", emptyListSignature⟩) ∧
      signedInternalHeaders emptyListPlatform "POST"
          "/internal/v1/identity/link" (itemsBody [])
          "test-secret" 1000000 "a1b2c3" =
        some emptyListHeaders ∧
      ((emptyListCall [.null]).verify emptyListPlatform
          "test-secret" 300 []).1 = some .ok ∧
      sortKeys (itemsBody [.null]) ≠
        sortKeys (itemsBody []) := by
  refine
    ⟨emptyList_collisionFree, emptyList_lines _,
      emptyList_signed, ?_, ?_⟩
  · decide +kernel
  · simp [itemsBody, sortKeys, sortKeysItems,
      sortKeysMembers]

/- The request that was signed is accepted for what it is. -/
theorem empty_list_bound :
    SameParts emptyListPlatform
        ((emptyListCall []).request.parts
          ⟨"1000", "a1b2c3", emptyListSignature⟩)
        ⟨"POST", "/internal/v1/identity/link", itemsBody [],
          toString (Int.floor ((1000000 : ℚ) / 1000)),
          "a1b2c3"⟩ ∧
      (IsStructured (itemsBody []) →
        IsStructured (itemsBody []) →
          sortKeys (itemsBody []) =
            sortKeys (itemsBody [])) := by
  have hAccepted :
      ((emptyListCall []).verify emptyListPlatform
        "test-secret" 300 []).1 = some .ok := by
    decide +kernel
  have hTexts :
      headerTexts (emptyListCall []).request.headers =
        some ⟨"1000", "a1b2c3", emptyListSignature⟩ := by
    decide +kernel
  exact
    signature_binding emptyList_collisionFree
      (fun _ hLine => hLine) emptyList_signed (by decide)
      emptyList_path (by decide) hAccepted hTexts
      (emptyList_lines []) rfl

end KisAuth
