import KisAuth.Security.JsonTransport
import KisAuth.Guarantees.SignatureBinding

/-
  A signed request verifies at the other end.

  The verifier rebuilds the signed payload from the request
  that arrived. Its body may have lost undefined members and
  the order of its members on the way, which the canonical
  text does not show.

  Key definitions include:
    * `SigningRuntime`

  Key theorems include:
    * `signed_request_acceptable`
    * `signed_request_verifies`
-/

------------------------------------------------------------
-- Clocks
------------------------------------------------------------

namespace KisAuth

/- Times `skew` seconds apart show `skew` seconds at most. -/
theorem floor_seconds_within
    {left right : ℚ}
    {skew : Int}
    (hWithin : |left - right| ≤ skew * 1000) :
    |(Int.floor (left / 1000) : ℚ) -
        Int.floor (right / 1000)| ≤ skew := by
  rcases abs_le.mp hWithin with ⟨hBefore, hAfter⟩
  have hUp : left / 1000 ≤ right / 1000 + skew := by
    linarith
  have hDown : right / 1000 ≤ left / 1000 + skew := by
    linarith
  have hFloorUp :
      Int.floor (left / 1000) ≤
        Int.floor (right / 1000) + skew := by
    rw [← Int.floor_add_intCast]
    exact Int.floor_le_floor hUp
  have hFloorDown :
      Int.floor (right / 1000) ≤
        Int.floor (left / 1000) + skew := by
    rw [← Int.floor_add_intCast]
    exact Int.floor_le_floor hDown
  have hCastUp :
      (Int.floor (left / 1000) : ℚ) ≤
        Int.floor (right / 1000) + skew := by
    exact_mod_cast hFloorUp
  have hCastDown :
      (Int.floor (right / 1000) : ℚ) ≤
        Int.floor (left / 1000) + skew := by
    exact_mod_cast hFloorDown
  rw [abs_le]
  constructor <;> linarith

end KisAuth

------------------------------------------------------------
-- Signing And Verifying
------------------------------------------------------------

namespace KisAuth

variable {P : Platform}
variable {secret method url nonce : String}
variable {body arrived : JsValue}
variable {signedAt : ℚ}

/-
  What a caller needs of its runtime when it signs: a random
  nonce and a digest that are not empty, and a time in
  seconds that is read back as it is written.
-/
structure SigningRuntime
    (P : Platform)
    (secret nonce : String)
    (signedAt : ℚ) : Prop where
  nonce : nonce ≠ ""
  digest : ∀ payload, P.hmacSha256Hex secret payload ≠ ""
  clock :
    P.number (toString (Int.floor (signedAt / 1000))) =
      some (Int.floor (signedAt / 1000) : ℚ)

/- A number is written with at least one character. -/
theorem int_repr_ne_empty (n : Int) : n.repr ≠ "" := by
  rw [Int.repr_eq_if]
  split
  · exact Nat.repr_ne_empty
  · intro hEmpty
    exact Nat.repr_ne_empty
      (String.append_eq_empty_iff.mp hEmpty).2

/- What the headers of a signed request say. -/
theorem signed_header_texts
    {headers : InternalHeaders}
    (hRuntime : SigningRuntime P secret nonce signedAt)
    (hSigned :
      signedInternalHeaders P method url body secret
        signedAt nonce = some headers) :
    ∃ path hash,
      pathWithQuery P url = some path ∧
        bodyHash P body = some hash ∧
        headerTexts headers =
          some
            ⟨toString (Int.floor (signedAt / 1000)), nonce,
              sign P secret
                (signaturePayload P
                  { method := method
                    path := path
                    timestamp :=
                      toString (Int.floor (signedAt / 1000))
                    nonce := nonce
                    bodyHash := hash })⟩ := by
  unfold signedInternalHeaders at hSigned
  simp only [Option.bind_eq_some_iff, Option.map_eq_some_iff]
    at hSigned
  rcases hSigned with ⟨path, hPath, hash, hHash, rfl⟩
  refine ⟨path, hash, hPath, hHash, ?_⟩
  simp [headerTexts, firstHeader, sign, hRuntime.nonce,
    hRuntime.digest, int_repr_ne_empty]

/-
  A signed request carries a valid signature where it is
  checked in time, under any URL that has the signed path
  and with any body that has the signed hash.
-/
theorem signed_request_acceptable
    {maxSkewSeconds checkedAt now : ℚ}
    {headers : InternalHeaders}
    {target : String}
    (hRuntime : SigningRuntime P secret nonce signedAt)
    (hSigned :
      signedInternalHeaders P method url body secret
        signedAt nonce = some headers)
    (hTarget : pathWithQuery P target = pathWithQuery P url)
    (hHash : bodyHash P arrived = bodyHash P body)
    (hWithin :
      |checkedAt - signedAt| ≤
        acceptedSkew maxSkewSeconds * 1000) :
    ∃ texts,
      texts.nonce = nonce ∧
        Acceptable P secret maxSkewSeconds
          ⟨checkedAt, now,
            ⟨method, target, arrived, headers⟩⟩
          texts := by
  rcases signed_header_texts hRuntime hSigned with
    ⟨path, hash, hPath, hBodyHash, hTexts⟩
  refine ⟨_, ?_, ⟨hTexts, ?_, ?_⟩⟩
  · rfl
  · refine ⟨_, hRuntime.clock, ?_⟩
    unfold outsideWindow
    rw [not_lt]
    exact floor_seconds_within hWithin
  · exact
      expectedSignature_eq_some_iff.mpr
        ⟨path, hash, hTarget.trans hPath,
          hHash.trans hBodyHash, rfl⟩

/- With a fresh nonce such a request verifies. -/
theorem signed_request_verified
    {maxSkewSeconds checkedAt now : ℚ}
    {headers : InternalHeaders}
    {target : String}
    {cache : NonceCache}
    (hRuntime : SigningRuntime P secret nonce signedAt)
    (hSigned :
      signedInternalHeaders P method url body secret
        signedAt nonce = some headers)
    (hTarget : pathWithQuery P target = pathWithQuery P url)
    (hHash : bodyHash P arrived = bodyHash P body)
    (hWithin :
      |checkedAt - signedAt| ≤
        acceptedSkew maxSkewSeconds * 1000)
    (hFresh : remembers (purge now cache) nonce = false) :
    (verifyInternalSignature P secret maxSkewSeconds
        checkedAt now ⟨method, target, arrived, headers⟩
        cache).1 = some .ok := by
  have hValid :
      ∃ texts,
        texts.nonce = nonce ∧
          Acceptable P secret maxSkewSeconds
            ⟨checkedAt, now,
              ⟨method, target, arrived, headers⟩⟩
            texts :=
    signed_request_acceptable hRuntime hSigned hTarget hHash
      hWithin
  rcases hValid with ⟨texts, hNonce, hAcceptable⟩
  by_contra hRefused
  have hRemembered :=
    verify_acceptable hAcceptable hRefused
  rw [hNonce, hFresh] at hRemembered
  simp at hRemembered

/-
  A fresh signed request verifies at the other end: at any
  time within the accepted skew of its signing, for the same
  method and URL, and for the body as it arrives.
-/
theorem signed_request_verifies
    {maxSkewSeconds checkedAt now : ℚ}
    {headers : InternalHeaders}
    {cache : NonceCache}
    (hRuntime : SigningRuntime P secret nonce signedAt)
    (hBody : IsBody body)
    (hFinite : FiniteNumbers body)
    (hSigned :
      signedInternalHeaders P method url body secret
        signedAt nonce = some headers)
    (hArrives : Arrives body arrived)
    (hWithin :
      |checkedAt - signedAt| ≤
        acceptedSkew maxSkewSeconds * 1000)
    (hFresh : remembers (purge now cache) nonce = false) :
    (verifyInternalSignature P secret maxSkewSeconds
        checkedAt now ⟨method, url, arrived, headers⟩
        cache).1 = some .ok := by
  have hHash := hArrives.bodyHash_eq P hBody hFinite
  exact
    signed_request_verified hRuntime hSigned rfl hHash hWithin
      hFresh

/- A body with an undefined member and element. -/
def sentBody : JsValue :=
  .obj
    [("email", .str "a@example.com"), ("name", .undefined),
      ("roles",
        .arr
          [.obj [("id", .num ⟨"1", rfl⟩), ("org", .null)],
            .undefined])]

/- What is read from its text, in another order. -/
def arrivedBody : JsValue :=
  .obj
    [("roles",
        .arr
          [.obj [("org", .null), ("id", .num ⟨"1", rfl⟩)],
            .null]),
      ("email", .str "a@example.com")]

theorem sentBody_finite : FiniteNumbers sentBody := by
  simp [sentBody, FiniteNumbers, FiniteItems, FiniteMembers]

theorem sentBody_distinct : DistinctNames sentBody := by
  simp [sentBody, DistinctNames, DistinctItems,
    DistinctMembers]

/- The members of both objects changed their places. -/
theorem sentBody_arrives :
    Arrives sentBody arrivedBody := by
  refine
    ⟨transported sentBody,
      ⟨transported_finite _,
        transported_distinct _ sentBody_distinct,
        transported_defined _, jsonText_transported _⟩, ?_⟩
  refine
    ⟨[("email", .str "a@example.com"),
        ("roles",
          .arr
            [.obj
                [("org", .null),
                  ("id", .num ⟨"1", rfl⟩)],
              .null])],
      List.Perm.swap _ _ _, rfl, rfl, rfl, ?_, trivial⟩
  refine ⟨?_, rfl, trivial⟩
  refine
    ⟨[("id", .num ⟨"1", rfl⟩), ("org", .null)],
      List.Perm.swap _ _ _, rfl, rfl, rfl, rfl, trivial⟩

/- The hash of that body. -/
def sentHash : String :=
  "5599d27c780b84e1c7b25abf015a4e1b" ++
    "799581361af2115510536df95d84d688"

/- The signature of one request with that body. -/
def sentSignature : String :=
  "a43b36ac065081c1df988190630af1aa" ++
    "526276d8c42f580c6038e918f8049bbd"

def sentNonce : String :=
  "0f8fad5bd9cb469fa16570867728950e"

/-
  The digests of that request, as the runtime computes them.
-/
def roundTripPlatform : Platform :=
  { Platform.bare with
    parseUrlAt := fun text _ => some text
    number := fun text =>
      if text = "1700000000" then some 1700000000 else none
    sha256Hex :=
      knownDigest
        ("\x7b\"email\":\"a@example.com\",\"roles\":[" ++
          "\x7b\"id\":1,\"org\":\x7d,]\x7d")
        sentHash
    hmacSha256Hex := fun _ =>
      knownDigest
        ("POST\n/internal/v1/identity/link\n1700000000\n" ++
          sentNonce ++ "\n" ++ sentHash)
        sentSignature }

theorem knownDigest_ne_empty
    {text digest : String}
    (hDigest : digest ≠ "")
    (other : String) :
    knownDigest text digest other ≠ "" := by
  unfold knownDigest
  split
  · exact hDigest
  · simp

theorem roundTripPlatform_signs :
    SigningRuntime roundTripPlatform "test-secret" sentNonce
      1700000000500 where
  nonce := by decide
  digest := knownDigest_ne_empty (by decide)
  clock := by
    have hSeconds :
        Int.floor ((1700000000500 : ℚ) / 1000) =
          1700000000 := by
      norm_num
    rw [hSeconds]
    rfl

/- The headers of the request. -/
def sentHeaders : InternalHeaders where
  timestamp := .one "1700000000"
  nonce := .one sentNonce
  signature := .one sentSignature

theorem sentBody_signed :
    signedInternalHeaders roundTripPlatform "POST"
        "/internal/v1/identity/link" sentBody "test-secret"
        1700000000500 sentNonce =
      some sentHeaders := by
  decide +kernel

/- Checked 290 seconds later, with another nonce cached. -/
theorem sent_request_verifies :
    (verifyInternalSignature roundTripPlatform "test-secret"
        300 1700000290500 1700000290501
        ⟨"POST", "/internal/v1/identity/link", arrivedBody,
          sentHeaders⟩
        [("n2", 1700000300000)]).1 = some .ok := by
  have hBody : IsBody sentBody := trivial
  have hWithin :
      |(1700000290500 : ℚ) - 1700000000500| ≤
        acceptedSkew 300 * 1000 := by
    have hSkew : acceptedSkew 300 = 300 := by
      decide +kernel
    rw [hSkew]
    norm_num
  have hFresh :
      remembers
          (purge 1700000290501 [("n2", 1700000300000)])
          sentNonce =
        false := by
    decide +kernel
  exact
    signed_request_verifies roundTripPlatform_signs hBody
      sentBody_finite sentBody_signed sentBody_arrives hWithin
      hFresh

end KisAuth
