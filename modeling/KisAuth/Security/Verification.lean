import KisAuth.Security.InternalSigning

/-
  One verification of a signed request: what it accepts, and
  what it remembers.

  Key definitions include:
    * `VerifyCall`, `Acceptable`, `LooksAtBody`

  Key theorems include:
    * `verify_accepted`, `verify_refused`
    * `verify_acceptable`, `verify_none_iff`
-/

------------------------------------------------------------
-- Acceptable Requests
------------------------------------------------------------

namespace KisAuth

/- One verification, with its two clock readings. -/
structure VerifyCall where
  checkedAt : ℚ
  now : ℚ
  request : SignedRequest

variable (P : Platform) (secret : String)
variable (maxSkewSeconds : ℚ)

/- One verification, from the nonces remembered so far. -/
def VerifyCall.verify
    (call : VerifyCall)
    (cache : NonceCache) :
    Option VerifyResult × NonceCache :=
  verifyInternalSignature P secret maxSkewSeconds
    call.checkedAt call.now call.request cache

/-
  The request carries a valid signature and a timestamp
  inside the window, so that only its nonce can be held
  against it.
-/
structure Acceptable
    (call : VerifyCall)
    (texts : HeaderTexts) : Prop where
  headers : headerTexts call.request.headers = some texts
  inWindow :
    ∃ ts,
      P.number texts.timestamp = some ts ∧
        ¬outsideWindow call.checkedAt ts
          (acceptedSkew maxSkewSeconds)
  signature :
    expectedSignature P secret call.request texts =
      some texts.signature

/-
  The checks before the hash let the request pass: all three
  headers are there, the timestamp is a number within the
  window, and the nonce is not remembered.
-/
def LooksAtBody
    (call : VerifyCall)
    (cache : NonceCache) : Prop :=
  ∃ texts ts,
    headerTexts call.request.headers = some texts ∧
      P.number texts.timestamp = some ts ∧
      ¬outsideWindow call.checkedAt ts
        (acceptedSkew maxSkewSeconds) ∧
      remembers (purge call.now cache) texts.nonce = false

/- When a nonce accepted by this call may be forgotten. -/
def VerifyCall.memoryUntil (call : VerifyCall) : ℚ :=
  call.now + acceptedSkew maxSkewSeconds * 1000

end KisAuth

------------------------------------------------------------
-- One Verification
------------------------------------------------------------

namespace KisAuth

variable {P : Platform} {secret : String}
variable {maxSkewSeconds : ℚ}
variable {call : VerifyCall} {cache : NonceCache}

/- The signature of a request whose parts can be signed. -/
theorem expectedSignature_eq_some_iff
    {request : SignedRequest}
    {texts : HeaderTexts}
    {signature : String} :
    expectedSignature P secret request texts =
        some signature ↔
      ∃ path hash,
        pathWithQuery P request.url = some path ∧
          bodyHash P request.body = some hash ∧
          sign P secret
              (signaturePayload P
                { method := request.method
                  path := path
                  timestamp := texts.timestamp
                  nonce := texts.nonce
                  bodyHash := hash }) =
            signature := by
  unfold expectedSignature
  simp only [Option.bind_eq_some_iff, Option.map_eq_some_iff]
  constructor
  · rintro ⟨path, hPath, hash, hHash, hSigned⟩
    exact ⟨path, hash, hPath, hHash, hSigned⟩
  · rintro ⟨path, hash, hPath, hHash, hSigned⟩
    exact ⟨path, hPath, hash, hHash, hSigned⟩

/- A signature cannot be computed without path or hash. -/
theorem expectedSignature_eq_none_iff
    {request : SignedRequest}
    {texts : HeaderTexts} :
    expectedSignature P secret request texts = none ↔
      pathWithQuery P request.url = none ∨
        bodyHash P request.body = none := by
  unfold expectedSignature
  cases pathWithQuery P request.url with
  | none => simp
  | some path => simp

/- When a verification throws. -/
theorem verify_none_iff :
    (call.verify P secret maxSkewSeconds cache).1 = none ↔
      LooksAtBody P maxSkewSeconds call cache ∧
        (pathWithQuery P call.request.url = none ∨
          bodyHash P call.request.body = none) := by
  unfold VerifyCall.verify verifyInternalSignature LooksAtBody
  cases hTexts : headerTexts call.request.headers with
  | none => simp
  | some texts =>
      simp only [Option.some.injEq, exists_and_left,
        exists_eq_left']
      cases hNumber : P.number texts.timestamp with
      | none => simp
      | some ts =>
          simp only [Option.some.injEq, exists_eq_left']
          by_cases hWindow :
              outsideWindow call.checkedAt ts
                (acceptedSkew maxSkewSeconds)
          · simp [hWindow]
          · by_cases hNonce :
                remembers (purge call.now cache)
                    texts.nonce =
                  true
            · simp [hWindow, hNonce]
            · rw [← @expectedSignature_eq_none_iff P secret
                call.request texts]
              cases
                expectedSignature P secret call.request
                  texts with
              | none => simp [hWindow, hNonce]
              | some expected =>
                  by_cases hSame : expected = texts.signature
                  · simp [hWindow, hNonce, hSame]
                  · simp [hWindow, hNonce, hSame]

/- What an accepted request was, and what is remembered. -/
theorem verify_accepted
    (hAccepted :
      (call.verify P secret maxSkewSeconds cache).1 =
        some .ok) :
    ∃ texts,
      Acceptable P secret maxSkewSeconds call texts ∧
        remembers (purge call.now cache) texts.nonce =
          false ∧
        (call.verify P secret maxSkewSeconds cache).2 =
          purge call.now cache ++
            [(texts.nonce,
              call.memoryUntil maxSkewSeconds)] := by
  unfold VerifyCall.verify verifyInternalSignature
    at hAccepted ⊢
  cases hTexts : headerTexts call.request.headers with
  | none => simp [hTexts] at hAccepted
  | some texts =>
      cases hNumber : P.number texts.timestamp with
      | none => simp [hTexts, hNumber] at hAccepted
      | some ts =>
          simp only [hTexts, hNumber] at hAccepted ⊢
          split at hAccepted
          · simp at hAccepted
          · next hWindow =>
              split at hAccepted
              · simp at hAccepted
              · next hFresh =>
                  cases hExpected :
                      expectedSignature P secret call.request
                        texts with
                  | none => simp [hExpected] at hAccepted
                  | some expected =>
                      simp only [hExpected] at hAccepted ⊢
                      split at hAccepted
                      · next hSigned =>
                          rw [if_neg hWindow, if_neg hFresh,
                            if_pos hSigned]
                          refine
                            ⟨texts,
                              ⟨hTexts, ⟨ts, hNumber, hWindow⟩,
                                hSigned ▸ hExpected⟩,
                              ?_, rfl⟩
                          exact Bool.eq_false_iff.mpr hFresh
                      · simp at hAccepted

/- A request that is refused adds nothing to the memory. -/
theorem verify_refused
    (hRefused :
      (call.verify P secret maxSkewSeconds cache).1 ≠
        some .ok) :
    (call.verify P secret maxSkewSeconds cache).2 = cache ∨
      (call.verify P secret maxSkewSeconds cache).2 =
        purge call.now cache := by
  unfold VerifyCall.verify verifyInternalSignature
    at hRefused ⊢
  cases hTexts : headerTexts call.request.headers with
  | none => exact Or.inl rfl
  | some texts =>
      cases hNumber : P.number texts.timestamp with
      | none =>
          left
          simp only [hNumber]
      | some ts =>
          simp only [hTexts, hNumber] at hRefused ⊢
          split
          · exact Or.inl rfl
          · next hWindow =>
              split
              · exact Or.inr rfl
              · next hFresh =>
                  right
                  cases hExpected :
                      expectedSignature P secret call.request
                        texts with
                  | none => rfl
                  | some expected =>
                      rw [if_neg hWindow, if_neg hFresh]
                        at hRefused
                      simp only [hExpected] at hRefused ⊢
                      split
                      · next hSigned =>
                          rw [if_pos hSigned] at hRefused
                          exact absurd rfl hRefused
                      · rfl

/- An acceptable request is refused for its nonce only. -/
theorem verify_acceptable
    {texts : HeaderTexts}
    (hAcceptable :
      Acceptable P secret maxSkewSeconds call texts)
    (hRefused :
      (call.verify P secret maxSkewSeconds cache).1 ≠
        some .ok) :
    remembers (purge call.now cache) texts.nonce = true := by
  rcases hAcceptable.inWindow with ⟨ts, hNumber, hWindow⟩
  by_contra hFresh
  apply hRefused
  unfold VerifyCall.verify verifyInternalSignature
  simp only [hAcceptable.headers, hNumber,
    hAcceptable.signature]
  rw [if_neg hWindow, if_neg hFresh, if_true]

end KisAuth
