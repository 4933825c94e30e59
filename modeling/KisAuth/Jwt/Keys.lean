import KisAuth.Config.Environment
import KisAuth.Jwt.AuthorizationJwt
import Mathlib.Logic.Function.Basic

/-
  The keys tokens are signed with, and the document they are
  published in.

  Key definitions include:
    * `Jwk`, `KeyTool`
    * `publicKeyToJwk`, `buildJwks`
    * `signToken`, `verifyAuthorizationJwt`
-/

------------------------------------------------------------
-- Keys
------------------------------------------------------------

namespace KisAuth

/- The members of a JSON web key. -/
abbrev Jwk := String → Option String

/- What a verifier asks of a token. -/
structure JwtExpectation where
  issuer : String
  audience : String
  algorithms : List String
  deriving DecidableEq

/-
  A token meets what is asked of it before its expiry, by a
  clock in seconds. Empty names are not compared.
-/
structure JwtExpectation.Met
    (expected : JwtExpectation)
    (now : Nat)
    (alg : String)
    (token : AuthorizationJwt) : Prop where
  algorithm : alg ∈ expected.algorithms
  issuer : expected.issuer = "" ∨ token.iss = expected.issuer
  audience :
    expected.audience = "" ∨ token.aud = expected.audience
  unexpired : (now : ℚ) < token.exp

instance JwtExpectation.Met.decidable
    (expected : JwtExpectation)
    (now : Nat)
    (alg : String)
    (token : AuthorizationJwt) :
    Decidable (expected.Met now alg token) :=
  decidable_of_iff
    (alg ∈ expected.algorithms ∧
      (expected.issuer = "" ∨ token.iss = expected.issuer) ∧
      (expected.audience = "" ∨
        token.aud = expected.audience) ∧
      (now : ℚ) < token.exp)
    ⟨fun ⟨hAlg, hIss, hAud, hExp⟩ => ⟨hAlg, hIss, hAud, hExp⟩,
      fun hMet =>
        ⟨hMet.algorithm, hMet.issuer, hMet.audience,
          hMet.unexpired⟩⟩

/-
  What the runtime and the JWT library do with keys. Not
  every key that is read can be exported or signed with. What
  a key signed is verified by the key of its pair alone. A
  key that was exported is imported again, whatever is added
  of its name and use.
-/
structure KeyTool where
  PublicKey : Type
  PrivateKey : Type
  Jws : Type
  createPublicKey : String → Option PublicKey
  importSPKI : String → Option PublicKey
  importPKCS8 : String → Option PrivateKey
  exportJWK : PublicKey → Option Jwk
  importJWK : Jwk → Option PublicKey
  isPair : PrivateKey → PublicKey → Prop
  signJwt :
    String → AuthorizationJwt → PrivateKey → Option Jws
  jwtVerify :
    Nat → Jws → PublicKey → JwtExpectation →
      Option AuthorizationJwt
  importSPKI_eq :
    ∀ pem key,
      importSPKI pem = some key →
        createPublicKey pem = some key
  import_export :
    ∀ key exported jwk,
      exportJWK key = some exported →
        (∀ name,
          name ∉ ["kid", "alg", "use"] →
            jwk name = exported name) →
          importJWK jwk = some key
  verify_signed :
    ∀ now alg token text privateKey publicKey expected,
      isPair privateKey publicKey →
        signJwt alg token privateKey = some text →
          jwtVerify now text publicKey expected =
            if expected.Met now alg token then some token
            else none
  verify_other :
    ∀ now alg token text privateKey publicKey expected,
      ¬isPair privateKey publicKey →
        signJwt alg token privateKey = some text →
          jwtVerify now text publicKey expected = none

/-
  Keys that are their own PEM texts, and of one pair each.
  The empty one is not exported.
-/
def KeyTool.plain : KeyTool where
  PublicKey := String
  PrivateKey := String
  Jws := String × AuthorizationJwt × String
  createPublicKey := some
  importSPKI := some
  importPKCS8 := some
  exportJWK := fun key =>
    if key = "" then none
    else some (fun name => if name = "n" then some key else none)
  importJWK := fun jwk => jwk "n"
  isPair := fun privateKey publicKey => privateKey = publicKey
  signJwt := fun alg token privateKey =>
    some (alg, token, privateKey)
  jwtVerify := fun now text publicKey expected =>
    if text.2.2 = publicKey ∧
        expected.Met now text.1 text.2.1 then
      some text.2.1
    else
      none
  importSPKI_eq := fun pem key hKey => hKey
  import_export := fun key exported jwk hExported hJwk => by
    split at hExported
    · cases hExported
    · rw [Option.some.injEq] at hExported
      rw [hJwk "n" (by decide), ← hExported]
      rfl
  verify_signed := fun now alg token text privateKey publicKey
      expected hPair hText => by
    rw [Option.some.injEq] at hText
    simp [← hText, hPair]
  verify_other := fun now alg token text privateKey publicKey
      expected hPair hText => by
    rw [Option.some.injEq] at hText
    simp [← hText, hPair]

variable (tool : KeyTool)

end KisAuth

------------------------------------------------------------
-- Tokens
------------------------------------------------------------

namespace KisAuth

variable (tool : KeyTool)

end KisAuth
