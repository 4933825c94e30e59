import KisAuth.Http.Cookies
import KisAuth.Redis.Keys
import KisAuth.Runtime.Effect

/-
  Link tickets: a signed, expiring, single-use proof that an
  authenticated user asked for an account link.

  Key definitions include:
    * `LinkTicketPayload`, `readTicket`
    * `LinkTicketService.verifyAndConsume`
-/

------------------------------------------------------------
-- Ticket Contents
------------------------------------------------------------

namespace KisAuth

/- The expiry of a ticket, in seconds. -/
inductive TicketExpiry where
  | finite (seconds : ℚ)
  | infinite (negative : Bool)
  deriving DecidableEq

structure LinkTicketPayload where
  kisUserId : String
  nonce : String
  exp : TicketExpiry
  deriving DecidableEq

/- Why a ticket is refused. -/
inductive TicketRefusal where
  | malformed
  | signatureMismatch
  | expired
  | alreadyUsed
  deriving DecidableEq

def TicketRefusal.reason : TicketRefusal → String
| .malformed => "malformed"
| .signatureMismatch => "signature_mismatch"
| .expired => "expired"
| .alreadyUsed => "already_used"

inductive LinkTicketVerifyResult where
  | ok (kisUserId : String)
  | refused (reason : TicketRefusal)
  deriving DecidableEq

/- A numeric expiry, if the value is a number. -/
def ticketExpiry
    (P : Platform) : JsValue → Option TicketExpiry
| .num value => (P.number value.text).map TicketExpiry.finite
| .infinite negative => some (.infinite negative)
| _ => none

/- The payload, if it has the three expected fields. -/
def ticketPayload
    (P : Platform)
    (value : JsValue) : Option LinkTicketPayload :=
  match value.member "kisUserId", value.member "nonce",
      value.member "exp" with
  | some (.str kisUserId), some (.str nonce), some exp =>
      (ticketExpiry P exp).map
        (fun exp => ⟨kisUserId, nonce, exp⟩)
  | _, _, _ => none

/- The two parts of a ticket. -/
def ticketParts (ticket : String) :
    Option (String × String) :=
  match splitAtChar '.' ticket.toList with
  | [encoded, signature] =>
      some (String.ofList encoded, String.ofList signature)
  | _ => none

/- The payload of a correctly signed ticket. -/
def readTicket
    (P : Platform)
    (secret ticket : String) :
    Except TicketRefusal LinkTicketPayload :=
  match ticketParts ticket with
  | none => .error .malformed
  | some (encoded, signature) =>
      if P.hmacSha256Hex secret encoded = signature then
        match P.jsonParse (P.base64urlDecode encoded) with
        | none => .error .malformed
        | some value =>
            match ticketPayload P value with
            | none => .error .malformed
            | some payload => .ok payload
      else
        .error .signatureMismatch

end KisAuth

------------------------------------------------------------
-- Single Use
------------------------------------------------------------

namespace KisAuth

/- The key that claims a ticket's nonce. -/
def linkNonceKey (nonce : String) : String :=
  storeKey .linkNonce nonce

/- `Math.floor(Date.now() / 1000)`. -/
def wholeSeconds (now : Nat) : Nat :=
  now / 1000

/-
  Check the signature and expiry of a ticket, then claim its
  nonce for the time the ticket has left. The clock is read
  before the claim is sent.
-/
def LinkTicketService.verifyAndConsume
    (P : Platform)
    (secret ticket : String) :
    KisM LinkTicketVerifyResult :=
  match readTicket P secret ticket with
  | .error reason => return .refused reason
  | .ok payload => do
      let clock ← dateNow
      let now : ℚ := wholeSeconds clock
      match payload.exp with
      | .infinite true => return .refused .expired
      | .infinite false =>
          -- Redis refuses an expiry of `Infinity` seconds.
          crash
      | .finite exp =>
          if exp ≤ now then
            return .refused .expired
          else
            let claimed ←
              Redis.setNx (linkNonceKey payload.nonce)
                (max 1 (exp - now))
            if claimed then
              return .ok payload.kisUserId
            else
              return .refused .alreadyUsed

end KisAuth
