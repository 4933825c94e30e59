import KisAuth.Runtime.Effect
import KisAuth.Security.InternalSigning

/-
  Security events, as they are forwarded to Django.

  Key definitions include:
    * `OutboundRequest`, `SecurityEvent.body`
    * `SecurityEventService.emit`
-/

------------------------------------------------------------
-- Security Events
------------------------------------------------------------

namespace KisAuth

/- A request as it is passed to `fetch`. -/
structure OutboundRequest where
  method : String
  url : String
  headers : Option InternalHeaders
  body : JsValue

def FetchRequest.outbound
    (request : FetchRequest) : OutboundRequest where
  method := request.method
  url := request.url
  headers := request.headers
  body := .undefined

def EventOutcome.text : EventOutcome → String
| .success => "success"
| .failure => "failure"

/- `value ?? null`. -/
def orNull : JsValue → JsValue
| .undefined => .null
| value => value

/- The body an event is sent as. -/
def SecurityEvent.body (event : SecurityEvent) : JsValue :=
  .obj
    [("event_type", .str event.eventType),
      ("outcome", .str event.outcome.text),
      ("kis_user_id", orNull event.kisUserId),
      ("client_id", orNull event.clientId),
      ("reason", orNull event.reason),
      ("ip", orNull event.ip),
      ("metadata", .obj event.metadata)]

/- The path that events are signed for. -/
def securityEventPath : String :=
  "/api/v1/kis-auth/security-event/"

/-
  The request `emit` passes to `fetch`, at clock reading
  `now` and with the nonce it drew. Nothing is sent where no
  URL is configured. An exception is logged and forgotten.
-/
def SecurityEventService.emit
    (P : Platform)
    (djangoSecurityEventUrl internalHmacSecret : String)
    (event : SecurityEvent)
    (now : ℚ)
    (nonce : String) : Option OutboundRequest :=
  if djangoSecurityEventUrl = "" then
    none
  else
    (signedInternalHeaders P "POST" securityEventPath
      event.body internalHmacSecret now nonce).map
        (fun headers =>
          { method := "POST"
            url := djangoSecurityEventUrl
            headers := some headers
            body := event.body })

end KisAuth
