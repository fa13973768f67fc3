import ChatBridge.Envelope.Event
import ChatBridge.Envelope.Fault

/-!
# Envelopes

All that travels between a client and the worker. A request carries an id of the client's choice,
and its answer carries the same.
-/

namespace ChatBridge

inductive Envelope where
  | request (id kind : String) (payload : Json)
  | response (id : String) (value : Json)
  | error (id : String) (fault : Fault)
  | event (e : Event)
deriving Repr, Inhabited

namespace Envelope

def correlationId? : Envelope → Option String
  | .request id _ _ => some id
  | .response id _ => some id
  | .error id _ => some id
  | .event _ => none

def requestVariant : Variant Envelope :=
  .record "Envelope" "Request" "request"
    (.cons (.required "correlationId") <| .cons (.required "requestKind") <|
      .cons (.defaulted "payload" .null) .nil)
    fun (id, kind, payload, _) => .request id kind payload

def responseVariant : Variant Envelope :=
  .record "Envelope" "Response" "response"
    (.cons (.required "correlationId") <| .cons (.defaulted "response" .null) .nil)
    fun (id, value, _) => .response id value

def errorVariant : Variant Envelope :=
  .record "Envelope" "Error" "error"
    (.cons (.required "correlationId") <| .cons (.required "error") .nil)
    fun (id, fault, _) => .error id fault

def eventVariant : Variant Envelope :=
  .record "Envelope" "Event" "event" (.cons (.required "event") .nil) fun (e, _) => .event e

def tagged : Tagged Envelope where
  name := "Envelope"
  tag := "kind"
  variants := [requestVariant, responseVariant, errorVariant, eventVariant]
  view
    | .request id kind payload => ⟨requestVariant, (id, kind, payload, ())⟩
    | .response id value => ⟨responseVariant, (id, value, ())⟩
    | .error id fault => ⟨errorVariant, (id, fault, ())⟩
    | .event e => ⟨eventVariant, (e, ())⟩

def kind (e : Envelope) : String := (tagged.view e).1.word

end Envelope

instance : Wire Envelope := ⟨Envelope.tagged.codec⟩

end ChatBridge
