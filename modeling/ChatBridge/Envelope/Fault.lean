import ChatBridge.Wire.Tagged

/-!
# Faults

A service call fails with a `ServiceFailure`. What the worker answers in place of a response is a
`Fault`; the failure of a service is passed on as it is.
-/

namespace ChatBridge

inductive ServiceFailure where
  | rejected (canister method code message : String)
  | transport (method message : String)
  | undecodable (method message : String)
  | missingCanister (service : String)
deriving DecidableEq, Repr, Inhabited

inductive Fault where
  | service (canister method code message : String)
  | transport (method message : String)
  | undecodable (method message : String)
  | invalidPayload (requestKind message : String)
  | agentNotInitialized
  | internal (message : String)
deriving DecidableEq, Repr, Inhabited

namespace Fault

def message : Fault → String
  | .service canister method code message =>
    canister ++ "." ++ method ++ " was rejected (" ++ code ++ "): " ++ message
  | .transport method message => "Transport error calling " ++ method ++ ": " ++ message
  | .undecodable method message => "Could not decode response of " ++ method ++ ": " ++ message
  | .invalidPayload requestKind message => "Invalid payload for " ++ requestKind ++ ": " ++ message
  | .agentNotInitialized => "Agent not initialized"
  | .internal message => "Internal error: " ++ message

end Fault

namespace ServiceFailure

def message : ServiceFailure → String
  | .rejected canister method code message => (Fault.service canister method code message).message
  | .transport method message => (Fault.transport method message).message
  | .undecodable method message => (Fault.undecodable method message).message
  | .missingCanister service => "No canister configured for the " ++ service ++ " service"

def toFault : ServiceFailure → Fault
  | .rejected canister method code message => .service canister method code message
  | .transport method message => .transport method message
  | .undecodable method message => .undecodable method message
  | .missingCanister service => .internal (missingCanister service).message

end ServiceFailure

/-! ## On the wire -/

namespace Fault

def serviceVariant : Variant Fault :=
  .record "WorkerError" "Service" "service"
    (.cons (.required "canister") <| .cons (.required "method") <| .cons (.required "code") <|
      .cons (.required "message") .nil)
    fun (canister, method, code, message, _) => .service canister method code message

def transportVariant : Variant Fault :=
  .record "WorkerError" "Transport" "transport"
    (.cons (.required "method") <| .cons (.required "message") .nil)
    fun (method, message, _) => .transport method message

def undecodableVariant : Variant Fault :=
  .record "WorkerError" "Decode" "decode"
    (.cons (.required "method") <| .cons (.required "message") .nil)
    fun (method, message, _) => .undecodable method message

def invalidPayloadVariant : Variant Fault :=
  .record "WorkerError" "InvalidPayload" "invalid_payload"
    (.cons (.required "request_kind") <| .cons (.required "message") .nil)
    fun (requestKind, message, _) => .invalidPayload requestKind message

def agentNotInitializedVariant : Variant Fault :=
  .bare "agent_not_initialized" .agentNotInitialized

def internalVariant : Variant Fault :=
  .record "WorkerError" "Internal" "internal" (.cons (.required "message") .nil)
    fun (message, _) => .internal message

def tagged : Tagged Fault where
  name := "WorkerError"
  tag := "kind"
  variants := [serviceVariant, transportVariant, undecodableVariant, invalidPayloadVariant,
    agentNotInitializedVariant, internalVariant]
  view
    | .service canister method code message =>
      ⟨serviceVariant, (canister, method, code, message, ())⟩
    | .transport method message => ⟨transportVariant, (method, message, ())⟩
    | .undecodable method message => ⟨undecodableVariant, (method, message, ())⟩
    | .invalidPayload requestKind message => ⟨invalidPayloadVariant, (requestKind, message, ())⟩
    | .agentNotInitialized => ⟨agentNotInitializedVariant, ()⟩
    | .internal message => ⟨internalVariant, (message, ())⟩

end Fault

instance : Wire Fault := ⟨Fault.tagged.codec⟩

end ChatBridge
