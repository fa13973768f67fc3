import ChatBridge.Envelope.Fault

/-!
# What a caller may get instead of a response

A timeout names the time that has passed: in seconds from one second on, with as many decimals as it
needs, and in milliseconds below. An empty span is written in nanoseconds.
-/

namespace ChatBridge

/-! ## Spans of time -/

namespace Text

def stripTrailingZeros (ds : List Char) : List Char := (ds.reverse.dropWhile (· = '0')).reverse

def thousandths (n : Nat) : List Char :=
  let ds := Nat.toDigits 10 n
  List.replicate (3 - ds.length) '0' ++ ds

def duration (ms : Nat) : String :=
  if ms = 0 then "0ns"
  else if ms < 1000 then toString ms ++ "ms"
  else
    match stripTrailingZeros (thousandths (ms % 1000)) with
    | [] => toString (ms / 1000) ++ "s"
    | ds => toString (ms / 1000) ++ "." ++ String.ofList ds ++ "s"

end Text

/-! ## Errors -/

inductive BridgeError where
  /-- No answer came within so many milliseconds. -/
  | timeout (kind id : String) (span : Nat)
  | worker (f : Fault)
  | disconnected
  | notReady
  | undecodable (kind : String) (r : Refusal)
deriving DecidableEq, Repr, Inhabited

def BridgeError.message : BridgeError → String
  | .timeout kind id span =>
    "Request of kind " ++ kind ++ " with correlation id " ++ id
      ++ " did not receive a response within " ++ Text.duration span
  | .worker f => f.message
  | .disconnected => "Worker channel closed"
  | .notReady => "Worker failed to initialize"
  | .undecodable kind r => "Failed to decode " ++ kind ++ " response: " ++ r.message

end ChatBridge
