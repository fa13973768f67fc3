import ChatBridge.Worker.Basic

/-!
# Scripted services

A script holds for each method what its calls get, one after the other; the last entry serves all
further calls.
-/

namespace ChatBridge

structure ServiceReply where
  ending : CallEnd
  delay : Nat

/-- What a call gets that comes after so many calls of the same method; `none` leaves it open. -/
abbrev Services := ServiceCall → Nat → Option ServiceReply

inductive ScriptedEnd where
  | ok (value : Json)
  | reject (code message : String)
  | transport (message : String)
  | undecodable (message : String)
  | missing (service : String)
  | crash
deriving Repr

structure ScriptEntry where
  ending : ScriptedEnd
  delay : Nat
deriving Repr

def ScriptedEnd.toCallEnd (c : ServiceCall) : ScriptedEnd → CallEnd
  | .ok value => .answered (.ok value)
  | .reject code message => .answered (.error (.rejected c.canister c.method code message))
  | .transport message => .answered (.error (.transport c.method message))
  | .undecodable message => .answered (.error (.undecodable c.method message))
  | .missing service => .answered (.error (.missingCanister service))
  | .crash => .crashed

/-- Methods that the script leaves out are rejected. -/
def Services.scripted (script : List (String × List ScriptEntry)) : Services := fun c earlier =>
  let entries := (script.lookup c.method).getD []
  match entries[earlier]? <|> entries.getLast? with
  | some e => some ⟨e.ending.toCallEnd c, e.delay⟩
  | none => some ⟨(ScriptedEnd.reject "not_found" "no canned response").toCallEnd c, 0⟩

def Services.open : Services := fun _ _ => none

def earlierCalls (calls : List ServiceCall) (c : ServiceCall) : Nat :=
  calls.countP (·.method == c.method) - 1

end ChatBridge
