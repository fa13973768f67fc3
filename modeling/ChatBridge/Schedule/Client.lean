import ChatBridge.Bridge.Client
import ChatBridge.Schedule.Timed

/-!
# The schedule of a client

Calls go on before envelopes are taken from the inbox, the one that was started first before the
others.
-/

namespace ChatBridge

structure ClientRun where
  client : Client
  now : Nat
  due : List (Nat × Nat)
  ended : List Nat
deriving Repr

namespace ClientRun

def start (client : Client) : ClientRun := ⟨client, 0, [], []⟩

/-- The id under which a call is sent, in the usual shape of unique ids. -/
def idOf (call : Nat) : String :=
  let ds := Nat.toDigits 16 call
  "00000000-0000-4000-8000-" ++ String.ofList (List.replicate (12 - ds.length) '0' ++ ds)

variable (r : ClientRun)

def endedBy (a : Client.Action) (c : Client) : List Nat :=
  (a.caller?.filter fun n => (r.client.result? n).isNone && (c.result? n).isSome).toList

def act? (a : Client.Action) : Option ClientRun :=
  (r.client.step? a).map fun c => { r with client := c, ended := r.ended ++ r.endedBy a c }

def act (a : Client.Action) : ClientRun := (r.act? a).getD r

/-- The time of a call is over, unless it has ended before. -/
def expire (n : Nat) : ClientRun :=
  match r.act? (.expire n) with
  | none => r
  | some r => (r.act (.withdraw n)).act (.takeLate n)

def startTimer (n : Nat) : ClientRun :=
  if r.client.timeout = 0 then r.expire n
  else { r with due := r.due ++ [(r.now + r.client.timeout, n)] }

def send? (n : Nat) : Option ClientRun := do
  let r ← r.act? (.register n (idOf n))
  let r ← r.act? (.send n)
  return if (r.client.result? n).isSome then r else r.startTimer n

def advance? (n : Nat) : Option ClientRun := r.act? (.take n) <|> r.act? (.dismiss n) <|> r.send? n

def isWaiting (call : Call) : Bool :=
  match call.phase, call.slot with
  | .waiting, _ => true
  | .sent, .empty => false
  | .sent, _ => true
  | _, _ => false

def advanceAny? : Option ClientRun :=
  let waiting := (r.client.calls.mapIdx fun n call => (n, call)).filter fun e => isWaiting e.2
  waiting.findSome? fun e => r.advance? e.1

def handle? : Option ClientRun := r.act? .handle <|> r.act? .endListening

def alarm? : Option Nat := (Timed.firstDue? r.due).map (·.1.1)

def ring : ClientRun :=
  match Timed.firstDue? r.due with
  | none => r
  | some ((_, n), rest) => { r with due := rest }.expire n

end ClientRun

instance : Timed ClientRun where
  now := ClientRun.now
  setNow t r := { r with now := t }
  next? r := r.advanceAny? <|> r.handle?
  alarm? := ClientRun.alarm?
  ring := ClientRun.ring

end ChatBridge
