/-!
# Virtual time

A timed system does what it can do at once, and only when nothing is left does its clock move on to
the next alarm. `next?` is the schedule: of all that is possible it picks one thing.

The loops run on a fuel that no run of a system uses up.
-/

namespace ChatBridge

class Timed (σ : Type) where
  now : σ → Nat
  setNow : Nat → σ → σ
  /-- What happens next without the clock moving. -/
  next? : σ → Option σ
  alarm? : σ → Option Nat
  ring : σ → σ

namespace Timed

variable {σ : Type} [Timed σ]

def patience : Nat := 10000000

/-- Goes on until nothing is left to do or `stop` holds. -/
def settleUntil (stop : σ → Bool) : Nat → σ → σ
  | 0, s => s
  | fuel + 1, s =>
    if stop s then s
    else
      match next? s with
      | none => s
      | some s' => settleUntil stop fuel s'

def settle (s : σ) : σ := settleUntil (fun _ => false) patience s

def wake (due : Nat) (s : σ) : σ := ring (setNow (max due (now s)) s)

def runUntilLoop (t : Nat) : Nat → σ → σ
  | 0, s => s
  | fuel + 1, s =>
    let s := settle s
    match alarm? s with
    | some due => if due ≤ t then runUntilLoop t fuel (wake due s) else setNow t s
    | none => setNow t s

def runUntil (t : Nat) (s : σ) : σ := runUntilLoop t patience s

def runFor (span : Nat) (s : σ) : σ := runUntil (now s + span) s

def waitLoop (stop : σ → Bool) : Nat → σ → σ
  | 0, s => s
  | fuel + 1, s =>
    let s := settleUntil stop patience s
    if stop s then s
    else
      match alarm? s with
      | some due => waitLoop stop fuel (wake due s)
      | none => s

def waitFor (stop : σ → Bool) (s : σ) : σ := waitLoop stop patience s

/-- The entry that is due first, the earlier of two due together, and the others. -/
def firstDue? {α : Type} : List (Nat × α) → Option ((Nat × α) × List (Nat × α))
  | [] => none
  | a :: as =>
    match firstDue? as with
    | none => some (a, [])
    | some (b, bs) => if a.1 ≤ b.1 then some (a, as) else some (b, a :: bs)

end Timed
end ChatBridge
