/-!
# Backlogs

What a receiver has not read yet of the things sent to it. A backlog holds a bounded number of them;
when it is full the oldest makes room, and the receiver is told how many it has missed before it
reads on.
-/

namespace ChatBridge

structure Backlog (α : Type) where
  capacity : Nat
  unread : List α
  missed : Nat
deriving DecidableEq, Repr, Inhabited

inductive Backlog.Item (α : Type) where
  | missed (count : Nat)
  | item (a : α)
deriving DecidableEq, Repr, Inhabited

namespace Backlog

variable {α : Type}

def empty (capacity : Nat) : Backlog α := ⟨capacity, [], 0⟩

def push (b : Backlog α) (a : α) : Backlog α :=
  if b.unread.length < b.capacity then { b with unread := b.unread ++ [a] }
  else { b with unread := (b.unread ++ [a]).tail, missed := b.missed + 1 }

def isEmpty (b : Backlog α) : Bool := b.unread.isEmpty && b.missed = 0

def next? (b : Backlog α) : Option (Item α × Backlog α) :=
  if b.missed ≠ 0 then some (.missed b.missed, { b with missed := 0 })
  else
    match b.unread with
    | [] => none
    | a :: as => some (.item a, { b with unread := as })

def drain (b : Backlog α) : List (Item α) × Backlog α :=
  ((if b.missed = 0 then [] else [.missed b.missed]) ++ b.unread.map .item, empty b.capacity)

end Backlog
end ChatBridge
