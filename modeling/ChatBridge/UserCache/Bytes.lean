/-!
# Bytes

Fixed-width numbers with the lowest byte first, texts behind their length in bytes, and readers that
take a value off the front of the bytes and say what is left.
-/

namespace ChatBridge.Bytes

abbrev Reader (α : Type) := List UInt8 → Option (α × List UInt8)

def word (n : Nat) : Nat → List UInt8
  | 0 => []
  | width + 1 => .ofNat (n % 256) :: word (n / 256) width

def value : List UInt8 → Nat
  | [] => 0
  | b :: bs => b.toNat + 256 * value bs

def take : Nat → Reader (List UInt8)
  | 0, bs => some ([], bs)
  | _ + 1, [] => none
  | n + 1, b :: bs => (take n bs).map fun (front, rest) => (b :: front, rest)

def readWord (width : Nat) : Reader Nat := fun bs =>
  (take width bs).map fun (front, rest) => (value front, rest)

def text (s : String) : List UInt8 :=
  let bytes := s.toUTF8.toList
  word bytes.length 8 ++ bytes

def readText : Reader String := fun bs => do
  let (length, bs) ← readWord 8 bs
  let (front, rest) ← take length bs
  let s ← String.fromUTF8? ⟨front.toArray⟩
  return (s, rest)

def optional {α : Type} (write : α → List UInt8) : Option α → List UInt8
  | none => [0]
  | some a => 1 :: write a

def readOptional {α : Type} (read : Reader α) : Reader (Option α)
  | 0 :: bs => some (none, bs)
  | 1 :: bs => (read bs).map fun (a, rest) => (some a, rest)
  | _ => none

def readMany {α : Type} (read : Reader α) : Nat → Reader (List α)
  | 0, bs => some ([], bs)
  | n + 1, bs => do
    let (a, bs) ← read bs
    let (as, bs) ← readMany read n bs
    return (a :: as, bs)

end ChatBridge.Bytes
