import ChatBridge.Ordered.KeyMap

/-!
# JSON values

Integers are exact between `-2^63` and `2^64 - 1`, every other number is a finite double. An object
is a list of members in the order in which they are written; `Json.ordered` brings the members of
every object into key order, which is the form values travel in.
-/

namespace ChatBridge

/-- A JSON number; `negative n` stands for `-(n + 1)`. -/
inductive Number where
  | natural (n : UInt64)
  | negative (n : Fin 9223372036854775808)
  | double (x : Float)
deriving DecidableEq, Repr

namespace Number

/-- The integer as a number, a double where it is out of the exact range. -/
def ofInt : Int → Number
  | .ofNat n => if n < 18446744073709551616 then .natural (.ofNat n) else .double (Float.ofNat n)
  | .negSucc n =>
    if h : n < 9223372036854775808 then .negative ⟨n, h⟩ else .double (-(Float.ofNat (n + 1)))

def ofNat (n : Nat) : Number := ofInt n

end Number

inductive Json where
  | null
  | bool (b : Bool)
  | num (n : Number)
  | str (s : String)
  | arr (items : List Json)
  | obj (members : List (String × Json))
deriving BEq, Repr, Inhabited

namespace Json

instance : Coe String Json := ⟨.str⟩

def nat (n : Nat) : Json := .num (.ofNat n)

def int (i : Int) : Json := .num (.ofInt i)

mutual

/-- Every object's members in key order, the last one of a key standing for all. -/
def ordered : Json → Json
  | .arr items => .arr (orderedItems items)
  | .obj members => .obj (Entries.ofList (orderedMembers members))
  | j => j

def orderedItems : List Json → List Json
  | [] => []
  | j :: js => ordered j :: orderedItems js

def orderedMembers : List (String × Json) → List (String × Json)
  | [] => []
  | (k, j) :: ms => (k, ordered j) :: orderedMembers ms

end

def get? (j : Json) (key : String) : Option Json :=
  match j with
  | .obj members => (members.find? (·.1 == key)).map (·.2)
  | _ => none

end Json
end ChatBridge
