import ChatBridge.Json.Printer
import ChatBridge.Json.Reader
import ChatBridge.Wire.Refusal

/-!
# Values on the wire

A `Codec` reads a type from JSON and writes it back. Reading depends in a few places on where the
JSON comes from: a value in memory, a text read as it goes along, or a part that had to be set aside
until the variant it belongs to was known.
-/

namespace ChatBridge

inductive Origin where
  | value
  | text
  | setAside
deriving DecidableEq, Repr

/-- The first refusal met is the one reported. -/
abbrev Reading := Except Refusal

structure Codec (α : Type) where
  read : Origin → Node → Reading α
  write : α → Json

class Wire (α : Type) where
  codec : Codec α

namespace Wire

variable {α : Type} [Wire α]

def read (o : Origin) (n : Node) : Reading α := codec.read o n

def write (a : α) : Json := codec.write a

end Wire

namespace Codec

variable {α : Type} (c : Codec α)

def ofValue (j : Json) : Reading α := c.read .value (.ofJson j.ordered)

def ofText (text : String) : Reading α :=
  match Node.ofText text with
  | (n, ends) => do
    let a ← c.read .text n
    if ends then return a else throw (.broken .malformed)

def toValue (a : α) : Json := (c.write a).ordered

def toText (a : α) : String := (c.write a).compact

end Codec

def intact : Option Break → Reading Unit
  | none => .ok ()
  | some b => .error (.broken b)

namespace Node

def refuse {α : Type} (n : Node) (wanted : String) : Reading α :=
  match n.found with
  | .ok f => .error (.invalidType f wanted)
  | .error b => .error (.broken b)

def skip (n : Node) : Reading Unit := intact n.skipBreak

def setAside (n : Node) : Reading Unit := intact n.readBreak

end Node

/-! ## Plain values -/

def readString (wanted : String) (n : Node) : Reading String :=
  match n with
  | .str s => .ok s
  | n => n.refuse wanted

def readBool (n : Node) : Reading Bool :=
  match n with
  | .bool b => .ok b
  | n => n.refuse "a boolean"

/-- A natural number below the bound; other integers are of the right type but no such value. -/
def readNatural (bound : Nat) (wanted : String) (n : Node) : Reading Nat :=
  match n with
  | .num (.natural k) =>
    if k.toNat < bound then .ok k.toNat else .error (.invalidValue (.integer k.toNat) wanted)
  | .num (.negative k) => .error (.invalidValue (.integer (.negSucc k.val)) wanted)
  | n => n.refuse wanted

def readUnit (wanted : String) (n : Node) : Reading Unit :=
  match n with
  | .null => .ok ()
  | n => n.refuse wanted

instance : Wire String := ⟨fun _ => readString "a string", .str⟩

instance : Wire Bool := ⟨fun _ => readBool, .bool⟩

instance : Wire UInt32 :=
  ⟨fun _ n => (readNatural UInt32.size "u32" n).map UInt32.ofNat, fun k => .nat k.toNat⟩

instance : Wire UInt64 :=
  ⟨fun _ n => (readNatural UInt64.size "u64" n).map UInt64.ofNat, fun k => .nat k.toNat⟩

instance : Wire Unit := ⟨fun _ => readUnit "unit", fun _ => .null⟩

instance : Wire Json := ⟨fun _ n => (n.setAside).map fun _ => n.toJson, Json.ordered⟩

/-! ## Containers -/

section
variable {α : Type} [Wire α]

def readOption (o : Origin) : Node → Reading (Option α)
  | .null => .ok none
  | n => (Wire.read o n).map some

instance : Wire (Option α) := ⟨readOption, fun a => a.elim .null Wire.write⟩

def readAll (o : Origin) (ending : Ending) : List Node → Reading (List α)
  | [] => (intact ending.break?).map fun _ => []
  | n :: ns => do return (← Wire.read o n) :: (← readAll o ending ns)

def readList (o : Origin) : Node → Reading (List α)
  | .arr items ending => readAll o ending items
  | n => n.refuse "a sequence"

instance : Wire (List α) := ⟨readList, fun as => .arr (as.map Wire.write)⟩

instance [KeyOrder α] : Wire (KeySet α) :=
  ⟨fun o n => (readList o n).map KeySet.ofList, fun s => .arr (s.toList.map Wire.write)⟩

def readEntries (o : Origin) (ending : Ending) : List (String × Node) → Reading (List (String × α))
  | [] => (intact ending.break?).map fun _ => []
  | (k, n) :: ms => do return (k, ← Wire.read o n) :: (← readEntries o ending ms)

def readMap (o : Origin) : Node → Reading (KeyMap String α)
  | .obj members ending => (readEntries o ending members).map KeyMap.ofList
  | n => n.refuse "a map"

instance : Wire (KeyMap String α) :=
  ⟨readMap, fun m => .obj (m.toList.map fun (k, a) => (k, Wire.write a))⟩

end

end ChatBridge
