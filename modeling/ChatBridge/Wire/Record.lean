import ChatBridge.Wire.Basic

/-!
# Records

A record travels as an object whose members are its fields; a reader also takes an array of the
fields in their order. `Fields` lists the fields of a record with their types, so that reading and
writing are defined once, along the list.

Members may come in any order and members of other names are passed over. What is missing is looked
at last, in the order of the fields.
-/

namespace ChatBridge

structure Field (α : Type) where
  name : String
  codec : Codec α
  /-- The value of a member that an object lacks. -/
  absent : Option α
  /-- The value of an item that an array is too short for. -/
  short : Option α
  /-- Values that are left out when written. -/
  omits : α → Bool

namespace Field

variable {α : Type} [w : Wire α]

def required (name : String) : Field α := ⟨name, w.codec, none, none, fun _ => false⟩

def defaulted (name : String) (value : α) : Field α :=
  ⟨name, w.codec, some value, some value, fun _ => false⟩

def optional (name : String) : Field (Option α) :=
  ⟨name, Wire.codec, some none, none, fun _ => false⟩

def unwritten (f : Field (Option α)) : Field (Option α) := { f with omits := Option.isNone }

end Field

inductive Fields : Type → Type 1 where
  | nil : Fields Unit
  | cons {α β : Type} (field : Field α) (rest : Fields β) : Fields (α × β)

namespace Fields

def names : {τ : Type} → Fields τ → List String
  | _, .nil => []
  | _, .cons f rest => f.name :: rest.names

def elements (n : Nat) : String := toString n ++ if n = 1 then " element" else " elements"

@[reducible] def Slots : {τ : Type} → Fields τ → Type
  | _, .nil => Unit
  | _, @cons α _ _ rest => Option α × rest.Slots

def vacant : {τ : Type} → (fs : Fields τ) → fs.Slots
  | _, .nil => ()
  | _, .cons _ rest => (none, rest.vacant)

/-- Takes in one member. A second member of a field's name is refused before its value is read. -/
def absorb (o : Origin) (key : String) (n : Node) :
    {τ : Type} → (fs : Fields τ) → fs.Slots → Reading fs.Slots
  | _, .nil, _ => n.skip
  | _, .cons f rest, slots =>
    if f.name = key then
      match slots.1 with
      | some _ => throw (.duplicateField key)
      | none => do return (some (← f.codec.read o n), slots.2)
    else do return (slots.1, ← rest.absorb o key n slots.2)

def absorbAll (o : Origin) {τ : Type} (fs : Fields τ) :
    List (String × Node) → fs.Slots → Reading fs.Slots
  | [], slots => .ok slots
  | (key, n) :: ms, slots => do fs.absorbAll o ms (← fs.absorb o key n slots)

def finish : {τ : Type} → (fs : Fields τ) → fs.Slots → Reading τ
  | _, .nil, _ => .ok ()
  | _, .cons f rest, slots =>
    match slots.1.or f.absent with
    | none => throw (.missingField f.name)
    | some a => do return (a, ← rest.finish slots.2)

/-- Reads fields off the front of the items; `index` counts the fields before. Items left over are
the second result. -/
def readItems (o : Origin) (title : String) (ending : Ending) :
    {τ : Type} → Fields τ → Nat → List Node → Reading (τ × List Node)
  | _, .nil, _, ns => .ok ((), ns)
  | _, .cons f rest, index, n :: ns => do
    let a ← f.codec.read o n
    let (t, left) ← rest.readItems o title ending (index + 1) ns
    return ((a, t), left)
  | _, .cons f rest, index, [] => do
    intact ending.break?
    match f.short with
    | none => throw (.invalidLength index title)
    | some a =>
      let (t, left) ← rest.readItems o title ending (index + 1) []
      return ((a, t), left)

def checkEnd (o : Origin) (ending : Ending) (size fields : Nat) (left : List Node) :
    Reading Unit :=
  match left, o with
  | [], .text =>
    match ending with
    | .closed => .ok ()
    | .broken b false => .error (.broken b)
    | _ => .error (.broken .malformed)
  | [], _ => .ok ()
  | _ :: _, .text => .error (.broken .malformed)
  | _ :: _, .value => .error (.invalidLength size "fewer elements in array")
  | _ :: _, .setAside => .error (.invalidLength size (elements fields ++ " in sequence"))

def read {τ : Type} (fs : Fields τ) (title : String) (o : Origin) : Node → Reading τ
  | .obj members ending => do
    let slots ← fs.absorbAll o members fs.vacant
    intact ending.break?
    fs.finish slots
  | .arr items ending => do
    let count := fs.names.length
    let (t, left) ← fs.readItems o (title ++ " with " ++ elements count) ending 0 items
    checkEnd o ending items.length count left
    return t
  | n => n.refuse title

def write : {τ : Type} → Fields τ → τ → List (String × Json)
  | _, .nil, _ => []
  | _, .cons f rest, (a, t) =>
    if f.omits a then rest.write t else (f.name, f.codec.write a) :: rest.write t

end Fields

structure Record (α : Type) where
  name : String
  Parts : Type
  fields : Fields Parts
  make : Parts → α
  parts : α → Parts

namespace Record

variable {α : Type} (r : Record α)

def codec : Codec α where
  read o n := (r.fields.read ("struct " ++ r.name) o n).map r.make
  write a := .obj (r.fields.write (r.parts a))

end Record

def Codec.single {α : Type} (name : String) (field : Field α) : Codec α where
  read o n := ((Fields.cons field .nil).read ("struct " ++ name) o n).map (·.1)
  write a := .obj ((Fields.cons field .nil).write (a, ()))

def Codec.bare (name : String) : Codec Unit where
  read _ := readUnit ("unit struct " ++ name)
  write _ := .null

end ChatBridge
