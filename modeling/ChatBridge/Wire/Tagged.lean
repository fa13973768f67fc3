import ChatBridge.Wire.Record

/-!
# Tagged variants

A variant travels as an object with its name under the tag and its fields beside it. The tag may be
any member of the object, so the other members are set aside until all are seen. In the array form
the tag is the first item.

Variants without fields can also travel as bare words.
-/

namespace ChatBridge

structure Variant (α : Type) where
  word : String
  title : String
  Parts : Type
  fields : Fields Parts
  make : Parts → α

structure Tagged (α : Type) where
  name : String
  tag : String
  variants : List (Variant α)
  view : α → (v : Variant α) × v.Parts

namespace Tagged

variable {α : Type} (t : Tagged α)

def words : List String := t.variants.map (·.word)

abbrev Place := Fin t.variants.length

/-- A variant that was set aside may also be given by its number. -/
def readTag (o : Origin) (n : Node) : Reading t.Place :=
  match o, n with
  | _, .str s =>
    match t.variants.findFinIdx? (·.word == s) with
    | some i => .ok i
    | none => .error (.unknownVariant s t.words)
  | .setAside, .num (.natural i) =>
    if h : i.toNat < t.variants.length then .ok ⟨i.toNat, h⟩
    else
      .error (.invalidValue (.integer i.toNat)
        ("variant index 0 <= i < " ++ toString t.variants.length))
  | _, n => n.refuse "variant identifier"

/-- The variant that the tag among the members names, and the other members set aside. -/
def scan (o : Origin) :
    List (String × Node) → Option t.Place → Reading (Option t.Place × List (String × Node))
  | [], place => .ok (place, [])
  | (key, n) :: ms, place =>
    if key = t.tag then
      match place with
      | some _ => throw (.duplicateField key)
      | none => do scan o ms (some (← t.readTag o n))
    else do
      n.setAside
      let (place, others) ← scan o ms place
      return (place, (key, n) :: others)

def readVariant (i : t.Place) (content : Node) : Reading α :=
  let v := t.variants[i]
  (v.fields.read v.title .setAside content).map v.make

def readMembers (o : Origin) (members : List (String × Node)) (ending : Ending) : Reading α := do
  let (place, others) ← t.scan o members none
  intact ending.break?
  match place with
  | none => throw (.missingField t.tag)
  | some i => t.readVariant i (.obj others .closed)

def read (o : Origin) : Node → Reading α
  | .obj members ending => t.readMembers o members ending
  | .arr [] ending => do
    intact ending.break?
    throw (.missingField t.tag)
  | .arr (n :: items) ending => do
    let i ← t.readTag o n
    (Node.arr items ending).setAside
    t.readVariant i (.arr items .closed)
  | n => n.refuse ("internally tagged enum " ++ t.name)

def members (a : α) : List (String × Json) :=
  let ⟨v, parts⟩ := t.view a
  (t.tag, .str v.word) :: v.fields.write parts

def codec : Codec α where
  read := t.read
  write a := .obj (t.members a)

end Tagged

def Variant.record {α τ : Type} (type variant word : String) (fields : Fields τ) (make : τ → α) :
    Variant α :=
  ⟨word, "struct variant " ++ type ++ "::" ++ variant, τ, fields, make⟩

def Variant.holding {α β : Type} (word : String) (r : Record β) (make : β → α) : Variant α :=
  ⟨word, "struct " ++ r.name, r.Parts, r.fields, make ∘ r.make⟩

def Variant.bare {α : Type} (word : String) (a : α) : Variant α :=
  ⟨word, "unit variant", Unit, .nil, fun _ => a⟩

/-! ## Words -/

structure Words (α : Type) where
  all : List α
  word : α → String

namespace Words

variable {α : Type} (w : Words α)

def readWord (n : Node) : Reading α :=
  match n with
  | .str s =>
    match w.all.find? (w.word · == s) with
    | some a => .ok a
    | none => .error (.unknownVariant s (w.all.map w.word))
  | n => n.refuse "variant identifier"

def checkEnd (ending : Ending) : Reading Unit :=
  match ending with
  | .closed => .ok ()
  | .broken b false => .error (.broken b)
  | _ => .error (.broken .malformed)

/-- A word, or an object with the word as its one key and null as the value. In a text everything
that begins like neither is malformed. -/
def read (o : Origin) (n : Node) : Reading α :=
  match n, o with
  | .str s, _ => w.readWord (.str s)
  | .obj [(key, n)] ending, _ => do
    let a ← w.readWord (.str key)
    readUnit "unit" n
    checkEnd ending
    return a
  | .obj ((key, n) :: _ :: _) _, .text => do
    let _ ← w.readWord (.str key)
    readUnit "unit" n
    throw (.broken .malformed)
  | .obj [] (.broken b _), .text => throw (.broken b)
  | .obj [] (.unreadableKey b _), .text => throw (.broken b)
  | .obj [] .closed, .text => throw (.broken .malformed)
  | .obj _ _, _ => throw (.invalidValue .map "map with a single key")
  | .unreadable b .nothing _, .text => throw (.broken b)
  | .unreadable b .quote _, .text => throw (.broken b)
  | _, .text => throw (.broken .malformed)
  | n, _ => n.refuse "string or map"

def codec : Codec α where
  read := w.read
  write a := .str (w.word a)

end Words
end ChatBridge
