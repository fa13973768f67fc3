import ChatBridge.Ordered.Entries

/-!
# Maps and sets kept in key order

`KeyMap` holds one value a key, `KeySet` the keys alone. Both are lists with their order as a proof,
so two of them are equal exactly when they hold the same things.
-/

namespace ChatBridge

structure KeyMap (α β : Type) [KeyOrder α] where
  toList : List (α × β)
  rising : Entries.Rising toList

namespace KeyMap

variable {α β : Type} [KeyOrder α]

instance [DecidableEq α] [DecidableEq β] : DecidableEq (KeyMap α β) := fun a b =>
  decidable_of_iff (a.toList = b.toList) ⟨fun h => by cases a; cases b; simp_all, fun h => h ▸ rfl⟩

def empty : KeyMap α β := ⟨[], List.Pairwise.nil⟩

instance : EmptyCollection (KeyMap α β) := ⟨empty⟩

instance : Inhabited (KeyMap α β) := ⟨empty⟩

def insert (m : KeyMap α β) (k : α) (v : β) : KeyMap α β :=
  ⟨Entries.put k v m.toList, Entries.rising_put m.rising⟩

def erase (m : KeyMap α β) (k : α) : KeyMap α β :=
  ⟨Entries.erase k m.toList, Entries.rising_erase m.rising⟩

/-- The last entry of a key counts. -/
def ofList (es : List (α × β)) : KeyMap α β := ⟨Entries.ofList es, Entries.rising_ofList es⟩

def get? (m : KeyMap α β) (k : α) : Option β := Entries.find? k m.toList

def contains (m : KeyMap α β) (k : α) : Bool := (m.get? k).isSome

def size (m : KeyMap α β) : Nat := m.toList.length

def isEmpty (m : KeyMap α β) : Bool := m.toList.isEmpty

def keys (m : KeyMap α β) : List α := m.toList.map Prod.fst

@[ext] theorem ext {m n : KeyMap α β} (h : m.toList = n.toList) : m = n := by
  cases m; cases n; simp_all

end KeyMap

/-- A set is a map to nothing. -/
structure KeySet (α : Type) [KeyOrder α] where
  entries : KeyMap α Unit
deriving Inhabited

namespace KeySet

variable {α : Type} [KeyOrder α]

instance [DecidableEq α] : DecidableEq (KeySet α) := fun a b =>
  decidable_of_iff (a.entries = b.entries) ⟨fun h => by cases a; cases b; simp_all, fun h => h ▸ rfl⟩

def empty : KeySet α := ⟨.empty⟩

instance : EmptyCollection (KeySet α) := ⟨empty⟩

def insert (s : KeySet α) (a : α) : KeySet α := ⟨s.entries.insert a ()⟩

def ofList (l : List α) : KeySet α := ⟨.ofList (l.map fun a => (a, ()))⟩

def toList (s : KeySet α) : List α := s.entries.keys

def contains (s : KeySet α) (a : α) : Bool := s.entries.contains a

def isEmpty (s : KeySet α) : Bool := s.entries.isEmpty

end KeySet
end ChatBridge
