import ChatBridge.Proofs.Json.Text
import ChatBridge.Proofs.Wire.Variants

/-!
# Texts of typed values

The values of a type nest only so deep when they are written, and nothing but free-form JSON has a
double in it. So they can be printed, in whatever order their members stand, and read again.
-/

namespace ChatBridge

theorem Json.Plain.mono {k n : Nat} {j : Json} (h : j.Plain k) (hk : k ≤ n) : j.Plain n := by
  induction h generalizing n with
  | null => exact .null
  | bool b => exact .bool b
  | natural i => exact .natural i
  | negative i => exact .negative i
  | str s => exact .str s
  | arr _ ih =>
    obtain ⟨n, rfl⟩ := Nat.exists_eq_add_of_le' (Nat.le_of_add_left_le hk)
    exact .arr fun j hj => ih j hj (Nat.le_of_succ_le_succ hk)
  | obj hn _ ih =>
    obtain ⟨n, rfl⟩ := Nat.exists_eq_add_of_le' (Nat.le_of_add_left_le hk)
    exact .obj hn fun m hm => ih m hm (Nat.le_of_succ_le_succ hk)

theorem Arrangement.plain (f : Arrangement) {k : Nat} {j : Json} (h : j.Plain k) :
    (f.arrange j).Plain k := by
  induction h with
  | null => rw [f.null]; exact .null
  | bool b => rw [f.bool]; exact .bool b
  | natural n => rw [f.num]; exact .natural n
  | negative n => rw [f.num]; exact .negative n
  | str s => rw [f.str]; exact .str s
  | arr _ ih =>
    rw [f.arr]
    refine .arr fun j hj => ?_
    obtain ⟨i, hi, rfl⟩ := List.mem_map.mp hj
    exact ih i hi
  | obj hn _ ih =>
    obtain ⟨moved, hm, hperm⟩ := f.obj hn
    rw [hm]
    refine .obj ?_ fun m hmem => ?_
    · rw [(hperm.map Prod.fst).nodup_iff, List.map_map]
      exact hn
    · obtain ⟨q, hq, rfl⟩ := List.mem_map.mp (hperm.mem_iff.mp hmem)
      exact ih q hq

/-- A codec that is faithful at a value reads it from a text too, if the text can be read at all. -/
theorem Codec.FaithfulAt.ofText_compact {α : Type} {c : Codec α} {a : α} (h : c.FaithfulAt a)
    (f : Arrangement) {k : Nat} (hp : (c.write a).Plain k) (hk : k < JsonText.depthLimit) :
    c.ofText (f.arrange (c.write a)).compact = .ok a := by
  rw [ofText, Node.ofText_compact (f.plain hp) hk]
  show (do let a ← c.read .text (.ofJson (f.arrange (c.write a))); if true then return a else _) = _
  rw [h f .text]
  rfl

/-- A type whose values are written with at most `k` containers around each other. -/
class Wire.Plain (α : Type) [Wire α] (k : outParam Nat) : Prop where
  plain (a : α) : (Wire.write a).Plain k

section
variable {α : Type} [Wire α] {k n : Nat}

@[simp] theorem Wire.plain_of_le [h : Wire.Plain α k] (hk : k ≤ n) (a : α) :
    (Wire.write a).Plain n := (h.plain a).mono hk

instance : Wire.Plain String 0 := ⟨.str⟩

instance : Wire.Plain Bool 0 := ⟨.bool⟩

instance : Wire.Plain Unit 0 := ⟨fun _ => .null⟩

theorem Json.plain_nat {n : Nat} (h : n < 18446744073709551616) : (Json.nat n).Plain k := by
  rw [nat, number_ofNat h]
  exact .natural _

instance : Wire.Plain UInt32 0 := ⟨fun k => Json.plain_nat (Nat.lt_trans k.toNat_lt (by decide))⟩

instance : Wire.Plain UInt64 0 := ⟨fun k => Json.plain_nat k.toNat_lt⟩

variable [h : Wire.Plain α k]

instance : Wire.Plain (Option α) k := ⟨fun a => by
  cases a with
  | none => exact .null
  | some a => exact h.plain a⟩

theorem plain_items (as : List α) : (Json.arr (as.map Wire.write)).Plain (k + 1) := by
  refine .arr fun j hj => ?_
  obtain ⟨a, _, rfl⟩ := List.mem_map.mp hj
  exact h.plain a

instance : Wire.Plain (List α) (k + 1) := ⟨plain_items⟩

instance [KeyOrder α] : Wire.Plain (KeySet α) (k + 1) := ⟨fun s => plain_items s.toList⟩

instance : Wire.Plain (KeyMap String α) (k + 1) := ⟨fun m => by
  refine .obj ?_ fun e he => ?_
  · rw [List.map_map]
    exact m.rising.nodup
  · obtain ⟨q, _, rfl⟩ := List.mem_map.mp he
    exact h.plain q.2⟩

end

/-! ## Records and variants -/

namespace Field

variable {α : Type} [Wire α]

@[simp] theorem write_required (name : String) (a : α) :
    (required name : Field α).codec.write a = Wire.write a := rfl

@[simp] theorem write_defaulted (name : String) (b a : α) :
    (defaulted name b).codec.write a = Wire.write a := rfl

@[simp] theorem write_optional (name : String) (a : Option α) :
    (optional name : Field (Option α)).codec.write a = Wire.write a := rfl

end Field

@[simp] theorem Field.write_unwritten {α : Type} (fd : Field (Option α)) (a : Option α) :
    fd.unwritten.codec.write a = fd.codec.write a := rfl

namespace Fields

def PlainAt : {τ : Type} → Fields τ → τ → Nat → Prop
  | _, .nil, _, _ => True
  | _, .cons fd rest, (a, t), k => (fd.codec.write a).Plain k ∧ rest.PlainAt t k

@[simp] theorem plainAt_nil {t : Unit} {k : Nat} : Fields.nil.PlainAt t k := trivial

@[simp] theorem plainAt_cons {α β : Type} {fd : Field α} {rest : Fields β} {a : α} {t : β} {k : Nat} :
    (Fields.cons fd rest).PlainAt (a, t) k ↔ (fd.codec.write a).Plain k ∧ rest.PlainAt t k := .rfl

theorem PlainAt.of_mem {τ : Type} {fs : Fields τ} {t : τ} {k : Nat} (h : fs.PlainAt t k)
    {m : String × Json} (hm : m ∈ fs.write t) : m.2.Plain k := by
  induction fs with
  | nil => cases hm
  | cons fd rest ih =>
    obtain ⟨a, t⟩ := t
    rw [write] at hm
    split at hm
    · exact ih h.2 hm
    · rcases List.mem_cons.mp hm with rfl | hm
      · exact h.1
      · exact ih h.2 hm

theorem PlainAt.obj {τ : Type} {fs : Fields τ} {t : τ} {k : Nat} (h : fs.PlainAt t k)
    (hn : fs.names.Nodup) : (Json.obj (fs.write t)).Plain (k + 1) :=
  .obj ((names_write_sublist fs t).nodup hn) fun _ hm => h.of_mem hm

end Fields

section
variable {α : Type} {k : Nat}

theorem Record.plain {r : Record α} (hn : r.fields.names.Nodup)
    (h : ∀ a, r.fields.PlainAt (r.parts a) k) (a : α) : (r.codec.write a).Plain (k + 1) :=
  (h a).obj hn

theorem Codec.plain_single {name : String} {fd : Field α} {a : α} (h : (fd.codec.write a).Plain k) :
    ((Codec.single name fd).write a).Plain (k + 1) := by
  have hfs : (Fields.cons fd .nil).PlainAt (a, ()) k := ⟨h, trivial⟩
  exact hfs.obj (List.nodup_cons.mpr ⟨List.not_mem_nil, List.nodup_nil⟩)

theorem Tagged.plain_member {t : Tagged α} {a : α} (h : (t.view a).1.fields.PlainAt (t.view a).2 k)
    {m : String × Json} (hm : m ∈ t.members a) : m.2.Plain k := by
  rcases List.mem_cons.mp hm with rfl | hm
  · exact .str _
  · exact h.of_mem hm

theorem Tagged.plain {t : Tagged α} {a : α} (hn : (t.tag :: (t.view a).1.fields.names).Nodup)
    (h : (t.view a).1.fields.PlainAt (t.view a).2 k) : (t.codec.write a).Plain (k + 1) :=
  .obj (nodup_members hn) fun _ hm => plain_member h hm

end
end ChatBridge
