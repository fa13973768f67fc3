import ChatBridge.Proofs.Wire.Arrangement
import ChatBridge.Wire.Tagged

/-!
# Codecs that lose nothing

A codec is faithful at a value if it reads back what it has written for it, from wherever it comes
and in whatever order the members stand. Every way to build a codec keeps that. Most codecs are so at
every value; one for free-form JSON is so only at values that stand in order.
-/

namespace ChatBridge

def Codec.Faithful {α : Type} (c : Codec α) : Prop :=
  ∀ (f : Arrangement) (o : Origin) (a : α), c.read o (.ofJson (f.arrange (c.write a))) = .ok a

def Codec.FaithfulAt {α : Type} (c : Codec α) (a : α) : Prop :=
  ∀ (f : Arrangement) (o : Origin), c.read o (.ofJson (f.arrange (c.write a))) = .ok a

theorem Codec.Faithful.at {α : Type} {c : Codec α} (h : c.Faithful) (a : α) : c.FaithfulAt a :=
  fun f o => h f o a

/-- A type whose form on the wire loses nothing. -/
class Wire.Faithful (α : Type) [Wire α] : Prop where
  faithful : (Wire.codec : Codec α).Faithful

class Wire.Present (α : Type) [Wire α] : Prop where
  arrange_ne (f : Arrangement) (a : α) : f.arrange (Wire.write a) ≠ .null

theorem Wire.read_write {α : Type} [Wire α] [h : Wire.Faithful α] (f : Arrangement) (o : Origin)
    (a : α) : Wire.read o (.ofJson (f.arrange (Wire.write a))) = .ok a := h.faithful f o a

theorem Codec.Faithful.ofValue_toValue {α : Type} {c : Codec α} (h : c.Faithful) (a : α) :
    c.ofValue (c.toValue a) = .ok a := h (.comp .ordered .ordered) .value a

/-! ## Plain values -/

section
variable (f : Arrangement)

instance : Wire.Faithful String := ⟨fun f _ s => by
  show readString _ (.ofJson (f.arrange (.str s))) = _
  rw [f.str]
  rfl⟩

instance : Wire.Present String := ⟨fun f s => by
  show f.arrange (.str s) ≠ .null
  rw [f.str]
  exact nofun⟩

instance : Wire.Faithful Bool := ⟨fun f _ b => by
  show readBool (.ofJson (f.arrange (.bool b))) = _
  rw [f.bool]
  rfl⟩

instance : Wire.Faithful Unit := ⟨fun f _ _ => by
  show readUnit _ (.ofJson (f.arrange .null)) = _
  rw [f.null]
  rfl⟩

theorem number_ofNat {n : Nat} (h : n < 18446744073709551616) :
    Number.ofNat n = .natural (.ofNat n) := if_pos h

theorem readNatural_nat {n bound : Nat} (h : n < bound) (hb : bound ≤ 18446744073709551616)
    (wanted : String) : readNatural bound wanted (.ofJson (f.arrange (.nat n))) = .ok n := by
  have hn : n < 18446744073709551616 := Nat.lt_of_lt_of_le h hb
  have hto : (UInt64.ofNat n).toNat = n := UInt64.toNat_ofNat_of_lt' hn
  rw [Json.nat, f.num, number_ofNat hn]
  show (if (UInt64.ofNat n).toNat < bound then _ else _) = _
  rw [hto, if_pos h]

instance : Wire.Faithful UInt32 := ⟨fun f _ k => by
  show (readNatural _ _ (.ofJson (f.arrange (.nat k.toNat)))).map UInt32.ofNat = _
  rw [readNatural_nat f k.toNat_lt (by decide)]
  exact congrArg _ (UInt32.ofNat_toNat)⟩

instance : Wire.Faithful UInt64 := ⟨fun f _ k => by
  show (readNatural _ _ (.ofJson (f.arrange (.nat k.toNat)))).map UInt64.ofNat = _
  rw [readNatural_nat f k.toNat_lt (by decide)]
  exact congrArg _ (UInt64.ofNat_toNat)⟩

instance : Wire.Present UInt32 := ⟨fun f k => by
  show f.arrange (.num _) ≠ .null
  rw [f.num]
  exact nofun⟩

instance : Wire.Present UInt64 := ⟨fun f k => by
  show f.arrange (.num _) ≠ .null
  rw [f.num]
  exact nofun⟩

end

/-! ## Containers -/

section
variable {α : Type} [Wire α]

theorem readOption_of_ne {o : Origin} {j : Json} (h : j ≠ .null) :
    readOption o (.ofJson j) = (Wire.read o (.ofJson j) : Reading α).map some := by
  cases j with
  | null => exact absurd rfl h
  | _ => rfl

instance [Wire.Faithful α] [h : Wire.Present α] : Wire.Faithful (Option α) := ⟨fun f o a => by
  cases a with
  | none =>
    show readOption o (.ofJson (f.arrange .null)) = _
    rw [f.null]
    rfl
  | some a =>
    show readOption o (.ofJson (f.arrange (Wire.write a))) = _
    rw [readOption_of_ne (h.arrange_ne f a), Wire.read_write]
    rfl⟩

variable [Wire.Faithful α]

theorem readAll_write (f : Arrangement) (o : Origin) (as : List α) :
    readAll o .closed (Node.ofItems ((as.map Wire.write).map f.arrange)) = .ok as := by
  induction as with
  | nil => rfl
  | cons a as ih =>
    rw [List.map_cons, List.map_cons, Node.ofItems, readAll, Wire.read_write, ih]
    rfl

theorem readList_write (f : Arrangement) (o : Origin) (as : List α) :
    readList o (.ofJson (f.arrange (.arr (as.map Wire.write)))) = .ok as := by
  rw [f.arr]
  exact readAll_write f o as

instance : Wire.Faithful (List α) := ⟨readList_write⟩

instance : Wire.Present (List α) := ⟨fun f as => by
  show f.arrange (.arr _) ≠ .null
  rw [f.arr]
  exact nofun⟩

instance [KeyOrder α] : Wire.Faithful (KeySet α) := ⟨fun f o s => by
  show (readList o (.ofJson (f.arrange (.arr (s.toList.map Wire.write))))).map KeySet.ofList = _
  rw [readList_write]
  exact congrArg _ KeySet.ofList_toList⟩

instance [KeyOrder α] : Wire.Present (KeySet α) := ⟨fun f s => by
  show f.arrange (.arr _) ≠ .null
  rw [f.arr]
  exact nofun⟩

theorem readEntries_write (f : Arrangement) (o : Origin) (es : List (String × α)) :
    readEntries o .closed (f.nodes (es.map fun e => (e.1, Wire.write e.2))) = .ok es := by
  induction es with
  | nil => rfl
  | cons e es ih =>
    rw [List.map_cons, Arrangement.nodes_cons, readEntries, Wire.read_write, ih]
    rfl

instance : Wire.Faithful (KeyMap String α) := ⟨fun f o m => by
  have hn : ((m.toList.map fun e => (e.1, Wire.write e.2)).map Prod.fst).Nodup := by
    rw [List.map_map]
    exact m.rising.nodup
  obtain ⟨ms, hms, hf⟩ := f.exists_nodes hn
  obtain ⟨es, hes, rfl⟩ := exists_perm_of_map hms rfl
  show readMap o (.ofJson (f.arrange (.obj (m.toList.map fun e => (e.1, Wire.write e.2))))) = _
  rw [hf]
  show (readEntries o .closed (f.nodes (es.map fun e => (e.1, Wire.write e.2)))).map KeyMap.ofList = _
  rw [readEntries_write]
  exact congrArg _ (KeyMap.ofList_eq_of_perm hes)⟩

end

/-! ## Fields -/

structure Field.Faithful {α : Type} (fd : Field α) : Prop where
  codec : fd.codec.Faithful
  absent : ∀ a, fd.omits a = true → fd.absent = some a

structure Field.FaithfulAt {α : Type} (fd : Field α) (a : α) : Prop where
  codec : fd.codec.FaithfulAt a
  absent : fd.omits a = true → fd.absent = some a

theorem Field.Faithful.at {α : Type} {fd : Field α} (h : fd.Faithful) (a : α) : fd.FaithfulAt a :=
  ⟨h.codec.at a, h.absent a⟩

namespace Field

section
variable {α : Type} [Wire α]

@[simp] theorem name_required (name : String) : (required name : Field α).name = name := rfl

@[simp] theorem name_defaulted (name : String) (a : α) : (defaulted name a).name = name := rfl

@[simp] theorem name_optional (name : String) : (optional name : Field (Option α)).name = name := rfl

end

@[simp] theorem name_unwritten {α : Type} (fd : Field (Option α)) : fd.unwritten.name = fd.name := rfl

section
variable {α : Type} [Wire α] [h : Wire.Faithful α]

@[simp] theorem faithful_required (name : String) : (required name : Field α).Faithful :=
  ⟨h.faithful, nofun⟩

@[simp] theorem faithful_defaulted (name : String) (a : α) : (defaulted name a).Faithful :=
  ⟨h.faithful, nofun⟩

@[simp] theorem faithful_optional [Wire.Present α] (name : String) :
    (optional name : Field (Option α)).Faithful :=
  ⟨Wire.Faithful.faithful, nofun⟩

@[simp] theorem faithful_unwritten [Wire.Present α] (name : String) :
    (unwritten (defaulted name (none : Option α))).Faithful where
  codec := Wire.Faithful.faithful
  absent a ha := by rw [Option.isNone_iff_eq_none.mp ha]; rfl

end
end Field

namespace Fields

def Faithful : {τ : Type} → Fields τ → Prop
  | _, .nil => True
  | _, .cons fd rest => fd.Faithful ∧ fd.name ∉ rest.names ∧ rest.Faithful

@[simp] theorem faithful_nil : Fields.nil.Faithful := trivial

@[simp] theorem faithful_cons {α β : Type} (fd : Field α) (rest : Fields β) :
    (Fields.cons fd rest).Faithful ↔ fd.Faithful ∧ fd.name ∉ rest.names ∧ rest.Faithful := .rfl

def FaithfulAt : {τ : Type} → Fields τ → τ → Prop
  | _, .nil, _ => True
  | _, .cons fd rest, (a, t) => fd.FaithfulAt a ∧ rest.FaithfulAt t

theorem Faithful.at {τ : Type} {fs : Fields τ} (h : fs.Faithful) (t : τ) : fs.FaithfulAt t := by
  induction fs with
  | nil => trivial
  | cons fd rest ih => exact ⟨h.1.at t.1, ih h.2.2 t.2⟩

@[simp] theorem names_nil : Fields.nil.names = [] := rfl

@[simp] theorem names_cons {α β : Type} (fd : Field α) (rest : Fields β) :
    (Fields.cons fd rest).names = fd.name :: rest.names := rfl

/-- The slots of a value when the members named in `seen` have been read. -/
def filled : {τ : Type} → (fs : Fields τ) → τ → List String → fs.Slots
  | _, .nil, _, _ => ()
  | _, .cons fd rest, (a, t), seen =>
    (if fd.name ∈ seen then some a else none, rest.filled t seen)

variable {τ : Type} {fs : Fields τ} {t : τ} {seen : List String} {o : Origin} {f : Arrangement}

theorem vacant_eq_filled (fs : Fields τ) (t : τ) : fs.vacant = fs.filled t [] := by
  induction fs with
  | nil => rfl
  | cons fd rest ih => exact Prod.ext rfl (ih t.2)

theorem filled_congr {seen' : List String} (h : ∀ n ∈ fs.names, n ∈ seen ↔ n ∈ seen') :
    fs.filled t seen = fs.filled t seen' := by
  induction fs with
  | nil => rfl
  | cons fd rest ih =>
    have hrest := ih (t := t.2) fun n hn => h n (List.mem_cons_of_mem _ hn)
    have hhead := h fd.name List.mem_cons_self
    simp only [filled, hrest, hhead]

theorem names_write_sublist (fs : Fields τ) (t : τ) :
    ((fs.write t).map Prod.fst).Sublist fs.names := by
  induction fs with
  | nil => exact .slnil
  | cons fd rest ih =>
    obtain ⟨a, t⟩ := t
    rw [write, names_cons]
    split
    · exact (ih t).cons _
    · exact (ih t).cons_cons _

theorem mem_names_of_write {m : String × Json} (h : m ∈ fs.write t) : m.1 ∈ fs.names :=
  (names_write_sublist fs t).subset (List.mem_map.mpr ⟨m, h, rfl⟩)

theorem Faithful.nodup_names (h : fs.Faithful) : fs.names.Nodup := by
  induction fs with
  | nil => exact List.nodup_nil
  | cons fd rest ih => exact List.nodup_cons.mpr ⟨h.2.1, ih h.2.2⟩

/-! ### Members one after the other -/

theorem absorb_write (h : fs.FaithfulAt t) (hn : fs.names.Nodup) {key : String} {j : Json}
    (hm : (key, j) ∈ fs.write t) (hk : key ∉ seen) : fs.absorb o key (.ofJson (f.arrange j)) (fs.filled t seen) =
      .ok (fs.filled t (key :: seen)) := by
  induction fs with
  | nil => cases hm
  | cons fd rest ih =>
    obtain ⟨a, t⟩ := t
    obtain ⟨hfd, hrest⟩ := h
    obtain ⟨hname, hn⟩ := List.nodup_cons.mp hn
    rw [absorb]
    by_cases hkey : fd.name = key
    · subst hkey
      have hj : j = fd.codec.write a := by
        rw [write] at hm
        split at hm
        · exact absurd (mem_names_of_write hm) hname
        · rcases List.mem_cons.mp hm with hm | hm
          · exact congrArg Prod.snd hm
          · exact absurd (mem_names_of_write hm) hname
      have hcongr : rest.filled t (fd.name :: seen) = rest.filled t seen :=
        filled_congr fun n hn => by
          have hne : n ≠ fd.name := fun he => hname (he ▸ hn)
          simp [hne]
      simp only [filled, if_pos, if_neg hk, hj, hfd.codec f o, List.mem_cons_self, hcongr]
      rfl
    · have hm' : (key, j) ∈ rest.write t := by
        rw [write] at hm
        split at hm
        · exact hm
        · rcases List.mem_cons.mp hm with hm | hm
          · exact absurd (congrArg Prod.fst hm).symm hkey
          · exact hm
      rw [if_neg hkey]
      simp only [filled, ih hrest hn hm', List.mem_cons, hkey, false_or]
      rfl

theorem absorbAll_write (h : fs.FaithfulAt t) (hnames : fs.names.Nodup) {ms : List (String × Json)}
    (hms : ∀ m ∈ ms, m ∈ fs.write t) (hn : (ms.map Prod.fst).Nodup) (hs : ∀ m ∈ ms, m.1 ∉ seen) :
    fs.absorbAll o (f.nodes ms) (fs.filled t seen) =
      .ok (fs.filled t (ms.map Prod.fst ++ seen)) := by
  induction ms generalizing seen with
  | nil => rfl
  | cons m ms ih =>
    obtain ⟨hm, hn⟩ := List.nodup_cons.mp hn
    have hnot : ∀ q ∈ ms, q.1 ∉ m.1 :: seen := fun q hq hmem => by
      rcases List.mem_cons.mp hmem with he | hmem
      · exact hm (List.mem_map.mpr ⟨q, hq, he⟩)
      · exact hs q (List.mem_cons_of_mem _ hq) hmem
    rw [Arrangement.nodes_cons, absorbAll,
      absorb_write h hnames (hms m List.mem_cons_self) (hs m List.mem_cons_self)]
    show fs.absorbAll o _ _ = _
    rw [ih (fun q hq => hms q (List.mem_cons_of_mem _ hq)) hn hnot]
    refine congrArg Except.ok (filled_congr fun n _ => ?_)
    simp only [List.mem_append, List.mem_cons, List.map_cons]
    constructor
    · rintro (h | h | h)
      · exact .inl (.inr h)
      · exact .inl (.inl h)
      · exact .inr h
    · rintro ((h | h) | h)
      · exact .inr (.inl h)
      · exact .inl h
      · exact .inr (.inr h)

theorem finish_filled (h : fs.FaithfulAt t) (hs : ∀ m ∈ fs.write t, m.1 ∈ seen) :
    fs.finish (fs.filled t seen) = .ok t := by
  induction fs with
  | nil => rfl
  | cons fd rest ih =>
    obtain ⟨a, t⟩ := t
    obtain ⟨hfd, hrest⟩ := h
    have hslot : (if fd.name ∈ seen then some a else none).or fd.absent = some a := by
      by_cases hseen : fd.name ∈ seen
      · rw [if_pos hseen]; rfl
      · rw [if_neg hseen, Option.none_or]
        refine hfd.absent ?_
        by_contra homit
        refine hseen (hs (fd.name, fd.codec.write a) ?_)
        rw [write, if_neg homit]
        exact List.mem_cons_self
    have htail : rest.finish (rest.filled t seen) = .ok t := by
      refine ih hrest fun m hm => hs m ?_
      rw [write]
      split
      · exact hm
      · exact List.mem_cons_of_mem _ hm
    simp only [finish, filled, hslot, htail]
    rfl

/-- The members of a record may come in any order. -/
theorem read_members (h : fs.FaithfulAt t) (hnames : fs.names.Nodup) {ms : List (String × Json)}
    (hp : ms.Perm (fs.write t)) (title : String) :
    fs.read title o (.obj (f.nodes ms) .closed) = .ok t := by
  have hn : (ms.map Prod.fst).Nodup :=
    (hp.map Prod.fst).nodup_iff.mpr ((names_write_sublist fs t).nodup hnames)
  have hall := absorbAll_write (o := o) (f := f) (t := t) h hnames (fun m hm => hp.mem_iff.mp hm) hn
    (fun m _ => List.not_mem_nil)
  have hend := finish_filled (t := t) h fun m hm =>
    List.mem_append_left [] (List.mem_map.mpr ⟨m, hp.mem_iff.mpr hm, rfl⟩)
  rw [read, vacant_eq_filled fs t, hall]
  exact hend

end Fields

/-! ## Records -/

section
variable {α : Type}

theorem Fields.Faithful.read_write {τ : Type} {fs : Fields τ} (h : fs.Faithful) (f : Arrangement)
    (o : Origin) (title : String) (t : τ) :
    fs.read title o (.ofJson (f.arrange (.obj (fs.write t)))) = .ok t := by
  obtain ⟨ms, hms, hf⟩ := f.exists_nodes ((names_write_sublist fs t).nodup h.nodup_names)
  rw [hf]
  exact Fields.read_members (h.at t) h.nodup_names hms title

theorem Record.faithful {r : Record α} (h : r.fields.Faithful) (hm : ∀ a, r.make (r.parts a) = a) :
    r.codec.Faithful := fun f o a => by
  show (r.fields.read _ o (.ofJson (f.arrange (.obj (r.fields.write (r.parts a)))))).map r.make = _
  rw [h.read_write]
  exact congrArg _ (hm a)

theorem Fields.Faithful.arrange_ne {τ : Type} {fs : Fields τ} (h : fs.Faithful) (f : Arrangement)
    (t : τ) : f.arrange (.obj (fs.write t)) ≠ .null := by
  obtain ⟨ms, _, hf⟩ := f.exists_nodes ((names_write_sublist fs t).nodup h.nodup_names)
  intro he
  rw [he] at hf
  cases hf

theorem Record.arrange_ne {r : Record α} (h : r.fields.Faithful) (f : Arrangement) (a : α) :
    f.arrange (r.codec.write a) ≠ .null := h.arrange_ne f (r.parts a)

theorem Codec.faithful_single {name : String} {fd : Field α} (h : fd.Faithful) :
    (Codec.single name fd).Faithful := fun f o a => by
  have hfs : (Fields.cons fd .nil).Faithful := ⟨h, List.not_mem_nil, trivial⟩
  show ((Fields.cons fd .nil).read _ o (.ofJson (f.arrange (.obj (Fields.write _ (a, ())))))).map _ = _
  rw [hfs.read_write]
  rfl

theorem Codec.faithful_bare {name : String} : (Codec.bare name).Faithful := fun f _ _ => by
  show readUnit _ (.ofJson (f.arrange .null)) = _
  rw [f.null]
  rfl

end
end ChatBridge
