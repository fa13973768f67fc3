import ChatBridge.Proofs.Wire.Faithful

/-!
# Variants lose nothing

The tag tells which variant was written, wherever it stands among the members, and what is set aside
until then is read as that variant.
-/

namespace ChatBridge

section
variable {α β τ : Type} {tag : String}

def Variant.FaithfulUnder (tag : String) (v : Variant α) : Prop :=
  v.fields.Faithful ∧ tag ∉ v.fields.names

theorem Variant.faithful_record {type variant word : String} {fields : Fields τ} {make : τ → α}
    (h : fields.Faithful) (ht : tag ∉ fields.names) :
    (Variant.record type variant word fields make).FaithfulUnder tag := ⟨h, ht⟩

theorem Variant.faithful_holding {word : String} {r : Record β} {make : β → α}
    (h : r.fields.Faithful) (ht : tag ∉ r.fields.names) :
    (Variant.holding word r make).FaithfulUnder tag := ⟨h, ht⟩

theorem Variant.faithful_bare {word : String} {a : α} : (Variant.bare word a).FaithfulUnder tag :=
  ⟨trivial, List.not_mem_nil⟩

end

structure Tagged.Faithful {α : Type} (t : Tagged α) : Prop where
  words : t.words.Nodup
  known : ∀ a, (t.view a).1 ∈ t.variants
  fields : ∀ v ∈ t.variants, v.FaithfulUnder t.tag
  make : ∀ a, (t.view a).1.make (t.view a).2 = a

structure Tagged.FaithfulAt {α : Type} (t : Tagged α) (a : α) : Prop where
  words : t.words.Nodup
  known : (t.view a).1 ∈ t.variants
  fields : (t.view a).1.fields.FaithfulAt (t.view a).2
  names : (t.tag :: (t.view a).1.fields.names).Nodup
  make : (t.view a).1.make (t.view a).2 = a

namespace Tagged

variable {α : Type} {t : Tagged α} {o : Origin} {f : Arrangement} {ms : List (String × Json)}

theorem Faithful.at (h : t.Faithful) (a : α) : t.FaithfulAt a := by
  obtain ⟨hf, htag⟩ := h.fields _ (h.known a)
  exact ⟨h.words, h.known a, hf.at _, List.nodup_cons.mpr ⟨htag, hf.nodup_names⟩, h.make a⟩

theorem exists_place (hw : t.words.Nodup) {v : Variant α} (hv : v ∈ t.variants) :
    ∃ i : t.Place, t.readTag o (.str v.word) = .ok i ∧ t.variants.get i = v := by
  obtain ⟨k, hk, rfl⟩ := List.mem_iff_getElem.mp hv
  have hplace : t.variants.findFinIdx? (·.word == t.variants[k].word) = some ⟨k, hk⟩ := by
    rw [List.findFinIdx?_eq_some_iff]
    refine ⟨by simp, fun j hj he => ?_⟩
    have hlt : j.val < k := hj
    have hne := List.pairwise_iff_getElem.mp hw j k (by simp [words]) (by simpa [words] using hk) hlt
    simp only [words, List.getElem_map] at hne
    exact hne (by simpa using he)
  exact ⟨⟨k, hk⟩, by simp only [readTag, hplace], rfl⟩

theorem readVariant_of_eq {i : t.Place} {v : Variant α} (h : t.variants.get i = v) (content : Node) :
    t.readVariant i content = (v.fields.read v.title .setAside content).map v.make := by
  subst h
  rfl

theorem scan_other (h : ∀ m ∈ ms, m.1 ≠ t.tag) (place : Option t.Place) :
    t.scan o (f.nodes ms) place = .ok (place, f.nodes ms) := by
  induction ms with
  | nil => rfl
  | cons m ms ih =>
    have hrest := ih fun q hq => h q (List.mem_cons_of_mem _ hq)
    rw [Arrangement.nodes_cons, scan.eq_def]
    simp only [if_neg (h m List.mem_cons_self), Node.setAside_ofJson, hrest]
    rfl

theorem scan_write {word : String} {i : t.Place} (hn : (ms.map Prod.fst).Nodup)
    (hm : (t.tag, .str word) ∈ ms) (hi : t.readTag o (.str word) = .ok i) :
    t.scan o (f.nodes ms) none = .ok (some i, f.nodes (ms.filter (·.1 ≠ t.tag))) := by
  induction ms with
  | nil => cases hm
  | cons m ms ih =>
    obtain ⟨hnot, hn⟩ := List.nodup_cons.mp hn
    by_cases hkey : m.1 = t.tag
    · have hrest : ∀ q ∈ ms, q.1 ≠ t.tag := fun q hq he =>
        hnot (List.mem_map.mpr ⟨q, hq, he.trans hkey.symm⟩)
      have hhead : m = (t.tag, .str word) := by
        rcases List.mem_cons.mp hm with hm | hm
        · exact hm.symm
        · exact absurd rfl (hrest _ hm)
      have hfilter : ms.filter (·.1 ≠ t.tag) = ms :=
        List.filter_eq_self.mpr fun q hq => decide_eq_true (hrest q hq)
      subst hhead
      rw [Arrangement.nodes_cons, scan, if_pos rfl, List.filter_cons_of_neg (by simp), hfilter]
      show (do let p ← t.readTag o (.ofJson (f.arrange (.str word))); scan t o (f.nodes ms) (some p)) = _
      rw [f.str]
      show (do let p ← t.readTag o (.str word); scan t o (f.nodes ms) (some p)) = _
      rw [hi]
      exact scan_other hrest (some i)
    · have hm' : (t.tag, .str word) ∈ ms := by
        rcases List.mem_cons.mp hm with hm | hm
        · exact absurd (congrArg Prod.fst hm).symm hkey
        · exact hm
      rw [Arrangement.nodes_cons, scan, if_neg hkey, Node.setAside_ofJson, ih hn hm',
        List.filter_cons_of_pos (by simpa using hkey)]
      rfl

theorem nodup_members {a : α} (h : (t.tag :: (t.view a).1.fields.names).Nodup) :
    ((t.members a).map Prod.fst).Nodup :=
  ((Fields.names_write_sublist (t.view a).1.fields (t.view a).2).cons_cons t.tag).nodup h

/-- The members of a variant may come in any order, with the tag anywhere. -/
theorem readMembers_write {a : α} (h : t.FaithfulAt a) (hp : ms.Perm (t.members a)) :
    t.readMembers o (f.nodes ms) .closed = .ok a := by
  obtain ⟨htag, hnames⟩ := List.nodup_cons.mp h.names
  obtain ⟨i, hi, hv⟩ := exists_place (o := o) h.words h.known
  have hn : (ms.map Prod.fst).Nodup := (hp.map Prod.fst).nodup_iff.mpr (nodup_members h.names)
  have hm : (t.tag, .str (t.view a).1.word) ∈ ms := hp.mem_iff.mpr List.mem_cons_self
  have hothers : (ms.filter (·.1 ≠ t.tag)).Perm ((t.view a).1.fields.write (t.view a).2) := by
    refine (hp.filter _).trans (.of_eq ?_)
    show ((t.tag, Json.str (t.view a).1.word) :: (t.view a).1.fields.write (t.view a).2).filter _ = _
    rw [List.filter_cons_of_neg (by simp), List.filter_eq_self]
    intro m hm
    refine decide_eq_true fun he => htag ?_
    rw [← he]
    exact Fields.mem_names_of_write hm
  rw [readMembers, scan_write hn hm hi]
  show t.readVariant i (.obj (f.nodes _) .closed) = _
  rw [readVariant_of_eq hv, Fields.read_members h.fields hnames hothers]
  exact congrArg _ h.make

theorem faithfulAt_codec {a : α} (h : t.FaithfulAt a) : t.codec.FaithfulAt a := fun f o => by
  obtain ⟨ms, hms, hf⟩ := f.exists_nodes (nodup_members h.names)
  show t.read o (.ofJson (f.arrange (.obj (t.members a)))) = _
  rw [hf]
  exact readMembers_write h hms

theorem faithful_codec (h : t.Faithful) : t.codec.Faithful := fun f o a =>
  faithfulAt_codec (h.at a) f o

end Tagged

theorem Words.faithful_codec {α : Type} {w : Words α}
    (h : ∀ a, w.all.find? (w.word · == w.word a) = some a) : w.codec.Faithful := fun f o a => by
  show w.read o (.ofJson (f.arrange (.str (w.word a)))) = _
  rw [f.str]
  show w.readWord (.str (w.word a)) = _
  rw [readWord, h a]

end ChatBridge
