import ChatBridge.Proofs.Wire.Members
import ChatBridge.Proofs.Wire.RoundTrip
import Mathlib.Logic.Relation

/-!
# Members that need not be there

Writers that know more than a reader send members that the reader does not know, and writers that
know less leave some out. Neither changes what is read: an object that is read as a record or as a
variant may have members of any other name, and may lack those that stand for what their absence
stands for. `Codec.Loosens` is one such change, anywhere in a value.
-/

namespace ChatBridge

/-! ## Where a part of a value is read -/

namespace Fields

inductive Finds : {τ α : Type} → Fields τ → Field α → Prop
  | here {α β : Type} (fd : Field α) (rest : Fields β) : Finds (.cons fd rest) fd
  | there {α β γ : Type} {other : Field α} {rest : Fields β} {fd : Field γ}
      (hne : fd.name ≠ other.name) (h : Finds rest fd) : Finds (.cons other rest) fd

inductive FindsAt : {τ α : Type} → Fields τ → Nat → Field α → Prop
  | here {α β : Type} (fd : Field α) (rest : Fields β) : FindsAt (.cons fd rest) 0 fd
  | there {α β γ : Type} {other : Field α} {rest : Fields β} {i : Nat} {fd : Field γ}
      (h : FindsAt rest i fd) : FindsAt (.cons other rest) (i + 1) fd

end Fields

namespace Codec

/-- The members of an object are read as these fields, and as if they came from `o'`. Besides, the
codec looks for members of the names `others`. -/
inductive ReadsAs : {α τ : Type} → Codec α → Origin → List (String × Json) → Fields τ → Origin →
    List String → Prop
  | record {α : Type} (r : Record α) (o : Origin) (ms : List (String × Json)) :
      ReadsAs r.codec o ms r.fields o []
  | single {α : Type} (name : String) (fd : Field α) (o : Origin) (ms : List (String × Json)) :
      ReadsAs (single name fd) o ms (.cons fd .nil) o []
  | variant {α : Type} (t : Tagged α) {o : Origin} {ms : List (String × Json)} {tag : Json}
      {i : t.Place} (htag : (t.tag, tag) ∈ ms) (hi : t.readTag o (.ofJson tag) = .ok i)
      (hne : t.tag ∉ (t.variants.get i).fields.names) :
      ReadsAs t.codec o ms (t.variants.get i).fields .setAside [t.tag]
  | summary {o : Origin} {ms : List (String × Json)} {tag : Json} {i : ChatKind.tagged.Place}
      (htag : (ChatKind.tagged.tag, tag) ∈ ms)
      (hi : ChatKind.tagged.readTag .setAside (.ofJson tag) = .ok i) :
      ReadsAs (Wire.codec : Codec ChatSummary) o ms ChatSummary.ownFields o
        (ChatKind.tagged.tag :: (ChatKind.tagged.variants.get i).fields.names)
  | kindOfSummary {o : Origin} {ms : List (String × Json)} {tag : Json} {i : ChatKind.tagged.Place}
      (htag : (ChatKind.tagged.tag, tag) ∈ ms)
      (hi : ChatKind.tagged.readTag .setAside (.ofJson tag) = .ok i) :
      ReadsAs (Wire.codec : Codec ChatSummary) o ms (ChatKind.tagged.variants.get i).fields .setAside
        (ChatKind.tagged.tag :: ChatSummary.ownFields.names)
  | avatar (o : Origin) (ms : List (String × Json)) :
      ReadsAs (Wire.codec : Codec AvatarUpdate) o ms .nil o AvatarUpdate.names

inductive ReadsItemsAs : {α τ : Type} → Codec α → Origin → List Json → Fields τ → Origin → Prop
  | record {α : Type} (r : Record α) (o : Origin) : ReadsItemsAs r.codec o [] r.fields o
  | single {α : Type} (name : String) (fd : Field α) (o : Origin) :
      ReadsItemsAs (single name fd) o [] (.cons fd .nil) o
  | variant {α : Type} (t : Tagged α) {o : Origin} {tag : Json} {i : t.Place}
      (hi : t.readTag o (.ofJson tag) = .ok i) :
      ReadsItemsAs t.codec o [tag] (t.variants.get i).fields .setAside

/-- One change that a reader need not notice: a member that it does not know is added, or one is
left out whose value is that of an absent member, in some object that is read as a record or as a
variant. Objects that are read as something else stay as they are. There is no case for sets, since
those that travel hold plain values only. -/
inductive Loosens : {α : Type} → Codec α → Origin → Json → Json → Prop
  | add {α τ : Type} {c : Codec α} {o o' : Origin} {fs : Fields τ} {others : List String}
      {before after : List (String × Json)} (key : String) (j : Json)
      (h : c.ReadsAs o (before ++ after) fs o' others) (hfs : key ∉ fs.names)
      (hothers : key ∉ others) :
      Loosens c o (.obj (before ++ after)) (.obj (before ++ (key, j) :: after))
  | drop {α β τ : Type} {c : Codec α} {o o' : Origin} {fs : Fields τ} {others : List String}
      {before after : List (String × Json)} {fd : Field β} {j : Json} {b : β}
      (h : c.ReadsAs o (before ++ (fd.name, j) :: after) fs o' others) (hfd : fs.Finds fd)
      (hj : fd.codec.read o' (.ofJson j) = .ok b) (hb : fd.absent = some b) :
      Loosens c o (.obj (before ++ (fd.name, j) :: after)) (.obj (before ++ after))
  | member {α β τ : Type} {c : Codec α} {o o' : Origin} {fs : Fields τ} {others : List String}
      {before after : List (String × Json)} {fd : Field β} {j j' : Json}
      (h : c.ReadsAs o (before ++ (fd.name, j) :: after) fs o' others) (hfd : fs.Finds fd)
      (hj : Loosens fd.codec o' j j') :
      Loosens c o (.obj (before ++ (fd.name, j) :: after)) (.obj (before ++ (fd.name, j') :: after))
  | item {α β τ : Type} {c : Codec α} {o o' : Origin} {fs : Fields τ}
      {lead before after : List Json} {fd : Field β} {j j' : Json}
      (h : c.ReadsItemsAs o lead fs o') (hfd : fs.FindsAt before.length fd)
      (hj : Loosens fd.codec o' j j') :
      Loosens c o (.arr (lead ++ (before ++ j :: after))) (.arr (lead ++ (before ++ j' :: after)))
  | some {α : Type} [Wire α] {o : Origin} {j j' : Json}
      (hj : Loosens (Wire.codec : Codec α) o j j') : Loosens (Wire.codec : Codec (Option α)) o j j'
  | element {α : Type} [Wire α] {o : Origin} {before after : List Json} {j j' : Json}
      (hj : Loosens (Wire.codec : Codec α) o j j') :
      Loosens (Wire.codec : Codec (List α)) o (.arr (before ++ j :: after))
        (.arr (before ++ j' :: after))
  | entry {α : Type} [Wire α] {o : Origin} {before after : List (String × Json)} {key : String}
      {j j' : Json} (hj : Loosens (Wire.codec : Codec α) o j j') :
      Loosens (Wire.codec : Codec (KeyMap String α)) o (.obj (before ++ (key, j) :: after))
        (.obj (before ++ (key, j') :: after))

abbrev Loosened {α : Type} (c : Codec α) (o : Origin) : Json → Json → Prop :=
  Relation.ReflTransGen (c.Loosens o)

end Codec

/-! ## Fields -/

section
variable {α β τ : Type} {fd : Field β} {fs : Fields τ} {o : Origin} {js ks : List Json} {j j' : Json}
  {b : β} {t : τ} {values values' : String → List Json}

theorem Field.Takes.of_mem (h : fd.Takes o js b) (hj : j ∈ js) :
    js = [j] ∧ fd.codec.read o (.ofJson j) = .ok b := by
  match js with
  | [] => cases hj
  | [i] =>
    cases List.mem_singleton.mp hj
    exact ⟨rfl, h⟩
  | _ :: _ :: _ => cases h

theorem Field.Takes.of_split (h : fd.Takes o (js ++ j :: ks) b) :
    js = [] ∧ ks = [] ∧ fd.codec.read o (.ofJson j) = .ok b := by
  obtain ⟨hone, hread⟩ := h.of_mem (List.mem_append_right js List.mem_cons_self)
  have hlength := congrArg List.length hone
  simp only [List.length_append, List.length_cons, List.length_nil] at hlength
  refine ⟨List.eq_nil_of_length_eq_zero ?_, List.eq_nil_of_length_eq_zero ?_, hread⟩
  · omega
  · omega

theorem Fields.Finds.mem_names (h : fs.Finds fd) : fd.name ∈ fs.names := by
  induction h with
  | here fd rest => exact List.mem_cons_self
  | there _ _ ih => exact List.mem_cons_of_mem _ ih

theorem Fields.Takes.of_finds (h : fs.Takes o values t) (hfd : fs.Finds fd)
    (hothers : ∀ k, k ≠ fd.name → values' k = values k)
    (htakes : ∀ b, fd.Takes o (values fd.name) b → fd.Takes o (values' fd.name) b) :
    fs.Takes o values' t := by
  induction hfd generalizing values values' with
  | here fd rest =>
    obtain ⟨hhead, hrest⟩ := h
    refine ⟨htakes _ hhead, (Fields.takes_congr fun k _ => ?_).mpr hrest⟩
    by_cases hk : k = fd.name
    · simp [hk]
    · simp [hk, hothers k hk]
  | @there _ _ _ other rest fd hne _ ih =>
    obtain ⟨hhead, hrest⟩ := h
    refine ⟨?_, ih hrest (fun k hk => ?_) fun b hb => ?_⟩
    · rw [hothers other.name (Ne.symm hne)]
      exact hhead
    · by_cases hother : k = other.name
      · simp [hother]
      · simp [hother, hothers k hk]
    · rw [Function.update_of_ne hne] at hb ⊢
      exact htakes b hb

end

/-! ## Objects -/

namespace Codec.ReadsAs

variable {α τ : Type} {c : Codec α} {o o' : Origin} {fs : Fields τ} {others : List String}
  {ms ms' : List (String × Json)} {v : α}

theorem not_mem_others (h : c.ReadsAs o ms fs o' others) : ∀ k ∈ fs.names, k ∉ others := by
  cases h with
  | record r => simp
  | single name fd => simp
  | variant t htag hi hne =>
    intro k hk hmem
    cases List.mem_singleton.mp hmem
    exact hne hk
  | @summary _ _ _ i htag hi =>
    intro k hk hmem
    exact ChatSummary.not_own_of_kind i k hmem hk
  | @kindOfSummary _ _ _ i htag hi =>
    intro k hk hmem
    rcases List.mem_cons.mp hmem with rfl | hown
    · exact (ChatKind.faithful.fields _ (List.get_mem _ i)).2 hk
    · exact ChatSummary.not_own_of_kind i k (List.mem_cons_of_mem _ hk) hown
  | avatar => simp

theorem readTag_of_mem {t : Tagged α} {tag : Json} {i j : t.Place} (htag : (t.tag, tag) ∈ ms)
    (hi : t.readTag o (.ofJson tag) = .ok i) (hj : t.tagField.Takes o (named ms t.tag) j) :
    j = i := by
  have hread : t.readTag o (.ofJson tag) = .ok j := (hj.of_mem (mem_named.mpr htag)).2
  rw [hi] at hread
  exact (Except.ok.inj hread).symm

/-- Reading an object depends on the members for its fields, which the fields have to take, and on
the others that the codec looks for. -/
theorem read_of_takes (h : c.ReadsAs o ms fs o' others)
    (hsame : ms'.filter (fun m => others.contains m.1) = ms.filter fun m => others.contains m.1)
    (htakes : ∀ t, fs.Takes o' (named ms) t → fs.Takes o' (named ms') t)
    (hv : c.read o (.ofJson (.obj ms)) = .ok v) : c.read o (.ofJson (.obj ms')) = .ok v := by
  have hnamed (k : String) (hk : k ∈ others) : named ms' k = named ms k := by
    have hfilter (ns : List (String × Json)) :
        named (ns.filter fun m => others.contains m.1) k = named ns k := by
      rw [named_filter, if_pos (List.contains_iff_mem.mpr hk)]
    rw [← hfilter ms', hsame, hfilter ms]
  cases h with
  | record r =>
    obtain ⟨t, ht, rfl⟩ := map_eq_ok.mp hv
    exact map_eq_ok.mpr ⟨t, Fields.read_obj.mpr (htakes t (Fields.read_obj.mp ht)), rfl⟩
  | single name fd =>
    obtain ⟨t, ht, rfl⟩ := map_eq_ok.mp hv
    exact map_eq_ok.mpr ⟨t, Fields.read_obj.mpr (htakes t (Fields.read_obj.mp ht)), rfl⟩
  | @variant _ t _ _ tag i htag hi hne =>
    have hupdate (ns : List (String × Json)) (parts : (t.variants.get i).Parts) :
        (t.variants.get i).fields.Takes .setAside (Function.update (named ns) t.tag []) parts ↔
          (t.variants.get i).fields.Takes .setAside (named ns) parts := by
      apply Fields.takes_congr
      intro k hk
      have hk : k ≠ t.tag := by
        rintro rfl
        exact hne hk
      exact Function.update_of_ne hk _ _
    obtain ⟨j, parts, hj, hparts, hmake⟩ := Tagged.readMembers_iff.mp hv
    -- there is one member under the tag, so it names the variant that the object was said to be
    obtain rfl := readTag_of_mem htag hi hj
    refine Tagged.readMembers_iff.mpr ⟨j, parts, ?_, ?_, hmake⟩
    · rw [hnamed t.tag (List.mem_singleton.mpr rfl)]
      exact hj
    · exact (hupdate ms' parts).mpr (htakes parts ((hupdate ms parts).mp hparts))
  | @summary _ _ tag i htag hi =>
    obtain ⟨own, j, parts, hown, hj, hparts, hmake⟩ := ChatSummary.read_obj.mp hv
    obtain rfl := readTag_of_mem htag hi hj
    refine ChatSummary.read_obj.mpr ⟨own, j, parts, htakes own hown, ?_, ?_, hmake⟩
    · rw [hnamed _ List.mem_cons_self]
      exact hj
    · exact (Fields.takes_congr fun k hk => hnamed k (List.mem_cons_of_mem _ hk)).mpr hparts
  | @kindOfSummary _ _ tag i htag hi =>
    obtain ⟨own, j, parts, hown, hj, hparts, hmake⟩ := ChatSummary.read_obj.mp hv
    obtain rfl := readTag_of_mem htag hi hj
    refine ChatSummary.read_obj.mpr ⟨own, j, parts, ?_, ?_, htakes parts hparts, hmake⟩
    · exact (Fields.takes_congr fun k hk => hnamed k (List.mem_cons_of_mem _ hk)).mpr hown
    · rw [hnamed _ List.mem_cons_self]
      exact hj
  | avatar =>
    show AvatarUpdate.read o (.ofJson (.obj ms')) = .ok v
    rw [← AvatarUpdate.read_obj, hsame, AvatarUpdate.read_obj]
    exact hv

section
variable {β : Type} {before after : List (String × Json)} {fd : Field β} {j j' : Json}

theorem filter_others {key : String} (hkey : key ∉ others) :
    (before ++ (key, j) :: after).filter (fun m => others.contains m.1) =
      (before ++ after).filter fun m => others.contains m.1 := by
  rw [List.filter_append, List.filter_cons_of_neg (by simpa using hkey), List.filter_append]

theorem read_of_add {key : String} (h : c.ReadsAs o (before ++ after) fs o' others)
    (hfs : key ∉ fs.names) (hothers : key ∉ others)
    (hv : c.read o (.ofJson (.obj (before ++ after))) = .ok v) :
    c.read o (.ofJson (.obj (before ++ (key, j) :: after))) = .ok v := by
  refine h.read_of_takes (filter_others hothers) (fun t ht => ?_) hv
  refine (Fields.takes_congr fun k hk => ?_).mpr ht
  have hne : key ≠ k := by
    rintro rfl
    exact hfs hk
  rw [named_append, named_append, named_cons_of_ne hne]

variable (h : c.ReadsAs o (before ++ (fd.name, j) :: after) fs o' others) (hfd : fs.Finds fd)
include h hfd

theorem read_of_drop {b : β} (hj : fd.codec.read o' (.ofJson j) = .ok b) (hb : fd.absent = some b)
    (hv : c.read o (.ofJson (.obj (before ++ (fd.name, j) :: after))) = .ok v) :
    c.read o (.ofJson (.obj (before ++ after))) = .ok v := by
  have hothers : fd.name ∉ others := h.not_mem_others _ hfd.mem_names
  refine h.read_of_takes (filter_others hothers).symm (fun t ht => ?_) hv
  refine ht.of_finds hfd (fun k hk => ?_) fun a ha => ?_
  · rw [named_append, named_append, named_cons_of_ne (Ne.symm hk)]
  · rw [named_append, named_cons_self] at ha
    obtain ⟨hbefore, hafter, hread⟩ := ha.of_split
    rw [hj] at hread
    rw [named_append, hbefore, hafter, ← Except.ok.inj hread]
    exact hb

theorem read_of_member
    (hread : ∀ b, fd.codec.read o' (.ofJson j) = .ok b → fd.codec.read o' (.ofJson j') = .ok b)
    (hv : c.read o (.ofJson (.obj (before ++ (fd.name, j) :: after))) = .ok v) :
    c.read o (.ofJson (.obj (before ++ (fd.name, j') :: after))) = .ok v := by
  have hothers : fd.name ∉ others := h.not_mem_others _ hfd.mem_names
  refine h.read_of_takes ((filter_others hothers).trans (filter_others hothers).symm)
    (fun t ht => ?_) hv
  refine ht.of_finds hfd (fun k hk => ?_) fun a ha => ?_
  · rw [named_append, named_append, named_cons_of_ne (Ne.symm hk), named_cons_of_ne (Ne.symm hk)]
  · rw [named_append, named_cons_self] at ha ⊢
    obtain ⟨hbefore, hafter, ha⟩ := ha.of_split
    rw [hbefore, hafter]
    exact hread a ha

end
end Codec.ReadsAs

/-! ## Arrays -/

theorem Node.ofItems_eq_map (js : List Json) : ofItems js = js.map ofJson := by
  induction js with
  | nil => rfl
  | cons j js ih => rw [ofItems, ih, List.map_cons]

section
variable {α β τ : Type} {fs : Fields τ} {fd : Field β} {o : Origin} {before after : List Json}
  {j j' : Json}

theorem Fields.readItems_of_findsAt {title : String} {index i : Nat} {r : τ × List Node}
    (hfd : fs.FindsAt i fd) (hi : before.length = i)
    (hread : ∀ b, fd.codec.read o (.ofJson j) = .ok b → fd.codec.read o (.ofJson j') = .ok b)
    (h : fs.readItems o title .closed index (Node.ofItems (before ++ j :: after)) = .ok r) :
    fs.readItems o title .closed index (Node.ofItems (before ++ j' :: after)) = .ok r := by
  induction hfd generalizing before index with
  | here fd rest =>
    cases List.eq_nil_of_length_eq_zero hi
    obtain ⟨b, hb, hrest⟩ := bind_eq_ok.mp h
    exact bind_eq_ok.mpr ⟨b, hread b hb, hrest⟩
  | there hfd ih =>
    cases before with
    | nil => cases hi
    | cons first before =>
      obtain ⟨a, ha, h⟩ := bind_eq_ok.mp h
      obtain ⟨⟨t, left⟩, ht, hend⟩ := bind_eq_ok.mp h
      refine bind_eq_ok.mpr ⟨a, ha, bind_eq_ok.mpr ⟨(t, left), ?_, hend⟩⟩
      exact ih (Nat.succ.inj hi) hread ht

theorem Fields.read_of_findsAt {title : String} {t : τ} (hfd : fs.FindsAt before.length fd)
    (hread : ∀ b, fd.codec.read o (.ofJson j) = .ok b → fd.codec.read o (.ofJson j') = .ok b)
    (h : fs.read title o (.ofJson (.arr (before ++ j :: after))) = .ok t) :
    fs.read title o (.ofJson (.arr (before ++ j' :: after))) = .ok t := by
  have hlength : (Node.ofItems (before ++ j' :: after)).length =
      (Node.ofItems (before ++ j :: after)).length := by
    simp [Node.ofItems_eq_map]
  obtain ⟨⟨t, left⟩, ht, h⟩ := bind_eq_ok.mp h
  refine bind_eq_ok.mpr ⟨(t, left), readItems_of_findsAt hfd rfl hread ht, ?_⟩
  rw [hlength]
  exact h

theorem Codec.ReadsItemsAs.read_of_item {c : Codec α} {o' : Origin} {lead : List Json} {v : α}
    (h : c.ReadsItemsAs o lead fs o') (hfd : fs.FindsAt before.length fd)
    (hread : ∀ b, fd.codec.read o' (.ofJson j) = .ok b → fd.codec.read o' (.ofJson j') = .ok b)
    (hv : c.read o (.ofJson (.arr (lead ++ (before ++ j :: after)))) = .ok v) :
    c.read o (.ofJson (.arr (lead ++ (before ++ j' :: after)))) = .ok v := by
  cases h with
  | record r =>
    obtain ⟨t, ht, rfl⟩ := map_eq_ok.mp hv
    exact map_eq_ok.mpr ⟨t, Fields.read_of_findsAt hfd hread ht, rfl⟩
  | single name fd =>
    obtain ⟨t, ht, rfl⟩ := map_eq_ok.mp hv
    exact map_eq_ok.mpr ⟨t, Fields.read_of_findsAt hfd hread ht, rfl⟩
  | @variant t _ tag i hi =>
    have hset (items : List Json) : (Node.arr (Node.ofItems items) .closed).setAside = .ok () :=
      Node.setAside_ofJson (.arr items)
    obtain ⟨k, hk, h⟩ := bind_eq_ok.mp hv
    rw [hi] at hk
    cases hk
    obtain ⟨_, _, h⟩ := bind_eq_ok.mp h
    obtain ⟨parts, hparts, rfl⟩ := map_eq_ok.mp h
    refine bind_eq_ok.mpr ⟨i, hi, bind_eq_ok.mpr ⟨(), hset _, map_eq_ok.mpr ⟨parts, ?_, rfl⟩⟩⟩
    exact Fields.read_of_findsAt hfd hread hparts

end

section
variable {α : Type} [Wire α] {o : Origin} {j j' : Json}
  (hread : ∀ a : α, Wire.read o (.ofJson j) = .ok a → Wire.read o (.ofJson j') = .ok a)
include hread

theorem readAll_of_element {before after : List Json} {as : List α}
    (h : readAll o .closed (Node.ofItems (before ++ j :: after)) = .ok as) :
    readAll o .closed (Node.ofItems (before ++ j' :: after)) = .ok as := by
  induction before generalizing as with
  | nil =>
    obtain ⟨a, ha, hrest⟩ := bind_eq_ok.mp h
    exact bind_eq_ok.mpr ⟨a, hread a ha, hrest⟩
  | cons first before ih =>
    obtain ⟨a, ha, h⟩ := bind_eq_ok.mp h
    obtain ⟨rest, hrest, hend⟩ := bind_eq_ok.mp h
    exact bind_eq_ok.mpr ⟨a, ha, bind_eq_ok.mpr ⟨rest, ih hrest, hend⟩⟩

theorem readEntries_of_entry {key : String} {before after : List (String × Json)}
    {es : List (String × α)}
    (h : readEntries o .closed (Node.ofMembers (before ++ (key, j) :: after)) = .ok es) :
    readEntries o .closed (Node.ofMembers (before ++ (key, j') :: after)) = .ok es := by
  induction before generalizing es with
  | nil =>
    obtain ⟨a, ha, hrest⟩ := bind_eq_ok.mp h
    exact bind_eq_ok.mpr ⟨a, hread a ha, hrest⟩
  | cons first before ih =>
    obtain ⟨a, ha, h⟩ := bind_eq_ok.mp h
    obtain ⟨rest, hrest, hend⟩ := bind_eq_ok.mp h
    exact bind_eq_ok.mpr ⟨a, ha, bind_eq_ok.mpr ⟨rest, ih hrest, hend⟩⟩

end

/-! ## Whole values -/

namespace Codec

variable {α : Type} {c : Codec α} {o : Origin} {j j' : Json} {v : α}

theorem Loosens.ne_null (h : c.Loosens o j j') : j ≠ .null ∧ j' ≠ .null := by
  induction h with
  | some hj ih => exact ih
  | _ => exact ⟨nofun, nofun⟩

theorem Loosens.read (h : c.Loosens o j j') (hv : c.read o (.ofJson j) = .ok v) :
    c.read o (.ofJson j') = .ok v := by
  -- the induction is on where the change is: around it only what the part is read as matters
  induction h with
  | add key j hc hfs hothers => exact hc.read_of_add hfs hothers hv
  | drop hc hfd hj hb => exact hc.read_of_drop hfd hj hb hv
  | member hc hfd hj ih => exact hc.read_of_member hfd (fun b hb => ih hb) hv
  | item hc hfd hj ih => exact hc.read_of_item hfd (fun b hb => ih hb) hv
  | some hj ih =>
    obtain ⟨hne, hne'⟩ := hj.ne_null
    change readOption _ _ = _ at hv
    rw [readOption_of_ne hne] at hv
    obtain ⟨a, ha, rfl⟩ := map_eq_ok.mp hv
    show readOption _ _ = _
    rw [readOption_of_ne hne']
    exact map_eq_ok.mpr ⟨a, ih ha, rfl⟩
  | element hj ih => exact readAll_of_element (fun a ha => ih ha) hv
  | entry hj ih =>
    obtain ⟨es, hes, rfl⟩ := map_eq_ok.mp hv
    exact map_eq_ok.mpr ⟨es, readEntries_of_entry (fun a ha => ih ha) hes, rfl⟩

theorem Loosened.read (h : c.Loosened o j j') (hv : c.read o (.ofJson j) = .ok v) :
    c.read o (.ofJson j') = .ok v := by
  induction h with
  | refl => exact hv
  | tail _ hlast ih => exact hlast.read ih

theorem ofValue_of_inOrder (h : j.InOrder) : c.ofValue j = c.read .value (.ofJson j) := by
  rw [ofValue, show j.ordered = j from h.ordered_arrange .asWritten]

theorem ofText_of_plain {k : Nat} (h : j.Plain k) (hk : k < JsonText.depthLimit) :
    c.ofText j.compact = c.read .text (.ofJson j) := by
  rw [ofText, Node.ofText_compact h hk]
  show (do let a ← c.read .text (.ofJson j); if true then return a else _) = _
  cases c.read .text (.ofJson j) with
  | ok a => rfl
  | error e => rfl

end Codec

/-! ## Main statement -/

namespace WireType

/-- A value of any type that travels is read as before when members that the reader does not know are
added to it, and members left out that say what their absence says, in any of the objects that it
reads as records or variants. This holds for what is set aside, for values in memory, which have the
members of their objects in key order, and for texts, which may have them in any. -/
theorem read_loosened (t : WireType) {j j' : Json} {v : t.Value} :
    (∀ o, t.codec.Loosened o j j' →
      t.codec.read o (.ofJson j) = .ok v → t.codec.read o (.ofJson j') = .ok v) ∧
    (t.codec.Loosened .value j j' → j.InOrder → j'.InOrder →
      t.codec.ofValue j = .ok v → t.codec.ofValue j' = .ok v) ∧
    (t.codec.Loosened .text j j' → ∀ k < JsonText.depthLimit, j.Plain k → j'.Plain k →
      t.codec.ofText j.compact = .ok v → t.codec.ofText j'.compact = .ok v) := by
  refine ⟨fun o h => h.read, fun h hj hj' hv => ?_, fun h k hk hj hj' hv => ?_⟩
  · rw [Codec.ofValue_of_inOrder hj] at hv
    rw [Codec.ofValue_of_inOrder hj']
    exact h.read hv
  · rw [Codec.ofText_of_plain hj hk] at hv
    rw [Codec.ofText_of_plain hj' hk]
    exact h.read hv

/-- A chat without a latest message says so no longer and gets a member that nobody knows, and the
update around it loses a list without items. -/
theorem read_loosened_of_updated_chat :
    ∃ (first last : List (String × Json)) (v : UpdatedChat),
      first.map Prod.fst = ["chatId", "dateCreated", "kind"] ∧ last.map Prod.fst = ["them"] ∧
      updatedChat.codec.ofValue (.obj [("affectedEvents", .arr []),
        ("summary", .obj (first ++ ("latestMessage", .null) :: last))]) = .ok v ∧
      updatedChat.codec.ofValue (.obj [
        ("summary", .obj (first ++ ("news", .arr [.null]) :: last))]) = .ok v ∧
      v.summary.latestMessage = none ∧ v.summary.kind = .direct "u" ∧ v.affectedEvents = [] := by
  let first : List (String × Json) := [("chatId", .str "c"), ("dateCreated", .num (.natural 7)),
    ("kind", .str "direct")]
  let last : List (String × Json) := [("them", .str "u")]
  let chat : Json := .obj (first ++ ("latestMessage", .null) :: last)
  let bare : Json := .obj (first ++ last)
  let chat' : Json := .obj (first ++ ("news", .arr [.null]) :: last)
  have hdirect : ChatKind.tagged.readTag .setAside (.ofJson (.str "direct")) = .ok ⟨0, by decide⟩ := rfl
  have hkind : (ChatKind.tagged.tag, Json.str "direct") ∈ first := by simp [first, ChatKind.tagged]
  have hlatest : ChatSummary.ownFields.Finds
      (.defaulted "latestMessage" (none : Option MessageSummary)) := .there (by decide) (.here _ _)
  have hsummary : UpdatedChat.record.fields.Finds (.required "summary" : Field ChatSummary) :=
    .here _ _
  have hevents : UpdatedChat.record.fields.Finds (.defaulted "affectedEvents" ([] : List UInt32)) :=
    .there (by decide) (.here _ _)
  have hdrop : (Wire.codec : Codec ChatSummary).Loosens .value chat bare :=
    .drop (.summary (List.mem_append_left _ hkind) hdirect) hlatest rfl rfl
  have hadd : (Wire.codec : Codec ChatSummary).Loosens .value bare chat' :=
    .add "news" (.arr [.null]) (.summary (List.mem_append_left _ hkind) hdirect) (by decide) (by decide)
  have hinner {j j' : Json} (h : (Wire.codec : Codec ChatSummary).Loosens .value j j') :
      updatedChat.codec.Loosens .value
        (.obj ([("affectedEvents", .arr [])] ++ ("summary", j) :: []))
        (.obj ([("affectedEvents", .arr [])] ++ ("summary", j') :: [])) :=
    .member (.record UpdatedChat.record ..) hsummary h
  have hlist : updatedChat.codec.Loosens .value
      (.obj ([] ++ ("affectedEvents", .arr []) :: [("summary", chat')]))
      (.obj ([] ++ [("summary", chat')])) :=
    .drop (.record UpdatedChat.record ..) hevents rfl rfl
  have hall : updatedChat.codec.Loosened .value
      (.obj [("affectedEvents", .arr []), ("summary", chat)]) (.obj [("summary", chat')]) :=
    ((Relation.ReflTransGen.single (hinner hdrop)).tail (hinner hadd)).tail hlist
  have hfirst : ∀ m ∈ first, m.2.InOrder := by
    simp only [first, List.forall_mem_cons]
    exact ⟨.str _, .num _, .str _, List.forall_mem_nil _⟩
  have hlast : ∀ m ∈ last, m.2.InOrder := by
    simp only [last, List.forall_mem_cons]
    exact ⟨.str _, List.forall_mem_nil _⟩
  have horder {key : String} {j : Json} (hr : Entries.Rising (first ++ (key, j) :: last))
      (hj : j.InOrder) : (Json.obj (first ++ (key, j) :: last)).InOrder := by
    refine .obj hr fun m hm => ?_
    rcases List.mem_append.mp hm with hm | hm
    · exact hfirst m hm
    · rcases List.mem_cons.mp hm with rfl | hm
      · exact hj
      · exact hlast m hm
  have hchat : chat.InOrder := horder (by unfold Entries.Rising; decide) .null
  have hchat' : chat'.InOrder := horder (by unfold Entries.Rising; decide) (.arr (by simp [Json.InOrder.null]))
  have hinput : (Json.obj [("affectedEvents", .arr []), ("summary", chat)]).InOrder := by
    refine .obj (by unfold Entries.Rising; decide) ?_
    simp only [List.forall_mem_cons]
    exact ⟨.arr (List.forall_mem_nil _), hchat, List.forall_mem_nil _⟩
  have houtput : (Json.obj [("summary", chat')]).InOrder := by
    refine .obj (List.pairwise_singleton _ _) ?_
    simp only [List.forall_mem_cons]
    exact ⟨hchat', List.forall_mem_nil _⟩
  have hread : updatedChat.codec.ofValue (.obj [("affectedEvents", .arr []), ("summary", chat)]) =
      .ok ⟨ChatSummary.ofOwn (.direct "u") ("c", none, 0, 7, none, [], false, false, 0, ()), []⟩ := by
    rw [Codec.ofValue_of_inOrder hinput]
    rfl
  exact ⟨first, last, _, rfl, rfl, hread,
    (read_loosened updatedChat).2.1 hall hinput houtput hread, rfl, rfl, rfl⟩

end WireType
end ChatBridge
