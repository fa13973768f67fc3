import ChatBridge.Proofs.Snapshot.Wire
import ChatBridge.Proofs.Envelope.Wire

/-!
# Objects by their members

A record read from an object depends on the values that stand under the names of its fields, and on
nothing else: not on the order of the members, nor on members of other names. The same goes for the
variant that a tag names and for a chat summary, whose members are shared out between the summary and
its kind.
-/

namespace ChatBridge

section
variable {α β : Type} {x : Reading α} {b : β}

theorem bind_eq_ok {f : α → Reading β} :
    (x >>= f) = .ok b ↔ ∃ a, x = .ok a ∧ f a = .ok b := by
  cases x with
  | error e => simp [bind, Except.bind]
  | ok a => simp [bind, Except.bind]

theorem map_eq_ok {f : α → β} : x.map f = .ok b ↔ ∃ a, x = .ok a ∧ f a = b := by
  cases x with
  | error e => simp [Except.map]
  | ok a => simp [Except.map]

theorem pure_eq_ok {a : β} : (pure a : Reading β) = .ok b ↔ a = b := by
  simp [pure, Except.pure]

end

def named (ms : List (String × Json)) (key : String) : List Json :=
  (ms.filter (·.1 = key)).map Prod.snd

section
variable {ms : List (String × Json)} {key : String} {j : Json}

@[simp] theorem named_nil : named [] key = [] := rfl

theorem named_cons_self : named ((key, j) :: ms) key = j :: named ms key := by
  simp [named]

theorem named_cons_of_ne {k : String} (h : k ≠ key) : named ((k, j) :: ms) key = named ms key := by
  simp [named, h]

@[simp] theorem named_append {ns : List (String × Json)} :
    named (ms ++ ns) key = named ms key ++ named ns key := by
  simp [named]

theorem mem_named : j ∈ named ms key ↔ (key, j) ∈ ms := by
  simp [named]

theorem named_filter (p : String → Bool) :
    named (ms.filter fun m => p m.1) key = if p key then named ms key else [] := by
  unfold named
  rw [List.filter_filter]
  by_cases hp : p key
  · rw [if_pos hp]
    congr 1
    apply List.filter_congr
    intro m _
    by_cases hm : m.1 = key
    · simp [hm, hp]
    · simp [hm]
  · rw [if_neg hp, List.map_eq_nil_iff, List.filter_eq_nil_iff]
    intro m _
    by_cases hm : m.1 = key
    · simp [hm, hp]
    · simp [hm]

theorem named_filter_ne : named (ms.filter (·.1 ≠ key)) = Function.update (named ms) key [] := by
  funext k
  rw [named_filter fun k => decide (k ≠ key)]
  by_cases hk : k = key
  · simp [hk]
  · simp [hk]

end

theorem Node.skip_ofJson (j : Json) : (Node.ofJson j).skip = .ok () := by
  rw [skip, skipBreak_ofJson]
  rfl

/-! ## Records -/

def Field.Takes {α : Type} (fd : Field α) (o : Origin) : List Json → α → Prop
  | [], a => fd.absent = some a
  | [j], a => fd.codec.read o (.ofJson j) = .ok a
  | _, _ => False

/-- What a slot holds after the values have been read into it. -/
def Field.Fills {α : Type} (fd : Field α) (o : Origin) (slot : Option α) :
    List Json → Option α → Prop
  | [], filled => filled = slot
  | j :: js, filled => slot = none ∧ js = [] ∧ ∃ a, fd.codec.read o (.ofJson j) = .ok a ∧ filled = some a

theorem Field.fills_none_iff {α : Type} {fd : Field α} {o : Origin} {js : List Json} {a : α} :
    (∃ slot, fd.Fills o none js slot ∧ slot.or fd.absent = some a) ↔ fd.Takes o js a := by
  match js with
  | [] => simp [Fills, Takes]
  | [j] =>
    constructor
    · rintro ⟨_, ⟨_, _, b, hb, rfl⟩, ha⟩
      rw [show b = a from Option.some.inj ha] at hb
      exact hb
    · intro h
      exact ⟨some a, ⟨rfl, rfl, a, h, rfl⟩, rfl⟩
  | _ :: _ :: _ => simp [Fills, Takes]

namespace Fields

def Takes : {τ : Type} → Fields τ → Origin → (String → List Json) → τ → Prop
  | _, .nil, _, _, _ => True
  | _, .cons fd rest, o, values, (a, t) =>
    fd.Takes o (values fd.name) a ∧ rest.Takes o (Function.update values fd.name []) t

variable {α β τ : Type} {o : Origin} {values values' : String → List Json}

theorem takes_congr {fs : Fields τ} {t : τ} (h : ∀ k ∈ fs.names, values' k = values k) :
    fs.Takes o values' t ↔ fs.Takes o values t := by
  induction fs generalizing values values' with
  | nil => exact Iff.rfl
  | cons fd rest ih =>
    have hrest (k : String) (hk : k ∈ rest.names) :
        Function.update values' fd.name [] k = Function.update values fd.name [] k := by
      by_cases hname : k = fd.name
      · simp [hname]
      · simp [hname, h k (List.mem_cons_of_mem _ hk)]
    show fd.Takes o (values' fd.name) _ ∧ _ ↔ fd.Takes o (values fd.name) _ ∧ _
    rw [h fd.name List.mem_cons_self, ih hrest]

theorem absorbAll_cons {fd : Field α} {rest : Fields β} {ms : List (String × Json)}
    {slot slot' : Option α} {slots slots' : rest.Slots} :
    (cons fd rest).absorbAll o (Node.ofMembers ms) (slot, slots) = .ok (slot', slots') ↔
      fd.Fills o slot (named ms fd.name) slot' ∧
        rest.absorbAll o (Node.ofMembers (ms.filter (·.1 ≠ fd.name))) slots = .ok slots' := by
  -- as long as nothing is refused, the first field and the others do not see each other's members
  induction ms generalizing slot slots with
  | nil => simp [Node.ofMembers, absorbAll, Field.Fills, eq_comm]
  | cons m ms ih =>
    obtain ⟨key, j⟩ := m
    rw [Node.ofMembers, absorbAll, absorb]
    by_cases hkey : fd.name = key
    · subst hkey
      rw [if_pos rfl, named_cons_self, List.filter_cons_of_neg (by simp)]
      cases slot with
      | some b => simp [Field.Fills, bind, Except.bind]
      | none =>
        cases hread : fd.codec.read o (.ofJson j) with
        | error e => simp [Field.Fills, hread, bind, Except.bind]
        | ok a =>
          show (cons fd rest).absorbAll o (Node.ofMembers ms) (some a, slots) = _ ↔ _
          rw [ih]
          cases hnamed : named ms fd.name with
          | nil => simp [Field.Fills, hread]
          | cons _ _ => simp [Field.Fills]
    · rw [if_neg hkey, named_cons_of_ne (Ne.symm hkey),
        List.filter_cons_of_pos (by simpa using Ne.symm hkey), Node.ofMembers, absorbAll]
      cases hrest : rest.absorb o key (.ofJson j) slots with
      | error e => simp [bind, Except.bind]
      | ok next =>
        show (cons fd rest).absorbAll o (Node.ofMembers ms) (slot, next) = _ ↔ _
        rw [ih]
        rfl

theorem absorbAll_nil {ms : List (String × Json)} :
    Fields.nil.absorbAll o (Node.ofMembers ms) () = .ok () := by
  induction ms with
  | nil => rfl
  | cons m ms ih =>
    rw [Node.ofMembers, absorbAll, absorb, Node.skip_ofJson]
    exact ih

theorem collect_iff {fs : Fields τ} {ms : List (String × Json)} {t : τ} :
    (∃ slots, fs.absorbAll o (Node.ofMembers ms) fs.vacant = .ok slots ∧ fs.finish slots = .ok t) ↔
      fs.Takes o (named ms) t := by
  induction fs generalizing ms with
  | nil =>
    constructor
    · intro _
      trivial
    · intro _
      exact ⟨(), absorbAll_nil, rfl⟩
  | @cons α β fd rest ih =>
    obtain ⟨a, t⟩ := t
    have hfinish (slot : Option α) (slots : rest.Slots) :
        (cons fd rest).finish (slot, slots) = .ok (a, t) ↔
          slot.or fd.absent = some a ∧ rest.finish slots = .ok t := by
      rw [finish]
      cases hslot : slot.or fd.absent with
      | none => simp
      | some b =>
        simp only [bind_eq_ok, pure_eq_ok, Prod.mk.injEq, Option.some.injEq]
        constructor
        · rintro ⟨u, hrest, rfl, rfl⟩
          exact ⟨rfl, hrest⟩
        · rintro ⟨rfl, hrest⟩
          exact ⟨t, hrest, rfl, rfl⟩
    show _ ↔ fd.Takes o (named ms fd.name) a ∧ rest.Takes o (Function.update (named ms) fd.name []) t
    rw [← named_filter_ne, ← ih, ← Field.fills_none_iff]
    constructor
    · rintro ⟨⟨slot, slots⟩, habsorb, hend⟩
      obtain ⟨hfill, hrest⟩ := absorbAll_cons.mp habsorb
      obtain ⟨hslot, hslots⟩ := (hfinish slot slots).mp hend
      exact ⟨⟨slot, hfill, hslot⟩, slots, hrest, hslots⟩
    · rintro ⟨⟨slot, hfill, hslot⟩, slots, hrest, hslots⟩
      exact ⟨(slot, slots), absorbAll_cons.mpr ⟨hfill, hrest⟩, (hfinish slot slots).mpr ⟨hslot, hslots⟩⟩

theorem read_obj {fs : Fields τ} {title : String} {ms : List (String × Json)} {t : τ} :
    fs.read title o (.ofJson (.obj ms)) = .ok t ↔ fs.Takes o (named ms) t := by
  rw [← collect_iff]
  exact bind_eq_ok

end Fields

/-! ## Variants -/

namespace Tagged

variable {α : Type} {t : Tagged α} {o : Origin} {ms : List (String × Json)}

/-- The tag as a field, with the place of a variant for its value. -/
def tagField (t : Tagged α) : Field t.Place where
  name := t.tag
  codec := ⟨t.readTag, fun i => .str (t.variants.get i).word⟩
  absent := none
  short := none
  omits _ := false

theorem scan_iff {place place' : Option t.Place} {others : List (String × Node)} :
    t.scan o (Node.ofMembers ms) place = .ok (place', others) ↔
      t.tagField.Fills o place (named ms t.tag) place' ∧
        others = Node.ofMembers (ms.filter (·.1 ≠ t.tag)) := by
  -- like a record whose one field is the tag, only that the other members are kept
  induction ms generalizing place place' others with
  | nil => simp [Node.ofMembers, scan, Field.Fills, eq_comm]
  | cons m ms ih =>
    obtain ⟨key, j⟩ := m
    rw [Node.ofMembers, scan.eq_def]
    by_cases hkey : key = t.tag
    · subst hkey
      rw [named_cons_self, List.filter_cons_of_neg (by simp)]
      dsimp only
      rw [if_pos rfl]
      cases place with
      | some i => simp [Field.Fills]
      | none =>
        cases hread : t.readTag o (.ofJson j) with
        | error e => simp [Field.Fills, tagField, hread, bind, Except.bind]
        | ok i =>
          show t.scan o (Node.ofMembers ms) (some i) = _ ↔ _
          rw [ih]
          cases hnamed : named ms t.tag with
          | nil => simp [Field.Fills, tagField, hread]
          | cons _ _ => simp [Field.Fills]
    · rw [named_cons_of_ne hkey, List.filter_cons_of_pos (by simpa using hkey), Node.ofMembers]
      dsimp only
      rw [if_neg hkey, Node.setAside_ofJson]
      simp only [bind_eq_ok, pure_eq_ok, Prod.exists, ih, Prod.mk.injEq]
      constructor
      · rintro ⟨_, _, found, rest, ⟨hfills, rfl⟩, rfl, rfl⟩
        exact ⟨hfills, rfl⟩
      · rintro ⟨hfills, rfl⟩
        exact ⟨(), trivial, place', _, ⟨hfills, rfl⟩, rfl, rfl⟩

theorem readMembers_iff {a : α} : t.readMembers o (Node.ofMembers ms) .closed = .ok a ↔
    ∃ i parts, t.tagField.Takes o (named ms t.tag) i ∧
      (t.variants.get i).fields.Takes .setAside (Function.update (named ms) t.tag []) parts ∧
      (t.variants.get i).make parts = a := by
  have hvariant (i : t.Place) : t.readVariant i (.obj (Node.ofMembers (ms.filter (·.1 ≠ t.tag))) .closed) =
      .ok a ↔ ∃ parts, (t.variants.get i).fields.Takes .setAside
        (Function.update (named ms) t.tag []) parts ∧ (t.variants.get i).make parts = a := by
    rw [readVariant_of_eq rfl, ← named_filter_ne]
    constructor
    · intro h
      obtain ⟨parts, hparts, rfl⟩ := map_eq_ok.mp h
      exact ⟨parts, Fields.read_obj.mp hparts, rfl⟩
    · rintro ⟨parts, hparts, rfl⟩
      rw [show Node.obj _ _ = Node.ofJson (.obj (ms.filter (·.1 ≠ t.tag))) from rfl,
        Fields.read_obj.mpr hparts]
      rfl
  unfold readMembers
  simp only [bind_eq_ok, Prod.exists, scan_iff]
  constructor
  · rintro ⟨place, others, ⟨hfills, rfl⟩, _, _, h⟩
    cases place with
    | none => cases h
    | some i =>
      obtain ⟨parts, hparts, hmake⟩ := (hvariant i).mp h
      exact ⟨i, parts, Field.fills_none_iff.mp ⟨some i, hfills, rfl⟩, hparts, hmake⟩
  · rintro ⟨i, parts, htag, hparts, hmake⟩
    obtain ⟨slot, hfills, hslot⟩ := Field.fills_none_iff.mpr htag
    have hplace : slot = some i := (Option.or_none).symm.trans hslot
    subst hplace
    exact ⟨some i, _, ⟨hfills, rfl⟩, (), rfl, (hvariant i).mpr ⟨parts, hparts, hmake⟩⟩

end Tagged

/-! ## Chat summaries -/

namespace ChatSummary

variable {o : Origin} {ms : List (String × Json)}

theorem absorbAll_iff {slots slots' : ownFields.Slots} {others : List (String × Node)} :
    absorbAll o (Node.ofMembers ms) slots = .ok (slots', others) ↔
      ownFields.absorbAll o (Node.ofMembers (ms.filter fun m => ownFields.names.contains m.1)) slots =
        .ok slots' ∧
      others = Node.ofMembers (ms.filter fun m => !ownFields.names.contains m.1) := by
  induction ms generalizing slots slots' others with
  | nil => simp [Node.ofMembers, absorbAll, Fields.absorbAll, eq_comm]
  | cons m ms ih =>
    obtain ⟨key, j⟩ := m
    rw [Node.ofMembers, absorbAll.eq_def]
    dsimp only
    by_cases hown : ownFields.names.contains key = true
    · rw [if_pos hown, List.filter_cons_of_pos (by exact hown),
        List.filter_cons_of_neg (by simpa using hown),
        Node.ofMembers, Fields.absorbAll]
      simp only [bind_eq_ok, ih]
      constructor
      · rintro ⟨next, hnext, hrest, hothers⟩
        exact ⟨⟨next, hnext, hrest⟩, hothers⟩
      · rintro ⟨⟨next, hnext, hrest⟩, hothers⟩
        exact ⟨next, hnext, hrest, hothers⟩
    · rw [if_neg hown, List.filter_cons_of_neg (by exact hown),
        List.filter_cons_of_pos (by simpa using hown), Node.setAside_ofJson, Node.ofMembers]
      simp only [bind_eq_ok, pure_eq_ok, Prod.exists, ih, Prod.mk.injEq]
      constructor
      · rintro ⟨_, _, found, rest, ⟨hfound, rfl⟩, rfl, rfl⟩
        exact ⟨hfound, rfl⟩
      · rintro ⟨hfound, rfl⟩
        exact ⟨(), trivial, slots', _, ⟨hfound, rfl⟩, rfl, rfl⟩

theorem not_own_of_kind (i : ChatKind.tagged.Place) :
    ∀ k ∈ ChatKind.tagged.tag :: (ChatKind.tagged.variants.get i).fields.names,
      k ∉ ownFields.names := by
  revert i
  decide

theorem read_obj {c : ChatSummary} : read o (.ofJson (.obj ms)) = .ok c ↔
    ∃ own i parts, ownFields.Takes o (named ms) own ∧
      ChatKind.tagged.tagField.Takes .setAside (named ms ChatKind.tagged.tag) i ∧
      (ChatKind.tagged.variants.get i).fields.Takes .setAside (named ms) parts ∧
      ofOwn ((ChatKind.tagged.variants.get i).make parts) own = c := by
  have hown (own : Own) : ownFields.Takes o
      (named (ms.filter fun m => ownFields.names.contains m.1)) own ↔
        ownFields.Takes o (named ms) own := by
    apply Fields.takes_congr
    intro k hk
    rw [named_filter, if_pos (List.contains_iff_mem.mpr hk)]
  have hothers {k : String} (hk : k ∉ ownFields.names) :
      named (ms.filter fun m => !ownFields.names.contains m.1) k = named ms k := by
    rw [named_filter (fun k => !ownFields.names.contains k), if_pos (by simpa using hk)]
  have hkind (i : ChatKind.tagged.Place) (parts : (ChatKind.tagged.variants.get i).Parts) :
      (ChatKind.tagged.variants.get i).fields.Takes .setAside
          (Function.update (named (ms.filter fun m => !ownFields.names.contains m.1))
            ChatKind.tagged.tag []) parts ↔
        (ChatKind.tagged.variants.get i).fields.Takes .setAside (named ms) parts := by
    apply Fields.takes_congr
    intro k hk
    have htag : k ≠ ChatKind.tagged.tag := by
      rintro rfl
      exact (ChatKind.faithful.fields _ (List.get_mem _ i)).2 hk
    rw [Function.update_of_ne htag, hothers (not_own_of_kind i k (List.mem_cons_of_mem _ hk))]
  have htag (i : ChatKind.tagged.Place) := hothers (not_own_of_kind i _ List.mem_cons_self)
  show read o (.obj (Node.ofMembers ms) .closed) = _ ↔ _
  rw [read]
  constructor
  · intro h
    obtain ⟨⟨slots, others⟩, hsplit, h⟩ := bind_eq_ok.mp h
    obtain ⟨habsorb, rfl⟩ := absorbAll_iff.mp hsplit
    obtain ⟨_, _, h⟩ := bind_eq_ok.mp h
    obtain ⟨own, hend, h⟩ := bind_eq_ok.mp h
    obtain ⟨kind, hread, h⟩ := bind_eq_ok.mp h
    obtain rfl := pure_eq_ok.mp h
    obtain ⟨i, parts, hi, hparts, rfl⟩ := Tagged.readMembers_iff.mp hread
    refine ⟨own, i, parts, (hown own).mp (Fields.collect_iff.mp ⟨slots, habsorb, hend⟩), ?_, ?_, rfl⟩
    · rw [← htag i]
      exact hi
    · exact (hkind i parts).mp hparts
  · rintro ⟨own, i, parts, htakes, hi, hparts, rfl⟩
    obtain ⟨slots, habsorb, hend⟩ := Fields.collect_iff.mpr ((hown own).mpr htakes)
    rw [← htag i] at hi
    have hread := Tagged.readMembers_iff.mpr ⟨i, parts, hi, (hkind i parts).mpr hparts, rfl⟩
    refine bind_eq_ok.mpr ⟨(slots, _), absorbAll_iff.mpr ⟨habsorb, rfl⟩, ?_⟩
    refine bind_eq_ok.mpr ⟨(), rfl, bind_eq_ok.mpr ⟨own, hend, ?_⟩⟩
    exact bind_eq_ok.mpr ⟨_, hread, rfl⟩

end ChatSummary

/-! ## Avatar updates -/

namespace AvatarUpdate

def names : List String := ["kind", "blobId"]

theorem absorbAll_filter {o : Origin} {ms : List (String × Json)} {p : Progress} :
    absorbAll o (Node.ofMembers (ms.filter fun m => names.contains m.1)) p =
      absorbAll o (Node.ofMembers ms) p := by
  induction ms generalizing p with
  | nil => rfl
  | cons m ms ih =>
    obtain ⟨key, j⟩ := m
    by_cases hkey : names.contains key = true
    · rw [List.filter_cons_of_pos (by exact hkey), Node.ofMembers, Node.ofMembers, absorbAll, absorbAll]
      congr 1
      funext q
      exact ih
    · have hne : key ≠ "kind" ∧ key ≠ "blobId" := by simpa [names] using hkey
      have hskip : absorb o key (.ofJson j) p = .ok p := by
        show (if key = "kind" then _ else if key = "blobId" then _ else _) = _
        rw [if_neg hne.1, if_neg hne.2, Node.skip_ofJson]
        rfl
      rw [List.filter_cons_of_neg (by exact hkey), ih, Node.ofMembers, absorbAll, hskip]
      rfl

theorem read_obj {o : Origin} {ms : List (String × Json)} :
    read o (.ofJson (.obj (ms.filter fun m => names.contains m.1))) = read o (.ofJson (.obj ms)) := by
  show (absorbAll o (Node.ofMembers _) .nothing >>= _) = absorbAll o (Node.ofMembers _) .nothing >>= _
  rw [absorbAll_filter]

end AvatarUpdate
end ChatBridge
