import ChatBridge.Proofs.Ordered.Lookup
import ChatBridge.Wire.Basic

/-!
# Arrangements

Between writer and reader the members of an object may be brought into another order. An arrangement
is any way to do so; a reader that takes them all need not know which one it was.
-/

namespace ChatBridge

theorem exists_perm_of_map {α β : Type} {g : α → β} {l m : List β} (h : l.Perm m) :
    ∀ {as : List α}, m = as.map g → ∃ bs : List α, bs.Perm as ∧ l = bs.map g := by
  induction h with
  | nil =>
    intro as hm
    cases List.map_eq_nil_iff.mp hm.symm
    exact ⟨[], .refl _, rfl⟩
  | cons x _ ih =>
    intro as hm
    obtain ⟨a, as', rfl, rfl, hm'⟩ := List.map_eq_cons_iff.mp hm.symm
    obtain ⟨bs, hperm, rfl⟩ := ih hm'.symm
    exact ⟨a :: bs, hperm.cons a, rfl⟩
  | swap x y l =>
    intro as hm
    obtain ⟨a, as', rfl, rfl, hm'⟩ := List.map_eq_cons_iff.mp hm.symm
    obtain ⟨b, bs, rfl, rfl, rfl⟩ := List.map_eq_cons_iff.mp hm'
    exact ⟨b :: a :: bs, .swap .., rfl⟩
  | trans _ _ ih₁ ih₂ =>
    intro as hm
    obtain ⟨bs, hbs, rfl⟩ := ih₂ hm
    obtain ⟨cs, hcs, rfl⟩ := ih₁ rfl
    exact ⟨cs, hcs.trans hbs, rfl⟩

/-- A way to set a value down that moves members of objects and nothing else. -/
structure Arrangement where
  arrange : Json → Json
  null : arrange .null = .null
  bool : ∀ b, arrange (.bool b) = .bool b
  num : ∀ n, arrange (.num n) = .num n
  str : ∀ s, arrange (.str s) = .str s
  arr : ∀ items, arrange (.arr items) = .arr (items.map arrange)
  obj : ∀ {members : List (String × Json)}, (members.map Prod.fst).Nodup →
    ∃ moved, arrange (.obj members) = .obj moved ∧
      moved.Perm (members.map fun m => (m.1, arrange m.2))

namespace Json

theorem orderedItems_eq_map (items : List Json) : orderedItems items = items.map ordered := by
  induction items with
  | nil => rfl
  | cons j js ih => rw [orderedItems, ih, List.map_cons]

theorem orderedMembers_eq_map (members : List (String × Json)) :
    orderedMembers members = members.map fun m => (m.1, m.2.ordered) := by
  induction members with
  | nil => rfl
  | cons m ms ih => rw [orderedMembers, ih, List.map_cons]

end Json

namespace Arrangement

def ordered : Arrangement where
  arrange := Json.ordered
  null := by simp [Json.ordered]
  bool b := by simp [Json.ordered]
  num n := by simp [Json.ordered]
  str s := by simp [Json.ordered]
  arr items := by rw [Json.ordered, Json.orderedItems_eq_map]
  obj {members} h := by
    refine ⟨_, by rw [Json.ordered, Json.orderedMembers_eq_map], Entries.ofList_perm ?_⟩
    rw [List.map_map]
    exact h

def asWritten : Arrangement where
  arrange j := j
  null := rfl
  bool _ := rfl
  num _ := rfl
  str _ := rfl
  arr items := by rw [List.map_id']
  obj {members} _ := ⟨members, rfl, .of_eq (List.map_id' members).symm⟩

def comp (f g : Arrangement) : Arrangement where
  arrange j := f.arrange (g.arrange j)
  null := by rw [g.null, f.null]
  bool b := by rw [g.bool, f.bool]
  num n := by rw [g.num, f.num]
  str s := by rw [g.str, f.str]
  arr items := by rw [g.arr, f.arr, List.map_map]; rfl
  obj {members} h := by
    obtain ⟨ms, hg, hperm⟩ := g.obj h
    have hn : (ms.map Prod.fst).Nodup := by
      rw [(hperm.map Prod.fst).nodup_iff, List.map_map]
      exact h
    obtain ⟨ns, hf, hperm'⟩ := f.obj hn
    refine ⟨ns, by rw [hg, hf], hperm'.trans ?_⟩
    have := hperm.map fun m => (m.1, f.arrange m.2)
    rwa [List.map_map] at this

end Arrangement

/-! ## Nodes in memory -/

namespace Node

mutual

theorem readBreak_ofJson : ∀ j : Json, (ofJson j).readBreak = none
  | .null => rfl
  | .bool _ => rfl
  | .num _ => rfl
  | .str _ => rfl
  | .arr items => by rw [ofJson, readBreak, readBreak_ofItems items]; rfl
  | .obj members => by rw [ofJson, readBreak, readBreak_ofMembers members]; rfl

theorem readBreak_ofItems : ∀ items : List Json, readBreakItems (ofItems items) = none
  | [] => rfl
  | j :: js => by rw [ofItems, readBreakItems, readBreak_ofJson j, readBreak_ofItems js]; rfl

theorem readBreak_ofMembers : ∀ members : List (String × Json),
    readBreakMembers (ofMembers members) = none
  | [] => rfl
  | (_, j) :: ms => by rw [ofMembers, readBreakMembers, readBreak_ofJson j, readBreak_ofMembers ms]; rfl

end

mutual

theorem skipBreak_ofJson : ∀ j : Json, (ofJson j).skipBreak = none
  | .null => rfl
  | .bool _ => rfl
  | .num _ => rfl
  | .str _ => rfl
  | .arr items => by rw [ofJson, skipBreak, skipBreak_ofItems items]; rfl
  | .obj members => by rw [ofJson, skipBreak, skipBreak_ofMembers members]; rfl

theorem skipBreak_ofItems : ∀ items : List Json, skipBreakItems (ofItems items) = none
  | [] => rfl
  | j :: js => by rw [ofItems, skipBreakItems, skipBreak_ofJson j, skipBreak_ofItems js]; rfl

theorem skipBreak_ofMembers : ∀ members : List (String × Json),
    skipBreakMembers (ofMembers members) = none
  | [] => rfl
  | (_, j) :: ms => by rw [ofMembers, skipBreakMembers, skipBreak_ofJson j, skipBreak_ofMembers ms]; rfl

end

@[simp] theorem setAside_ofJson (j : Json) : (ofJson j).setAside = .ok () := by
  rw [setAside, readBreak_ofJson]
  rfl

end Node

namespace Arrangement

def nodes (f : Arrangement) (members : List (String × Json)) : List (String × Node) :=
  Node.ofMembers (members.map fun m => (m.1, f.arrange m.2))

@[simp] theorem nodes_nil (f : Arrangement) : f.nodes [] = [] := rfl

@[simp] theorem nodes_cons (f : Arrangement) (m : String × Json) (ms : List (String × Json)) :
    f.nodes (m :: ms) = (m.1, .ofJson (f.arrange m.2)) :: f.nodes ms := rfl

theorem exists_nodes (f : Arrangement) {members : List (String × Json)}
    (h : (members.map Prod.fst).Nodup) : ∃ ms : List (String × Json), ms.Perm members ∧
      Node.ofJson (f.arrange (.obj members)) = .obj (f.nodes ms) .closed := by
  obtain ⟨moved, hm, hperm⟩ := f.obj h
  obtain ⟨ms, hms, rfl⟩ := exists_perm_of_map hperm rfl
  refine ⟨ms, hms, ?_⟩
  rw [hm]
  rfl

end Arrangement
end ChatBridge
