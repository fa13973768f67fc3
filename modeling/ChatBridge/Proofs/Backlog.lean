import ChatBridge.Backlog
import ChatBridge.Proofs.Runs
import Mathlib.Data.List.Forall2
import Mathlib.Data.List.ReduceOption

/-!
# What a receiver gets from a backlog

A backlog is filled and read in any order. Whatever has been sent was received, was missed or waits,
and these follow each other in the order of sending. A receiver misses only what is older than all
that the backlog has room for; one that never has more than that unread misses nothing.
-/

namespace ChatBridge.Backlog

variable {α : Type}

/-! ## Records -/

inductive Use (α : Type) where
  | push (a : α)
  | read

def use? (b : Backlog α) : Use α → Option (Backlog α)
  | .push a => some (b.push a)
  | .read => b.next?.map (·.2)

abbrev Record (α : Type) := List (Step (Backlog α) (Use α))

def Item.received? : Item α → Option α
  | .missed _ => none
  | .item a => some a

def Item.lag : Item α → Nat
  | .missed n => n
  | .item _ => 0

def Item.fates : Item α → List (Option α)
  | .missed n => List.replicate n none
  | .item a => [some a]

def sent? (x : Step (Backlog α) (Use α)) : Option α :=
  match x.action with
  | .push a => some a
  | .read => none

def item? (x : Step (Backlog α) (Use α)) : Option (Item α) :=
  match x.action with
  | .push _ => none
  | .read => x.before.next?.map (·.1)

variable (r : Record α) (b : Backlog α)

def sent : List α := r.filterMap sent?

def items : List (Item α) := r.filterMap item?

def received : List α := (items r).filterMap Item.received?

def lagged : Nat := (items r).foldr (·.lag + ·) 0

/-- How much was sent and not read, with what has made room and was not told yet. -/
def waiting : Nat := b.missed + b.unread.length

/-- What the receiver knows of the things sent once it has read all that waits. -/
def fates : List (Option α) := (items r ++ b.drain.1).flatMap Item.fates

def settled : List (Option α) := (items r).flatMap Item.fates ++ List.replicate b.missed none

def Agrees (fate : Option α) (a : α) : Prop := ∀ x, fate = some x → x = a

/-- The receiver never has more unread than there is room for. -/
def KeepsUp (capacity : Nat) (r : Record α) : Prop := ∀ x ∈ r, x.after.waiting ≤ capacity

instance (capacity : Nat) (r : Record α) : Decidable (KeepsUp capacity r) :=
  inferInstanceAs (Decidable (∀ x ∈ r, x.after.waiting ≤ capacity))

/-- What a receiver with this record can rely on. -/
structure Accounted (capacity : Nat) (r : Record α) (b : Backlog α) : Prop where
  agrees : List.Forall₂ Agrees (fates r b) (sent r)
  inOrder : (received r ++ b.unread).Sublist (sent r)
  /-- What is missed has been followed by as much as there is room for. -/
  missed : ∀ i, (fates r b)[i]? = some none → i + capacity < (sent r).length
  count : (received r).length + (lagged r + b.missed) + b.unread.length = (sent r).length
  /-- Reading on brings what waits, and first what has been missed. -/
  readOn : ∃ r', Run use? b r' (.empty capacity) ∧ sent r' = [] ∧ received r' = b.unread ∧
    lagged r' = b.missed
  kept : KeepsUp capacity r → received r ++ b.unread = sent r ∧ lagged r = 0 ∧ b.missed = 0

/-! ## One step more -/

variable {r r' : Record α} {b b' : Backlog α} {x : Step (Backlog α) (Use α)} {capacity : Nat}

theorem sent_append : sent (r ++ r') = sent r ++ sent r' := List.filterMap_append

theorem items_append : items (r ++ r') = items r ++ items r' := List.filterMap_append

theorem received_append : received (r ++ r') = received r ++ received r' := by
  rw [received, items_append, List.filterMap_append]
  rfl

theorem lagged_append : lagged (r ++ r') = lagged r + lagged r' := by
  unfold lagged
  rw [items_append]
  induction items r with
  | nil => exact (Nat.zero_add _).symm
  | cons i is ih => rw [List.cons_append, List.foldr_cons, List.foldr_cons, ih, Nat.add_assoc]

@[simp] theorem sent_push (a : α) : sent [⟨b, .push a, b'⟩] = [a] := rfl

@[simp] theorem sent_read : sent [⟨b, .read, b'⟩] = [] := rfl

@[simp] theorem items_push (a : α) : items [⟨b, .push a, b'⟩] = [] := rfl

theorem items_read : items [⟨b, .read, b'⟩] = (b.next?.map (·.1)).toList := by
  unfold items
  cases h : b.next? <;> simp [item?, h]

theorem next?_eq_some {i : Item α} (h : b.next? = some (i, b')) :
    (b.missed ≠ 0 ∧ i = .missed b.missed ∧ b' = { b with missed := 0 }) ∨
    (b.missed = 0 ∧ ∃ a as, b.unread = a :: as ∧ i = .item a ∧ b' = { b with unread := as }) := by
  unfold next? at h
  split at h
  · rename_i hm
    cases h
    exact .inl ⟨hm, rfl, rfl⟩
  · rename_i hm
    split at h
    · cases h
    · rename_i a as hu
      cases h
      exact .inr ⟨by simpa using hm, a, as, hu, rfl, rfl⟩

theorem use?_read_eq_some (h : b.use? .read = some b') : ∃ i, b.next? = some (i, b') := by
  obtain ⟨⟨i, b''⟩, hn, rfl⟩ := Option.map_eq_some_iff.mp h
  exact ⟨i, hn⟩

/-! ## Fates -/

@[simp] theorem fates_drain (b : Backlog α) :
    b.drain.1.flatMap Item.fates = List.replicate b.missed none ++ b.unread.map some := by
  have hunread (l : List α) : (l.map Item.item).flatMap Item.fates = l.map some := by
    induction l with
    | nil => rfl
    | cons a l ih => simpa [Item.fates] using ih
  unfold drain
  rw [List.flatMap_append, hunread]
  split
  · rename_i hm
    rw [hm]
    rfl
  · simp [Item.fates]

theorem fates_eq : fates r b = settled r b ++ b.unread.map some := by
  rw [fates, settled, List.flatMap_append, fates_drain, List.append_assoc]

theorem getElem?_fates_eq_missed {i : Nat} :
    (fates r b)[i]? = some none ↔ (settled r b)[i]? = some none := by
  rw [fates_eq, List.getElem?_append]
  split
  · rfl
  · rename_i h
    rw [List.getElem?_eq_none (Nat.le_of_not_lt h)]
    simp

theorem fates_read (r : Record α) (h : b.use? .read = some b') :
    fates (r ++ [⟨b, .read, b'⟩]) b' = fates r b := by
  obtain ⟨i, hn⟩ := use?_read_eq_some h
  rw [fates_eq, fates_eq, settled, items_append, items_read, hn, List.flatMap_append]
  rcases next?_eq_some hn with ⟨_, rfl, rfl⟩ | ⟨hm, a, as, hu, rfl, rfl⟩
  · simp [settled, Item.fates]
  · simp [settled, Item.fates, hm, hu]

theorem length_fates_items (is : List (Item α)) : (is.flatMap Item.fates).length =
    (is.filterMap Item.received?).length + is.foldr (·.lag + ·) 0 := by
  induction is with
  | nil => rfl
  | cons i is ih =>
    rw [List.flatMap_cons, List.length_append, ih]
    cases i with
    | missed n => simp [List.filterMap_cons, Item.fates, Item.received?, Item.lag]; omega
    | item a => simp [Item.fates, Item.received?, Item.lag]; omega

theorem length_fates : (fates r b).length =
    (received r).length + (lagged r + b.missed) + b.unread.length := by
  rw [fates_eq, settled, List.length_append, List.length_append, length_fates_items,
    List.length_replicate, List.length_map, received, lagged]
  omega

theorem reduceOption_fates_items (is : List (Item α)) :
    (is.flatMap Item.fates).reduceOption = is.filterMap Item.received? := by
  induction is with
  | nil => rfl
  | cons i is ih =>
    rw [List.flatMap_cons, List.reduceOption_append, ih]
    cases i with
    | missed n => simp [List.filterMap_cons, Item.fates, Item.received?]
    | item a => rfl

theorem reduceOption_fates_drain (b : Backlog α) :
    (b.drain.1.flatMap Item.fates).reduceOption = b.unread := by
  rw [fates_drain, List.reduceOption_append]
  simp [List.reduceOption]

theorem reduceOption_fates : (fates r b).reduceOption = received r ++ b.unread := by
  rw [fates, List.flatMap_append, List.reduceOption_append, reduceOption_fates_items,
    reduceOption_fates_drain]
  rfl

/-! ## Alignment -/

theorem sublist_of_agrees {os : List (Option α)} {as : List α} (h : List.Forall₂ Agrees os as) :
    os.reduceOption.Sublist as := by
  induction h with
  | nil => exact List.Sublist.slnil
  | @cons o a os as ho _ ih =>
    cases o with
    | none => exact ih.cons a
    | some x => rw [ho x rfl]; exact ih.cons_cons a

theorem agrees_snoc {os : List (Option α)} {as : List α} (h : List.Forall₂ Agrees os as) (a : α) :
    List.Forall₂ Agrees (os ++ [some a]) (as ++ [a]) :=
  List.rel_append h (.cons (fun _ hx => (Option.some.inj hx).symm) .nil)

theorem agrees_missed {p q : List (Option α)} {o : Option α} {as : List α}
    (h : List.Forall₂ Agrees (p ++ o :: q) as) : List.Forall₂ Agrees (p ++ none :: q) as := by
  induction p generalizing as with
  | nil =>
    cases h with
    | cons _ h => exact .cons nofun h
  | cons o' p ih =>
    cases h with
    | cons ho h => exact .cons ho (ih h)

/-! ## What every use keeps -/

structure Kept (capacity : Nat) (r : Record α) (b : Backlog α) : Prop where
  limit : b.capacity = capacity
  room : b.unread.length ≤ capacity
  full : b.missed ≠ 0 → b.unread.length = capacity
  agrees : List.Forall₂ Agrees (fates r b) (sent r)
  missed : ∀ i : Nat, (fates r b)[i]? = some none → i + capacity < (sent r).length

theorem Kept.start (capacity : Nat) : Kept capacity [] (.empty capacity : Backlog α) where
  limit := rfl
  room := Nat.zero_le _
  full h := absurd rfl h
  agrees := .nil
  missed i h := by cases h

theorem settled_push_of_room (r : Record α) (b' : Backlog α) (a : α)
    (h : b.unread.length < b.capacity) :
    settled (r ++ [⟨b, .push a, b'⟩]) (b.push a) = settled r b := by
  have hb : b.push a = { b with unread := b.unread ++ [a] } := if_pos h
  simp [settled, items_append, hb]

theorem settled_push_of_full (r : Record α) (b' : Backlog α) (a : α)
    (h : ¬ b.unread.length < b.capacity) :
    settled (r ++ [⟨b, .push a, b'⟩]) (b.push a) = settled r b ++ [none] := by
  have hb : b.push a = { b with unread := (b.unread ++ [a]).tail, missed := b.missed + 1 } :=
    if_neg h
  simp [settled, items_append, hb, List.replicate_succ']

theorem Kept.push_of_room (k : Kept capacity r b) (a : α) (h : b.unread.length < capacity) :
    Kept capacity (r ++ [⟨b, .push a, b.push a⟩]) (b.push a) := by
  have hroom : b.unread.length < b.capacity := k.limit ▸ h
  have hb : b.push a = { b with unread := b.unread ++ [a] } := if_pos hroom
  have hsettled := settled_push_of_room r (b.push a) a hroom
  refine ⟨?_, ?_, fun hm => ?_, ?_, fun i hi => ?_⟩
  · rw [hb]
    exact k.limit
  · rw [hb, List.length_append]
    exact h
  · rw [hb] at hm
    exact absurd (k.full hm) (Nat.ne_of_lt h)
  · have hf : fates (r ++ [⟨b, .push a, b.push a⟩]) (b.push a) = fates r b ++ [some a] := by
      rw [fates_eq, hsettled, fates_eq, hb, List.map_append, List.append_assoc]
      rfl
    rw [hf, sent_append]
    exact agrees_snoc k.agrees a
  · rw [getElem?_fates_eq_missed, hsettled] at hi
    rw [sent_append, List.length_append]
    exact Nat.lt_succ_of_lt (k.missed i (getElem?_fates_eq_missed.mpr hi))

theorem Kept.push_of_full (k : Kept capacity r b) (a : α) (h : b.unread.length = capacity) :
    Kept capacity (r ++ [⟨b, .push a, b.push a⟩]) (b.push a) := by
  have hfull : ¬ b.unread.length < b.capacity := by rw [k.limit, h]; exact Nat.lt_irrefl _
  have hb : b.push a = { b with unread := (b.unread ++ [a]).tail, missed := b.missed + 1 } :=
    if_neg hfull
  have hsettled := settled_push_of_full r (b.push a) a hfull
  have hlength : (b.push a).unread.length = capacity := by simp [hb, h]
  refine ⟨?_, Nat.le_of_eq hlength, fun _ => hlength, ?_, fun i hi => ?_⟩
  · rw [hb]
    exact k.limit
  · -- the oldest of all that would wait is missed
    obtain ⟨v, vs, hv⟩ : ∃ v vs, b.unread ++ [a] = v :: vs := List.exists_cons_of_ne_nil (by simp)
    have hwaits : fates r b ++ [some a] = settled r b ++ some v :: vs.map some := by
      rw [fates_eq, List.append_assoc, ← List.map_singleton, ← List.map_append, hv, List.map_cons]
    have hagrees := agrees_snoc k.agrees a
    rw [hwaits] at hagrees
    rw [fates_eq, hsettled, sent_append, hb, hv, List.append_assoc]
    exact agrees_missed hagrees
  · have hsent := k.agrees.length_eq
    rw [fates_eq, List.length_append, List.length_map] at hsent
    rw [sent_append, List.length_append, sent_push, List.length_singleton]
    rw [getElem?_fates_eq_missed, hsettled, List.getElem?_append] at hi
    split at hi
    · exact Nat.lt_succ_of_lt (k.missed i (getElem?_fates_eq_missed.mpr hi))
    · -- all that waits is newer
      have hlast := (List.getElem?_eq_some_iff.mp hi).1
      rw [List.length_singleton] at hlast
      omega

theorem Kept.read (k : Kept capacity r b) (h : b.use? .read = some b') :
    Kept capacity (r ++ [⟨b, .read, b'⟩]) b' := by
  have hsent : sent (r ++ [⟨b, .read, b'⟩]) = sent r := by simp [sent_append]
  have hf := fates_read r h
  obtain ⟨i, hn⟩ := use?_read_eq_some h
  have hb : b'.capacity = b.capacity ∧ b'.unread.length ≤ b.unread.length ∧ b'.missed = 0 := by
    rcases next?_eq_some hn with ⟨_, rfl, rfl⟩ | ⟨hm, a, as, hu, rfl, rfl⟩
    · exact ⟨rfl, Nat.le_refl _, rfl⟩
    · exact ⟨rfl, by simp [hu], hm⟩
  refine ⟨hb.1.trans k.limit, Nat.le_trans hb.2.1 k.room, fun hm => absurd hb.2.2 hm, ?_, ?_⟩
  · rw [hf, hsent]
    exact k.agrees
  · rw [hf, hsent]
    exact k.missed

theorem kept_of_run (run : Run use? (.empty capacity) r b) : Kept capacity r b := by
  induction run with
  | nil => exact .start capacity
  | @snoc r b u b' _ h ih =>
    cases u with
    | push a =>
      cases h
      rcases Nat.lt_or_eq_of_le ih.room with hroom | hfull
      · exact ih.push_of_room a hroom
      · exact ih.push_of_full a hfull
    | read => exact ih.read h

/-! ## Reading on -/

theorem exists_run_of_unread (capacity : Nat) (as : List α) :
    ∃ r, Run use? ⟨capacity, as, 0⟩ r (.empty capacity) ∧ sent r = [] ∧
      items r = as.map .item := by
  induction as with
  | nil => exact ⟨[], .nil, rfl, rfl⟩
  | cons a as ih =>
    obtain ⟨r, run, hs, hi⟩ := ih
    have hstep : use? ⟨capacity, a :: as, 0⟩ .read = some ⟨capacity, as, 0⟩ := rfl
    exact ⟨_, (Run.single hstep).append run, by rw [sent_append, hs]; rfl,
      by rw [items_append, hi]; rfl⟩

theorem exists_run_of_drain (b : Backlog α) :
    ∃ r, Run use? b r b.drain.2 ∧ sent r = [] ∧ items r = b.drain.1 := by
  obtain ⟨r, run, hs, hi⟩ := exists_run_of_unread b.capacity b.unread
  by_cases hm : b.missed = 0
  · refine ⟨r, ?_, hs, by rw [hi, drain, if_pos hm]; rfl⟩
    rw [← hm] at run
    exact run
  · have hstep : use? b .read = some ⟨b.capacity, b.unread, 0⟩ := by simp [use?, next?, hm]
    refine ⟨_, (Run.single hstep).append run, by rw [sent_append, hs]; rfl, ?_⟩
    rw [items_append, hi, items_read, drain, if_neg hm]
    simp [next?, hm]

/-! ## A receiver that keeps up -/

theorem lagged_of_keepsUp (run : Run use? (.empty capacity) r b) (h : KeepsUp capacity r) :
    lagged r = 0 ∧ b.missed = 0 := by
  induction run with
  | nil => exact ⟨rfl, rfl⟩
  | @snoc r b u b' run hstep ih =>
    obtain ⟨hlag, hm⟩ := ih fun x hx => h x (List.mem_append_left _ hx)
    have hnext : b'.missed = 0 := by
      by_contra hne
      have hfull := (kept_of_run (run.snoc hstep)).full hne
      have hwaiting : b'.missed + b'.unread.length ≤ capacity :=
        h _ (List.mem_append_right _ (List.mem_singleton.mpr rfl))
      omega
    refine ⟨?_, hnext⟩
    rw [lagged_append, hlag, Nat.zero_add]
    cases u with
    | push a => rfl
    | read =>
      obtain ⟨i, hn⟩ := use?_read_eq_some hstep
      rw [lagged, items_read, hn]
      rcases next?_eq_some hn with ⟨hne, _, _⟩ | ⟨_, a, as, _, rfl, _⟩
      · exact absurd hm hne
      · rfl

/-! ## Main statement -/

/-- However sending and reading follow each other, the receiver is accounted for. -/
theorem accounted_of_run (run : Run use? (.empty capacity) r b) : Accounted capacity r b := by
  have k := kept_of_run run
  have inOrder : (received r ++ b.unread).Sublist (sent r) := by
    rw [← reduceOption_fates]
    exact sublist_of_agrees k.agrees
  have count : (received r).length + (lagged r + b.missed) + b.unread.length = (sent r).length := by
    rw [← length_fates]
    exact k.agrees.length_eq
  refine ⟨k.agrees, inOrder, k.missed, count, ?_, fun h => ?_⟩
  · obtain ⟨r', run', hs, hi⟩ := exists_run_of_drain b
    rw [drain, k.limit] at run'
    have hreceived : b.drain.1.filterMap Item.received? = b.unread := by
      rw [← reduceOption_fates_items, reduceOption_fates_drain]
    have hlag : b.drain.1.foldr (·.lag + ·) 0 = b.missed := by
      have hlength := length_fates_items b.drain.1
      rw [fates_drain, hreceived, List.length_append, List.length_replicate, List.length_map]
        at hlength
      omega
    exact ⟨r', run', hs, by rw [received, hi, hreceived], by rw [lagged, hi, hlag]⟩
  · obtain ⟨hlag, hm⟩ := lagged_of_keepsUp run h
    refine ⟨inOrder.eq_of_length ?_, hlag, hm⟩
    rw [List.length_append]
    omega

/-- With room for one, the first of two is missed, and the receiver is told so before the second. -/
example : (Run.play use? (.empty 1) [.push 'a', .push 'b', .read, .read]).map
    (fun p => (sent p.1, items p.1, p.2)) =
      some (['a', 'b'], [.missed 1, .item 'b'], .empty 1) := by decide

end ChatBridge.Backlog
