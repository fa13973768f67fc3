import ChatBridge.Proofs.UserCache.Upsert

/-!
# Intakes

The summaries that tasks take in one after the other, and the cache after so many of them. A later
cache knows what an earlier one knew, and an intake that changes nothing leaves it as it was.
-/

namespace ChatBridge

structure Intake where
  task : Nat
  users : List UserSummary
  changed : Nat

def UserCache.after (c : UserCache) (xs : List Intake) : UserCache :=
  xs.foldl (fun c x => (c.upsert x.users).1) c

namespace UserCache

variable {c : UserCache} {xs : List Intake}

theorem after_snoc (x : Intake) : c.after (xs ++ [x]) = ((c.after xs).upsert x.users).1 := by
  rw [after, List.foldl_append]
  rfl

theorem onDisk_after : (c.after xs).onDisk = c.onDisk := by
  induction xs generalizing c with
  | nil => rfl
  | cons x xs ih => exact ih.trans onDisk_upsert

/-- Each intake says how much it changed in the cache that it found. -/
def Counted (c : UserCache) (xs : List Intake) : Prop :=
  ∀ i x, xs[i]? = some x → x.changed = ((c.after (xs.take i)).upsert x.users).2

theorem Counted.snoc {x : Intake} (h : c.Counted xs)
    (hx : x.changed = ((c.after xs).upsert x.users).2) : c.Counted (xs ++ [x]) := by
  intro i y hy
  by_cases hi : i < xs.length
  · rw [List.getElem?_append_left hi] at hy
    rw [List.take_append_of_le_length (Nat.le_of_lt hi)]
    exact h i y hy
  · obtain ⟨hlt, _⟩ := List.getElem?_eq_some_iff.mp hy
    rw [List.length_append, List.length_singleton] at hlt
    have hlast : i = xs.length := by omega
    subst hlast
    rw [List.getElem?_concat_length] at hy
    cases hy
    rw [List.take_left]
    exact hx

theorem after_eq_of_unchanged {k : Nat} (h : c.Counted xs)
    (hz : ∀ i x, xs[i]? = some x → k ≤ i → x.changed = 0) : c.after xs = c.after (xs.take k) := by
  have hstep : ∀ j, k ≤ j → c.after (xs.take j) = c.after (xs.take k) := by
    intro j hj
    induction hj with
    | refl => rfl
    | @step j hj ih =>
      cases hx : xs[j]? with
      | none => rw [List.take_add_one, hx, Option.toList_none, List.append_nil, ih]
      | some x =>
        have hzero : ((c.after (xs.take j)).upsert x.users).2 = 0 :=
          (h j x hx).symm.trans (hz j x hx hj)
        rw [List.take_add_one, hx, Option.toList_some, after_snoc, upsert_of_count_eq_zero hzero, ih]
  by_cases hk : k ≤ xs.length
  · have hall := hstep xs.length hk
    rwa [List.take_length] at hall
  · rw [List.take_of_length_le (by omega)]

theorem Reflects.after {vs : List UserSummary} (h : c.users.Reflects vs) (xs : List Intake) :
    (c.after xs).users.Reflects vs := by
  induction xs generalizing c with
  | nil => exact h
  | cons x xs ih => exact ih (Reflects.upsert h x.users)

theorem Reflects.later {vs : List UserSummary} {j k : Nat} (hjk : j ≤ k)
    (h : (c.after (xs.take j)).users.Reflects vs) : (c.after (xs.take k)).users.Reflects vs := by
  obtain ⟨m, rfl⟩ := Nat.exists_eq_add_of_le hjk
  rw [List.take_add, UserCache.after, List.foldl_append]
  exact Reflects.after h _

theorem reflects_after {i k : Nat} {x : Intake} (hx : xs[i]? = some x) (hi : i < k) :
    (c.after (xs.take k)).users.Reflects x.users := by
  refine Reflects.later (Nat.succ_le_of_lt hi) ?_
  rw [List.take_add_one, hx, Option.toList_some, after_snoc]
  exact reflects_upsert _ _

theorem run_eq_ok {d d' : DataDir} {bytes : List UInt8}
    (h : d.run (DataDir.stepsFor bytes) = (d', .ok ())) : d' = .folder (.file bytes) none := by
  cases d with
  | absent => cases h; rfl
  | plainFile => cases h
  | belowPlainFile => cases h
  | folder cache temp =>
    cases cache with
    | absent => cases h; rfl
    | file old => cases h; rfl
    | folder => cases h

theorem saveAs_eq_ok {es : List (UserId × UserSummary)} {now : UInt64} {d d' : DataDir}
    (hd : c.onDisk = true) (h : c.saveAs es now d = (d', .ok ())) :
    d' = .folder (.file (fileOf es now).encode) none := by
  rw [saveAs, if_pos hd] at h
  exact run_eq_ok h

theorem save_eq_ok {now : UInt64} {d d' : DataDir} (hd : c.onDisk = true)
    (h : c.save now d = (d', .ok ())) : d' = .folder (.file (c.toFile now).encode) none :=
  saveAs_eq_ok hd h

/-- The file that is saved after the first `k` intakes, if the cache was opened in `d`. -/
def fileAt (d : DataDir) (now : UInt64) (xs : List Intake) (k : Nat) : List UInt8 :=
  (((openIn d now).after (xs.take k)).toFile now).encode

theorem fileAt_append {d : DataDir} {now : UInt64} {k : Nat} (h : k ≤ xs.length) (ys : List Intake) :
    fileAt d now (xs ++ ys) k = fileAt d now xs k := by
  rw [fileAt, List.take_append_of_le_length h, fileAt]

end UserCache
end ChatBridge
