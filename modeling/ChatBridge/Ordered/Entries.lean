/-!
# Lists of entries in strict key order

`put` is the one way entries get into a list: it keeps the keys strictly rising and replaces the
value of a key that is already there. Sets and maps are built on it.
-/

namespace ChatBridge

class KeyOrder (α : Type) extends LE α, LT α, Std.IsLinearOrder α, Std.LawfulOrderLT α where
  decideLT (a b : α) : Decidable (a < b)

instance KeyOrder.decidableLT {α : Type} [KeyOrder α] : DecidableLT α := KeyOrder.decideLT

instance : KeyOrder String where
  decideLT := inferInstance

instance : KeyOrder UInt32 where
  decideLT := inferInstance

namespace Entries

variable {α β : Type} [KeyOrder α]

def Rising (es : List (α × β)) : Prop := es.Pairwise fun a b => a.1 < b.1

def put (k : α) (v : β) : List (α × β) → List (α × β)
  | [] => [(k, v)]
  | (k', v') :: es =>
    if k < k' then (k, v) :: (k', v') :: es
    else if k' < k then (k', v') :: put k v es
    else (k, v) :: es

def find? (k : α) : List (α × β) → Option β
  | [] => none
  | (k', v) :: es => if k < k' ∨ k' < k then find? k es else some v

def erase (k : α) (es : List (α × β)) : List (α × β) := es.filter fun e => e.1 < k ∨ k < e.1

theorem rising_erase {k : α} {es : List (α × β)} (h : Rising es) : Rising (erase k es) :=
  h.filter _

theorem not_lt_and_not_lt {a b : α} (h₁ : ¬ a < b) (h₂ : ¬ b < a) : a = b := by
  rcases Std.lt_trichotomy a b with h | h | h
  · exact absurd h h₁
  · exact h
  · exact absurd h h₂

theorem mem_put {k : α} {v : β} {es : List (α × β)} {e : α × β} (h : e ∈ put k v es) :
    e = (k, v) ∨ e ∈ es := by
  induction es with
  | nil => simpa [put] using h
  | cons a es ih =>
    obtain ⟨k', v'⟩ := a
    unfold put at h
    split at h
    · simpa using h
    · split at h
      · rcases List.mem_cons.1 h with h | h
        · exact .inr (h ▸ List.mem_cons_self)
        · exact (ih h).imp id (List.mem_cons_of_mem _)
      · rcases List.mem_cons.1 h with h | h
        · exact .inl h
        · exact .inr (List.mem_cons_of_mem _ h)

theorem rising_put {k : α} {v : β} {es : List (α × β)} (h : Rising es) : Rising (put k v es) := by
  induction es with
  | nil => simp [put, Rising]
  | cons a es ih =>
    obtain ⟨k', v'⟩ := a
    obtain ⟨hhd, htl⟩ := List.pairwise_cons.1 h
    unfold put
    split
    · rename_i hlt
      refine List.pairwise_cons.2 ⟨fun e he => ?_, h⟩
      rcases List.mem_cons.1 he with rfl | he
      · exact hlt
      · exact Std.lt_trans hlt (hhd e he)
    · split
      · rename_i hlt
        refine List.pairwise_cons.2 ⟨fun e he => ?_, ih htl⟩
        rcases mem_put he with rfl | he
        · exact hlt
        · exact hhd e he
      · rename_i h₁ h₂
        cases not_lt_and_not_lt h₁ h₂
        exact List.pairwise_cons.2 ⟨hhd, htl⟩

/-- Puts the entries in one after the other, so the last one of a key stays. -/
def ofList (es : List (α × β)) : List (α × β) := es.foldl (fun acc e => put e.1 e.2 acc) []

theorem rising_foldl_put (es acc : List (α × β)) (h : Rising acc) :
    Rising (es.foldl (fun acc e => put e.1 e.2 acc) acc) := by
  induction es generalizing acc with
  | nil => exact h
  | cons e es ih => exact ih _ (rising_put h)

theorem rising_ofList (es : List (α × β)) : Rising (ofList es) :=
  rising_foldl_put es [] List.Pairwise.nil

end Entries
end ChatBridge
