import ChatBridge.Proofs.Worker.Moves

/-!
# How a worker stops

A worker that takes no more requests and has nothing under way does nothing any more, and puts
nothing into its outbox. It does not stop while it sets up an agent.
-/

namespace ChatBridge

namespace Backlog

variable {α : Type}

theorem next?_of_isEmpty {b : Backlog α} (h : b.isEmpty = true) : b.next? = none := by
  simp only [isEmpty, Bool.and_eq_true, List.isEmpty_iff, decide_eq_true_eq] at h
  simp [next?, h.1, h.2]

end Backlog

namespace Worker

variable {w w' : Worker} {a : Action}

/-! ## Nothing left to do -/

/-- Nothing is under way at the worker, and nothing ever will be. -/
structure Silent (w : Worker) : Prop where
  isOver : w.isOver = true
  settingUp : w.settingUp = none

theorem isOver_iff : w.isOver = true ↔
    w.serving = false ∧ w.tasks = [] ∧ ∀ b, w.events = some b → b.isEmpty = true := by
  unfold isOver
  rw [Bool.and_eq_true, Bool.and_eq_true, Bool.not_eq_true', List.isEmpty_iff, and_assoc]
  cases w.events <;> simp

theorem silent_of_step (h : w.step? a = some w') (hs : w.Silent) :
    w'.Silent ∧ w'.outbox = w.outbox := by
  obtain ⟨hserving, htasks, hevents⟩ := isOver_iff.mp hs.isOver
  have hnone (n : Nat) : w.task? n = none := by rw [task?, htasks]; rfl
  cases a with
  | receive =>
    obtain ⟨hs', _⟩ := receive?_eq_some h
    rw [hserving] at hs'
    cases hs'
  | provide p =>
    obtain ⟨_, _, hp, _⟩ := provide_eq_some h
    rw [hs.settingUp] at hp
    cases hp
  | run n =>
    obtain ⟨_, _, _, ht, _⟩ := withTask_eq_some h
    rw [hnone] at ht
    cases ht
  | endCall n e =>
    obtain ⟨_, _, _, ht, _⟩ := withTask_eq_some h
    rw [hnone] at ht
    cases ht
  | forward =>
    have hnext : w.events.bind Backlog.next? = none := by
      cases he : w.events with
      | none => rfl
      | some b => exact Backlog.next?_of_isEmpty (hevents b he)
    simp only [step?, forward?, hnext] at h
    cases h
  | stop =>
    simp only [step?, hserving] at h
    cases h
  | abandon => cases h; exact ⟨⟨hs.isOver, hs.settingUp⟩, rfl⟩
  | halt => cases h; exact ⟨⟨rfl, rfl⟩, rfl⟩

def Attends (w : Worker) : Prop := w.serving = false → w.settingUp = none

theorem attends_of_step (h : w.step? a = some w') (hw : w.Attends) : w'.Attends := by
  intro hs'
  have kept (hs : w'.serving = w.serving) (hu : w'.settingUp = w.settingUp) :
      w'.settingUp = none := by
    rw [hu]
    exact hw (hs ▸ hs')
  cases a with
  | receive =>
    obtain ⟨hs, _, e, rest, _, rfl⟩ := receive?_eq_some h
    have hserving : ({ w with inbox := rest }.handle e).serving = w.serving := by
      cases e with
      | request id kind payload =>
        have hh := handled { w with inbox := rest } id kind payload
        generalize ({ w with inbox := rest }.handle (.request id kind payload)) = w' at hh
        cases hh with
        | refused _ _ _ => exact serving_post ..
        | again _ _ _ _ => exact serving_post ..
        | begun _ _ _ _ => rfl
        | unknown _ _ => rfl
        | early _ _ _ _ => exact serving_post ..
        | spawned _ _ _ _ _ => rfl
      | _ => rfl
    rw [hserving, hs] at hs'
    cases hs'
  | provide p =>
    obtain ⟨_, _, _, rfl⟩ := provide_eq_some h
    exact endSetUp_kept.1
  | run n =>
    obtain ⟨g, t, hg, _, h⟩ := withTask_eq_some h
    cases ran_of_run? hg h with
    | ended r _ => exact kept (serving_post ..) (settingUp_post ..)
    | waits w₁ p hq _ => exact kept hq.serving hq.settingUp
    | goesOn w₁ x p hq _ _ => exact kept hq.serving hq.settingUp
  | endCall n e =>
    obtain ⟨g, t, hg, _, h⟩ := withTask_eq_some h
    rcases endCall?_eq_some hg h with ⟨r, p, _, _, rfl⟩ | ⟨_, w₁, hq, rfl⟩
    · exact kept rfl rfl
    · exact kept ((serving_post ..).trans hq.serving) ((settingUp_post ..).trans hq.settingUp)
  | forward =>
    obtain ⟨w₁, es, hq, _, rfl⟩ := forward?_eq_some h
    exact kept hq.serving hq.settingUp
  | stop =>
    simp only [step?, Bool.and_eq_true, Option.isNone_iff_eq_none] at h
    split at h
    · rename_i hc
      cases h
      exact hc.2
    · cases h
  | abandon => cases h; exact kept rfl rfl
  | halt => cases h; rfl

end Worker

end ChatBridge
