import ChatBridge.Proofs.Worker.Omission
import ChatBridge.Proofs.Worker.Traffic

/-!
# The run of the others

A run is a run without one of its tasks too, as long as each step of the task is mild: the others make
the same turns there, and the canister becomes known when the task sets it. What can follow there can
follow here once the task is at no gate.
-/

namespace ChatBridge

namespace Worker

def stepsBeside (o : Option Nat) (ss : History) : History := ss.filter fun s => !ofTask o s

/-- A turn, or the canister of the user becomes known from elsewhere. -/
inductive Move where
  | turn (x : Turn)
  | learn (canister : String)

def move? (w : Worker) : Move → Option Worker
  | .turn x => w.react? x
  | .learn c => w.agent.map fun g => { w with agent := some { g with userCanister := some c } }

def Turn.moves (o : Option Nat) : Turn → List Move
  | .collect => []
  | x => [.turn (x.renumbered o)]

def rest (o : Option Nat) (s : Step Worker Turn) : List Move :=
  if ofTask o s then (sets? s).toList.map .learn else s.action.moves o

variable {w w' w₀ : Worker} {x : Turn} {n m : Nat} {o : Option Nat} {t t₀ : Task} {g : Agent}
  {ss pre late : History} {s : Step Worker Turn} {id kind : String} {payload : Json} {f : Fault}
  {disk : Option DataDir} {now : UInt64} {inbox inbox' outbox : List Envelope}
  {calls : List ServiceCall}

theorem lt_nextTask_of_react (h : w.react? x = some w') (hm : m < w.nextTask) : m < w'.nextTask := by
  by_cases hx : x.task? = some m
  · obtain ⟨_, t, _, ht, _⟩ := stepper_of_react h hx
    rw [(own_of_task? h hx ht).1]
    exact hm
  · exact (task?_of_other h hx hm).1

theorem lt_nextTask_of_queue (gate : Gate) (run : Run react? (start disk now) ss w)
    (hg : w.agent = some g) (hm : m ∈ g.queue gate) : m < w.nextTask := by
  induction run generalizing g with
  | nil => cases hg
  | @snoc ss w x w' run h ih =>
    rcases mem_queue_of_react gate h hg hm with ⟨g₀, hg₀, hm₀⟩ | ⟨_, t, _, ht, _⟩
    · exact lt_nextTask_of_react h (ih hg₀ hm₀)
    · exact lt_nextTask_of_react h ((ledger_of_run run).fresh (by rw [ht]; rfl))

theorem without_of_lt (hq : ∀ n, o = some n → ∀ g, w.agent = some g → ∀ gate, ∀ m ∈ g.queue gate, m < n)
    (ht : ∀ n, o = some n → ∀ t ∈ w.tasks, t.number < n) (hn : ∀ n, o = some n → w.nextTask ≤ n) :
    w.without o inbox w.outbox w.calls = { w with inbox := inbox } := by
  have hagent : w.agent.map (Agent.without o) = w.agent := by
    refine (Option.map_congr fun g hg => ?_).trans Option.map_id_apply
    have hothers (gate : Gate) : others o (g.queue gate) = g.queue gate :=
      others_of_lt fun n ho m hm => hq n ho g hg gate m hm
    have hresolving : others o g.resolving = g.resolving := hothers .resolving
    have hsaving : others o g.saving = g.saving := hothers .saving
    rw [Agent.without, hresolving, hsaving]
    rfl
  have htasks : (w.tasks.filter (some ·.number ≠ o)).map (Task.renumbered o) = w.tasks := by
    have hkeep : w.tasks.filter (some ·.number ≠ o) = w.tasks := by
      rw [List.filter_eq_self]
      intro t htm
      refine decide_eq_true fun he => ?_
      exact Nat.lt_irrefl _ (ht _ he.symm t htm)
    rw [hkeep]
    refine (List.map_congr_left fun t htm => ?_).trans (List.map_id _)
    rw [Task.renumbered, shift_of_le fun n ho => Nat.le_of_lt (ht n ho t htm)]
    rfl
  unfold without
  rw [hagent, htasks, shift_of_le hn]

theorem without_none : w.without none inbox w.outbox w.calls = { w with inbox := inbox } :=
  without_of_lt nofun nofun nofun

/-! ## The inbox -/

theorem collect_eq_some (h : w.react? .collect = some w') : ∃ es, w' = { w with outbox := es } := by
  unfold react? at h
  dsimp only at h
  split at h
  · cases h
  · cases h; exact ⟨_, rfl⟩

theorem fed_of_react (h : w.react? x = some w') : Fed w x w.inbox w'.inbox := by
  cases x with
  | deliver e => cases h; exact .deliver e _
  | collect =>
    obtain ⟨es, rfl⟩ := collect_eq_some h
    exact .other _ _ nofun nofun
  | act a =>
    have hi := (passing_of_step h).inbox
    cases a with
    | receive =>
      obtain ⟨_, _, e, rest, he, _⟩ := receive?_eq_some h
      have hr : received? ⟨w, .act .receive, w'⟩ = some e := congrArg List.head? he
      rw [hr] at hi
      rw [hi]
      exact .receive e _ (congrArg List.head? he)
    | _ =>
      rw [show w.inbox = w'.inbox from hi]
      exact .other _ _ nofun nofun

theorem inbox_of_own (h : w.react? x = some w') (hx : x.task? = some n) : w'.inbox = w.inbox := by
  have hfed := fed_of_react h
  generalize w.inbox = i, w'.inbox = i' at hfed
  cases hfed with
  | deliver _ _ => cases hx
  | receive _ _ _ => cases hx
  | other _ _ _ _ => rfl

/-! ## A step of the task -/

section
variable (h : w.react? x = some w') (hx : x.task? = some n) (ht : w.task? n = some t)
include h hx ht

theorem moves_of_own (hm : t.program.Mild) (inbox outbox : List Envelope) (calls : List ServiceCall) :
    ∃ tt, Run move? (w.without (some n) inbox outbox calls) tt
        (w'.without (some n) inbox outbox calls) ∧
      tt.map (·.action) = rest (some n) ⟨w, x, w'⟩ := by
  obtain ⟨g, t', hg, ht', hstep⟩ := stepper_of_react h hx
  cases ht.symm.trans ht'
  have hnum : some t.number = some n := congrArg some (number_of_task? ht)
  have hown : rest (some n) ⟨w, x, w'⟩ = (sets? ⟨w, x, w'⟩).toList.map .learn :=
    if_pos (ofTask_eq_true.mpr ⟨n, rfl, hx⟩)
  have stays (hs : sets? ⟨w, x, w'⟩ = none)
      (hw : w'.without (some n) inbox outbox calls = w.without (some n) inbox outbox calls) :
      ∃ tt, Run move? (w.without (some n) inbox outbox calls) tt
          (w'.without (some n) inbox outbox calls) ∧
        tt.map (·.action) = rest (some n) ⟨w, x, w'⟩ := by
    refine ⟨[], hw ▸ .nil, ?_⟩
    rw [hown, hs]
    rfl
  rcases hstep with ⟨rfl, hrun⟩ | ⟨e, rfl, hend⟩
  · by_cases hs : ∃ c next, t.program = .setUserCanister c next
    · obtain ⟨c, next, hp⟩ := hs
      obtain ⟨hagent, hw⟩ := without_of_set hnum hg hp hrun
      have hlearn : (w.without (some n) inbox outbox calls).move? (.learn c) =
          some (w'.without (some n) inbox outbox calls) := by
        show (w.without (some n) inbox outbox calls).agent.map _ = _
        rw [hagent, hw]
        rfl
      refine ⟨_, .single hlearn, ?_⟩
      rw [hown, sets?, stepper?_run hg ht, Option.bind_some]
      simp only [hp]
      rfl
    · refine stays ?_ (without_of_run? hnum hg hm (fun c next hp => hs ⟨c, next, hp⟩) hrun)
      simp only [sets?, stepper?_run hg ht, Option.bind_some]
      split
      · rename_i c next hp
        exact absurd ⟨c, next, hp⟩ hs
      · rfl
  · exact stays rfl (without_of_endCall? hnum hg hend)

end

/-! ## A step of another -/

theorem moves_of_turns (run : Run react? w₀ ss w) :
    ∃ tt, Run move? w₀ tt w ∧ tt.map (·.action) = ss.map (Move.turn ·.action) := by
  induction run with
  | nil => exact ⟨[], .nil, rfl⟩
  | @snoc ss w x w' _ h ih =>
    obtain ⟨tt, hrun, hactions⟩ := ih
    have hmove : w.move? (.turn x) = some w' := h
    refine ⟨_, hrun.snoc hmove, ?_⟩
    rw [List.map_append, List.map_append, hactions]
    rfl

theorem calls_of_react (h : w.react? x = some w') : ∃ cs, w'.calls = w.calls ++ cs := by
  by_cases hc : x = .collect
  · subst hc
    obtain ⟨es, rfl⟩ := collect_eq_some h
    exact ⟨[], (List.append_nil _).symm⟩
  · have hne (n : Nat) (_ : x.task? = some n) : some n ≠ none := nofun
    obtain ⟨_, cs, _, hcs, _⟩ := echoes_of_react (o := none) nofun (fed_of_react h) h hne hc
    exact ⟨cs, hcs⟩

theorem made_of_calls {cs : List ServiceCall} (h : w'.calls = w.calls ++ cs) :
    made ⟨w, x, w'⟩ = cs := by
  show w'.calls.drop w.calls.length = cs
  rw [h, List.drop_left]

theorem posted_of_react {es : List Envelope} (h : w.react? x = some w') (hc : x ≠ .collect)
    (ho : w'.outbox = w.outbox ++ es) : posted ⟨w, x, w'⟩ = es := by
  cases x with
  | deliver e =>
    cases h
    exact (List.self_eq_append_right.mp ho).symm
  | collect => exact absurd rfl hc
  | act a => exact posted_of_outbox ho

theorem moves_of_other (h : w.react? x = some w') (hf : ∀ n, o = some n → n < w.nextTask)
    (hx : ofTask o ⟨w, x, w'⟩ = false) (outbox : List Envelope) (calls : List ServiceCall) :
    ∃ tt, Run move? (w.without o w.inbox outbox calls) tt
        (w'.without o w'.inbox (outbox ++ posted ⟨w, x, w'⟩) (calls ++ made ⟨w, x, w'⟩)) ∧
      tt.map (·.action) = rest o ⟨w, x, w'⟩ := by
  have hrest : rest o ⟨w, x, w'⟩ = x.moves o := by
    rw [rest, hx, if_neg Bool.false_ne_true]
  rw [hrest]
  by_cases hc : x = .collect
  · subst hc
    obtain ⟨es, rfl⟩ := collect_eq_some h
    have hmade : made ⟨w, .collect, { w with outbox := es }⟩ = [] :=
      made_of_calls (List.append_nil w.calls).symm
    have hposted : posted ⟨w, .collect, { w with outbox := es }⟩ = [] := rfl
    rw [hmade, hposted, List.append_nil, List.append_nil]
    exact ⟨[], .nil, rfl⟩
  · have hne (n : Nat) (hn : x.task? = some n) : some n ≠ o := by
      rintro rfl
      rw [ofTask_eq_true.mpr ⟨n, rfl, hn⟩] at hx
      cases hx
    obtain ⟨es, cs, ho, hcs, hv⟩ := echoes_of_react hf (fed_of_react h) h hne hc
    rw [posted_of_react h hc ho, made_of_calls hcs]
    have hmove : (w.without o w.inbox outbox calls).move? (.turn (x.renumbered o)) =
        some (w'.without o w'.inbox (outbox ++ es) (calls ++ cs)) := hv outbox calls
    have hmoves : x.moves o = [.turn (x.renumbered o)] := by
      cases x with
      | collect => exact absurd rfl hc
      | _ => rfl
    exact ⟨_, .single hmove, hmoves.symm⟩

/-! ## An envelope that is not delivered -/

theorem react?_of_fed (hi : Fed w x inbox inbox') (h : w.react? x = some w') :
    ({ w with inbox := inbox } : Worker).react? x = some { w' with inbox := inbox' } := by
  by_cases hc : x = .collect
  · subst hc
    cases hi
    unfold react? at h ⊢
    dsimp only at h ⊢
    split at h
    · cases h
    · cases h; rfl
  · have hne (n : Nat) (_ : x.task? = some n) : some n ≠ none := nofun
    obtain ⟨es, cs, ho, hcs, hv⟩ := echoes_of_react (o := none) nofun hi h hne hc
    have hv := hv w.outbox w.calls
    rw [← ho, ← hcs, without_none, without_none] at hv
    have hx : x.renumbered none = x := by
      cases x with
      | act a => cases a <;> rfl
      | _ => rfl
    rwa [hx] at hv

/-- An envelope that is in the inbox now has just been delivered, or it was there before, and then the
step does not need it. -/
theorem delivers_of_react {e : Envelope} {front back : List Envelope} (h : w.react? x = some w')
    (hi : w'.inbox = front ++ e :: back) : (x = .deliver e ∧ w.inbox = front ∧ back = []) ∨
      ∃ front' back', w.inbox = front' ++ e :: back' ∧ Fed w x (front' ++ back') (front ++ back) := by
  have hfed := fed_of_react h
  rw [hi] at hfed
  generalize hw : w.inbox = i, hi' : front ++ e :: back = i' at hfed
  cases hfed with
  | deliver a _ =>
    rcases List.eq_nil_or_concat back with rfl | ⟨back, b, rfl⟩
    · obtain ⟨hfront, he⟩ := List.append_inj' hi' rfl
      cases he
      exact .inl ⟨rfl, hfront.symm, rfl⟩
    · rw [List.concat_eq_append, ← List.cons_append, ← List.append_assoc] at hi'
      obtain ⟨hfront, he⟩ := List.append_inj' hi' rfl
      cases he
      refine .inr ⟨front, back, hfront.symm, ?_⟩
      rw [List.concat_eq_append, ← List.append_assoc]
      exact .deliver a _
  | receive a _ ha => exact .inr ⟨a :: front, back, congrArg (a :: ·) hi'.symm, .receive a _ ha⟩
  | other _ _ hd hr => exact .inr ⟨front, back, hi'.symm, .other _ _ hd hr⟩

theorem undelivered_of_run {e : Envelope} {front back : List Envelope}
    (run : Run react? (start disk now) ss w) (hi : w.inbox = front ++ e :: back) :
    ∃ before d mid tt, ss = before ++ d :: mid ∧ d.action = .deliver e ∧
      Run react? (start disk now) tt { w with inbox := front ++ back } ∧
      tt.map (·.action) = (before ++ mid).map (·.action) := by
  induction run generalizing front back with
  | nil => exact absurd hi.symm (List.append_ne_nil_of_right_ne_nil _ (List.cons_ne_nil _ _))
  | @snoc ss w x w' run h ih =>
    rcases delivers_of_react h hi with ⟨rfl, rfl, rfl⟩ | ⟨front', back', hi', hfed⟩
    · cases h
      refine ⟨ss, _, [], ss, rfl, rfl, ?_, by rw [List.append_nil]⟩
      rw [List.append_nil]
      exact run
    · obtain ⟨before, d, mid, tt, rfl, hd, hrun, hactions⟩ := ih hi'
      refine ⟨before, d, mid ++ [⟨w, x, w'⟩], _, by simp, hd, hrun.snoc (react?_of_fed hfed h), ?_⟩
      rw [List.map_append, hactions, ← List.append_assoc, List.map_append, List.map_append,
        List.map_append]
      rfl

/-! ## The whole run -/

theorem stepsBeside_append (ss tt : History) :
    stepsBeside o (ss ++ tt) = stepsBeside o ss ++ stepsBeside o tt :=
  List.filter_append _ _

theorem stepsBeside_of_stepsOf (h : stepsOf o ss = []) : stepsBeside o ss = ss := by
  refine List.filter_eq_self.mpr fun s hs => ?_
  have hother := List.filter_eq_nil_iff.mp h s hs
  rw [Bool.not_eq_true] at hother
  rw [hother]
  rfl

theorem stepsBeside_of_own (h : ofTask o s = true) : stepsBeside o (ss ++ [s]) = stepsBeside o ss := by
  rw [stepsBeside_append, stepsBeside, stepsBeside, List.filter_singleton, h]
  exact List.append_nil _

theorem stepsBeside_of_other (h : ofTask o s = false) :
    stepsBeside o (ss ++ [s]) = stepsBeside o ss ++ [s] := by
  rw [stepsBeside_append, stepsBeside, stepsBeside, List.filter_singleton, h]
  rfl

theorem lt_nextTask_of_run (run : Run react? w₀ late w) (hn : n < w₀.nextTask) : n < w.nextTask := by
  induction run with
  | nil => exact hn
  | snoc _ h ih => exact lt_nextTask_of_react h ih

/-- The run of the others, where each step of the task is mild. -/
theorem moves_of_run (run : Run react? w₀ late w) (hf : ∀ n, o = some n → n < w₀.nextTask)
    (hm : ∀ s ∈ stepsOf o late, ∀ n t, o = some n → s.before.task? n = some t → t.program.Mild)
    (outbox : List Envelope) (calls : List ServiceCall) :
    ∃ tt, Run move? (w₀.without o w₀.inbox outbox calls) tt
        (w.without o w.inbox (outbox ++ (stepsBeside o late).flatMap posted)
          (calls ++ (stepsBeside o late).flatMap made)) ∧
      tt.map (·.action) = late.flatMap (rest o) := by
  induction run with
  | nil => exact ⟨[], by simpa [stepsBeside] using Run.nil, rfl⟩
  | @snoc ss w x w' run h ih =>
    have hearlier (s : Step Worker Turn) (hs : s ∈ stepsOf o ss) :
        s ∈ stepsOf o (ss ++ [⟨w, x, w'⟩]) := by
      rw [stepsOf_snoc]
      exact List.mem_append_left _ hs
    obtain ⟨tt, hrun, hactions⟩ := ih fun s hs => hm s (hearlier s hs)
    cases hx : ofTask o ⟨w, x, w'⟩ with
    | true =>
      obtain ⟨n, rfl, hown⟩ := ofTask_eq_true.mp hx
      obtain ⟨_, t, _, ht, _⟩ := stepper_of_react h hown
      have hlast : ⟨w, x, w'⟩ ∈ stepsOf (some n) (ss ++ [(⟨w, x, w'⟩ : Step Worker Turn)]) :=
        List.mem_filter.mpr ⟨List.mem_append_right _ (List.mem_singleton_self _), hx⟩
      rw [stepsBeside_of_own hx, inbox_of_own h hown]
      obtain ⟨tt', hrun', hactions'⟩ := moves_of_own h hown ht (hm _ hlast n t rfl ht)
        w.inbox (outbox ++ (stepsBeside (some n) ss).flatMap posted)
        (calls ++ (stepsBeside (some n) ss).flatMap made)
      refine ⟨tt ++ tt', hrun.append hrun', ?_⟩
      rw [List.map_append, hactions, hactions', List.flatMap_append, List.flatMap_singleton]
    | false =>
      rw [stepsBeside_of_other hx, List.flatMap_append, List.flatMap_append, List.flatMap_singleton,
        List.flatMap_singleton, ← List.append_assoc, ← List.append_assoc]
      have hfresh : ∀ n, o = some n → n < w.nextTask := fun n ho => lt_nextTask_of_run run (hf n ho)
      obtain ⟨tt', hrun', hactions'⟩ := moves_of_other h hfresh hx
        (outbox ++ (stepsBeside o ss).flatMap posted) (calls ++ (stepsBeside o ss).flatMap made)
      refine ⟨tt ++ tt', hrun.append hrun', ?_⟩
      rw [List.map_append, hactions, hactions', List.flatMap_append, List.flatMap_singleton]

/-! ## What follows -/

def Outside (o : Option Nat) (w : Worker) : Prop :=
  ∀ g, w.agent = some g → ∀ gate, ∀ n ∈ g.queue gate, some n ≠ o

theorem outside_of_react (hout : Outside o w) (h : w.react? x = some w')
    (hx : ∀ n, x.task? = some n → some n ≠ o) : Outside o w' := by
  intro g hg gate n hn
  rcases mem_queue_of_react gate h hg hn with ⟨g₀, hg₀, hold⟩ | ⟨hown, _⟩
  · exact hout g₀ hg₀ gate n hold
  · exact hx n hown

theorem run_of_without (hf : ∀ n, o = some n → n < w₀.nextTask) (hout : Outside o w₀) {yy : History}
    (run : Run react? (w₀.without o w₀.inbox outbox calls) yy w')
    (hc : ∀ y ∈ yy, y.action ≠ .collect) :
    ∃ zz w, Run react? w₀ zz w ∧ stepsOf o zz = [] ∧ Outside o w ∧
      w' = w.without o w.inbox (outbox ++ zz.flatMap posted) (calls ++ zz.flatMap made) ∧
      yy.map (·.action) = zz.map (·.action.renumbered o) := by
  induction run with
  | nil => exact ⟨[], w₀, .nil, rfl, hout, by simp, rfl⟩
  | @snoc yy v y v' _ h ih =>
    obtain ⟨zz, w, hrun, hsteps, hout, rfl, hactions⟩ :=
      ih fun y hy => hc y (List.mem_append_left _ hy)
    have hy : y ≠ .collect := hc ⟨_, y, v'⟩ (List.mem_append_right _ (List.mem_singleton_self _))
    obtain ⟨z, rfl, hz, hsome⟩ := exists_turn_of_without hout (by rw [h]; rfl) hy
    obtain ⟨w', hstep⟩ := Option.isSome_iff_exists.mp hsome
    have hzc : z ≠ .collect := by
      rintro rfl
      exact hy rfl
    have hfresh : ∀ n, o = some n → n < w.nextTask := fun n ho => lt_nextTask_of_run hrun (hf n ho)
    obtain ⟨es, cs, ho, hcs, hv⟩ := echoes_of_react hfresh (fed_of_react hstep) hstep hz hzc
    refine ⟨zz ++ [⟨w, z, w'⟩], w', hrun.snoc hstep, ?_, outside_of_react hout hstep hz, ?_, ?_⟩
    · have hother : ofTask o ⟨w, z, w'⟩ = false := by
        refine Bool.eq_false_iff.mpr fun hown => ?_
        obtain ⟨n, rfl, hn⟩ := ofTask_eq_true.mp hown
        exact hz n hn rfl
      rw [stepsOf_snoc, hsteps, hother]
      rfl
    · rw [List.flatMap_append, List.flatMap_append, List.flatMap_singleton, List.flatMap_singleton,
        posted_of_react hstep hzc ho, made_of_calls hcs, ← List.append_assoc, ← List.append_assoc]
      exact Option.some.inj (h.symm.trans (hv _ _))
    · rw [List.map_append, List.map_append, hactions]
      rfl

end Worker
end ChatBridge
