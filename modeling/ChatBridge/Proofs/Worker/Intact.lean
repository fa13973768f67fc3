import ChatBridge.Proofs.Agent.Faults
import ChatBridge.Proofs.Worker.Beside

/-!
# A request that fails leaves nothing behind

If a request that finds the agent there is answered with an error, then its task has spared what all
requests share, it has left the gates, and the others have done the same as without it. All that it can
have left is the canister of the user, which it has asked for because nobody knew it.
-/

namespace ChatBridge

namespace Worker

/-! ## Reading a run -/

def startedTask? (x : Step Worker Turn) : Option Nat :=
  (x.after.task? x.before.nextTask).map (·.number)

/-- The replies to the request that `x` receives, of itself and of its task. -/
def repliesTo (x : Step Worker Turn) (late : History) : List Envelope :=
  repliesOf x ++ (stepsOf (startedTask? x) late).flatMap repliesOf

def unasked (w : Worker) : Worker := { w with inbox := w.inbox.tail }

variable {w w' w₀ : Worker} {x : Turn} {n m : Nat} {o : Option Nat} {t t₀ : Task} {g : Agent}
  {ss pre late : History} {s : Step Worker Turn} {id kind : String} {payload : Json} {f : Fault}
  {disk : Option DataDir} {now : UInt64} {inbox outbox : List Envelope} {calls : List ServiceCall}

/-! ## Without the task -/

theorem spawn_without_self {config : AgentConfig} {c : Capability} :
    (w.spawn config id c payload).without (some w.nextTask) inbox outbox calls =
      w.without (some w.nextTask) inbox outbox calls := by
  unfold spawn without
  congr 1
  · simp
  · simp [shift]

/-! ## The request is received -/

/-- What the step `x` does that receives a request where the agent is there: it answers it, passes it
over, or starts a task for it. -/
inductive Begins (x : Step Worker Turn) (id kind : String) (payload : Json) : Prop
  | answered (e : Envelope) (hs : startedTask? x = none) (hx : x.after = x.before.unasked.post e)
  | passedOver (hs : startedTask? x = none) (hx : x.after = x.before.unasked)
  | started (c : Capability) (g : Agent) (hc : Capability.ofKind? kind = some c)
      (hg : x.before.agent = some g) (ht : x.after.task? x.before.nextTask =
        some ⟨x.before.nextTask, id, c.kind, Operation.handle g.config c payload, .running⟩)
      (hr : repliesOf x = []) (hx : x.after = x.before.unasked.spawn g.config id c payload)

theorem startedTask?_of_task? (h : s.after.task? s.before.nextTask = some t) :
    startedTask? s = some s.before.nextTask := by
  rw [startedTask?, h]
  exact congrArg some (number_of_task? h)

theorem begins_of_received (run : Run react? (start disk now) pre s.before)
    (hstep : s.before.react? s.action = some s.after)
    (hs : received? s = some (.request id kind payload)) (ha : s.before.agent.isSome = true) :
    Begins s id kind payload := by
  have hfresh := (ledger_of_run run).not_owes_next
  obtain ⟨w, x, w'⟩ := s
  unfold received? at hs
  split at hs
  · rename_i hx
    cases (show x = .act .receive from hx)
    obtain ⟨_, hset, e, rest, hi, hw⟩ := receive?_eq_some hstep
    have hw : w' = ({ w with inbox := rest } : Worker).handle e := hw
    subst hw
    rw [hi] at hs
    cases hs
    have hunasked : w.unasked = { w with inbox := rest } := by rw [unasked, hi]; rfl
    have none_of_tasks {v : Worker} (hv : v.tasks = w.tasks) :
        startedTask? ⟨w, .act .receive, v⟩ = none := by
      show (v.task? w.nextTask).map _ = none
      rw [task?_of_tasks hv, hfresh]
      rfl
    have hh := handled { w with inbox := rest } id kind payload
    generalize ({ w with inbox := rest } : Worker).handle (.request id kind payload) = v at hh
    rw [← hunasked] at hh
    cases hh with
    | refused y _ _ => exact .answered _ (none_of_tasks (tasks_post _ _)) rfl
    | again _ _ _ _ => exact .answered _ (none_of_tasks (tasks_post _ _)) rfl
    | begun _ _ _ hnone => rw [show w.agent = none from hnone] at ha; cases ha
    | unknown _ _ => exact .passedOver (none_of_tasks rfl) rfl
    | early _ _ _ hnone => rw [show w.agent = none from hnone] at ha; cases ha
    | spawned c g _ hc hg =>
      refine .started c g hc hg ?_ (repliesOf_of_outbox rfl) rfl
      have hn : w.unasked.task? w.unasked.nextTask = none := hfresh
      exact (task?_spawn hn w.unasked.nextTask).trans (if_pos rfl)
  · cases hs

theorem spares_of_begins (h : Begins s id kind payload) : Spares s.before s.after ∧
    s.after.canister? = s.before.canister? ∧ made s = [] := by
  have hspares (e : Envelope) : Spares s.before (s.before.unasked.post e) :=
    ⟨events_post _ _, disk_post _ _, whose_of_agent (agent_post _ _), congrArg _ (agent_post _ _)⟩
  have hcalls (w : Worker) (hw : w.calls = s.before.calls) :
      w.calls.drop s.before.calls.length = [] := by
    rw [hw, List.drop_length]
  unfold made
  cases h with
  | answered e _ hx =>
    rw [hx]
    exact ⟨hspares e, congrArg (Option.bind · _) (agent_post _ _), hcalls _ (calls_post _ _)⟩
  | passedOver _ hx => rw [hx]; exact ⟨⟨rfl, rfl, rfl, rfl⟩, rfl, hcalls _ rfl⟩
  | started _ _ _ _ _ _ hx => rw [hx]; exact ⟨⟨rfl, rfl, rfl, rfl⟩, rfl, hcalls _ rfl⟩

theorem without_of_begins (run : Run react? (start disk now) pre s.before)
    (h : Begins s id kind payload) :
    s.after.without (startedTask? s) s.after.inbox s.before.outbox s.before.calls =
      s.before.unasked := by
  have hnone : s.before.unasked.without none s.before.unasked.inbox s.before.outbox s.before.calls =
      s.before.unasked := without_none
  cases h with
  | answered e hs hx => rw [hs, hx, post_without_self, inbox_post, hnone]
  | passedOver hs hx => rw [hs, hx, hnone]
  | started c g _ hg ht _ hx =>
    rw [startedTask?_of_task? ht, hx]
    refine spawn_without_self.trans (without_of_lt ?_ ?_ ?_)
    · rintro n ⟨⟩ g' hg' gate m hm
      have hlt : m < s.before.nextTask := lt_nextTask_of_queue gate run hg' hm
      exact hlt
    · rintro n ⟨⟩ t ht
      have hlt : t.number < s.before.nextTask := number_lt (ledger_of_run run) ht
      exact hlt
    · rintro n ⟨⟩
      exact Nat.le_refl _

/-! ## A step of the task -/

section
variable (h : w.react? x = some w') (hx : x.task? = some n) (ht : w.task? n = some t)
include h hx ht

theorem spares_of_own (hm : t.program.Mild) : Spares w w' := by
  obtain ⟨g, t', hg, ht', hstep⟩ := stepper_of_react h hx
  cases ht.symm.trans ht'
  rcases hstep with ⟨_, hrun⟩ | ⟨_, _, hend⟩
  · exact spares_of_run? hg hm hrun
  · exact spares_of_endCall? hg hend

theorem canister?_of_own : w'.canister? = w.canister? ∨
    ∃ c next, t.program = .setUserCanister c next ∧ w'.canister? = some c := by
  obtain ⟨g, t', hg, ht', hstep⟩ := stepper_of_react h hx
  cases ht.symm.trans ht'
  rcases hstep with ⟨_, hrun⟩ | ⟨_, _, hend⟩
  · by_cases hs : ∃ c next, t.program = .setUserCanister c next
    · obtain ⟨c, next, hp⟩ := hs
      refine .inr ⟨c, next, hp, ?_⟩
      rw [canister?_of_site (moves_of_run? hg ht hrun).site]
      simp only [Task.siteAfter, hp]
    · exact .inl (slot_of_run? hg ht (fun c next hp => hs ⟨c, next, hp⟩) hrun)
  · left
    obtain ⟨_, _, _, _, ⟨_, _, hm⟩ | ⟨_, hm⟩⟩ := moves_of_endCall? hg ht hend
    · rw [canister?_of_site hm.site, canister?_of_site (site?_of_agent hg)]
    · rw [canister?_of_site hm.site, canister?_of_site (site?_of_agent hg)]

end

/-! ## A task that ends with an error -/

section
variable {config : AgentConfig} {c : Capability} (run : Run react? w₀ late w) (hn : n < w₀.nextTask)
  (ht : w₀.task? n = some t₀) (hp : t₀.program = Operation.handle config c payload)
  (hr : .error id f ∈ (stepsOf (some n) late).flatMap repliesOf)
include run hn ht hp hr

theorem failing_of_split {before after : History} (hs : late = before ++ s :: after)
    (ho : ofTask (some n) s = true) : s.before.react? s.action = some s.after ∧
      s.action.task? = some n ∧ ∃ t, s.before.task? n = some t ∧ t.program.Mild ∧
        ¬ t.program.Assured ∧
        (Operation.handle config c payload).follow (toldTo (some n) before) = some t.program := by
  obtain ⟨hrun, hstep⟩ := run.before_of_split hs
  obtain ⟨_, hn', hown⟩ := ofTask_eq_true.mp ho
  cases hn'
  obtain ⟨_, t, _, hst, _⟩ := stepper_of_react hstep hown
  have hunsettled := ((followed_of_run run hn ht).failed id f hr).1
  have hmem : s ∈ stepsOf (some n) late := by
    rw [hs]
    exact List.mem_filter.mpr ⟨List.mem_append_right _ List.mem_cons_self, ho⟩
  have hnot := hunsettled s hmem t hst
  obtain ⟨_, _, hfollow⟩ := (followed_of_run hrun hn ht).task t hst
  rw [hp] at hfollow
  exact ⟨hstep, hown, t, hst, ((Operation.restrained_handle config c payload).follow hfollow).mild hnot,
    hnot, hfollow⟩

theorem failing_of_mem (hs : s ∈ stepsOf (some n) late) : s.before.react? s.action = some s.after ∧
    s.action.task? = some n ∧ ∃ t, s.before.task? n = some t ∧ t.program.Mild ∧
      ¬ t.program.Assured ∧ ∃ told,
        (Operation.handle config c payload).follow told = some t.program := by
  obtain ⟨hs, ho⟩ := List.mem_filter.mp hs
  obtain ⟨before, after, hsplit⟩ := List.append_of_mem hs
  obtain ⟨hstep, hown, t, hst, hm, hnot, hfollow⟩ := failing_of_split run hn ht hp hr hsplit ho
  exact ⟨hstep, hown, t, hst, hm, hnot, _, hfollow⟩

theorem mild_of_failing : ∀ s ∈ stepsOf (some n) late, ∀ m t, some n = some m →
    s.before.task? m = some t → t.program.Mild := by
  rintro s hs m t ⟨⟩ hst
  obtain ⟨_, _, t', hst', hm, _⟩ := failing_of_mem run hn ht hp hr hs
  cases hst.symm.trans hst'
  exact hm

theorem made_of_invalidPayload {k msg : String} (hf : f = .invalidPayload k msg)
    (hs : s ∈ stepsOf (some n) late) : made s = [] := by
  subst hf
  obtain ⟨hstep, hown, t, hst, _, _, told, hfollow⟩ := failing_of_mem run hn ht hp hr hs
  have hfail : ∃ f, Operation.handle config c payload = .fail f := by
    have hend := ((followed_of_run run hn ht).failed id _ hr).2.2.2
    rw [hp] at hend
    exact Operation.fails_of_invalidPayload config (hend.resolve_right nofun)
  obtain ⟨f, hhandle⟩ := hfail
  rw [hhandle] at hfollow
  have hprogram : t.program = .fail f := Program.eq_of_follow_fail hfollow
  obtain ⟨g, t', hg, hst', hrun⟩ := stepper_of_react hstep hown
  cases hst.symm.trans hst'
  obtain ⟨w, x, w'⟩ := s
  rcases hrun with ⟨_, hrun⟩ | ⟨e, _, hend⟩
  · unfold run? at hrun
    simp only [hprogram] at hrun
    cases hrun
    exact made_of_calls ((calls_post _ _).trans (List.append_nil _).symm)
  · obtain ⟨c', next, hcall, _⟩ := moves_of_endCall? hg hst hend
    rw [hprogram] at hcall
    cases hcall

theorem not_saving_of_failing (hq : ∀ g, w₀.agent = some g → n ∉ g.saving) :
    ∀ g, w.agent = some g → n ∉ g.saving := by
  have hm := mild_of_failing run hn ht hp hr
  clear hr
  induction run with
  | nil => exact hq
  | @snoc ss w x w' run h ih =>
    intro g hg hmem
    have hearlier (s : Step Worker Turn) (hs : s ∈ stepsOf (some n) ss) :
        s ∈ stepsOf (some n) (ss ++ [⟨w, x, w'⟩]) := by
      rw [stepsOf_snoc]
      exact List.mem_append_left _ hs
    rcases mem_queue_of_react .saving h hg hmem with ⟨g₀, hg₀, hold⟩ | ⟨hx, t, next, ht', hpr⟩
    · exact ih (fun s hs => hm s (hearlier s hs)) g₀ hg₀ hold
    · have hlast : ⟨w, x, w'⟩ ∈ stepsOf (some n) (ss ++ [(⟨w, x, w'⟩ : Step Worker Turn)]) :=
        List.mem_filter.mpr ⟨List.mem_append_right _ (List.mem_singleton_self _),
          ofTask_eq_true.mpr ⟨n, rfl, hx⟩⟩
      have hmild := hm _ hlast n t rfl ht'
      rw [hpr] at hmild
      exact hmild

end

theorem not_resolving_of_error (run₀ : Run react? (start disk now) pre w₀) (run : Run react? w₀ late w)
    (hn : n < w₀.nextTask) (ht : w₀.task? n = some t₀)
    (hr : .error id f ∈ (stepsOf (some n) late).flatMap repliesOf) :
    ∀ g, w.agent = some g → n ∉ g.resolving := by
  induction run with
  | nil => cases hr
  | @snoc ss w x w' run h ih =>
    intro g hg hmem
    have hgone := ((followed_of_run (run.snoc h) hn ht).failed id f hr).2.1
    by_cases hold : .error id f ∈ (stepsOf (some n) ss).flatMap repliesOf
    · rcases mem_queue_of_react .resolving h hg hmem with ⟨g₀, hg₀, hin⟩ | ⟨_, t, _, ht', _⟩
      · exact ih hold g₀ hg₀ hin
      · cases ((followed_of_run run hn ht).failed id f hold).2.1.symm.trans ht'
    · have hx : ofTask (some n) ⟨w, x, w'⟩ = true := by
        cases ho : ofTask (some n) ⟨w, x, w'⟩ with
        | true => rfl
        | false =>
          rw [stepsOf_snoc, ho, if_neg Bool.false_ne_true, List.append_nil] at hr
          exact absurd hr hold
      obtain ⟨_, hn', hown⟩ := ofTask_eq_true.mp hx
      cases hn'
      obtain ⟨_, t, _, ht', _⟩ := stepper_of_react h hown
      have hresolving := resolving_of_run (run₀.append (run.snoc h))
      rcases hresolving.held (site?_of_agent hg) hmem with hhalted | hlive
      · have hne : x ≠ .act .halt := by
          rintro rfl
          cases hown
        rw [← List.append_assoc, halted_snoc hne] at hhalted
        cases ((resolving_of_run (run₀.append run)).ended hhalted).2 n ▸ ht'
      · rw [hgone] at hlive
        cases hlive

theorem calls_of_run (run : Run react? w₀ late w) : w.calls = w₀.calls ++ late.flatMap made := by
  induction run with
  | nil => exact (List.append_nil _).symm
  | @snoc ss w x w' run h ih =>
    obtain ⟨cs, hcs⟩ := calls_of_react h
    rw [List.flatMap_append, List.flatMap_singleton, made_of_calls hcs, hcs, ih, List.append_assoc]

/-! ## Main statement -/

/-- What is left at the end of `late` without the request that `x` receives. -/
def left (w : Worker) (x : Step Worker Turn) (late : History) : Worker :=
  w.without (startedTask? x) w.inbox
    (x.before.outbox ++ (stepsBeside (startedTask? x) late).flatMap posted)
    (x.before.calls ++ (stepsBeside (startedTask? x) late).flatMap made)

/-- The step sets the canister of a user who has been created. The task has been told of that user in
answer to its look-up, and before that, twice, that nobody knew the canister. -/
def SetsFound (x : Step Worker Turn) (kind : String) (payload : Json) (before : History)
    (s : Step Worker Turn) : Prop :=
  ∃ c config next r canister, Capability.ofKind? kind = some c ∧ x.before.config? = some config ∧
    (Operation.handle config c payload).follow [.canister none, .nothing, .canister none] =
      some (.call (Operation.whoAmI config) next) ∧
    toldTo (startedTask? x) before = [.canister none, .nothing, .canister none, .answer r] ∧
    Operation.created? r = some canister ∧ s.after.canister? = some canister

/-- The request that `x` receives after `ss` has left nothing behind at the end of `late` but the
canister. -/
structure Intact (disk : Option DataDir) (now : UInt64) (ss : History) (x : Step Worker Turn)
    (id kind : String) (payload : Json) (f : Fault) (late : History) (w : Worker) : Prop where
  spares : ∀ s ∈ x :: stepsOf (startedTask? x) late, Spares s.before s.after
  received : x.after.canister? = x.before.canister?
  canister : ∀ before s after, late = before ++ s :: after → ofTask (startedTask? x) s = true →
    s.after.canister? = s.before.canister? ∨ SetsFound x kind payload before s
  unread : ∀ k m, f = .invalidPayload k m → ∀ s ∈ x :: stepsOf (startedTask? x) late, made s = []
  gone : ∀ n, startedTask? x = some n → w.task? n = none ∧ Outside (some n) w
  calls : w.calls = x.before.calls ++ late.flatMap made
  /-- Where the request is not delivered, the others do the same. The canister becomes known there when
  the task sets it. -/
  same : ∃ before d mid tt, ss = before ++ d :: mid ∧ d.action = .deliver (.request id kind payload) ∧
    Run move? (start disk now) tt (w.left x late) ∧
    tt.map (·.action) =
      (before ++ mid).map (Move.turn ·.action) ++ late.flatMap (rest (startedTask? x))
  following : ∀ yy v, Run react? (w.left x late) yy v → (∀ y ∈ yy, y.action ≠ .collect) →
    ∃ zz w', Run react? w zz w' ∧ stepsOf (startedTask? x) zz = [] ∧ v = w'.left x (late ++ zz) ∧
      yy.map (·.action) = zz.map (·.action.renumbered (startedTask? x))

theorem inbox_of_received {x : Step Worker Turn} {e : Envelope} (h : received? x = some e) :
    x.before.inbox = [] ++ e :: x.before.unasked.inbox := by
  unfold received? at h
  split at h
  · exact (List.cons_head?_tail (Option.mem_def.mpr h)).symm
  · cases h

theorem stepsOf_none (ss : History) : stepsOf none ss = [] := by
  refine List.filter_eq_nil_iff.mpr fun s _ hs => ?_
  obtain ⟨_, hn, _⟩ := ofTask_eq_true.mp hs
  cases hn

theorem intact_of_own {x : Step Worker Turn} (hpre : Run react? (start disk now) pre x.before)
    (hstep : x.before.react? x.action = some x.after) (hlate : Run react? x.after late w)
    (hx : received? x = some (.request id kind payload)) (hb : Begins x id kind payload)
    (hown : ∀ s ∈ stepsOf (startedTask? x) late, Spares s.before s.after)
    (hcanister : ∀ before s after, late = before ++ s :: after → ofTask (startedTask? x) s = true →
      s.after.canister? = s.before.canister? ∨ SetsFound x kind payload before s)
    (hunread : ∀ k m, f = .invalidPayload k m → ∀ s ∈ stepsOf (startedTask? x) late, made s = [])
    (hgone : ∀ n, startedTask? x = some n → w.task? n = none ∧ Outside (some n) w)
    (hfresh : ∀ n, startedTask? x = some n → n < x.after.nextTask)
    (hmild : ∀ s ∈ stepsOf (startedTask? x) late, ∀ n t, startedTask? x = some n →
      s.before.task? n = some t → t.program.Mild) :
    Intact disk now pre x id kind payload f late w := by
  obtain ⟨hspares, hreceived, hmade⟩ := spares_of_begins hb
  have hout : Outside (startedTask? x) w :=
    fun g hg gate n hn he => (hgone n he.symm).2 g hg gate n hn rfl
  have hlast : ∀ n, startedTask? x = some n → n < w.nextTask :=
    fun n ho => lt_nextTask_of_run hlate (hfresh n ho)
  refine ⟨List.forall_mem_cons.mpr ⟨hspares, hown⟩, hreceived, hcanister, fun k m hf =>
    List.forall_mem_cons.mpr ⟨hmade, hunread k m hf⟩, hgone, ?_, ?_, fun yy v hrun hyy => ?_⟩
  · obtain ⟨cs, hcs⟩ := calls_of_react hstep
    have hnil : cs = [] := (made_of_calls (x := x.action) hcs).symm.trans hmade
    rw [calls_of_run hlate, hcs, hnil, List.append_nil]
  · obtain ⟨before, d, mid, uu, hss, hd, hunsent, huu⟩ :=
      undelivered_of_run hpre (inbox_of_received hx)
    obtain ⟨tt, hturns, htt⟩ := moves_of_turns hunsent
    have hmoves := moves_of_run hlate hfresh hmild x.before.outbox x.before.calls
    rw [without_of_begins hpre hb] at hmoves
    obtain ⟨tt', hmoves, htt'⟩ := hmoves
    refine ⟨before, d, mid, tt ++ tt', hss, hd, hturns.append hmoves, ?_⟩
    have hactions : uu.map (Move.turn ·.action) = (before ++ mid).map (Move.turn ·.action) := by
      have hmap := congrArg (List.map Move.turn) huu
      rw [List.map_map, List.map_map] at hmap
      exact hmap
    rw [List.map_append, htt, htt', hactions]
  · obtain ⟨zz, w', hzz, hnone, _, hv, hactions⟩ := run_of_without hlast hout hrun hyy
    refine ⟨zz, w', hzz, hnone, ?_, hactions⟩
    rw [hv, left, stepsBeside_append, stepsBeside_of_stepsOf hnone, List.flatMap_append,
      List.flatMap_append, List.append_assoc, List.append_assoc]

/-- Let a request that finds the agent there be answered with an error. Then it has left nothing behind
but the canister of the user, if it was looked up for it. -/
theorem intact_of_error {disk : Option DataDir} {now : UInt64} {ss late : History}
    {x : Step Worker Turn} {w : Worker} {id kind : String} {payload : Json} {f : Fault}
    (run : Run react? (start disk now) (ss ++ x :: late) w)
    (hx : received? x = some (.request id kind payload)) (ha : x.before.agent.isSome = true)
    (hf : .error id f ∈ repliesTo x late) : Intact disk now ss x id kind payload f late w := by
  obtain ⟨hpre, hstep⟩ := run.before_of_split rfl
  have hlate := run.after_of_split rfl
  have hb := begins_of_received hpre hstep hx ha
  have quiet (ho : startedTask? x = none) : Intact disk now ss x id kind payload f late w := by
    have hnil (s : Step Worker Turn) : s ∉ stepsOf (startedTask? x) late := by
      rw [ho, stepsOf_none]
      exact List.not_mem_nil
    have hnone (s : Step Worker Turn) : ofTask (startedTask? x) s ≠ true := by
      intro hs
      obtain ⟨_, hn, _⟩ := ofTask_eq_true.mp hs
      cases ho.symm.trans hn
    exact intact_of_own hpre hstep hlate hx hb (fun s hs => absurd hs (hnil s))
      (fun _ s _ _ hs => absurd hs (hnone s)) (fun _ _ _ s hs => absurd hs (hnil s))
      (fun n hn => by cases ho.symm.trans hn) (fun n hn => by cases ho.symm.trans hn)
      (fun s hs => absurd hs (hnil s))
  cases hb with
  | answered _ ho _ => exact quiet ho
  | passedOver ho _ => exact quiet ho
  | started c g hc hg ht hreplies hw =>
    have ho := startedTask?_of_task? ht
    have hnext : x.after.nextTask = x.before.nextTask + 1 := congrArg Worker.nextTask hw
    have hn : x.before.nextTask < x.after.nextTask := hnext ▸ Nat.lt_succ_self _
    have hr : .error id f ∈ (stepsOf (some x.before.nextTask) late).flatMap repliesOf := by
      rw [repliesTo, hreplies, ho] at hf
      exact hf
    have hmild := mild_of_failing hlate hn ht rfl hr
    have hagent : x.after.agent = x.before.agent := (congrArg Worker.agent hw).trans rfl
    have hqueue (g : Agent) (hg : x.after.agent = some g) : x.before.nextTask ∉ g.saving := by
      rw [hagent] at hg
      exact fun hmem => Nat.lt_irrefl _ (lt_nextTask_of_queue .saving hpre hg hmem)
    have hfresh : ∀ n, some x.before.nextTask = some n → n < x.after.nextTask := by
      rintro n ⟨⟩
      exact hn
    refine intact_of_own hpre hstep hlate hx (.started c g hc hg ht hreplies hw) ?_ ?_ ?_ ?_
      (ho ▸ hfresh) (ho ▸ hmild)
    · rw [ho]
      intro s hs
      obtain ⟨hreact, hown, t, hst, hm, _⟩ := failing_of_mem hlate hn ht rfl hr hs
      exact spares_of_own hreact hown hst hm
    · rw [ho]
      intro before s after hsplit hs
      obtain ⟨hreact, hown, t, hst, hm, hnot, hfollow⟩ := failing_of_split hlate hn ht rfl hr hsplit hs
      refine (canister?_of_own hreact hown hst).imp_right ?_
      rintro ⟨canister, next, hp, hset⟩
      rw [hp] at hfollow hnot
      obtain ⟨r, next', htold, hcreated, hcall⟩ := Operation.told_of_sets hfollow hnot
      refine ⟨c, g.config, next', r, canister, hc, ?_, hcall, ho ▸ htold, hcreated, hset⟩
      rw [config?, hg]
      rfl
    · rw [ho]
      exact fun k m hf s hs => made_of_invalidPayload hlate hn ht rfl hr hf hs
    · rw [ho]
      rintro n ⟨⟩
      refine ⟨((followed_of_run hlate hn ht).failed id f hr).2.1, fun g hg gate n hin he => ?_⟩
      cases he
      cases gate with
      | resolving => exact not_resolving_of_error (hpre.snoc hstep) hlate hn ht hr g hg hin
      | saving => exact not_saving_of_failing hlate hn ht rfl hr hqueue g hg hin

/-- The canister of the user is found for a request that goes down later. The next request finds it. -/
theorem intact_of_error_of_crash : ∃ ss x late w, Run react? (start none 0) (ss ++ x :: late) w ∧
    received? x = some (.request "b" "getBio" (.obj [])) ∧
    repliesTo x late = [.error "b" (.internal "getBio handler panicked")] ∧
    Intact none 0 ss x "b" "getBio" (.obj []) (.internal "getBio handler panicked") late w ∧
    x.before.canister? = none ∧ w.canister? = some "own" ∧
    (stepsBeside (some 0) late).flatMap posted = [.response "c" (.str "hi")] := by
  have run : ∃ ss v v' late w, Run react? (start none 0) ss v ∧
      v.react? (.act .receive) = some v' ∧ Run react? v' late w ∧
      v.inbox.head? = some (.request "b" "getBio" (.obj [])) ∧ v.agent.isSome = true ∧
      repliesTo ⟨v, .act .receive, v'⟩ late = [.error "b" (.internal "getBio handler panicked")] ∧
      v.canister? = none ∧ w.canister? = some "own" ∧
      (stepsBeside (some 0) late).flatMap posted = [.response "c" (.str "hi")] := by
    refine ⟨_, _, _, _, _, .of_play [
      .deliver (.request "a" "init" ((Wire.codec : Codec AgentConfig).toValue .standard)),
      .deliver (.request "b" "getBio" (.obj [])), .deliver (.request "c" "getBio" (.obj [])),
      .act .receive, .act (.provide (.ok (some ⟨"me"⟩)))] rfl, rfl, .of_play [
      .act (.run 0), .act (.run 0), .act (.run 0), .act (.run 0), .act (.run 0),
      .act (.endCall 0 (.answered (.ok ((Wire.codec : Codec CurrentUser).toValue
        (.created ⟨"u", "name", "own", 0⟩))))),
      .act (.run 0), .act (.run 0), .act (.run 0), .act (.endCall 0 .crashed),
      .act .receive, .act (.run 1), .act (.run 1),
      .act (.endCall 1 (.answered (.ok (.str "hi")))), .act (.run 1)] rfl,
      rfl, rfl, rfl, rfl, rfl, rfl⟩
  obtain ⟨ss, v, v', late, w, hpre, hstep, hlate, hx, ha, hreplies, hnone, hown, hposted⟩ := run
  have hrun : Run react? (start none 0) (ss ++ ⟨v, .act .receive, v'⟩ :: late) w := by
    rw [List.append_cons]
    exact (hpre.snoc hstep).append hlate
  refine ⟨ss, _, late, w, hrun, hx, hreplies, ?_, hnone, hown, hposted⟩
  exact intact_of_error hrun hx ha (hreplies ▸ List.mem_singleton_self _)

end Worker
end ChatBridge
