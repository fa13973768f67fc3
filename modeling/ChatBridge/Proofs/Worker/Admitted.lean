import ChatBridge.Proofs.Worker.Founding
import Mathlib.Data.List.Induction
import Mathlib.Data.List.Nodup

/-!
# Requests that find an agent

The rows of a run fall into those of the requests that found an agent and the others, and so do the
replies: what is posted once the agent is there answers requests that found it. Where their ids are
distinct, the answers to an id are the replies of one row.
-/

namespace ChatBridge

namespace Worker

variable {lost : Prop} {rows : List Row} {ss : History} {s : Step Worker Turn} {w w' : Worker}
  {x : Turn} {r : Row} {disk : Option DataDir} {now : UInt64}

theorem received_of_mem (h : r ∈ ledger ss) :
    ∃ s ∈ ss, received? s = some r.request ∧ s.before.config? = r.config := by
  induction ss using List.reverseRecOn generalizing r with
  | nil => cases h
  | append_singleton ss s ih =>
    rw [ledger_snoc] at h
    rcases mem_note h with ⟨q, hq, hreq, hc⟩ | ⟨hrec, hc⟩
    · obtain ⟨s', hs', hrec, hc'⟩ := ih hq
      exact ⟨s', List.mem_append_left _ hs', hrec.trans (congrArg some hreq), hc'.trans hc⟩
    · exact ⟨s, List.mem_append_right _ (List.mem_singleton.mpr rfl), hrec, hc⟩

def admitted (ss : History) : List Row := (ledger ss).filter (·.config.isSome)

def requests (ss : History) : List Envelope :=
  ((ss.filter (·.before.agent.isSome)).filterMap received?).filter (·.isRequest)

/-- What is posted in answer to the id once the agent is there. -/
def answers (ss : History) (id : String) : List Envelope :=
  ((ss.filter (·.before.agent.isSome)).flatMap posted).filter (·.answers id)

theorem config_advance (o : Owner) (r : Row) : (advance s o r).config = r.config := by
  unfold advance
  split
  · rfl
  · rfl

theorem filter_advance (o : Owner) : (rows.map (advance s o)).filter (·.config.isSome) =
    (rows.filter (·.config.isSome)).map (advance s o) := by
  rw [List.filter_map]
  congr 1
  exact List.filter_congr fun r _ => by simp [config_advance]

theorem config_of_task (l : Ledger lost rows w) (hr : r ∈ rows) (ho : r.owner = some (.task n)) :
    r.config.isSome = true := by
  have h := l.stands hr
  unfold Row.Stands at h
  rw [ho] at h
  obtain ⟨_, _, _, _, _, _, _, _, hrun, _⟩ := h
  rw [hrun.config]
  rfl

theorem config_of_setUp (l : Ledger lost rows w) (hr : r ∈ rows) (ho : r.owner = some .setUp) :
    r.config.isSome = false := by
  have h := l.stands hr
  unfold Row.Stands at h
  rw [ho] at h
  obtain ⟨_, _, hc, _⟩ := h
  rw [hc]
  rfl

theorem requests_note_admitted (rows : List Row) (s : Step Worker Turn) :
    ((note rows s).filter (·.config.isSome)).map Row.request =
      (rows.filter (·.config.isSome)).map Row.request ++
        (if s.before.agent.isSome then (received? s).toList else []).filter (·.isRequest) := by
  have kept (f : Row → Row) (hf : ∀ r, (f r).request = r.request ∧ (f r).config = r.config) :
      ((rows.map f).filter (·.config.isSome)).map Row.request =
        (rows.filter (·.config.isSome)).map Row.request := by
    have hc : ((·.config.isSome) ∘ f) = fun r : Row => r.config.isSome :=
      funext fun r => congrArg Option.isSome (hf r).2
    rw [List.filter_map, hc, List.map_map]
    exact List.map_congr_left fun r _ => (hf r).1
  have quiet (f : Row → Row) (hf : ∀ r, (f r).request = r.request ∧ (f r).config = r.config)
      (hn : note rows s = rows.map f) (hr : received? s = none) :
      ((note rows s).filter (·.config.isSome)).map Row.request =
        (rows.filter (·.config.isSome)).map Row.request ++
          (if s.before.agent.isSome then (received? s).toList else []).filter (·.isRequest) := by
    rw [hn, kept f hf, hr, Option.toList_none, ite_self, List.filter_nil, List.append_nil]
  obtain ⟨w, x, w'⟩ := s
  have advances (o : Owner) := quiet (advance ⟨w, x, w'⟩ o) fun r =>
    ⟨request_advance o r, config_advance o r⟩
  cases x with
  | deliver e => exact quiet id (fun _ => ⟨rfl, rfl⟩) (List.map_id rows).symm rfl
  | collect => exact quiet id (fun _ => ⟨rfl, rfl⟩) (List.map_id rows).symm rfl
  | act a =>
    cases a with
    | provide p => exact advances .setUp rfl rfl
    | run n => exact advances (.task n) rfl rfl
    | endCall n e => exact advances (.task n) rfl rfl
    | halt => exact quiet (fun r => { r with owner := none }) (fun _ => ⟨rfl, rfl⟩) rfl rfl
    | receive =>
      show ((rows ++ (rowOf? _).toList).filter (·.config.isSome)).map Row.request = _
      rw [List.filter_append, List.map_append]
      refine congrArg _ ?_
      unfold rowOf?
      cases received? ⟨w, .act .receive, w'⟩ with
      | none => simp
      | some e =>
        cases e with
        | request id kind payload =>
          cases hg : w.agent <;> simp [config?, hg, Row.request, Envelope.isRequest]
        | _ => simp [Envelope.isRequest]
    | _ => exact quiet id (fun _ => ⟨rfl, rfl⟩) (List.map_id rows).symm rfl

theorem requests_admitted (ss : History) : (admitted ss).map Row.request = requests ss := by
  induction ss using List.reverseRecOn with
  | nil => rfl
  | append_singleton ss s ih =>
    rw [admitted, ledger_snoc, requests_note_admitted, ← admitted, ih, requests, requests,
      List.filter_append, List.filterMap_append, List.filter_append]
    refine congrArg _ (congrArg _ ?_)
    cases hg : s.before.agent.isSome with
    | true => cases hr : received? s <;> simp [hg, hr]
    | false => simp [hg]

theorem replies_admitted (l : Ledger lost rows w)
    (hwait : w.settingUp.isSome = true → w.agent = none) (h : w.react? x = some w') :
    (((note rows ⟨w, x, w'⟩).filter (·.config.isSome)).flatMap (·.replies)).Perm
      ((rows.filter (·.config.isSome)).flatMap (·.replies) ++
        if w.agent.isSome then repliesOf ⟨w, x, w'⟩ else []) := by
  have quiet (hn : note rows ⟨w, x, w'⟩ = rows) (hr : repliesOf ⟨w, x, w'⟩ = []) :
      (((note rows ⟨w, x, w'⟩).filter (·.config.isSome)).flatMap (·.replies)).Perm
        ((rows.filter (·.config.isSome)).flatMap (·.replies) ++
          if w.agent.isSome then repliesOf ⟨w, x, w'⟩ else []) := by
    rw [hn, hr, ite_self, List.append_nil]
  have ofTask (n : Nat) (hw : w.agent.isSome = true) (ht : (w.task? n).isSome = true)
      (hn : note rows ⟨w, x, w'⟩ = rows.map (advance ⟨w, x, w'⟩ (.task n))) :
      (((note rows ⟨w, x, w'⟩).filter (·.config.isSome)).flatMap (·.replies)).Perm
        ((rows.filter (·.config.isSome)).flatMap (·.replies) ++
          if w.agent.isSome then repliesOf ⟨w, x, w'⟩ else []) := by
    rw [hn, filter_advance, if_pos hw]
    refine replies_advance (l.owners.sublist (List.filter_sublist.filterMap _)) ?_
    obtain ⟨r, hr, ho⟩ := l.owed (o := .task n) ht
    exact ⟨r, List.mem_filter.mpr ⟨hr, config_of_task l hr ho⟩, ho⟩
  cases x with
  | deliver e => exact quiet rfl rfl
  | collect => exact quiet rfl rfl
  | act a =>
    cases a with
    | run n =>
      obtain ⟨g, t, hg, ht, _⟩ := withTask_eq_some h
      exact ofTask n (congrArg Option.isSome hg) (congrArg Option.isSome ht) rfl
    | endCall n e =>
      obtain ⟨g, t, hg, ht, _⟩ := withTask_eq_some h
      exact ofTask n (congrArg Option.isSome hg) (congrArg Option.isSome ht) rfl
    | provide p =>
      obtain ⟨_, config, hs, _⟩ := provide_eq_some h
      have hnone : w.agent = none := hwait (by rw [hs]; rfl)
      have hrows : ((rows.filter (·.config.isSome)).map (advance ⟨w, .act (.provide p), w'⟩ .setUp)) =
          rows.filter (·.config.isSome) := by
        refine (List.map_congr_left (g := id) fun r hr => advance_of_ne fun ho => ?_).trans
          (List.map_id _)
        obtain ⟨hr, hc⟩ := List.mem_filter.mp hr
        rw [config_of_setUp l hr ho] at hc
        cases hc
      show (((rows.map (advance _ .setUp)).filter (·.config.isSome)).flatMap (·.replies)).Perm _
      rw [filter_advance, hrows, hnone, Option.isSome_none, if_neg Bool.false_ne_true, List.append_nil]
    | receive =>
      show (((rows ++ (rowOf? _).toList).filter (·.config.isSome)).flatMap (·.replies)).Perm _
      rw [List.filter_append, List.flatMap_append]
      refine .of_eq (congrArg _ ?_)
      obtain ⟨_, _, e, rest, hi, rfl⟩ := receive?_eq_some h
      have hin : ∀ y, received? ⟨w, .act .receive, y⟩ = some e := fun _ => by simp [received?, hi]
      have nothing : ∀ y : Worker, y.outbox = w.outbox → repliesOf ⟨w, .act .receive, y⟩ = [] :=
        fun _ hy => repliesOf_of_outbox hy
      unfold rowOf?
      rw [hin]
      cases e with
      | request id kind payload =>
        cases hg : w.agent <;> simp [config?, hg]
      | _ =>
        show [] = if w.agent.isSome then _ else []
        split
        · exact (nothing _ rfl).symm
        · rfl
    | forward => exact quiet rfl (repliesOf_of_forward h)
    | stop =>
      simp only [react?, step?] at h
      split at h
      · cases h; exact quiet rfl (repliesOf_of_outbox rfl)
      · cases h
    | abandon => cases h; exact quiet rfl (repliesOf_of_outbox rfl)
    | halt =>
      have hr : repliesOf ⟨w, .act .halt, w'⟩ = [] := by cases h; exact repliesOf_of_outbox rfl
      have hrows : ((rows.map fun r => { r with owner := none }).filter (·.config.isSome)).flatMap
          (·.replies) = (rows.filter (·.config.isSome)).flatMap (·.replies) := by
        rw [List.filter_map, List.flatMap_map]
        rfl
      show (((rows.map fun r => { r with owner := none }).filter (·.config.isSome)).flatMap
        (·.replies)).Perm _
      rw [hrows, hr, ite_self, List.append_nil]

theorem replies_perm_admitted {disk : Option DataDir} {now : UInt64}
    (run : Run react? (start disk now) ss w) : ((admitted ss).flatMap (·.replies)).Perm
      (((ss.filter (·.before.agent.isSome)).flatMap posted).filter (·.isReply)) := by
  rw [List.filter_flatMap]
  induction run with
  | nil => exact .nil
  | @snoc ss w x w' run h ih =>
    have hstep := replies_admitted (ledger_of_run run) (fun hs => ((parted_of_run run).waiting hs).1) h
    rw [admitted, ledger_snoc, List.filter_append, List.flatMap_append]
    refine hstep.trans (ih.append (.of_eq ?_))
    by_cases hg : w.agent.isSome = true
    · simp [hg, repliesOf]
    · simp [hg]

theorem filter_answers {id : String} (h : ∀ r ∈ rows, r.replies = [] ∨ ∃ e, r.replies = [e] ∧
    e.isReply = true ∧ e.correlationId? = some r.id ∧ r.Ends (some e)) :
    (rows.flatMap (·.replies)).filter (·.answers id) =
      (rows.filter (·.id == id)).flatMap (·.replies) := by
  induction rows with
  | nil => rfl
  | cons r rows ih =>
    rw [List.flatMap_cons, List.filter_append, List.filter_cons,
      ih fun q hq => h q (List.mem_cons_of_mem _ hq)]
    rcases h r List.mem_cons_self with hr | ⟨e, hr, he, hid, _⟩
    · by_cases hi : r.id = id <;> simp [hr, hi]
    · by_cases hi : r.id = id <;> simp [hr, Envelope.answers, he, hid, hi]

theorem filter_id (hd : (rows.map (·.id)).Nodup) (hr : r ∈ rows) :
    rows.filter (·.id == r.id) = [r] := by
  obtain ⟨before, after, rfl⟩ := List.append_of_mem hr
  rw [List.map_append, List.map_cons, List.nodup_middle, List.nodup_cons, ← List.map_append] at hd
  have other (qs : List Row) (hqs : ∀ q ∈ qs, q ∈ before ++ after) :
      qs.filter (·.id == r.id) = [] := by
    rw [List.filter_eq_nil_iff]
    intro q hq hid
    exact hd.1 (List.mem_map.mpr ⟨q, hqs q hq, beq_iff_eq.mp hid⟩)
  rw [List.filter_append, List.filter_cons, if_pos (beq_self_eq_true r.id),
    other before fun q => List.mem_append_left _, other after fun q => List.mem_append_right _,
    List.nil_append]

theorem answers_of_nodup {disk : Option DataDir} {now : UInt64}
    (run : Run react? (start disk now) ss w) (hd : ((admitted ss).map (·.id)).Nodup)
    (hr : r ∈ admitted ss) : answers ss r.id = r.replies := by
  have hone (q : Row) (hq : q ∈ admitted ss) :=
    Row.replies_of_stands ((ledger_of_run run).stands (List.mem_filter.mp hq).1)
  have hperm : r.replies.Perm (answers ss r.id) := by
    have hreplies := (replies_perm_admitted run).filter (·.answers r.id)
    rw [filter_answers hone, filter_id hd hr, List.flatMap_singleton, List.filter_filter] at hreplies
    refine hreplies.trans (.of_eq (List.filter_congr fun e _ => ?_))
    unfold Envelope.answers
    cases e.isReply <;> simp
  rcases hone r hr with hnil | ⟨e, hr, _⟩
  · rw [hnil] at hperm ⊢
    exact hperm.symm.eq_nil
  · rw [hr] at hperm ⊢
    exact List.perm_singleton.mp hperm.symm

end Worker
end ChatBridge
