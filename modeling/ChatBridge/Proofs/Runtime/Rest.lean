import ChatBridge.Proofs.Runtime.Moves

/-!
# A runtime at rest

What the client does of itself, what is carried to it and the end of its inbox bring what is under
way nearer to its end. There are only so many of these steps, as long as no calls are made and the
worker puts nothing into its outbox. A runtime in which none of them is possible is at rest. No call
is in progress then, if time goes on. Behind the thread of the
worker no time has to go on: the inbox is closed and empty, the client has stopped listening, and
whoever waited for an answer has been told that none will come.
-/

namespace ChatBridge.Runtime

/-- Whether a step brings to an end what is under way at the client; where `timed` holds, the time
of calls may run out. -/
def advances (timed : Bool) (r : Runtime) : Action → Bool
  | .stack (.client a) => a.isProgress timed
  | .stack .carryReply => true
  | .stack .closeReplies => r.stack.client.inboxOpen
  | _ => false

/-- How many such steps are still to come. An envelope is carried before it is handled. -/
def left (r : Runtime) : Nat := 2 * r.stack.worker.outbox.length + r.stack.client.remaining

def AtRest (timed : Bool) (r : Runtime) : Prop :=
  ∀ a, r.advances timed a = true → r.step? a = none

def Action.isCall : Action → Bool
  | .stack (.client a) => a.isCall
  | _ => false

def advanced (timed : Bool) (rr : History) : Nat :=
  rr.countP fun x => x.before.advances timed x.action

def called (rr : History) : Nat := rr.countP fun x => x.action.isCall

variable {r r' r₀ : Runtime} {x : Action} {b : Stack.Action} {rr : History} {timed : Bool} {n : Nat}
  {call : Call}

/-! ## On the way -/

theorem sentBack_of_stackStep? : Stack.sentBack (stackSteps [⟨r, .stack b, r'⟩]) =
    Stack.sentBack [⟨r.stack, b, r'.stack⟩] := rfl

theorem left_of_step (h : r.step? x = some r') (timed : Bool) :
    r'.left + (r.advances timed x).toNat ≤
      r.left + 5 * x.isCall.toNat + 2 * (Stack.sentBack (stackSteps [⟨r, x, r'⟩])).length := by
  cases x with
  | stack b =>
    obtain ⟨_, s, hs, rfl⟩ := stack_eq_some h
    rw [sentBack_of_stackStep?, Stack.sentBack_singleton]
    cases Stack.acted_of_step hs with
    | client a c hown hc =>
      have hle := Client.remaining_le_of_step hc (by rintro e rfl; cases hown) timed
      simp only [left, advances, Action.isCall]
      omega
    | worker a w hw =>
      obtain ⟨es, hout, _⟩ := (Worker.passing_of_step hw).outbox
      simp only [left, advances, Action.isCall, Stack.turn?, Option.toList_some, List.flatMap_cons,
        List.flatMap_nil, List.append_nil, Worker.posted_of_outbox hout, hout, List.length_append,
        Bool.toNat_false]
      omega
    | request e rest _ => exact Nat.le_add_right _ _
    | reply e rest he =>
      simp only [left, Client.remaining, advances, he, List.length_append, List.length_cons,
        List.length_nil, Bool.toNat_true]
      omega
    | closedRequests _ => exact Nat.le_add_right _ _
    | closedReplies _ _ =>
      simp only [left, Client.remaining, advances, Bool.toNat_false]
      omega
  | shutDown =>
    rcases shutDown_eq_some h with ⟨_, rfl⟩ | ⟨_, rfl⟩
    · exact Nat.le_add_right _ _
    · exact Nat.le_add_right _ _
  | join =>
    obtain ⟨_, _, rfl⟩ := join_eq_some h
    exact Nat.le_add_right _ _

theorem advanced_of_run (run : Run step? r₀ rr r) (timed : Bool) :
    r.left + advanced timed rr ≤
      r₀.left + 5 * called rr + 2 * (Stack.sentBack (stackSteps rr)).length := by
  induction run with
  | nil => exact Nat.le_add_right _ _
  | @snoc rr d x d' run h ih =>
    have hstep := left_of_step h timed
    have hadv : advanced timed (rr ++ [⟨d, x, d'⟩]) =
        advanced timed rr + (d.advances timed x).toNat := by
      unfold advanced
      rw [List.countP_append, List.countP_singleton]
      cases d.advances timed x <;> rfl
    have hcalled : called (rr ++ [⟨d, x, d'⟩]) = called rr + x.isCall.toNat := by
      unfold called
      rw [List.countP_append, List.countP_singleton]
      cases x.isCall <;> rfl
    rw [hadv, hcalled, stackSteps_append, Stack.sentBack_append, List.length_append]
    omega

theorem left_lt_of_advances (h : r.step? x = some r') (ha : r.advances timed x = true) :
    r'.left < r.left := by
  have hle := left_of_step h timed
  have hcall : x.isCall = false := by
    cases x with
    | stack b =>
      cases b with
      | client a =>
        cases a with
        | call e => cases ha
        | _ => rfl
      | _ => rfl
    | _ => rfl
  have hsent : Stack.sentBack (stackSteps [⟨r, x, r'⟩]) = [] := by
    cases x with
    | stack b =>
      cases b with
      | worker a => cases ha
      | carryRequest => cases ha
      | _ => rfl
    | _ => rfl
  rw [hcall, hsent, ha] at hle
  exact hle

/-! ## At rest -/

theorem atRest_of_left (h : r.left = 0) : r.AtRest timed := by
  intro x ha
  cases hx : r.step? x with
  | none => rfl
  | some r' =>
    have hlt := left_lt_of_advances hx ha
    rw [h] at hlt
    exact absurd hlt (Nat.not_lt_zero _)

section
variable (hrest : r.AtRest timed)
include hrest

theorem client_of_atRest (a : Client.Action) (ha : a.isProgress timed = true) :
    r.stack.client.step? a = none := by
  have hown : Stack.isOwn a = true := by
    cases a with
    | deliver e => cases ha
    | closeInbox => cases ha
    | closeOutbox => cases ha
    | _ => rfl
  have h := hrest (.stack (.client a)) ha
  simpa [step?, permits, Stack.step?, hown] using h

theorem outbox_of_atRest : r.stack.worker.outbox = [] := by
  have h := hrest (.stack .carryReply) rfl
  cases hout : r.stack.worker.outbox with
  | nil => rfl
  | cons e rest => simp [step?, permits, Stack.step?, Stack.carryReply?, hout] at h

theorem inboxOpen_of_atRest (ht : r.threadOver = true) : r.stack.client.inboxOpen = false := by
  obtain ⟨hover, hopen⟩ := threadOver_iff.mp ht
  cases hi : r.stack.client.inboxOpen with
  | false => rfl
  | true =>
    have h := hrest (.stack .closeReplies) hi
    simp [step?, permits, Stack.step?, hover, hopen, outbox_of_atRest hrest, Client.step?] at h

theorem listening_of_atRest (ht : r.threadOver = true) : r.stack.client.listening = false := by
  cases hl : r.stack.client.listening with
  | false => rfl
  | true =>
    have hin : r.stack.client.inbox = [] := by
      have h := client_of_atRest hrest .handle rfl
      cases hi : r.stack.client.inbox with
      | nil => rfl
      | cons e rest => simp [Client.step?, Client.handle?, hl, hi] at h
    have h := client_of_atRest hrest .endListening rfl
    simp [Client.step?, Client.endListening?, hl, hin, inboxOpen_of_atRest hrest ht] at h

theorem phase_ne_sent (f : r.Wired) (h : timed = true ∨ r.threadOver = true)
    (hc : r.stack.client.calls[n]? = some call) : call.phase ≠ .sent := by
  cases htimed : timed with
  | true => exact Client.phase_ne_sent (htimed ▸ client_of_atRest hrest) hc
  | false =>
    have ht := h.resolve_left (by simp [htimed])
    exact (f.deaf (listening_of_atRest hrest ht)).phase_ne_sent (htimed ▸ client_of_atRest hrest) hc

theorem over_of_atRest {config : AgentConfig} {timeout : Nat} {disk : Option DataDir} {now : UInt64}
    (run : Run step? ⟨⟨.connect config timeout, .start disk now⟩, .running⟩ rr r)
    (h : timed = true ∨ r.threadOver = true) :
    (∀ call ∈ r.stack.client.calls, ¬ call.InProgress) ∧ r.stack.client.pending = [] := by
  have f := wired_of_run (wired_start config timeout disk now) run
  obtain ⟨first, hf⟩ := (Client.gated_of_run (Stack.client_of_run (stack_of_run run))).first
  have hfirst : Client.First config _ r.stack.client first :=
    ⟨hf.at_zero, hf.errand, hf.readiness, hf.kept, hf.unsent, hf.granted⟩
  have hover : ∀ call ∈ r.stack.client.calls, ¬ call.InProgress := fun call hmem =>
    Client.over_at_rest (client_of_atRest hrest) hfirst f.table
      (fun _ _ hc => phase_ne_sent hrest f h hc) hmem
  exact ⟨hover, Client.pending_of_over f.table hover⟩

end

end ChatBridge.Runtime
