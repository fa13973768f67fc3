import ChatBridge.Proofs.Bridge.Closing
import ChatBridge.Proofs.Stack.Tied
import ChatBridge.Proofs.Worker.Stopping

/-!
# The client in runs of both

A run of client and worker together is a run of the client, when the requests that have been carried
away are put back into its outbox. The inbox is closed only when nothing can come any more, so every
reply that is carried arrives.
-/

namespace ChatBridge

namespace Client

variable {c c' : Client} {a : Action} {n : Nat} {es : List Envelope}

/-! ## Envelopes put back -/

/-- The client with envelopes in front of its outbox. -/
def putBack (es : List Envelope) (c : Client) : Client := { c with outbox := es ++ c.outbox }

theorem putBack_finish (call : Call) (r : CallResult) :
    (c.putBack es).finish n call r = (c.finish n call r).putBack es := by
  unfold finish
  cases call.errand <;> cases r <;> rfl

theorem putBack_strikeOf (call : Call) :
    (c.putBack es).strikeOf call = (c.strikeOf call).putBack es := by
  unfold strikeOf
  cases call.id <;> rfl

theorem putBack_complete (id : String) (r : Except Fault Json) :
    (c.putBack es).complete id r = (c.complete id r).putBack es := by
  have hent : Client.entry? (c.putBack es) id = c.entry? id := rfl
  unfold complete
  rw [hent]
  cases c.entry? id <;> rfl

theorem putBack_receive (e : Envelope) :
    (c.putBack es).receive e = (c.receive e).putBack es := by
  cases e with
  | request id kind payload => rfl
  | response id v => exact putBack_complete id _
  | error id f => exact putBack_complete id _
  | event e => rfl

theorem withCall_putBack {f g : Call → Option Client} (h : c.withCall n f = some c')
    (hfg : ∀ call, c.calls[n]? = some call → f call = some c' → g call = some (c'.putBack es)) :
    (c.putBack es).withCall n g = some (c'.putBack es) := by
  obtain ⟨call, hc, hf⟩ := withCall_eq_some h
  exact Option.bind_eq_some_iff.mpr ⟨call, hc, hfg call hc hf⟩

theorem step?_putBack (h : c.step? a = some c') :
    (c.putBack es).step? a = some (c'.putBack es) := by
  cases a with
  | call e => cases e <;> cases h <;> rfl
  | dismiss n =>
    refine withCall_putBack h fun call _ h => ?_
    have hr : (c.putBack es).readiness = c.readiness := rfl
    unfold dismiss? at h ⊢
    rw [hr]
    split at h <;> cases h <;> exact congrArg some (putBack_finish ..)
  | register n id =>
    refine withCall_putBack h fun call _ h => ?_
    have hm : (c.putBack es).mayRegister call = c.mayRegister call := rfl
    have hcalls : (c.putBack es).calls = c.calls := rfl
    unfold register? at h ⊢
    rw [hm, hcalls]
    split at h
    · rename_i hfree; cases h; exact if_pos hfree
    · cases h
  | send n =>
    refine withCall_putBack h fun call _ h => ?_
    obtain ⟨hp, id, kind, payload, hid, hm, ⟨ho, rfl⟩ | ⟨ho, rfl⟩⟩ := send?_eq_some h
    · have ho' : (c.putBack es).outboxOpen = true := ho
      simp only [send?, hp, hid, hm, ho', if_true]
      simp [putBack, setCall, ho]
    · have ho' : (c.putBack es).outboxOpen = false := ho
      simp only [send?, hp, hid, hm, ho', Bool.false_eq_true, if_false]
      exact congrArg some (putBack_finish (c := c.strike id) ..)
  | take n =>
    refine withCall_putBack h fun call _ h => ?_
    obtain ⟨hp, r, hr, rfl⟩ := take?_eq_some h
    simp only [take?, hp, hr, Option.map_some, putBack_strikeOf, putBack_finish]
  | expire n =>
    refine withCall_putBack h fun call _ h => ?_
    obtain ⟨hp, rfl⟩ := expire?_eq_some h
    simp only [expire?, hp]
    rfl
  | withdraw n =>
    refine withCall_putBack h fun call _ h => ?_
    obtain ⟨hp, id, kind, payload, hid, hm, ⟨he, rfl⟩ | ⟨he, rfl⟩⟩ := withdraw?_eq_some h
    · have he' : (Client.entry? (c.putBack es) id).isSome = true := he
      simp only [withdraw?, hp, hid, hm, he', if_true]
      exact congrArg some (putBack_finish (c := (c.strike id).remember id) ..)
    · have he' : Client.entry? (c.putBack es) id = none := he
      simp only [withdraw?, hp, hid, hm, he', Option.isSome_none, Bool.false_eq_true, if_false]
      rfl
  | takeLate n =>
    refine withCall_putBack h fun call _ h => ?_
    obtain ⟨hp, rfl⟩ := takeLate?_eq_some h
    simp only [takeLate?, hp, putBack_finish]
  | cancel n =>
    refine withCall_putBack h fun call _ h => ?_
    unfold cancel? at h ⊢
    split at h
    · cases h
    · cases h
    · cases h
    · cases h
      rw [putBack_strikeOf]
      rfl
  | handle =>
    obtain ⟨hl, e, rest, hi, rfl⟩ := handle?_eq_some h
    show (c.putBack es).handle? = _
    unfold handle?
    split
    · rename_i hi'
      cases hi.symm.trans hi'
      exact congrArg some (putBack_receive (c := { c with inbox := rest }) e)
    · rename_i hnot
      exact absurd hi (hnot e rest hl)
  | endListening =>
    obtain ⟨hl, hi, ho, rfl⟩ := endListening?_eq_some h
    exact if_pos (by simp [putBack, hl, hi, ho])
  | deliver e =>
    simp only [step?] at h
    split at h
    · rename_i ho; cases h; exact if_pos ho
    · cases h
  | closeInbox => cases h; rfl
  | closeOutbox => cases h; rfl
  | subscribe name => cases h; rfl
  | unsubscribe name => cases h; rfl

end Client

namespace Stack

variable {s s' start : Stack} {x : Action} {ss : History} {es : List Envelope}

/-! ## The channels -/

inductive Acted (s : Stack) : Action → Stack → Prop
  | client (a : Client.Action) (c : Client) (ha : isOwn a = true) (h : s.client.step? a = some c) :
      Acted s (.client a) ⟨c, s.worker⟩
  | worker (a : Worker.Action) (w : Worker) (h : s.worker.step? a = some w) :
      Acted s (.worker a) ⟨s.client, w⟩
  | request (e : Envelope) (rest : List Envelope) (h : s.client.outbox = e :: rest) :
      Acted s .carryRequest
        ⟨{ s.client with outbox := rest }, { s.worker with inbox := s.worker.inbox ++ [e] }⟩
  | reply (e : Envelope) (rest : List Envelope) (h : s.worker.outbox = e :: rest) :
      Acted s .carryReply
        ⟨{ s.client with inbox := s.client.inbox ++ [e] }, { s.worker with outbox := rest }⟩
  | closedRequests (h : s.worker.serving = false) :
      Acted s .closeRequests ⟨{ s.client with outboxOpen := false }, s.worker⟩
  | closedReplies (h : s.worker.isOver = true) (hout : s.worker.outbox = []) :
      Acted s .closeReplies ⟨{ s.client with inboxOpen := false }, s.worker⟩

theorem acted_of_step (h : s.step? x = some s') : Acted s x s' := by
  cases x with
  | client a =>
    simp only [step?] at h
    split at h
    · rename_i ha
      obtain ⟨c, hc, rfl⟩ := Option.map_eq_some_iff.mp h
      exact .client a c ha hc
    · cases h
  | worker a =>
    obtain ⟨w, hw, rfl⟩ := Option.map_eq_some_iff.mp h
    exact .worker a w hw
  | carryRequest =>
    simp only [step?, carryRequest?] at h
    split at h
    · rename_i e rest he; cases h; exact .request e rest he
    · cases h
  | carryReply =>
    simp only [step?, carryReply?] at h
    split at h
    · rename_i e rest he; cases h; exact .reply e rest he
    · cases h
  | closeRequests =>
    simp only [step?] at h
    split at h
    · cases h
    · rename_i hs; cases h; exact .closedRequests (by simpa using hs)
  | closeReplies =>
    simp only [step?] at h
    split at h
    · rename_i hc
      obtain ⟨hover, hout⟩ := Bool.and_eq_true_iff.mp hc
      cases h
      exact .closedReplies hover (List.isEmpty_iff.mp hout)
    · cases h

/-- What lies in a channel can still be carried: the inbox is closed only behind a silent worker. -/
structure Sealed (s : Stack) : Prop where
  attends : s.worker.Attends
  closed : s.client.inboxOpen = false → s.worker.Silent ∧ s.worker.outbox = []

theorem Sealed.step (f : s.Sealed) (h : s.step? x = some s') : s'.Sealed := by
  cases acted_of_step h with
  | client a c ha hc =>
    refine ⟨f.attends, fun hi => f.closed ?_⟩
    exact (Client.inboxOpen_of_step hc (by rintro rfl; cases ha)).symm.trans hi
  | worker a w hw =>
    refine ⟨Worker.attends_of_step hw f.attends, fun hi => ?_⟩
    obtain ⟨hsilent, hout⟩ := f.closed hi
    obtain ⟨hsilent', hout'⟩ := Worker.silent_of_step hw hsilent
    exact ⟨hsilent', hout'.trans hout⟩
  | request e rest he =>
    refine ⟨f.attends, fun hi => ?_⟩
    obtain ⟨hsilent, hout⟩ := f.closed hi
    exact ⟨⟨hsilent.isOver, hsilent.settingUp⟩, hout⟩
  | reply e rest he =>
    refine ⟨f.attends, fun hi => ?_⟩
    cases he.symm.trans (f.closed hi).2
  | closedRequests hs => exact ⟨f.attends, f.closed⟩
  | closedReplies hover hout =>
    exact ⟨f.attends, fun _ => ⟨⟨hover, f.attends (Worker.isOver_iff.mp hover).1⟩, hout⟩⟩

theorem sealed_of_run {config : AgentConfig} {timeout : Nat} {disk : Option DataDir} {now : UInt64}
    (run : Run step? ⟨.connect config timeout, .start disk now⟩ ss s) : s.Sealed :=
  run.keeps (fun h f => f.step h) ⟨nofun, nofun⟩

/-! ## The run of the client -/

def clientAction? (x : Step Stack Action) : Option Client.Action :=
  match x.action with
  | .client a => some a
  | .carryReply => x.before.worker.outbox.head?.map .deliver
  | .closeRequests => some .closeOutbox
  | .closeReplies => some .closeInbox
  | _ => none

def carriedBy? (x : Step Stack Action) : Option Envelope :=
  match x.action with
  | .carryRequest => x.before.client.outbox.head?
  | _ => none

def carried (ss : History) : List Envelope := ss.filterMap carriedBy?

def clientStep? (es : List Envelope) (x : Step Stack Action) : Option (Step Client Client.Action) :=
  (clientAction? x).map fun a => ⟨x.before.client.putBack es, a, x.after.client.putBack es⟩

/-- The steps of the client, when `es` have been carried away before. -/
def clientSteps : List Envelope → History → Client.History
  | _, [] => []
  | es, x :: ss => (clientStep? es x).toList ++ clientSteps (es ++ (carriedBy? x).toList) ss

theorem carried_cons (x : Step Stack Action) (ss : History) :
    carried (x :: ss) = (carriedBy? x).toList ++ carried ss := by
  unfold carried
  cases hx : carriedBy? x <;> simp [hx]

theorem carried_snoc (ss : History) (x : Step Stack Action) :
    carried (ss ++ [x]) = carried ss ++ (carriedBy? x).toList := filterMap_snoc ..

theorem clientSteps_append (ss tt : History) :
    clientSteps es (ss ++ tt) = clientSteps es ss ++ clientSteps (es ++ carried ss) tt := by
  induction ss generalizing es with
  | nil => simp [clientSteps, carried]
  | cons x ss ih =>
    rw [List.cons_append, clientSteps, clientSteps, ih, carried_cons, List.append_assoc,
      List.append_assoc]

theorem client_of_step (es : List Envelope) (f : s.Sealed) (h : s.step? x = some s') :
    Run Client.step? (s.client.putBack es) (clientStep? es ⟨s, x, s'⟩).toList
      (s'.client.putBack (es ++ (carriedBy? ⟨s, x, s'⟩).toList)) := by
  cases acted_of_step h with
  | client a c _ hc =>
    rw [carriedBy?, Option.toList_none, List.append_nil]
    exact .single (Client.step?_putBack hc)
  | worker a w hw =>
    rw [carriedBy?, Option.toList_none, List.append_nil]
    exact .nil
  | request e rest he =>
    have hput : (Client.putBack (es ++ [e]) { s.client with outbox := rest }) =
        s.client.putBack es := by
      simp [Client.putBack, he]
    simp only [carriedBy?, he, List.head?_cons, Option.toList_some]
    rw [hput]
    exact .nil
  | reply e rest he =>
    have hopen : s.client.inboxOpen = true := by
      cases hi : s.client.inboxOpen with
      | true => rfl
      | false => cases he.symm.trans (f.closed hi).2
    have hstep : s.client.step? (.deliver e) =
        some { s.client with inbox := s.client.inbox ++ [e] } := if_pos hopen
    rw [carriedBy?, Option.toList_none, List.append_nil]
    simp only [clientStep?, clientAction?, he, List.head?_cons, Option.map_some,
      Option.toList_some]
    exact .single (Client.step?_putBack hstep)
  | closedRequests hs =>
    rw [carriedBy?, Option.toList_none, List.append_nil]
    exact .single rfl
  | closedReplies hover hout =>
    rw [carriedBy?, Option.toList_none, List.append_nil]
    exact .single rfl

theorem client_keeps {P : Client → Prop} (hput : ∀ es c, P (Client.putBack es c) ↔ P c)
    (hstep : ∀ {c a c'}, c.step? a = some c' → P c → P c') (f : s.Sealed)
    (run : Run step? s ss s') (hp : P s.client) : P s'.client := by
  have both : s'.Sealed ∧ P s'.client :=
    run.keeps (P := fun s => s.Sealed ∧ P s.client) (fun h ⟨f, hp⟩ => ⟨f.step h,
      (hput _ _).mp ((client_of_step [] f h).keeps hstep ((hput _ _).mpr hp))⟩) ⟨f, hp⟩
  exact both.2

section
variable {config : AgentConfig} {timeout : Nat} {disk : Option DataDir} {now : UInt64}
  (run : Run step? ⟨.connect config timeout, .start disk now⟩ ss s)
include run

theorem client_of_run : Run Client.step? (.connect config timeout) (clientSteps [] ss)
    (s.client.putBack (carried ss)) := by
  induction run with
  | nil => exact .nil
  | snoc run h ih =>
    rw [clientSteps_append, carried_snoc]
    have hstep := ih.append (client_of_step (carried _) (sealed_of_run run) h)
    simpa [clientSteps] using hstep

end

theorem mem_clientSteps {y : Step Client Client.Action} : y ∈ clientSteps es ss ↔
    ∃ pre x post, ss = pre ++ x :: post ∧ clientStep? (es ++ carried pre) x = some y := by
  constructor
  · intro h
    induction ss generalizing es with
    | nil => cases h
    | cons x ss ih =>
      rcases List.mem_append.mp h with h | h
      · exact ⟨[], x, ss, rfl, by simpa [carried] using Option.mem_toList.mp h⟩
      · obtain ⟨pre, z, post, rfl, hz⟩ := ih h
        refine ⟨x :: pre, z, post, rfl, ?_⟩
        rw [carried_cons, ← List.append_assoc]
        exact hz
  · rintro ⟨pre, x, post, rfl, hx⟩
    rw [clientSteps_append]
    refine List.mem_append_right _ (List.mem_append_left _ ?_)
    rw [hx]
    exact List.mem_singleton.mpr rfl

end Stack
end ChatBridge
