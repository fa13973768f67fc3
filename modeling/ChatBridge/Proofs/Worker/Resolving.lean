import ChatBridge.Proofs.Worker.Notes
import ChatBridge.Proofs.Worker.Started

/-!
# One look-up at a time

`Place` says where a task stands on its way to the canister of the user, and `Resolving` that every
task has its place and only the one inside the gate asks, so that a canister is found there once at
most. A step of a task leaves the places of the others as they are.
-/

namespace ChatBridge

open Operation

def Program.Setting (p : Program Json) : Prop :=
  ∃ c rest, p = .setUserCanister c (.leave .resolving rest)

/-- A request that gets hold of the canister, to go on with it as `after` says. -/
structure Way (kind : String) (via : Option String) (after : String → Program Json) : Prop where
  kind : kind ≠ Capability.getCurrentUser.kind
  unnamed : via = none
  aside : ∀ c, (after c).Aside (ServiceCall.Allowed (some c))

structure Names (kind : String) (via : Option String) : Prop where
  kind : kind = Capability.getCurrentUser.kind
  unnamed : via = none

/-- Where the task `n` stands: `ns` are its notes, `cs` the canisters found so far, and `lone` says
that no look-up has found one. The request for the current user stays outside the gate. -/
inductive Place (config : AgentConfig) (queue : List Nat) (n : Nat) (kind : String)
    (via : Option String) (ns : List Note) (cs : List String) (lone : Prop) :
    Program Json → Phase → Prop
  | aside {p phase} (hp : p.Aside (ServiceCall.Allowed via)) (hq : n ∉ queue)
      (hns : ns = [] ∨ ns = [.asked]) : Place config queue n kind via ns cs lone p phase
  | seeking {after} (hw : Way kind via after) (hq : n ∉ queue) (hns : ns = []) :
      Place config queue n kind via ns cs lone (seek config after) .running
  | coming {after} (hw : Way kind via after) (hq : n ∉ queue) (hns : ns = []) :
      Place config queue n kind via ns cs lone (.enter .resolving (recheck config after)) .running
  | queued {after} (hw : Way kind via after) (hq : n ∈ queue) (hns : ns = []) :
      Place config queue n kind via ns cs lone (.enter .resolving (recheck config after)) .queued
  | rechecking {after} (hw : Way kind via after) (hq : queue.head? = some n) (hns : ns = []) :
      Place config queue n kind via ns cs lone (recheck config after) .running
  | asking {after} (hw : Way kind via after) (hq : queue.head? = some n) (hns : ns = []) (hl : lone) :
      Place config queue n kind via ns cs lone (inquire config after) .running
  | waiting {after} (hw : Way kind via after) (hq : queue.head? = some n) (hns : ns = [.asked])
      (hl : lone) : Place config queue n kind via ns cs lone (inquire config after) .calling
  | found {c after} (hw : Way kind via after) (hq : queue.head? = some n) (hns : ns = [.asked])
      (hc : c ∈ cs) : Place config queue n kind via ns cs lone
        (.setUserCanister c (.leave .resolving (after c))) .running
  | leaving {c after} (hw : Way kind via after) (hq : queue.head? = some n) (hns : Holds ns c) :
      Place config queue n kind via ns cs lone (.leave .resolving (after c)) .running
  | failing {f} (hq : queue.head? = some n) (hns : ns = [.asked]) :
      Place config queue n kind via ns cs lone (.leave .resolving (.fail f)) .running
  | holding {c p phase} (hv : via = none) (hp : p.Aside (ServiceCall.Allowed (some c)))
      (hq : n ∉ queue) (hns : Holds ns c) : Place config queue n kind via ns cs lone p phase
  | naming (hk : Names kind via) (hq : n ∉ queue) (hns : ns = []) :
      Place config queue n kind via ns cs lone
        (.call (whoAmI config) fun r => introduce (answerTo CurrentUser "current_user" r)) .running
  | named (hk : Names kind via) (hq : n ∉ queue) (hns : ns = [.asked]) :
      Place config queue n kind via ns cs lone
        (.call (whoAmI config) fun r => introduce (answerTo CurrentUser "current_user" r)) .calling
  | setting {c v} (hk : Names kind via) (hq : n ∉ queue) (hns : ns = [.asked]) (hc : c ∈ cs) :
      Place config queue n kind via ns cs lone (.setUserCanister c (.done v)) .running

namespace Worker

/-- The task was started for a request of this kind, which names the canister `via` if any. -/
def StartedFor (ss : History) (config : AgentConfig) (n : Nat) (kind : String)
    (via : Option String) : Prop :=
  ∃ u ∈ started ss, ∃ (c : Capability) (payload : Json), u.number = n ∧ kind = c.kind ∧
    u.program = Operation.handle config c payload ∧ via = Operation.direct? c payload

structure Resolving (ss : History) (w : Worker) : Prop where
  idle : w.site? = none → founds ss = [] ∧ ∀ n, w.task? n = none
  fresh : ∀ n, w.nextTask ≤ n → notes ss n = []
  queue : ∀ {a}, w.site? = some a → a.queue.Nodup ∧ ∀ n ∈ a.queue, n < w.nextTask
  held : ∀ {a n}, w.site? = some a → n ∈ a.queue → Halted ss ∨ (w.task? n).isSome
  ended : Halted ss → w.serving = false ∧ ∀ n, w.task? n = none
  place : ∀ {a n t}, w.site? = some a → w.task? n = some t → ∃ via,
    StartedFor ss a.config n t.kind via ∧
      Place a.config a.queue n t.kind via (notes ss n) (canisters ss) (lookUps ss = [])
        t.program t.phase
  source : ∀ {a c}, w.site? = some a → a.slot = some c →
    a.config.userCanister = some c ∨ c ∈ canisters ss
  once : (lookUps ss).length ≤ 1
  settled : ∀ {a}, w.site? = some a → lookUps ss ≠ [] → Halted ss ∨ a.slot.isSome ∨
    ∃ n t, a.queue.head? = some n ∧ w.task? n = some t ∧ t.program.Setting

variable {ss : History} {s : Step Worker Turn} {w w' : Worker} {x : Turn} {n m : Nat}
  {t : Task} {a a' : Site} {note : Option Note} {new : Option Task}

theorem StartedFor.snoc {config : AgentConfig} {kind : String} {via : Option String}
    (h : StartedFor ss config n kind via) (s : Step Worker Turn) :
    StartedFor (ss ++ [s]) config n kind via := by
  obtain ⟨u, hu, hc⟩ := h
  refine ⟨u, ?_, hc⟩
  rw [started, List.flatMap_append]
  exact List.mem_append_left _ hu

/-! ## Other tasks -/

inductive Shift (n : Nat) (queue : List Nat) : List Nat → Prop
  | stays : Shift n queue queue
  | joins (h : n ∉ queue) : Shift n queue (queue ++ [n])
  | goes : Shift n queue (queue.erase n)

theorem apart_of_shift {queue queue' : List Nat} (h : Shift n queue queue') :
    Apart n queue queue' := by
  cases h with
  | stays => exact .refl n queue
  | joins _ => exact apart_enter n queue
  | goes => exact apart_leave n queue

theorem nodup_of_shift {queue queue' : List Nat} (h : Shift n queue queue') (hn : queue.Nodup) :
    queue'.Nodup := by
  cases h with
  | stays => exact hn
  | joins h => exact nodup_enter hn h
  | goes => exact hn.erase n

theorem place_of_apart {config : AgentConfig} {queue queue' : List Nat} {kind : String}
    {via : Option String} {ns : List Note} {cs cs' : List String} {lone lone' : Prop}
    {p : Program Json} {phase : Phase} (h : Place config queue m kind via ns cs lone p phase)
    (hm : m ≠ n) (ha : Apart n queue queue') (hcs : ∀ c ∈ cs, c ∈ cs')
    (hl : lone → lone' ∨ queue.head? = some n) :
    Place config queue' m kind via ns cs' lone' p phase := by
  -- a look-up is answered to the one inside, which is not this task
  have alone (hq : queue.head? = some m) (h : lone) : lone' := by
    refine (hl h).resolve_right fun hn => hm ?_
    exact Option.some.inj (hq.symm.trans hn)
  have outside (hq : m ∉ queue) : m ∉ queue' := fun h => hq ((ha.mem m hm).mp h)
  cases h with
  | aside hp hq hns => exact .aside hp (outside hq) hns
  | seeking hw hq hns => exact .seeking hw (outside hq) hns
  | coming hw hq hns => exact .coming hw (outside hq) hns
  | queued hw hq hns => exact .queued hw ((ha.mem m hm).mpr hq) hns
  | rechecking hw hq hns => exact .rechecking hw (ha.head m hm hq) hns
  | asking hw hq hns h => exact .asking hw (ha.head m hm hq) hns (alone hq h)
  | waiting hw hq hns h => exact .waiting hw (ha.head m hm hq) hns (alone hq h)
  | found hw hq hns hc => exact .found hw (ha.head m hm hq) hns (hcs _ hc)
  | leaving hw hq hns => exact .leaving hw (ha.head m hm hq) hns
  | failing hq hns => exact .failing (ha.head m hm hq) hns
  | holding hv hp hq hns => exact .holding hv hp (outside hq) hns
  | naming hk hq hns => exact .naming hk (outside hq) hns
  | named hk hq hns => exact .named hk (outside hq) hns
  | setting hk hq hns hc => exact .setting hk (outside hq) hns (hcs _ hc)

/-! ## Steps beside the tasks -/

structure Unmoved (w w' : Worker) : Prop where
  site : w'.site? = w.site?
  tasks : w'.tasks = w.tasks
  nextTask : w'.nextTask = w.nextTask
  closed : w.serving = false → w'.serving = false

theorem Unmoved.post {w₁ : Worker} (h : Unmoved w w₁) (e : Envelope) : Unmoved w (w₁.post e) where
  site := by
    rw [site?, agent_post]
    exact h.site
  tasks := (tasks_post w₁ e).trans h.tasks
  nextTask := (nextTask_post w₁ e).trans h.nextTask
  closed hw := (serving_post w₁ e).trans (h.closed hw)

theorem Resolving.unmoved (f : Resolving ss w) (h : Unmoved w w') (hn : noted? ⟨w, x, w'⟩ = none)
    (hf : found? ⟨w, x, w'⟩ = none) (hx : x ≠ .act .halt) : Resolving (ss ++ [⟨w, x, w'⟩]) w' := by
  have hfounds : founds (ss ++ [⟨w, x, w'⟩]) = founds ss := founds_of_none hf
  have hlook : lookUps (ss ++ [⟨w, x, w'⟩]) = lookUps ss := lookUps_of_none hf
  have hhalt : Halted (ss ++ [⟨w, x, w'⟩]) ↔ Halted ss := halted_snoc hx
  have htask := task?_of_tasks h.tasks
  exact {
    idle := fun hs => by
      obtain ⟨hnil, hnone⟩ := f.idle (h.site ▸ hs)
      exact ⟨hfounds.trans hnil, fun n => (htask n).trans (hnone n)⟩
    fresh := fun n hle => by
      rw [notes_of_none hn]
      exact f.fresh n (h.nextTask ▸ hle)
    queue := fun hs => by
      rw [h.nextTask]
      exact f.queue (h.site ▸ hs)
    held := fun {_ n} hs hq => by
      rw [hhalt, htask]
      exact f.held (h.site ▸ hs) hq
    ended := fun ho => by
      obtain ⟨hserving, hnone⟩ := f.ended (hhalt.mp ho)
      exact ⟨h.closed hserving, fun n => (htask n).trans (hnone n)⟩
    place := fun {_ n _} hs ht => by
      rw [notes_of_none hn, hlook, canisters, hfounds]
      obtain ⟨via, ho, hp⟩ := f.place (h.site ▸ hs) (htask n ▸ ht)
      exact ⟨via, ho.snoc _, hp⟩
    source := fun hs hc => (f.source (h.site ▸ hs) hc).imp_right mem_canisters_snoc
    once := by
      rw [hlook]
      exact f.once
    settled := fun hs hne => by
      rw [hlook] at hne
      rw [hhalt]
      simp only [htask]
      exact f.settled (h.site ▸ hs) hne }

/-! ## Steps of a task -/

structure Stepped (ss : History) (s : Step Worker Turn) (n : Nat) (t : Task) (a a' : Site)
    (note : Option Note) (new : Option Task) : Prop extends Moves s.before s.after n a' new where
  before : s.before.site? = some a
  task : s.before.task? n = some t
  fresh : n < s.before.nextTask
  kind : ∀ u, new = some u → u.kind = t.kind
  config : a'.config = a.config
  slot : a'.slot = a.slot ∨ ∃ c ∈ canisters ss, a'.slot = some c
  queue : Shift n a.queue a'.queue
  noted : noted? s = note.map (n, ·)
  halt : s.action ≠ .act .halt

theorem Stepped.isSome_slot (h : Stepped ss s n t a a' note new) (ha : a.slot.isSome = true) :
    a'.slot.isSome = true := by
  rcases h.slot with hs | ⟨c, _, hs⟩
  · rw [hs]
    exact ha
  · rw [hs]
    rfl

section
variable (f : Resolving ss s.before) (h : Stepped ss s n t a a' note new) {via : Option String}
  (ho : StartedFor ss a.config n t.kind via) (hlive : n ∈ a'.queue → new.isSome = true)
include f h

theorem Resolving.not_halted : ¬ Halted ss := by
  intro ho
  have hnone := (f.ended ho).2 n
  rw [h.task] at hnone
  cases hnone

include ho hlive

theorem Resolving.stepped
    (hfinds : lookUps ss = [] → lookUps (ss ++ [s]) = [] ∨ a.queue.head? = some n)
    (honce : (lookUps (ss ++ [s])).length ≤ 1)
    (hsettled : lookUps (ss ++ [s]) ≠ [] → a'.slot.isSome = true ∨
      ∃ m u, a'.queue.head? = some m ∧ s.after.task? m = some u ∧ u.program.Setting)
    (hplace : ∀ u, new = some u → Place a.config a'.queue n t.kind via (notes ss n ++ note.toList)
      (canisters (ss ++ [s])) (lookUps (ss ++ [s]) = []) u.program u.phase) :
    Resolving (ss ++ [s]) s.after := by
  have hnotes : ∀ m, notes (ss ++ [s]) m = if m = n then notes ss n ++ note.toList else notes ss m :=
    notes_snoc h.noted
  have hapart := apart_of_shift h.queue
  have hhalt : ¬ Halted (ss ++ [s]) := fun ho => f.not_halted h ((halted_snoc h.halt).mp ho)
  have here {b : Site} (hb : s.after.site? = some b) : b = a' :=
    Option.some.inj (hb.symm.trans h.site)
  exact {
    idle := fun hs => by cases h.site.symm.trans hs
    fresh := fun m hle => by
      rw [h.nextTask] at hle
      have hlt := h.fresh
      have hne : m ≠ n := by omega
      rw [hnotes, if_neg hne]
      exact f.fresh m hle
    queue := fun {b} hb => by
      cases here hb
      refine ⟨nodup_of_shift h.queue (f.queue h.before).1, fun m hm => ?_⟩
      rw [h.nextTask]
      by_cases hmn : m = n
      · rw [hmn]
        exact h.fresh
      · exact (f.queue h.before).2 m ((hapart.mem m hmn).mp hm)
    held := fun {b m} hb hm => by
      cases here hb
      refine .inr ?_
      rw [h.tasks]
      by_cases hmn : m = n
      · rw [if_pos hmn]
        exact hlive (hmn ▸ hm)
      · rw [if_neg hmn]
        exact (f.held h.before ((hapart.mem m hmn).mp hm)).resolve_left (f.not_halted h)
    ended := fun ho => absurd ho hhalt
    place := fun {b m u} hb hu => by
      cases here hb
      rw [h.tasks] at hu
      rw [h.config, hnotes]
      by_cases hmn : m = n
      · subst hmn
        rw [if_pos rfl] at hu ⊢
        rw [h.kind u hu]
        exact ⟨via, ho.snoc s, hplace u hu⟩
      · rw [if_neg hmn] at hu ⊢
        obtain ⟨via, ho, hp⟩ := f.place h.before hu
        exact ⟨via, ho.snoc s, place_of_apart hp hmn hapart (fun _ => mem_canisters_snoc) hfinds⟩
    source := fun {b c} hb hc => by
      cases here hb
      rw [h.config]
      rcases h.slot with hs | ⟨d, hd, hs⟩
      · exact (f.source h.before (hs ▸ hc)).imp_right mem_canisters_snoc
      · cases hs.symm.trans hc
        exact .inr (mem_canisters_snoc hd)
    once := honce
    settled := fun {b} hb hne => by
      cases here hb
      exact .inr (hsettled hne) }

theorem Resolving.moved (hlook : lookUps (ss ++ [s]) = lookUps ss)
    (hset : t.program.Setting → a'.slot.isSome = true)
    (hplace : ∀ u, new = some u → Place a.config a'.queue n t.kind via (notes ss n ++ note.toList)
      (canisters (ss ++ [s])) (lookUps ss = []) u.program u.phase) :
    Resolving (ss ++ [s]) s.after := by
  refine f.stepped h ho hlive ?_ ?_ ?_ ?_
  · rw [hlook]
    exact .inl
  · rw [hlook]
    exact f.once
  · rw [hlook]
    intro hne
    rcases (f.settled h.before hne).resolve_left (f.not_halted h) with hs | ⟨m, u, hm, hu, hsetting⟩
    · exact .inl (h.isSome_slot hs)
    · by_cases hmn : m = n
      · subst hmn
        cases h.task.symm.trans hu
        exact .inl (hset hsetting)
      · refine .inr ⟨m, u, (apart_of_shift h.queue).head m hmn hm, ?_, hsetting⟩
        rw [h.tasks, if_neg hmn]
        exact hu
  · rw [hlook]
    exact hplace

end

end Worker
end ChatBridge
