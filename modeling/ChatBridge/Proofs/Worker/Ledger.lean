import ChatBridge.Proofs.Worker.Moves

/-!
# The ledger of requests

A run of the worker is read into a ledger with one row for each request that was received. A row
keeps what the request was, what has been learnt on the way to its answer, and every reply that was
posted for it. `Ledger` ties the rows to the state; every step keeps it.
-/

namespace ChatBridge

inductive Owner where
  | setUp
  | task (n : Nat)
deriving DecidableEq

structure Row where
  id : String
  kind : String
  payload : Json
  /-- The configuration of the agent that was there when the request was received. -/
  config : Option AgentConfig
  owner : Option Owner
  provided : Option Provided
  told : List Told
  crashed : Bool
  replies : List Envelope

namespace Worker

abbrev History := List (Step Worker Turn)

def Owes (w : Worker) : Owner → Bool
  | .setUp => w.settingUp.isSome
  | .task n => (w.task? n).isSome

def Action.owner? : Action → Option Owner
  | .provide _ => some .setUp
  | .run n => some (.task n)
  | .endCall n _ => some (.task n)
  | _ => none

/-! ## Reading a step -/

def received? (s : Step Worker Turn) : Option Envelope :=
  match s.action with
  | .act .receive => s.before.inbox.head?
  | _ => none

def posted (s : Step Worker Turn) : List Envelope :=
  match s.action with
  | .act _ => s.after.outbox.drop s.before.outbox.length
  | _ => []

def repliesOf (s : Step Worker Turn) : List Envelope := (posted s).filter (·.isReply)

def providedBy? (s : Step Worker Turn) : Option Provided :=
  match s.action with
  | .act (.provide p) => some p
  | _ => none

def toldBy? (s : Step Worker Turn) : Option Told :=
  match s.action with
  | .act (.run n) => s.before.agent.bind fun a => (s.before.task? n).bind fun t => t.told? a
  | .act (.endCall _ (.answered r)) => some (.answer r)
  | _ => none

def crashes (s : Step Worker Turn) : Bool :=
  match s.action with
  | .act (.endCall _ .crashed) => true
  | _ => false

def ownerAfter (s : Step Worker Turn) : Option Owner :=
  if s.after.Owes .setUp then some .setUp
  else if s.after.Owes (.task s.before.nextTask) then some (.task s.before.nextTask)
  else none

def rowOf? (s : Step Worker Turn) : Option Row :=
  match received? s with
  | some (.request id kind payload) =>
    some ⟨id, kind, payload, s.before.config?, ownerAfter s, none, [], false, repliesOf s⟩
  | _ => none

def advance (s : Step Worker Turn) (o : Owner) (r : Row) : Row :=
  if r.owner = some o then
    { r with
      owner := if s.after.Owes o then some o else none
      provided := (providedBy? s).or r.provided
      told := r.told ++ (toldBy? s).toList
      crashed := r.crashed || crashes s
      replies := r.replies ++ repliesOf s }
  else r

def note (rows : List Row) (s : Step Worker Turn) : List Row :=
  match s.action with
  | .act .receive => rows ++ (rowOf? s).toList
  | .act .halt => rows.map fun r => { r with owner := none }
  | .act a =>
    match a.owner? with
    | some o => rows.map (advance s o)
    | none => rows
  | _ => rows

def ledger (ss : History) : List Row := ss.foldl note []

theorem ledger_snoc (ss : History) (s : Step Worker Turn) :
    ledger (ss ++ [s]) = note (ledger ss) s := by
  simp [ledger]

end Worker

/-! ## How a request ends -/

/-- The request is one for a handler of the table, and there was an agent to run it. -/
structure Row.RunBy (r : Row) (c : Capability) (config : AgentConfig) : Prop where
  kind : r.kind ≠ initKind
  capability : Capability.ofKind? r.kind = some c
  config : r.config = some config

/-- The ways in which a request ends, each with the answer that it gets, if it gets any. -/
inductive Row.Ends (r : Row) : Option Envelope → Prop
  | unknown (hk : r.kind ≠ initKind) (hc : Capability.ofKind? r.kind = none) : r.Ends none
  | early (c : Capability) (hk : r.kind ≠ initKind) (hc : Capability.ofKind? r.kind = some c)
      (ha : r.config = none) : r.Ends (some (.error r.id .agentNotInitialized))
  | returned (c : Capability) (config : AgentConfig) (result : Except Fault Json)
      (hr : r.RunBy c config) (hcr : r.crashed = false)
      (hret : (Operation.handle config c r.payload).Returns r.told result) :
      r.Ends (some (.answering r.id result))
  | crashed (c : Capability) (config : AgentConfig) (hr : r.RunBy c config) (hcr : r.crashed = true) :
      r.Ends (some (.error r.id (.internal (r.kind ++ " handler panicked"))))
  | refused (x : Refusal) (hk : r.kind = initKind)
      (hd : (Wire.codec : Codec AgentConfig).ofValue r.payload = .error x) :
      r.Ends (some (.error r.id (.invalidPayload initKind x.message)))
  | again (config : AgentConfig) (hk : r.kind = initKind)
      (hd : (Wire.codec : Codec AgentConfig).ofValue r.payload = .ok config)
      (ha : r.config.isSome) : r.Ends (some (.response r.id .null))
  | signedIn (config : AgentConfig) (p : Provided) (i : Identity) (hk : r.kind = initKind)
      (hd : (Wire.codec : Codec AgentConfig).ofValue r.payload = .ok config) (ha : r.config = none)
      (hp : r.provided = some p) (hi : resolveIdentity p = .ok (some i)) :
      r.Ends (some (.response r.id .null))
  | nobody (config : AgentConfig) (p : Provided) (hk : r.kind = initKind)
      (hd : (Wire.codec : Codec AgentConfig).ofValue r.payload = .ok config) (ha : r.config = none)
      (hp : r.provided = some p) (hi : resolveIdentity p = .ok none) : r.Ends none
  | unresolved (config : AgentConfig) (p : Provided) (e : IdentityError) (hk : r.kind = initKind)
      (hd : (Wire.codec : Codec AgentConfig).ofValue r.payload = .ok config) (ha : r.config = none)
      (hp : r.provided = some p) (hi : resolveIdentity p = .error e) :
      r.Ends (some (.error r.id (.internal e.message)))

/-- Where a request stands. Answers may have been `lost` where nobody takes them. -/
def Row.Stands (lost : Prop) (w : Worker) (r : Row) : Prop :=
  match r.owner with
  | some .setUp => r.replies = [] ∧ r.kind = initKind ∧ r.config = none ∧
      ∃ config, (Wire.codec : Codec AgentConfig).ofValue r.payload = .ok config ∧
        w.settingUp = some (r.id, config)
  | some (.task n) => r.replies = [] ∧ r.crashed = false ∧ ∃ t c config, w.task? n = some t ∧
      t.correlationId = r.id ∧ t.kind = r.kind ∧ r.RunBy c config ∧
        (Operation.handle config c r.payload).follow r.told = some t.program
  | none => (∃ e, r.Ends e ∧ r.replies = e.toList) ∨ lost ∧ r.replies = []

structure Ledger (lost : Prop) (rows : List Row) (w : Worker) : Prop where
  owners : (rows.filterMap (·.owner)).Nodup
  owed : ∀ {o : Owner}, w.Owes o = true → ∃ r ∈ rows, r.owner = some o
  stands : ∀ {r : Row}, r ∈ rows → r.Stands lost w
  fresh : ∀ {n : Nat}, (w.task? n).isSome → n < w.nextTask
  abandoned : w.abandoned = true → lost

namespace Worker

variable {lost : Prop} {rows : List Row} {w w' : Worker} {r : Row} {o : Owner}

def Keeps (w w' : Worker) : Owner → Prop
  | .setUp => w'.settingUp = w.settingUp
  | .task n => w'.task? n = w.task? n

theorem owes_of_keeps (h : w.Keeps w' o) : w'.Owes o = w.Owes o := by
  cases o with
  | setUp => exact congrArg Option.isSome h
  | task n => exact congrArg Option.isSome h

theorem keeps_of_eq (hs : w'.settingUp = w.settingUp) (ht : w'.tasks = w.tasks) (o : Owner) :
    w.Keeps w' o := by
  cases o with
  | setUp => exact hs
  | task n => exact task?_of_tasks ht n

theorem stands_of_keeps (h : ∀ o, r.owner = some o → w.Keeps w' o) (hr : r.Stands lost w) :
    r.Stands lost w' := by
  unfold Row.Stands at hr ⊢
  cases ho : r.owner with
  | none => rw [ho] at hr; exact hr
  | some o =>
    have hk := h o ho
    rw [ho] at hr
    cases o with
    | setUp =>
      simp only at hr ⊢
      rw [show w'.settingUp = w.settingUp from hk]
      exact hr
    | task n =>
      simp only at hr ⊢
      rw [show w'.task? n = w.task? n from hk]
      exact hr

theorem stands_of_end {e : Envelope} (ho : r.owner = none) (hl : w.abandoned = true → lost)
    (he : r.Ends (some e)) (hr : r.replies = if w.abandoned then [] else [e]) :
    r.Stands lost w' := by
  unfold Row.Stands
  rw [ho]
  by_cases ha : w.abandoned = true
  · rw [if_pos ha] at hr; exact .inr ⟨hl ha, hr⟩
  · rw [if_neg ha] at hr; exact .inl ⟨some e, he, hr⟩

theorem owes_of_stands (hr : r.Stands lost w) (ho : r.owner = some o) : w.Owes o = true := by
  unfold Row.Stands at hr
  rw [ho] at hr
  cases o with
  | setUp =>
    obtain ⟨_, _, _, config, _, hs⟩ := hr
    exact congrArg Option.isSome hs
  | task n =>
    obtain ⟨_, _, t, _, _, ht, _⟩ := hr
    exact congrArg Option.isSome ht

end Worker

namespace Ledger

open Worker

variable {lost : Prop} {rows : List Row} {w w' : Worker} {s : Step Worker Turn} {o : Owner}

theorem start (disk : Option DataDir) (now : UInt64) : Ledger lost [] (Worker.start disk now) where
  owners := List.nodup_nil
  owed {o} h := by cases o <;> cases h
  stands h := by cases h
  fresh h := by cases h
  abandoned h := by cases h

theorem mono {lost' : Prop} (l : Ledger lost rows w) (h : lost → lost') : Ledger lost' rows w where
  owners := l.owners
  owed := l.owed
  stands {r} hr := by
    have hs := l.stands hr
    unfold Row.Stands at hs ⊢
    cases ho : r.owner with
    | none => rw [ho] at hs; exact hs.imp id fun x => ⟨h x.1, x.2⟩
    | some o => cases o with
      | setUp => rw [ho] at hs; exact hs
      | task n => rw [ho] at hs; exact hs
  fresh := l.fresh
  abandoned ha := h (l.abandoned ha)

theorem kept (l : Ledger lost rows w) (hs : w'.settingUp = w.settingUp) (ht : w'.tasks = w.tasks)
    (hn : w'.nextTask = w.nextTask) (ha : w'.abandoned = true → lost) : Ledger lost rows w' where
  owners := l.owners
  owed {o} h := l.owed (by rwa [owes_of_keeps (keeps_of_eq hs ht o)] at h)
  stands hr := stands_of_keeps (fun o _ => keeps_of_eq hs ht o) (l.stands hr)
  fresh {n} h := by rw [task?_of_tasks ht] at h; rw [hn]; exact l.fresh h
  abandoned := ha

theorem owner_advance (r : Row) :
    (advance s o r).owner = r.owner ∨ (advance s o r).owner = none := by
  unfold advance
  split
  · rename_i h
    rw [h]
    dsimp only
    split
    · exact .inl rfl
    · exact .inr rfl
  · exact .inl rfl

theorem owners_advance : ((rows.map (advance s o)).filterMap (·.owner)).Sublist
    (rows.filterMap (·.owner)) := by
  induction rows with
  | nil => exact .slnil
  | cons r rows ih =>
    rw [List.map_cons, List.filterMap_cons, List.filterMap_cons]
    rcases owner_advance (s := s) (o := o) r with h | h
    · rw [h]
      cases r.owner with
      | none => exact ih
      | some x => exact ih.cons_cons x
    · rw [h]
      cases r.owner with
      | none => exact ih
      | some x => exact ih.cons x

/-- A step of an owner moves its own row and no other. -/
theorem advanced (l : Ledger lost rows s.before) (hkeep : ∀ o' ≠ o, s.before.Keeps s.after o')
    (howes : s.before.Owes o = true) (hn : s.after.nextTask = s.before.nextTask)
    (ha : s.after.abandoned = s.before.abandoned)
    (hown : ∀ r, r.owner = some o → r.Stands lost s.before →
      (advance s o r).Stands lost s.after) :
    Ledger lost (rows.map (advance s o)) s.after where
  owners := l.owners.sublist owners_advance
  owed {o'} h := by
    by_cases ho : o' = o
    · subst ho
      obtain ⟨r, hr, hro⟩ := l.owed howes
      refine ⟨_, List.mem_map.mpr ⟨r, hr, rfl⟩, ?_⟩
      rw [advance, if_pos hro]
      dsimp only
      rw [if_pos h]
    · rw [owes_of_keeps (hkeep o' ho)] at h
      obtain ⟨r, hr, hro⟩ := l.owed h
      refine ⟨_, List.mem_map.mpr ⟨r, hr, rfl⟩, ?_⟩
      rw [advance, if_neg (by rw [hro]; simpa using ho), hro]
  stands {r'} hr' := by
    obtain ⟨r, hr, rfl⟩ := List.mem_map.mp hr'
    by_cases ho : r.owner = some o
    · exact hown r ho (l.stands hr)
    · rw [advance, if_neg ho]
      exact stands_of_keeps (fun o' ho' => hkeep o' fun h => ho (h ▸ ho')) (l.stands hr)
  fresh {n} h := by
    rw [hn]
    by_cases ho : Owner.task n = o
    · subst ho; exact l.fresh howes
    · rw [show s.after.task? n = _ from hkeep _ ho] at h
      exact l.fresh h
  abandoned h := l.abandoned (ha ▸ h)

end Ledger
end ChatBridge
