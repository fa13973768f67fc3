import ChatBridge.Schedule.Services
import ChatBridge.Schedule.Timed

/-!
# The schedule of a worker

Tasks run in the order in which they became able to, each until it has to wait. A service that
answers without delay answers at once. Saving the user cache comes after everything else that can be
done at the moment.
-/

namespace ChatBridge

structure WorkerRun where
  worker : Worker
  services : Services
  provider : Provided
  now : Nat
  runnable : List Nat
  saving : List Nat
  /-- When the calls of which tasks end, and how. -/
  due : List (Nat × Nat × CallEnd)

namespace WorkerRun

def start (worker : Worker) (services : Services) (provider : Provided) : WorkerRun :=
  ⟨worker, services, provider, 0, [], [], []⟩

variable (r : WorkerRun)

def heads (w : Worker) : List (Option Nat) :=
  match w.agent with
  | some a => [a.resolving.head?, a.saving.head?]
  | none => []

def act? (task : Nat) (a : Worker.Action) : Option WorkerRun :=
  (r.worker.step? a).map fun w =>
    let before := heads r.worker
    let woken := (heads w).filterMap fun h =>
      match h with
      | some n => if n ≠ task ∧ !before.contains (some n) then some n else none
      | none => none
    { r with worker := w, runnable := r.runnable ++ woken }

def endCall (task : Nat) (c : ServiceCall) : WorkerRun × Bool :=
  match r.services c (earlierCalls r.worker.calls c) with
  | none => (r, false)
  | some ⟨ending, 0⟩ => ((r.act? task (.endCall task ending)).getD r, true)
  | some ⟨ending, delay⟩ => ({ r with due := r.due ++ [(r.now + delay, task, ending)] }, false)

def runTask (task : Nat) : Nat → WorkerRun → WorkerRun
  | 0, r => r
  | fuel + 1, r =>
    match r.worker.task? task with
    | none => r
    | some t =>
      match t.program, t.phase with
      | .save _ _, _ => { r with saving := r.saving ++ [task] }
      | .call c _, .running =>
        match (r.act? task (.run task)).map (endCall · task c) with
        | some (r, true) => runTask task fuel r
        | some (r, false) => r
        | none => r
      | _, _ =>
        match r.act? task (.run task) with
        | some r => runTask task fuel r
        | none => r

def setUp? : Option WorkerRun := r.act? r.worker.nextTask (.provide r.provider)

def receive? : Option WorkerRun :=
  (r.worker.step? .receive).map fun w =>
    { r with
      worker := w
      runnable :=
        if w.nextTask = r.worker.nextTask then r.runnable else r.runnable ++ [r.worker.nextTask] }

def runNext? : Option WorkerRun :=
  match r.runnable with
  | [] => none
  | task :: rest => some (runTask task Timed.patience { r with runnable := rest })

def forward? : Option WorkerRun := (r.worker.step? .forward).map fun w => { r with worker := w }

def save? : Option WorkerRun :=
  match r.saving with
  | [] => none
  | task :: rest =>
    let r := { r with saving := rest, runnable := r.runnable ++ [task] }
    some ((r.act? task (.run task)).getD r)

def act : Option WorkerRun := r.setUp? <|> r.receive? <|> r.runNext? <|> r.forward?

def alarm? : Option Nat := (Timed.firstDue? r.due).map (·.1.1)

def answer (task : Nat) (ending : CallEnd) : WorkerRun :=
  let r := { r with runnable := r.runnable ++ [task] }
  (r.act? task (.endCall task ending)).getD r

def ring : WorkerRun :=
  match Timed.firstDue? r.due with
  | none => r
  | some ((_, task, ending), rest) => { r with due := rest }.answer task ending

/-- A call that nothing in the schedule ends, and the task that waits for it. -/
def openCall? : Option (Nat × ServiceCall) :=
  r.worker.tasks.findSome? fun t =>
    match t.phase, t.program with
    | .calling, .call c _ => if r.due.any (·.2.1 == t.number) then none else some (t.number, c)
    | _, _ => none

end WorkerRun

instance : Timed WorkerRun where
  now := WorkerRun.now
  setNow t r := { r with now := t }
  next? r := r.act <|> r.save?
  alarm? := WorkerRun.alarm?
  ring := WorkerRun.ring

end ChatBridge
