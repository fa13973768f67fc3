import ChatBridge.Command.Session
import ChatBridge.Disk.Basic

/-!
# Sessions on a disk in memory

The same sessions as on a real machine, with files that are a value and a network that is a function.
-/

namespace ChatBridge

structure Rehearsal where
  now : UInt64
  environment : Environment
  logSetting : Option String
  logFile : Option String
  network : HttpRequest → Option HttpResponse

namespace Rehearsal

variable (r : Rehearsal)

def openEnd (path : String) : StateM Disk Bool := do
  match (← get).openEnd path with
  | .ok d => set d; return true
  | .error _ => return false

def makeDir (path : String) : StateM Disk (Except DiskError DataDir) := do
  match ← Disk.makeAll path with
  | .ok () => return .ok ((← get).dataDir path)
  | .error e => return .error e

def serve (g : Gateway) (c : ServiceCall) : StateM Disk ServiceReply :=
  return ⟨.answered (Id.run (g.call (fun q => pure (r.network q)) c)), 0⟩

def host : Host (StateM Disk) where
  now := r.now
  environment := r.environment
  logSetting := r.logSetting
  logFile := r.logFile
  openEnd := openEnd
  append path text := modify (·.append path text.toUTF8.toList)
  contentOf path := return ((← get).read? path).map fun bytes => ⟨bytes.toArray⟩
  makeDir := makeDir
  serve := r.serve

/-- Runs a session and leaves its data directory on the disk. -/
def run (words : List String) : StateM Disk Session.Result := do
  let result ← Session.run r.host words
  match result.disk with
  | some (path, left) => modify (·.putDataDir path left)
  | none => pure ()
  return result

end Rehearsal
end ChatBridge
