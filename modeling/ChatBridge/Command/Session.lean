import ChatBridge.Command.Config
import ChatBridge.Command.Journal
import ChatBridge.Command.Line
import ChatBridge.Log.Filter
import ChatBridge.Schedule.Call

/-!
# Sessions

One run of the program: the command line is read, the configuration loaded, the identity found, the
worker started and the command carried out. The world outside comes as a `Host`.
-/

namespace ChatBridge

open Arguments

inductive SessionError where
  | unwritableLog (path : String)
  | config (e : LoadError)
  | signIn (e : IdentityError)
  | noPrincipal
  | disk (e : DiskError)
  | notInitialized
  | request (e : BridgeError)
deriving DecidableEq, Repr, Inhabited

def SessionError.message : SessionError → String
  | .unwritableLog path => "Failed to open log file: " ++ path
  | .config e => e.message
  | .signIn e => e.message
  | .noPrincipal => "No principal configured; run `openchat-cli login <principal>` first"
  | .disk e => e.message
  | .notInitialized => "Worker did not initialize"
  | .request e => e.message

/-- What a session asks of the world around it. -/
structure Host (m : Type → Type) where
  now : UInt64
  environment : Environment
  logSetting : Option String
  logFile : Option String
  /-- Opens a file to write at its end, and says whether that was possible. -/
  openEnd : String → m Bool
  append : String → String → m Unit
  contentOf : String → m (Option ByteArray)
  makeDir : String → m (Except DiskError DataDir)
  serve : Gateway → ServiceCall → m ServiceReply

inductive Report where
  | misuse (m : Misuse)
  | failed (e : SessionError)
  | signedIn (i : Identity)
  | signedOut
  | printed (text : String)
  | watching (pretty : Bool) (r : StackRun)
  | brokenOff

namespace Report

def exitCode : Report → Nat
  | .misuse .helpAsked => 0
  | .misuse _ => 2
  | .failed _ => 1
  | .brokenOff => 101
  | _ => 0

def output : Report → String
  | .signedIn i => "Stored principal " ++ i.principal ++ "\n"
  | .signedOut => "Logged out\n"
  | .printed text => text
  | _ => ""

def error? : Report → Option String
  | .failed e => some ("Error: " ++ e.message)
  | _ => none

end Report

structure Plan where
  agent : AgentConfig
  timeout : Nat
  dataDir : String
  identity : Identity
deriving Repr

namespace CommandConfig

/-- The configured principal wins over the stored one. Nobody is served who is not signed in. -/
def identity (c : CommandConfig) : Except SessionError Identity := do
  let found ← match c.principal with
    | some principal => pure (some ⟨principal⟩)
    | none => (resolveIdentity Keyring.load).mapError .signIn
  match found.filter (!·.isAnonymous) with
  | some i => return i
  | none => throw .noPrincipal

/-- The keyring is asked only where no principal is configured. -/
def identityRecords (c : CommandConfig) : List LogRecord :=
  if c.principal.isNone then Keyring.records else []

end CommandConfig

namespace Plan

def ofConfig (c : CommandConfig) (e : Environment) : Except SessionError Plan := do
  return ⟨c.agent, c.requestTimeout, c.dataDirIn e, ← c.identity⟩

variable (p : Plan)

def gateway : Gateway := (Gateway.ofBase p.agent.icUrl).withPrincipal p.identity.principal

def start (dir : DataDir) (now : UInt64) : StackRun :=
  ⟨.start (.connect p.agent p.timeout),
    .start (.start (some dir) now) .open (.ok (some p.identity))⟩

end Plan

namespace Session

/-- What became of a session: what it has told, and how it leaves which data directory. -/
structure Result where
  report : Report
  records : List LogRecord
  disk : Option (String × DataDir)

def Result.failed (e : SessionError) (records : List LogRecord) : Result :=
  ⟨.failed e, records, none⟩

variable {m : Type → Type} [Monad m] (host : Host m)

def loadConfig : Option String → m (Except SessionError CommandConfig)
  | none => return .ok .empty
  | some path => return (CommandConfig.load path (← host.contentOf path)).mapError .config

def perform (serve : ServiceCall → m ServiceReply) (pretty : Bool) (c : Command) :
    StateT StackRun m Report := do
  match ← StackRun.ask serve .awaitReady with
  | .error _ => return .failed .notInitialized
  | .ok _ =>
    match ← c.dialogue.hold (StackRun.request serve) with
    | .error e => return .failed (.request e)
    | .ok (.value j) => return .printed (j.printed pretty)
    | .ok .watching => return .watching pretty (← get)

def conduct (plan : Plan) (pretty : Bool) (c : Command) : m Result := do
  match ← host.makeDir plan.dataDir with
  | .error e => return .failed (.disk e) []
  | .ok dir =>
    let (report, r) ← (perform (host.serve plan.gateway) pretty c).run (plan.start dir host.now)
    return ⟨report, r.records plan.gateway, r.worker.worker.disk.map fun d => (plan.dataDir, d)⟩

def carryOut (i : Invocation) (c : CommandConfig) : m Result := do
  match i.mission with
  | .login principal =>
    match Keyring.store principal with
    | .ok identity => return ⟨.signedIn identity, Keyring.records, none⟩
    | .error e => return .failed (.signIn e) []
  | .logout => return ⟨.signedOut, Keyring.records, none⟩
  | .command command =>
    match Plan.ofConfig c host.environment with
    | .error e => return .failed e c.identityRecords
    | .ok plan =>
      let result ← conduct host plan i.pretty command
      return { result with records := c.identityRecords ++ result.records }

def openLog : m (Except SessionError Unit) := do
  match host.logFile with
  | none => return .ok ()
  | some path => return if ← host.openEnd path then .ok () else .error (.unwritableLog path)

def kept (records : List LogRecord) : List LogRecord :=
  records.filter fun r => (LogFilter.ofSetting? host.logSetting).any (·.keeps r)

def writeLog (records : List LogRecord) : m Unit := do
  match host.logFile with
  | none => return ()
  | some path => (kept host records).forM fun r => host.append path r.line

def run (words : List String) : m Result := do
  match Invocation.read words with
  | .error e => return ⟨.misuse e, [], none⟩
  | .ok i =>
    if (LogFilter.ofSetting? host.logSetting).isNone then return ⟨.brokenOff, [], none⟩
    match ← openLog host with
    | .error e => return .failed e []
    | .ok () =>
      let result ← match ← loadConfig host i.config with
        | .error e => pure (.failed e [])
        | .ok c => carryOut host i c
      writeLog host result.records
      return result

end Session
end ChatBridge
