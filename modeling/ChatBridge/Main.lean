import ChatBridge.Command.Session
import ChatBridge.Disk.Basic
import ChatBridge.Service.HttpText
import Std.Async.DNS
import Std.Async.TCP
import Std.Time

/-!
# The program

The command line on a real machine: files, the environment, the clock and plain connections. What
is to be done, and what is printed, is decided by `Session.run`.
-/

namespace ChatBridge.Program

open Std.Async Std.Net

/-! ## Connections -/

def socketAddress (number : UInt16) : IPAddr → SocketAddress
  | .v4 addr => .v4 ⟨addr, number⟩
  | .v6 addr => .v6 ⟨addr, number⟩

def receiveAll (socket : TCP.Socket.Client) : IO ByteArray := do
  let mut bytes := ByteArray.empty
  repeat
    match ← (socket.recv? 65536).block with
    | some more => bytes := bytes ++ more
    | none => break
  return bytes

def exchangeWith (address : SocketAddress) (r : HttpRequest) : IO (Option HttpResponse) := do
  let socket ← TCP.Socket.Client.mk
  (socket.connect address).block
  (socket.send r.encode).block
  return HttpResponse.decode? (← receiveAll socket).toList

/-- Only plain connections are made; all that goes wrong leaves the request without a response. -/
def exchange (r : HttpRequest) : IO (Option HttpResponse) := do
  match r.url.scheme, r.url.host with
  | "http", some host =>
    try
      let addresses ← (DNS.getAddrInfo host "").block
      match addresses.toList with
      | address :: _ => exchangeWith (socketAddress (.ofNat (r.url.socket.getD 80)) address) r
      | [] => return none
    catch _ => return none
  | _, _ => return none

/-! ## Files -/

def look (path : String) : IO (Except UInt32 ByteArray) :=
  try
    let bytes ← IO.FS.readBinFile path
    return .ok bytes
  catch
    | .inappropriateType _ code _ => return .error code
    | _ => return .error 0

def contentOf (path : String) : IO (Option ByteArray) := return (← look path).toOption

def isADirectory : UInt32 := 21

def diskError : IO.Error → DiskError
  | .noFileOrDirectory _ _ _ => .noSuchFile
  | .alreadyExists _ _ _ => .fileExists
  | .inappropriateType _ _ _ => .notADirectory
  | .invalidArgument _ _ _ => .nameTooLong
  | _ => .denied

def isFolder (path : String) : IO Bool := do
  match ← look path with
  | .error code => return code = isADirectory
  | .ok _ => return false

def makeFolder (path : String) : IO (Except DiskError Unit) :=
  try
    IO.FS.createDir path
    return .ok ()
  catch e => return .error (diskError e)

def findCache (dir : String) : IO CacheEntry := do
  match ← look (Disk.cachePath dir) with
  | .ok bytes => return .file bytes.toList
  | .error code => return if code = isADirectory then .folder else .absent

def makeDir (path : String) : IO (Except DiskError DataDir) := do
  match ← Path.makeAll makeFolder isFolder path with
  | .error e => return .error e
  | .ok () =>
    let temp ← contentOf (Disk.tempPath path)
    return .ok (.folder (← findCache path) (temp.map ByteArray.toList))

/-- Brings the cache file to the state in which a session has left it. -/
def keep (path : String) (left : DataDir) : IO Unit := do
  match left.cacheBytes?, ← findCache path with
  | some bytes, found =>
    if found ≠ .file bytes then
      IO.FS.writeBinFile (Disk.tempPath path) ⟨bytes.toArray⟩
      IO.FS.rename (Disk.tempPath path) (Disk.cachePath path)
  | none, _ => return

/-! ## Surroundings -/

def secondsSinceEpoch : IO UInt64 := do
  return .ofInt (← Std.Time.Timestamp.now).toSecondsSinceUnixEpoch.val

def openEnd (path : String) : IO Bool :=
  try
    IO.FS.withFile path .append fun _ => return true
  catch _ => return false

def append (path text : String) : IO Unit := IO.FS.withFile path .append fun h => h.putStr text

def serve (g : Gateway) (c : ServiceCall) : IO ServiceReply := do
  let start ← IO.monoMsNow
  let ending ← g.call exchange c
  return ⟨.answered ending, (← IO.monoMsNow) - start⟩

def host : IO (Host IO) := do
  return {
    now := ← secondsSinceEpoch
    environment := ⟨← IO.getEnv "XDG_DATA_HOME", ← IO.getEnv "HOME", none⟩
    logSetting := ← IO.getEnv "OPENCHAT_LOG"
    logFile := ← IO.getEnv "OPENCHAT_LOG_FILE"
    openEnd := openEnd
    append := append
    contentOf := contentOf
    makeDir := makeDir
    serve := serve }

def usageText : String := "Usage: openchat-cli [OPTIONS] <COMMAND>"

def announce (report : Report) : IO Unit := do
  match report with
  | .misuse .helpAsked => IO.println usageText
  | .misuse _ => IO.eprintln usageText
  | .failed _ => IO.eprintln (report.error?.getD "")
  | .watching _ _ =>
    -- nothing is asked of the worker meanwhile, so it has nothing to report
    repeat IO.sleep 1000
  | _ => IO.print report.output

end ChatBridge.Program

open ChatBridge in
def main (args : List String) : IO UInt32 := do
  let host ← Program.host
  let result ← Session.run host args
  match result.disk with
  | some (path, left) => Program.keep path left
  | none => pure ()
  for r in Session.kept host result.records do IO.eprint r.line
  Program.announce result.report
  return .ofNat result.report.exitCode
