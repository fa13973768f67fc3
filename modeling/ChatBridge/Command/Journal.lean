import ChatBridge.Log.Basic
import ChatBridge.Schedule.Stack
import ChatBridge.Service.Http

/-!
# What sessions tell the log

Calls, the worker and the keyring each leave their records. Which of them are kept is left to the
filter.
-/

namespace ChatBridge

def Keyring.records : List LogRecord := [⟨.keyring, .debug, "creating entry", []⟩]

namespace Call

def requestRecords (call : Call) (kind : String) : List LogRecord :=
  let about := ["correlation_id", "kind"]
  let answered : LogRecord :=
    ⟨.client, .debug, "Response received: " ++ kind, about ++ ["elapsed_ms"]⟩
  ⟨.client, .debug, "Request sent: " ++ kind, about⟩ :: match call.slot with
    | .answer (.error f) =>
      [⟨.dispatcher, .warning, "Request failed: " ++ f.message, about⟩, answered]
    | .answer (.ok _) => [answered]
    | _ => []

def endRecords (call : Call) : List LogRecord :=
  let late : List LogRecord :=
    match call.result? with
    | some (.error (.timeout kind _ _)) =>
      [⟨.client, .error, "Request timed out: " ++ kind, ["correlation_id", "kind", "timeout_ms"]⟩]
    | _ => []
  late ++ match call.errand, call.result? with
    | .setUp _, some (.ok _) => [⟨.client, .info, "Worker initialized", []⟩]
    | .setUp _, some (.error e) =>
      [⟨.client, .error, "Worker initialization failed: " ++ e.message, []⟩]
    | _, _ => []

def records (call : Call) : List LogRecord :=
  match call.id, call.errand.message? with
  | some _, some (kind, _) => call.requestRecords kind ++ call.endRecords
  | _, _ => []

end Call

/-- A call that can be written as a request makes a connection. -/
def Gateway.records (g : Gateway) (c : ServiceCall) : List LogRecord :=
  let url := g.endpoint c.canister c.method
  ⟨.gateway, .debug, "service call " ++ c.method ++ " -> " ++ url, []⟩ :: match g.request c with
    | .ok r => [⟨.connection, .debug, "starting new connection: " ++ r.url.render, []⟩]
    | .error _ => []

/-- What is told of the agent: that it is set up, and that the canister of the user was found. -/
def Agent.records (a : Agent) : List LogRecord :=
  let greeting := "Initializing agent for " ++ a.identity.principal
    ++ " (" ++ toString a.cache.users.toList.length ++ " cached users)"
  [⟨.userCache, .debug, "user_cache: loaded users", []⟩, ⟨.dispatcher, .info, greeting, []⟩]
    ++ if a.userCanister = a.config.userCanister then []
      else [⟨.agent, .info, "User client created", ["principal", "canister_id"]⟩]

def StackRun.records (r : StackRun) (g : Gateway) : List LogRecord :=
  [⟨.dispatcher, .info, "Worker dispatcher started", []⟩]
    ++ r.worker.worker.agent.elim [] Agent.records
    ++ r.worker.worker.calls.flatMap g.records
    ++ r.client.client.calls.flatMap Call.records
    ++ [⟨.dispatcher, .info, "Worker dispatcher stopped", []⟩,
      ⟨.client, .info, "Worker channel closed", []⟩]

end ChatBridge
