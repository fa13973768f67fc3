/-!
# The log

What a session tells about its course: records, each from one part of the program and of one
severity.
-/

namespace ChatBridge

inductive Severity where
  | error
  | warning
  | info
  | debug
  | trace
deriving DecidableEq, Repr, Inhabited

namespace Severity

def word : Severity → String
  | .error => "ERROR"
  | .warning => "WARN"
  | .info => "INFO"
  | .debug => "DEBUG"
  | .trace => "TRACE"

def rank : Severity → Nat
  | .error => 0
  | .warning => 1
  | .info => 2
  | .debug => 3
  | .trace => 4

end Severity

/-- From which severity on records are kept; `none` keeps nothing. -/
abbrev LogLevel := Option Severity

namespace LogLevel

def keeps (level : LogLevel) (s : Severity) : Bool := level.any (s.rank ≤ ·.rank)

end LogLevel

inductive LogSource where
  | dispatcher
  | agent
  | client
  | userCache
  | gateway
  | connection
  | keyring
deriving DecidableEq, Repr, Inhabited

namespace LogSource

def target : LogSource → String
  | .dispatcher => "openchat_core::worker::dispatcher"
  | .agent => "openchat_core::worker::agent"
  | .client => "openchat_core::bridge::client"
  | .userCache => "openchat_core::store::user_cache"
  | .gateway => "openchat_core::services::http"
  | .connection => "reqwest::connect"
  | .keyring => "keyring"

/-- Connections and the keyring keep a log of their own kind, whose records tell where they come
from. -/
def ownFields : LogSource → List String
  | .connection | .keyring => ["log.target", "log.module_path", "log.file", "log.line"]
  | _ => []

end LogSource

structure LogRecord where
  source : LogSource
  severity : Severity
  message : String
  details : List String
deriving DecidableEq, Repr, Inhabited

namespace LogRecord

def fields (r : LogRecord) : List String := "message" :: r.details ++ r.source.ownFields

def line (r : LogRecord) : String :=
  r.severity.word ++ " " ++ r.source.target ++ ": " ++ r.message ++ "\n"

end LogRecord
end ChatBridge
