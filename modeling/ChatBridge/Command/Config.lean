import ChatBridge.Config
import ChatBridge.Disk.Path

/-!
# The configuration file of the command line

A JSON object in which everything may be missing. What is missing is taken from the standard
configuration.
-/

namespace ChatBridge

structure CommandConfig where
  icUrl : Option String
  userIndexCanister : Option String
  onlineCanister : Option String
  userCanister : Option String
  dataDir : Option String
  principal : Option String
  requestTimeoutSecs : Option UInt64
deriving DecidableEq, Repr, Inhabited

structure Environment where
  dataHome : Option String
  home : Option String
  accountHome : Option String
deriving DecidableEq, Repr, Inhabited

inductive LoadError where
  | unreadable (path : String)
  | unparsable (path : String)
deriving DecidableEq, Repr, Inhabited

def LoadError.message : LoadError → String
  | .unreadable path => "Failed to read config file: " ++ path
  | .unparsable path => "Failed to parse config file: " ++ path

/-- Below the data home, which counts only if it is absolute, or else below the home directory. An
empty home directory gives way to that of the account. -/
def Environment.dataDir (e : Environment) : String :=
  match e.dataHome.filter Path.isAbsolute, (e.home.filter (· ≠ "")).or e.accountHome with
  | some dir, _ => joinPath dir "openchat"
  | none, some dir => joinPath (joinPath dir ".local/share") "openchat"
  | none, none => "openchat_data"

namespace CommandConfig

/-- A path differs from other texts only in how it is asked for. -/
def pathCodec : Codec (Option String) where
  read _
    | .null => .ok none
    | n => (readString "path string" n).map some
  write p := p.elim .null .str

def record : Record CommandConfig where
  name := "CliConfig"
  Parts := Option String × Option String × Option String × Option String × Option String ×
    Option String × Option UInt64 × Unit
  fields :=
    .cons (Field.optional "icUrl").unwritten <|
    .cons (Field.optional "userIndexCanister").unwritten <|
    .cons (Field.optional "onlineCanister").unwritten <|
    .cons (Field.optional "userCanister").unwritten <|
    .cons { Field.optional "dataDir" with codec := pathCodec, omits := Option.isNone } <|
    .cons (Field.optional "principal").unwritten <|
    .cons (Field.optional "requestTimeoutSecs").unwritten .nil
  make := fun (icUrl, userIndexCanister, onlineCanister, userCanister, dataDir, principal,
      requestTimeoutSecs, _) =>
    ⟨icUrl, userIndexCanister, onlineCanister, userCanister, dataDir, principal,
      requestTimeoutSecs⟩
  parts c := (c.icUrl, c.userIndexCanister, c.onlineCanister, c.userCanister, c.dataDir,
    c.principal, c.requestTimeoutSecs, ())

end CommandConfig

instance : Wire CommandConfig := ⟨CommandConfig.record.codec⟩

namespace CommandConfig

def empty : CommandConfig := ⟨none, none, none, none, none, none, none⟩

/-- The configuration in a file; `none` for a file that cannot be read. -/
def load (path : String) (content : Option ByteArray) : Except LoadError CommandConfig :=
  match content.bind String.fromUTF8? with
  | none => .error (.unreadable path)
  | some text =>
    match (Wire.codec : Codec CommandConfig).ofText text with
    | .ok c => .ok c
    | .error _ => .error (.unparsable path)

def agent (c : CommandConfig) : AgentConfig :=
  { AgentConfig.standard with
    icUrl := c.icUrl.getD AgentConfig.standard.icUrl
    userIndexCanister := c.userIndexCanister.getD AgentConfig.standard.userIndexCanister
    onlineCanister := c.onlineCanister.getD AgentConfig.standard.onlineCanister
    userCanister := c.userCanister }

def dataDirIn (c : CommandConfig) (e : Environment) : String := c.dataDir.getD e.dataDir

def requestTimeout (c : CommandConfig) : Nat :=
  c.requestTimeoutSecs.elim Limits.requestTimeout fun secs => secs.toNat * 1000

end CommandConfig
end ChatBridge
