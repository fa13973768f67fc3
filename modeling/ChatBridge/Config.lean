import ChatBridge.Wire.Record

/-!
# Configuration and limits
-/

namespace ChatBridge

structure AgentConfig where
  icUrl : String
  userIndexCanister : String
  onlineCanister : String
  groupIndexCanister : String
  notificationsCanister : String
  userCanister : Option String
  blobUrlPattern : String
  websiteVersion : String
deriving DecidableEq, Repr

namespace AgentConfig

def standard : AgentConfig where
  icUrl := "https://icp-api.io"
  userIndexCanister := "4bkt6-4aaaa-aaaaf-aaaiq-cai"
  onlineCanister := "3vlw6-fiaaa-aaaaf-aaa3a-cai"
  groupIndexCanister := "4ijyc-kiaaa-aaaaf-aaaja-cai"
  notificationsCanister := "4glvk-ryaaa-aaaaf-aaaia-cai"
  userCanister := none
  blobUrlPattern := "\x7bcanisterId\x7d/blobs/\x7bblobId\x7d"
  websiteVersion := "0.1.0"

instance : Inhabited AgentConfig := ⟨standard⟩

def record : Record AgentConfig where
  name := "AgentConfig"
  Parts := String × String × String × String × String × Option String × String × String × Unit
  fields :=
    .cons (.required "icUrl") <| .cons (.required "userIndexCanister") <|
    .cons (.required "onlineCanister") <| .cons (.defaulted "groupIndexCanister" "") <|
    .cons (.defaulted "notificationsCanister" "") <|
    .cons (Field.unwritten (.defaulted "userCanister" none)) <|
    .cons (.defaulted "blobUrlPattern" "") <| .cons (.defaulted "websiteVersion" "") .nil
  make := fun (icUrl, userIndexCanister, onlineCanister, groupIndexCanister,
      notificationsCanister, userCanister, blobUrlPattern, websiteVersion, _) =>
    ⟨icUrl, userIndexCanister, onlineCanister, groupIndexCanister, notificationsCanister,
      userCanister, blobUrlPattern, websiteVersion⟩
  parts c := (c.icUrl, c.userIndexCanister, c.onlineCanister, c.groupIndexCanister,
    c.notificationsCanister, c.userCanister, c.blobUrlPattern, c.websiteVersion, ())

end AgentConfig

instance : Wire AgentConfig := ⟨AgentConfig.record.codec⟩

namespace Limits

/-- Milliseconds that a request waits for its answer unless told otherwise. -/
def requestTimeout : Nat := 60000

def unresolved : Nat := 256

/-- Events that a receiver may leave unread before it misses the oldest. -/
def unreadEvents : Nat := 256

end Limits
end ChatBridge
