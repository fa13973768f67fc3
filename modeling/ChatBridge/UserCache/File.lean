import ChatBridge.User.Basic
import ChatBridge.UserCache.Bytes

/-!
# The cache file

A version, the second in which the file was saved, and the users with the key of each. A file is
read from the front, and bytes behind the last user do not count.
-/

namespace ChatBridge

structure CacheFile where
  version : UInt32
  savedAt : UInt64
  users : List (String × UserSummary)
deriving DecidableEq, Repr, Inhabited

namespace CacheFile

def fileName : String := "user_cache.bin"

def currentVersion : UInt32 := 1

def freshFor : Nat := 7 * 24 * 60 * 60

def writeUser (u : UserSummary) : List UInt8 :=
  Bytes.text u.userId ++ Bytes.optional Bytes.text u.username
    ++ Bytes.word u.secondsSinceLastOnline.toNat 8 ++ Bytes.word u.updated.toNat 8

def readUser : Bytes.Reader UserSummary := fun bs => do
  let (userId, bs) ← Bytes.readText bs
  let (username, bs) ← Bytes.readOptional Bytes.readText bs
  let (seconds, bs) ← Bytes.readWord 8 bs
  let (updated, bs) ← Bytes.readWord 8 bs
  return (⟨userId, username, .ofNat seconds, .ofNat updated⟩, bs)

def writeEntry (e : String × UserSummary) : List UInt8 := Bytes.text e.1 ++ writeUser e.2

def readEntry : Bytes.Reader (String × UserSummary) := fun bs => do
  let (key, bs) ← Bytes.readText bs
  let (user, bs) ← readUser bs
  return ((key, user), bs)

def encode (f : CacheFile) : List UInt8 :=
  Bytes.word f.version.toNat 4 ++ Bytes.word f.savedAt.toNat 8 ++ Bytes.word f.users.length 8
    ++ f.users.flatMap writeEntry

def decode? (bs : List UInt8) : Option CacheFile := do
  let (version, bs) ← Bytes.readWord 4 bs
  let (savedAt, bs) ← Bytes.readWord 8 bs
  let (count, bs) ← Bytes.readWord 8 bs
  let (users, _) ← Bytes.readMany readEntry count bs
  return ⟨.ofNat version, .ofNat savedAt, users⟩

/-- A file from the future is fresh. -/
def isFresh (f : CacheFile) (now : UInt64) : Bool := now.toNat - f.savedAt.toNat ≤ freshFor

/-- The users of a file that can still be used; of several with one key the last. -/
def users? (bs : List UInt8) (now : UInt64) : Option UserLookup := do
  let f ← decode? bs
  if f.version = currentVersion ∧ f.isFresh now then some (.ofList f.users) else none

end CacheFile
end ChatBridge
