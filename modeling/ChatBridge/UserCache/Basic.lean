import ChatBridge.UserCache.DataDir

/-!
# The user cache

What is known of users, the youngest summary of each. A cache may be kept on disk; then it can be
saved to a data directory and opened from there.
-/

namespace ChatBridge

structure UserCache where
  users : UserLookup
  onDisk : Bool
deriving DecidableEq, Inhabited

/-- Whether a summary takes the place of what is known; of two equally young ones the later does. -/
def UserSummary.replaces (u : UserSummary) : Option UserSummary → Bool
  | none => true
  | some known => known.updated ≤ u.updated && known ≠ u

namespace UserCache

def inMemory : UserCache := ⟨∅, false⟩

/-- Whatever is no usable cache file opens as an empty cache. -/
def openIn (d : DataDir) (now : UInt64) : UserCache :=
  ⟨(d.cacheBytes?.bind fun bytes => CacheFile.users? bytes now).getD ∅, true⟩

def get? (c : UserCache) (id : UserId) : Option UserSummary := c.users.get? id

def insert (c : UserCache) (u : UserSummary) : UserCache × Bool :=
  if u.replaces (c.get? u.userId) then ({ c with users := c.users.insert u.userId u }, true)
  else (c, false)

def upsert (c : UserCache) : List UserSummary → UserCache × Nat
  | [] => (c, 0)
  | u :: us =>
    let (c, changed) := c.insert u
    let (c, count) := c.upsert us
    (c, if changed then count + 1 else count)

def fileOf (es : List (UserId × UserSummary)) (now : UInt64) : CacheFile :=
  ⟨CacheFile.currentVersion, now, es⟩

def toFile (c : UserCache) (now : UInt64) : CacheFile := fileOf c.users.toList now

def saveSteps (c : UserCache) (now : UInt64) : List SaveStep :=
  DataDir.stepsFor (c.toFile now).encode

/-- Saves the users in the order `es`; a cache in memory has nowhere to be saved. -/
def saveAs (c : UserCache) (es : List (UserId × UserSummary)) (now : UInt64) (d : DataDir) :
    DataDir × Except DiskError Unit :=
  if c.onDisk then d.run (DataDir.stepsFor (fileOf es now).encode) else (d, .ok ())

/-- The users are saved by rising key. -/
def save (c : UserCache) (now : UInt64) (d : DataDir) : DataDir × Except DiskError Unit :=
  c.saveAs c.users.toList now d

end UserCache
end ChatBridge
