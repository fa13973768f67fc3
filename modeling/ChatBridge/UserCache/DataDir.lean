import ChatBridge.Disk.Path
import ChatBridge.UserCache.File

/-!
# The data directory

The directory that holds the cache file, and the three steps in which the file is saved: the
directory is made, the bytes go to a temporary file, and that takes the place of the cache file in
one step.
-/

namespace ChatBridge

/-- What stands at the path of the cache file. -/
inductive CacheEntry where
  | absent
  | file (bytes : List UInt8)
  | folder
deriving DecidableEq, Repr, Inhabited

inductive DataDir where
  | absent
  | plainFile
  | belowPlainFile
  | folder (cache : CacheEntry) (temp : Option (List UInt8))
deriving DecidableEq, Repr, Inhabited

inductive SaveStep where
  | makeDirectory
  | writeTemp (bytes : List UInt8)
  | rename
deriving DecidableEq, Repr, Inhabited

namespace DataDir

def makeDirectory : DataDir → Except DiskError DataDir
  | .absent => .ok (.folder .absent none)
  | .plainFile => .error .fileExists
  | .belowPlainFile => .error .notADirectory
  | .folder cache temp => .ok (.folder cache temp)

def writeTemp (bytes : List UInt8) : DataDir → Except DiskError DataDir
  | .folder cache _ => .ok (.folder cache (some bytes))
  | .absent => .error .noSuchFile
  | _ => .error .notADirectory

/-- The temporary file takes the place of the cache file, but not that of a directory. -/
def rename : DataDir → Except DiskError DataDir
  | .folder .folder (some _) => .error .isADirectory
  | .folder _ (some bytes) => .ok (.folder (.file bytes) none)
  | .folder _ none => .error .noSuchFile
  | .absent => .error .noSuchFile
  | _ => .error .notADirectory

def step (d : DataDir) : SaveStep → Except DiskError DataDir
  | .makeDirectory => d.makeDirectory
  | .writeTemp bytes => d.writeTemp bytes
  | .rename => d.rename

/-- Runs the steps until one fails; what the steps before it did stays. -/
def run : DataDir → List SaveStep → DataDir × Except DiskError Unit
  | d, [] => (d, .ok ())
  | d, s :: steps =>
    match d.step s with
    | .ok d' => d'.run steps
    | .error e => (d, .error e)

def stepsFor (bytes : List UInt8) : List SaveStep := [.makeDirectory, .writeTemp bytes, .rename]

def cacheBytes? : DataDir → Option (List UInt8)
  | .folder (.file bytes) _ => some bytes
  | _ => none

def hasTemp : DataDir → Bool
  | .folder _ temp => temp.isSome
  | _ => false

end DataDir
end ChatBridge
