import ChatBridge.Disk.Path
import ChatBridge.UserCache.DataDir

/-!
# A disk

Files and directories, each under the names that lead to it from the root. Paths are followed name by
name, and every name but the last has to be that of a directory.
-/

namespace ChatBridge

inductive DiskEntry where
  | folder
  /-- A directory in which nothing can be made. -/
  | sealed
  | file (bytes : List UInt8)
  /-- Takes whatever is written to it and stays empty. -/
  | sink
deriving DecidableEq, Repr, Inhabited

def DiskEntry.isFolder : DiskEntry → Bool
  | .folder | .sealed => true
  | .file _ | .sink => false

structure Disk where
  entries : List (List String × DiskEntry)
  start : List String
deriving Repr, Inhabited

namespace Disk

def longestName : Nat := 255

def longestPath : Nat := 4095

variable (d : Disk)

def entry? (place : List String) : Option DiskEntry :=
  if place.isEmpty then some .folder else d.entries.lookup place

def put (place : List String) (e : DiskEntry) : Disk :=
  { d with entries := (place, e) :: d.entries.filter (·.1 ≠ place) }

def needFolder (place : List String) : Except DiskError Unit :=
  match d.entry? place with
  | some e => if e.isFolder then .ok () else .error .notADirectory
  | none => .error .noSuchFile

def make (place : List String) (e : DiskEntry) : Except DiskError Disk :=
  if d.entry? place.dropLast = some .sealed then .error .noSuchFile else .ok (d.put place e)

/-- Follows the parts of a path from a place. The last one need not exist. -/
def follow : List String → List String → Except DiskError (List String)
  | place, [] => .ok place
  | place, p :: parts => do
    d.needFolder place
    if p = "" || p = "." then follow place parts
    else if p = ".." then follow place.dropLast parts
    else if longestName < p.utf8ByteSize then throw .nameTooLong
    else follow (place ++ [p]) parts

def origin (path : String) : List String := if Path.isAbsolute path then [] else d.start

def checkPath (path : String) : Except DiskError Unit := do
  if path.toList.contains '\x00' then throw .unnameable
  if path.isEmpty then throw .noSuchFile
  if longestPath < path.utf8ByteSize then throw .nameTooLong

def locate (path : String) : Except DiskError (List String) := do
  checkPath path
  d.follow (d.origin path) (Path.parts path)

def find? (path : String) : Option DiskEntry := (d.locate path).toOption.bind d.entry?

def isFolder (path : String) : Bool := (d.find? path).any DiskEntry.isFolder

def read? (path : String) : Option (List UInt8) :=
  match d.find? path with
  | some (.file bytes) => some bytes
  | some .sink => some []
  | _ => none

/-! ## Changes -/

/-- Makes a directory in one that is there. Slashes at the end of the path do not count. -/
def makeFolder (path : String) : Except DiskError Disk := do
  checkPath path
  let parts := ((Path.parts path).reverse.dropWhile (· = "")).reverse
  match parts.getLast? with
  | none => throw .fileExists
  | some last =>
    let place ← d.follow (d.origin path) parts.dropLast
    d.needFolder place
    if last = "." || last = ".." then throw .fileExists
    if longestName < last.utf8ByteSize then throw .nameTooLong
    let place := place ++ [last]
    if (d.entry? place).isSome then throw .fileExists
    d.make place .folder

def openEnd (path : String) : Except DiskError Disk := do
  let place ← d.locate path
  match d.entry? place with
  | some e => if e.isFolder then throw .isADirectory else return d
  | none => d.make place (.file [])

def append (path : String) (bytes : List UInt8) : Disk :=
  match d.locate path with
  | .error _ => d
  | .ok place =>
    match d.entry? place with
    | some (.file old) => d.put place (.file (old ++ bytes))
    | _ => d

def makeAll (path : String) : StateM Disk (Except DiskError Unit) :=
  Path.makeAll
    (fun path => do
      match (← get).makeFolder path with
      | .ok d => set d; return .ok ()
      | .error e => return .error e)
    (fun path => return (← get).isFolder path) path

/-! ## Data directories -/

def cachePath (dir : String) : String := joinPath dir CacheFile.fileName

def tempPath (dir : String) : String := cachePath dir ++ ".tmp"

def dataDir (dir : String) : DataDir :=
  match d.find? (if dir.isEmpty then "." else dir) with
  | some .folder | some .sealed =>
    let cache := match d.find? (cachePath dir) with
      | some .folder | some .sealed => .folder
      | some (.file bytes) => .file bytes
      | some .sink => .file []
      | none => .absent
    .folder cache (d.read? (tempPath dir))
  | some _ => .plainFile
  | none => .absent

def putFile (path : String) (bytes : Option (List UInt8)) : Disk :=
  match d.locate path, bytes with
  | .ok place, some bytes => d.put place (.file bytes)
  | .ok place, none => { d with entries := d.entries.filter (·.1 ≠ place) }
  | .error _, _ => d

def putDataDir (dir : String) (left : DataDir) : Disk :=
  match left with
  | .folder cache temp =>
    let d := d.putFile (tempPath dir) temp
    match cache with
    | .file bytes => d.putFile (cachePath dir) (some bytes)
    | _ => d
  | _ => d

end Disk
end ChatBridge
