import ChatBridge.Text.Basic

/-!
# Paths of files, and what can go wrong with them

A path is text whose names are separated by slashes. Making a directory with all that lead to it
tries the path itself first and goes up until something is there.
-/

namespace ChatBridge

inductive DiskError where
  | noSuchFile
  | fileExists
  | notADirectory
  | isADirectory
  | nameTooLong
  | denied
  | unnameable
deriving DecidableEq, Repr, Inhabited

def DiskError.message : DiskError → String
  | .noSuchFile => "No such file or directory (os error 2)"
  | .fileExists => "File exists (os error 17)"
  | .notADirectory => "Not a directory (os error 20)"
  | .isADirectory => "Is a directory (os error 21)"
  | .denied => "Permission denied (os error 13)"
  | .nameTooLong => "File name too long (os error 36)"
  | .unnameable => "file name contained an unexpected NUL byte"

def joinPath (dir path : String) : String :=
  if dir.isEmpty || dir.endsWith "/" then dir ++ path else dir ++ "/" ++ path

namespace Path

def parts (path : String) : List String :=
  (Text.splitParts (· = '/') path.toList).map String.ofList

def isAbsolute (path : String) : Bool := path.startsWith "/"

/-- The parts that lead somewhere; one dot counts only where a path begins. -/
def names (path : String) : List String :=
  match parts path with
  | "." :: rest => "." :: rest.filter fun p => p ≠ "" && p ≠ "."
  | all => all.filter fun p => p ≠ "" && p ≠ "."

def ofNames (absolute : Bool) (names : List String) : String :=
  (if absolute then "/" else "") ++ String.intercalate "/" names

def above (path : String) : List String :=
  let all := names path
  (List.range all.length).reverse.map fun n => ofNames (isAbsolute path) (all.take n)

section
variable {m : Type → Type} [Monad m]

/-- Makes the first of the directories, each of which is below the next; `make` makes one whose
surroundings are there. -/
def makeFirst (make : String → m (Except DiskError Unit)) (isFolder : String → m Bool) :
    List String → m (Except DiskError Unit)
  | [] => return .error .noSuchFile
  | path :: rest => do
    if path.isEmpty then return .ok ()
    match ← make path with
    | .ok () => return .ok ()
    | .error .noSuchFile =>
      match ← makeFirst make isFolder rest with
      | .error e => return .error e
      | .ok () =>
        match ← make path with
        | .ok () => return .ok ()
        | .error e => return if ← isFolder path then .ok () else .error e
    | .error e => return if ← isFolder path then .ok () else .error e

def makeAll (make : String → m (Except DiskError Unit)) (isFolder : String → m Bool)
    (path : String) : m (Except DiskError Unit) :=
  makeFirst make isFolder (path :: above path)

end
end Path
end ChatBridge
