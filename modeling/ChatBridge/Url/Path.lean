import ChatBridge.Text.Basic
import ChatBridge.Url.Percent

/-!
# Paths

A path is a list of segments. Segments of one dot are left out, segments of two dots take back the
segment before them, unless that is the letter of a drive.
-/

namespace ChatBridge.Url

def isDot (segment : List Char) : Bool :=
  [".", "%2e"].contains (String.ofList (segment.map Char.toLower))

def isDoubleDot (segment : List Char) : Bool :=
  ["..", ".%2e", "%2e.", "%2e%2e"].contains (String.ofList (segment.map Char.toLower))

def isDrive : List Char → Bool
  | [letter, mark] => letter.isAlpha && (mark = ':' || mark = '|')
  | _ => false

/-- The segments that are left; `done` holds those passed so far, the last one first. What a dotted
segment at the end leaves is a directory. -/
def resolveDots : List (List Char) → List (List Char) → List (List Char)
  | done, [] => done.reverse
  | done, s :: segments =>
    let close (done : List (List Char)) := if segments.isEmpty then [] :: done else done
    if isDoubleDot s then
      resolveDots (close (if done.head?.any isDrive then done else done.tail)) segments
    else if isDot s then resolveDots (close done) segments
    else resolveDots (s :: done) segments

def segmentsOf (isSlash : Char → Bool) (cs : List Char) : List (List Char) :=
  resolveDots [] (Text.splitParts isSlash (if cs.head?.any isSlash then cs.tail else cs))

def renderPath (segments : List (List Char)) : String :=
  String.join (segments.map fun s => "/" ++ encode keepsPath s)

/-! ## Paths of files -/

def fileSegments (isSlash : Char → Bool) (cs : List Char) : List (List Char) :=
  match segmentsOf isSlash cs with
  | [] => [[]]
  | s :: segments => (if isDrive s then s.take 1 ++ [':'] else s) :: segments

/-- Empty segments in front are left out, all but one. -/
def dropEmptyFront : List (List Char) → List (List Char)
  | [] :: s :: segments => dropEmptyFront (s :: segments)
  | segments => segments

end ChatBridge.Url
