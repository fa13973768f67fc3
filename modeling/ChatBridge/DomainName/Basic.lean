import ChatBridge.DomainName.Direction
import ChatBridge.DomainName.Joining
import ChatBridge.DomainName.Mapping
import ChatBridge.DomainName.Punycode
import ChatBridge.Text.Mark

/-!
# Domain names

A domain name in any script has one form in ASCII, or none. Its characters are mapped and composed,
each label is checked, and labels beyond ASCII are written in Punycode behind a tag.
-/

namespace ChatBridge.DomainName

def tag : List Char := ['x', 'n', '-', '-']

def longestWritten : Nat := 1000

def longestRead : Nat := 2000

def isForbidden (c : Char) : Bool :=
  c.toNat ≤ 0x20 || c.toNat = 0x7f || "#/:<>?@[\\]^|%".contains c

/-! ## Labels -/

/-- A label is kept as it stands where mapping and composing would change nothing. -/
def isSettled (label : List Char) : Bool :=
  label.all (fun c => mapChar? c = some [c]) && Text.composed label = label

def readTagged? (code : List Char) : Option (List Char) := do
  guard (code.all Punycode.isAscii && code.getLast?.any (· ≠ '-') && code.length ≤ longestRead)
  let label ← Punycode.decode? code
  guard (isSettled label && !label.any (fun c => isForbidden c || c = '.'))
  return label

def readLabel? (label : List Char) : Option (List Char) :=
  if label.take 4 = tag then readTagged? (label.drop 4) else some label

def isSound (label : List Char) : Bool :=
  !label.head?.any Text.isMark && joinersFit [] label
    && (label.all Punycode.isAscii || label.length ≤ longestWritten)

def writeLabel (label : List Char) : List Char :=
  if label.all Punycode.isAscii then label else tag ++ Punycode.encode label

/-! ## Names -/

def mapped? (cs : List Char) : Option (List Char) :=
  if cs.all Punycode.isAscii then some (cs.map Char.toLower)
  else (cs.mapM mapChar?).map fun images => Text.composed images.flatten

def hasOneDirectionEach (labels : List (List Char)) : Bool :=
  !labels.any (·.any turnsAround) || labels.all hasOneDirection

def toAscii? (cs : List Char) : Option (List Char) := do
  let cs ← mapped? cs
  guard (!cs.any isForbidden)
  let labels ← (Text.splitParts (· = '.') cs).mapM readLabel?
  guard (labels.all isSound && hasOneDirectionEach labels)
  return Text.joinParts '.' (labels.map writeLabel)

end ChatBridge.DomainName
