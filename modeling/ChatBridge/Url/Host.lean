import ChatBridge.DomainName.Basic
import ChatBridge.Url.Percent

/-!
# Hosts

A host is a numeric one, a domain name in its ASCII form, or, in schemes of their own, any text.

Numeric hosts have two forms. The short form has up to four parts, each in base 8, 10 or 16, of which
the last one fills all bytes that are left. The long form, in brackets, has eight groups of
hexadecimal digits, of which a run of zeros may be left out and the last two may be a short form.
-/

namespace ChatBridge.Url

/-! ## The short form -/

def numberIn (base : Nat) (digits : List Char) : Nat :=
  digits.foldl (fun n c => n * base + (hexValue? c).getD 0) 0

/-- Digits in the base that their beginning tells; no digits behind it are zero. -/
def shortPart? (cs : List Char) : Option Nat :=
  let read (base : Nat) (digits : List Char) : Option Nat :=
    if digits.all (fun c => (hexValue? c).any (· < base)) then some (numberIn base digits) else none
  match cs with
  | [] => none
  | '0' :: 'x' :: digits | '0' :: 'X' :: digits => read 16 digits
  | '0' :: d :: digits => read 8 (d :: digits)
  | digits => read 10 digits

def shortParts (host : List Char) : List (List Char) :=
  match Text.splitParts (· = '.') host with
  | [p] => [p]
  | parts => if parts.getLast? = some [] then parts.dropLast else parts

def looksNumeric (host : List Char) : Bool :=
  match (shortParts host).getLast? with
  | some p => !p.isEmpty && (p.all Char.isDigit || (shortPart? p).isSome)
  | none => false

def shortBytes? (numbers : List Nat) : Option (List Nat) :=
  match numbers.reverse with
  | [] => none
  | last :: front =>
    let left := 4 - front.length
    if 3 < front.length || front.any (255 < ·) || Nat.pow 256 left ≤ last then none
    else some (front.reverse ++ ((List.range left).map fun i => last / Nat.pow 256 i % 256).reverse)

def readShort? (host : List Char) : Option (List Nat) :=
  ((shortParts host).mapM shortPart?).bind shortBytes?

def renderShort (bytes : List Nat) : String := String.intercalate "." (bytes.map toString)

/-! ## The long form -/

def group? (cs : List Char) : Option Nat :=
  if cs.isEmpty || 4 < cs.length || cs.any (fun c => (hexValue? c).isNone) then none
  else some (ofHexDigits cs)

def decimalByte? (cs : List Char) : Option Nat :=
  if cs.isEmpty || !cs.all Char.isDigit || (1 < cs.length && cs.head? = some '0') then none
  else
    let n := numberIn 10 cs
    if n < 256 then some n else none

def tailGroups? (cs : List Char) : Option (List Nat) :=
  match (Text.splitParts (· = '.') cs).mapM decimalByte? with
  | some [a, b, c, d] => some [a * 256 + b, c * 256 + d]
  | _ => none

def groups? (isEnd : Bool) : List (List Char) → Option (List Nat)
  | [] => some []
  | [p] => ((group? p).map ([·])).or (if isEnd then tailGroups? p else none)
  | p :: parts => do return (← group? p) :: (← groups? isEnd parts)

def groupsOf? (isEnd : Bool) (cs : List Char) : Option (List Nat) :=
  if cs.isEmpty then some [] else groups? isEnd (Text.splitParts (· = ':') cs)

def cutDouble : List Char → List Char × Option (List Char)
  | ':' :: ':' :: cs => ([], some cs)
  | c :: cs => let (front, back) := cutDouble cs; (c :: front, back)
  | [] => ([], none)

/-- A double colon stands for one zero at least. -/
def readLong? (cs : List Char) : Option (List Nat) :=
  match cutDouble cs with
  | (front, none) => (groupsOf? true front).filter (·.length = 8)
  | (front, some back) => do
    let front ← groupsOf? false front
    let back ← groupsOf? true back
    let given := front.length + back.length
    if given < 8 then some (front ++ List.replicate (8 - given) 0 ++ back) else none

def zeroRuns : List Nat → List Nat
  | [] => []
  | g :: groups => (if g = 0 then 1 + (zeroRuns groups).headD 0 else 0) :: zeroRuns groups

def hexGroups (groups : List Nat) : String :=
  String.intercalate ":" (groups.map fun g => String.ofList (Nat.toDigits 16 g))

/-- The first of the longest runs of two zeros or more is left out. -/
def renderLong (groups : List Nat) : String :=
  let runs := zeroRuns groups
  let longest := runs.foldl max 0
  let start := runs.findIdx (· = longest)
  if longest < 2 then "[" ++ hexGroups groups ++ "]"
  else "[" ++ hexGroups (groups.take start) ++ "::" ++ hexGroups (groups.drop (start + longest)) ++ "]"

/-! ## All forms -/

def readBracketed? (cs : List Char) : Option String :=
  if cs.getLast? = some ']' then (readLong? (cs.drop 1).dropLast).map renderLong else none

def readNetworkHost? (cs : List Char) : Option String :=
  if cs.head? = some '[' then readBracketed? cs
  else do
    let meant ← decode? (String.ofList cs)
    let name ← DomainName.toAscii? meant.toList
    if name.isEmpty then none
    else if looksNumeric name then (readShort? name).map renderShort
    else some (String.ofList name)

def isForbiddenInHost (c : Char) : Bool := "\x00\t\n\r #/:<>?@[\\]^|".contains c

/-- A host that only its scheme understands; it may be empty. -/
def readOpaqueHost? (cs : List Char) : Option String :=
  if cs.head? = some '[' then readBracketed? cs
  else if cs.any isForbiddenInHost then none
  else some (encode isPlain cs)

end ChatBridge.Url
