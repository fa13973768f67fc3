/-!
# Texts

Hexadecimal digits, white space, which is what has the Unicode property White_Space, and the parts of
a text. A text falls into parts at its marks: there is always one part more than there are marks.
Parts may also lie between two places, which are counted in bytes; a place inside of a character
begins and ends nothing.
-/

namespace ChatBridge

/-! ## Hexadecimal digits -/

def hexDigit (n : Nat) : Char := (Nat.toDigits 16 (n % 16)).headD '0'

def hexValue? (c : Char) : Option Nat :=
  if '0' ≤ c ∧ c ≤ '9' then some (c.toNat - '0'.toNat)
  else if 'a' ≤ c ∧ c ≤ 'f' then some (c.toNat - 'a'.toNat + 10)
  else if 'A' ≤ c ∧ c ≤ 'F' then some (c.toNat - 'A'.toNat + 10)
  else none

/-- The number that the digits write; what is no digit counts as zero. -/
def ofHexDigits (cs : List Char) : Nat := cs.foldl (fun n c => n * 16 + (hexValue? c).getD 0) 0

namespace Text

/-! ## White space -/

def isBlank (c : Char) : Bool :=
  let n := c.toNat
  (9 ≤ n && n ≤ 13) || n = 0x20 || n = 0x85 || n = 0xa0 || n = 0x1680 || (0x2000 ≤ n && n ≤ 0x200a)
    || n = 0x2028 || n = 0x2029 || n = 0x202f || n = 0x205f || n = 0x3000

def dropEndWhile (p : Char → Bool) (cs : List Char) : List Char := (cs.reverse.dropWhile p).reverse

def trim (s : String) : String := String.ofList (dropEndWhile isBlank (s.toList.dropWhile isBlank))

/-! ## Parts -/

def splitParts (isMark : Char → Bool) : List Char → List (List Char)
  | [] => [[]]
  | c :: cs =>
    match isMark c, splitParts isMark cs with
    | true, parts => [] :: parts
    | false, p :: parts => (c :: p) :: parts
    | false, [] => [[c]]

def joinParts (mark : Char) : List (List Char) → List Char
  | [] => []
  | [p] => p
  | p :: parts => p ++ mark :: joinParts mark parts

def cutAt (mark : Char) (cs : List Char) : List Char × Option (List Char) :=
  match cs.dropWhile (· ≠ mark) with
  | _ :: rest => (cs.takeWhile (· ≠ mark), some rest)
  | [] => (cs, none)

/-! ## Between bytes -/

def byteCount (cs : List Char) : Nat := cs.foldl (fun n c => n + c.utf8Size) 0

def splitAtByte? : Nat → List Char → Option (List Char × List Char)
  | 0, cs => some ([], cs)
  | _ + 1, [] => none
  | n, c :: cs =>
    if n < c.utf8Size then none
    else (splitAtByte? (n - c.utf8Size) cs).map fun (front, rest) => (c :: front, rest)

def betweenBytes? (start finish : Nat) (cs : List Char) : Option (List Char) := do
  let (_, rest) ← splitAtByte? start cs
  let (part, _) ← splitAtByte? (finish - start) rest
  return part

end Text
end ChatBridge
