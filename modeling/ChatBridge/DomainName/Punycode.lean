/-!
# Punycode

Labels beyond ASCII are written in letters, digits and hyphens: first the ASCII characters of the
label and a hyphen, then one number for each other character, in the order of the code points. A
number counts how many pairs of a code point and a place are passed over until the next insertion.
It is written in base 36 with the low digit first; digits below a threshold end it, and the
thresholds adapt to the numbers written so far.
-/

namespace ChatBridge.Punycode

def base : Nat := 36

def bound : Nat := 0x100000000

/-! ## Digits -/

def digit (n : Nat) : Char := if n < 26 then .ofNat ('a'.toNat + n) else .ofNat ('0'.toNat + n - 26)

def digitValue? (c : Char) : Option Nat :=
  if 'a' ≤ c ∧ c ≤ 'z' then some (c.toNat - 'a'.toNat)
  else if 'A' ≤ c ∧ c ≤ 'Z' then some (c.toNat - 'A'.toNat)
  else if '0' ≤ c ∧ c ≤ '9' then some (c.toNat - '0'.toNat + 26)
  else none

def threshold (place bias : Nat) : Nat := min 26 (max 1 (base * (place + 1) - bias))

def shrink (n steps : Nat) : Nat :=
  if h : 455 < n then shrink (n / 35) (steps + 1) else base * steps + 36 * n / (n + 38)
  termination_by n
  decreasing_by exact Nat.div_lt_self (by omega) (by omega)

def adapt (number count : Nat) (isFirst : Bool) : Nat :=
  let n := if isFirst then number / 700 else number / 2
  shrink (n + n / count) 0

theorem threshold_pos (place bias : Nat) : 1 ≤ threshold place bias := by
  unfold threshold; omega

/-! ## Writing -/

def numberDigits (bias place n : Nat) : List Char :=
  let t := threshold place bias
  if n < t then [digit n]
  else digit (t + (n - t) % (base - t)) :: numberDigits bias (place + 1) ((n - t) / (base - t))
  termination_by n
  decreasing_by
    have := threshold_pos place bias
    have := Nat.div_le_self (n - threshold place bias) (base - threshold place bias)
    omega

/-- How far writing has come: the digits so far, the number that the next insertion will have, and
how many characters are in place. -/
structure Progress where
  written : List Char
  number : Nat
  bias : Nat
  count : Nat

def Progress.pass (code start : Nat) (p : Progress) (c : Char) : Progress :=
  if c.toNat < code then { p with number := p.number + 1 }
  else if c.toNat = code then
    ⟨p.written ++ numberDigits p.bias 0 p.number, 0,
      adapt p.number (p.count + 1) (p.count = start), p.count + 1⟩
  else p

/-- Inserts all characters with the given code points, which rise; `reached` is the code point from
which on nothing is passed over yet. -/
def insertCodes (label : List Char) (start : Nat) : List Nat → Nat → Progress → Progress
  | [], _, p => p
  | code :: codes, reached, p =>
    let p := { p with number := p.number + (code - reached) * (p.count + 1) }
    let p := label.foldl (Progress.pass code start) p
    insertCodes label start codes (code + 1) { p with number := p.number + 1 }

def isAscii (c : Char) : Bool := c.toNat < 0x80

def codesBeyond (label : List Char) : List Nat :=
  ((label.filter (!isAscii ·)).map Char.toNat).mergeSort.eraseDups

def encode (label : List Char) : List Char :=
  let plain := label.filter isAscii
  let p := insertCodes label plain.length (codesBeyond label) 0x80 ⟨[], 0, 72, plain.length⟩
  plain ++ (if plain.isEmpty then [] else ['-']) ++ p.written

/-! ## Reading -/

/-- Reads a number and adds it to the one given; `weight` is what the next digit counts. -/
def readNumber? (bias : Nat) : Nat → Nat → Nat → List Char → Option (Nat × List Char)
  | _, _, _, [] => none
  | place, weight, n, c :: cs =>
    match digitValue? c with
    | none => none
    | some d =>
      let t := threshold place bias
      if bound ≤ n + d * weight then none
      else if d < t then some (n + d * weight, cs)
      else if bound ≤ weight * (base - t) then none
      else readNumber? bias (place + 1) (weight * (base - t)) (n + d * weight) cs

theorem length_of_readNumber? {bias place weight n : Nat} {cs : List Char} {r : Nat × List Char} :
    readNumber? bias place weight n cs = some r → r.2.length < cs.length := by
  fun_induction readNumber? bias place weight n cs <;> grind

def insertAt (i : Nat) (c : Char) (cs : List Char) : List Char := cs.take i ++ c :: cs.drop i

/-- Reads numbers to the end; the next character goes to the place `number` of the label, counting on
through all code points from `code` on. -/
def insertRead? (bias code number : Nat) (label cs : List Char) : Option (List Char) :=
  if cs.isEmpty then some label
  else
    match _h : readNumber? bias 0 1 number cs with
    | none => none
    | some (n, rest) =>
      let count := label.length + 1
      let code := code + n / count
      if code.isValidChar then
        insertRead? (adapt (n - number) count (number = 0)) code (n % count + 1)
          (insertAt (n % count) (.ofNat code) label) rest
      else none
  termination_by cs.length
  decreasing_by exact length_of_readNumber? _h

def decode? (cs : List Char) : Option (List Char) :=
  let tail := (cs.reverse.takeWhile (· ≠ '-')).reverse
  let plain := cs.take (cs.length - tail.length - 1)
  if tail.length = cs.length then insertRead? 72 0x80 0 [] cs
  else if plain.isEmpty then none
  else insertRead? 72 0x80 0 plain tail

end ChatBridge.Punycode
