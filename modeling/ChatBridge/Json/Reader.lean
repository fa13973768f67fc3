import ChatBridge.Decimal
import ChatBridge.Json.Node
import ChatBridge.Text.Basic

/-!
# Reading JSON text

`Node.ofText` reads one value and says whether only blanks follow it. It never fails: where the text
breaks off or stops being JSON, the node says so at that place.

Containers nested 128 deep and more cannot be read, only skipped. The reader is structural on a fuel
that the length of the text always covers, since of three calls in a row one takes a character.
-/

namespace ChatBridge

namespace JsonText

def isBlank (c : Char) : Bool := c = ' ' || c = '\n' || c = '\t' || c = '\r'

def skipBlanks (cs : List Char) : List Char := cs.dropWhile isBlank

/-! ## Strings -/

def unit? (a b c d : Char) : Option Nat :=
  match hexValue? a, hexValue? b, hexValue? c, hexValue? d with
  | some a, some b, some c, some d => some (((a * 16 + b) * 16 + c) * 16 + d)
  | _, _, _, _ => none

def unitBreak (cs : List Char) : Break :=
  if Text.byteCount (cs.take 4) < 4 then .cutShort else .malformed

def isHighSurrogate (n : Nat) : Bool := 0xd800 ≤ n && n < 0xdc00

def isLowSurrogate (n : Nat) : Bool := 0xdc00 ≤ n && n < 0xe000

def joinSurrogates (high low : Nat) : Char :=
  Char.ofNat (0x10000 + (high - 0xd800) * 0x400 + (low - 0xdc00))

def simpleEscape? (c : Char) : Option Char :=
  match c with
  | '"' => some '"'
  | '\\' => some '\\'
  | '/' => some '/'
  | 'b' => some '\x08'
  | 'f' => some '\x0c'
  | 'n' => some '\n'
  | 'r' => some '\r'
  | 't' => some '\t'
  | _ => none

/-- A string as read and as skipped. A lone surrogate spoils reading only. -/
structure Scan where
  text : Except Break (List Char)
  skipped : Option Break
  rest : List Char

def Scan.fail (spoilt : Option Break) (b : Break) : Scan :=
  ⟨.error (spoilt.getD b), some b, []⟩

def lowSurrogate? : List Char → Option Nat
  | '\\' :: 'u' :: a :: b :: c :: d :: _ => (unit? a b c d).filter isLowSurrogate
  | _ => none

def surrogateBreak : List Char → Break
  | [] => .cutShort
  | ['\\'] => .cutShort
  | '\\' :: 'u' :: cs =>
    match cs with
    | a :: b :: c :: d :: _ => if (unit? a b c d).isNone then unitBreak cs else .malformed
    | _ => unitBreak cs
  | _ => .malformed

/-- Reads up to the closing quote; `spoilt` is the first break met so far that skipping ignores. -/
def scanString (spoilt : Option Break) (acc : List Char) : List Char → Scan
  | [] => .fail spoilt .cutShort
  | '"' :: cs =>
    ⟨match spoilt with
      | none => .ok acc.reverse
      | some b => .error b, none, cs⟩
  | ['\\'] => .fail spoilt .cutShort
  | '\\' :: 'u' :: a :: b :: c :: d :: cs =>
    match unit? a b c d with
    | none => .fail spoilt (unitBreak [a, b, c, d])
    | some n =>
      if isLowSurrogate n then scanString (spoilt.or (some .malformed)) acc cs
      else if isHighSurrogate n then
        match lowSurrogate? cs with
        | some m => scanString spoilt (joinSurrogates n m :: acc) (cs.drop 6)
        | none => scanString (spoilt.or (some (surrogateBreak cs))) acc cs
      else scanString spoilt (Char.ofNat n :: acc) cs
  | '\\' :: 'u' :: cs => .fail spoilt (unitBreak cs)
  | '\\' :: e :: cs =>
    match simpleEscape? e with
    | some c => scanString spoilt (c :: acc) cs
    | none => .fail spoilt .malformed
  | c :: cs =>
    if c.toNat < 0x20 then .fail spoilt .malformed else scanString spoilt (c :: acc) cs
termination_by cs => cs.length

/-! ## Numbers -/

def largestNatural : Nat := 18446744073709551615

structure Scaled where
  significand : Nat
  exponent : Int

/-- A digit before the point that does not fit, and every one after it, only raises the power. -/
def wholeDigits (s : Scaled) (full : Bool) : List Char → Scaled
  | [] => s
  | c :: cs =>
    let next := s.significand * 10 + (c.toNat - '0'.toNat)
    if full || largestNatural < next then wholeDigits { s with exponent := s.exponent + 1 } true cs
    else wholeDigits { s with significand := next } false cs

/-- A digit after the point that does not fit ends the significand. -/
def fractionDigits (s : Scaled) : List Char → Scaled
  | [] => s
  | c :: cs =>
    let next := s.significand * 10 + (c.toNat - '0'.toNat)
    if largestNatural < next then s else fractionDigits ⟨next, s.exponent - 1⟩ cs

def digitsValue (cs : List Char) : Nat := cs.foldl (fun n c => n * 10 + (c.toNat - '0'.toNat)) 0

def isDigit (c : Char) : Bool := '0' ≤ c && c ≤ '9'

def double (negative : Bool) (s : Scaled) : Node :=
  match Decimal.scaled (.ofNat s.significand) s.exponent with
  | some x => .num (.double (if negative then -x else x))
  | none => .unreadable .malformed .other none

def integer (negative : Bool) (ds : List Char) : Node :=
  let n := digitsValue ds
  if negative then
    if 0 < n ∧ n ≤ 9223372036854775808 then .num (.ofInt (-n))
    else double true (wholeDigits ⟨0, 0⟩ false ds)
  else if n ≤ largestNatural then .num (.ofNat n)
  else double false (wholeDigits ⟨0, 0⟩ false ds)

def fatal (read skipped : Break) : Node × Option (List Char) :=
  (.unreadable read .other (some skipped), none)

/-- Digits missing at the end of the text read as cut short but are skipped as malformed. -/
def noDigit (cs : List Char) : Node × Option (List Char) :=
  fatal (if cs.isEmpty then .cutShort else .malformed) .malformed

def readExponent (negative : Bool) (s : Scaled) (cs : List Char) : Node × Option (List Char) :=
  let (down, cs) := match cs with
    | '+' :: cs => (false, cs)
    | '-' :: cs => (true, cs)
    | cs => (false, cs)
  let ds := cs.takeWhile isDigit
  if ds.isEmpty then noDigit cs
  else
    let e : Int := digitsValue ds
    (double negative { s with exponent := if down then s.exponent - e else s.exponent + e },
      some (cs.dropWhile isDigit))

def readFraction (negative : Bool) (s : Scaled) (cs : List Char) : Node × Option (List Char) :=
  let ds := cs.takeWhile isDigit
  let s := fractionDigits s ds
  if ds.isEmpty then noDigit cs
  else match cs.dropWhile isDigit with
    | 'e' :: cs => readExponent negative s cs
    | 'E' :: cs => readExponent negative s cs
    | cs => (double negative s, some cs)

def readUnsigned (negative : Bool) (cs : List Char) : Node × Option (List Char) :=
  let ds := cs.takeWhile isDigit
  match ds with
  | [] => noDigit cs
  | '0' :: _ :: _ => fatal .malformed .malformed
  | _ =>
    match cs.dropWhile isDigit with
    | '.' :: cs => readFraction negative (wholeDigits ⟨0, 0⟩ false ds) cs
    | 'e' :: cs => readExponent negative (wholeDigits ⟨0, 0⟩ false ds) cs
    | 'E' :: cs => readExponent negative (wholeDigits ⟨0, 0⟩ false ds) cs
    | cs => (integer negative ds, some cs)

/-! ## Values -/

def readWord (n : Node) : List Char → List Char → Node × Option (List Char)
  | [], cs => (n, some cs)
  | _ :: _, [] => fatal .cutShort .cutShort
  | w :: ws, c :: cs => if w = c then readWord n ws cs else fatal .malformed .malformed

def depthLimit : Nat := 128

def atDepth (depth : Nat) (opening : Opening) (n : Node) : Node :=
  if depth < depthLimit then n else .unreadable .malformed opening n.skipBreak

mutual

def readValue : Nat → Nat → List Char → Node × Option (List Char)
  | 0, _, _ => fatal .malformed .malformed
  | fuel + 1, depth, cs =>
    match skipBlanks cs with
    | [] => (.unreadable .cutShort .nothing (some .cutShort), none)
    | 'n' :: cs => readWord .null "ull".toList cs
    | 't' :: cs => readWord (.bool true) "rue".toList cs
    | 'f' :: cs => readWord (.bool false) "alse".toList cs
    | '"' :: cs =>
      let s := scanString none [] cs
      (match s.text with
        | .ok t => .str (String.ofList t)
        | .error b => .unreadable b .quote s.skipped,
        if s.skipped.isSome then none else some s.rest)
    | '[' :: cs =>
      let (items, ending, rest) := readItems fuel (depth + 1) true cs
      (atDepth (depth + 1) .bracket (.arr items ending), rest)
    | '\x7b' :: cs =>
      let (members, ending, rest) := readMembers fuel (depth + 1) true cs
      (atDepth (depth + 1) .brace (.obj members ending), rest)
    | '-' :: cs => readUnsigned true cs
    | c :: cs =>
      if isDigit c then readUnsigned false (c :: cs) else fatal .malformed .malformed

def readItems : Nat → Nat → Bool → List Char → List Node × Ending × Option (List Char)
  | 0, _, _, _ => ([], .broken .malformed false, none)
  | fuel + 1, depth, first, cs =>
    match skipBlanks cs with
    | [] => ([], .broken .cutShort false, none)
    | ']' :: cs => ([], .closed, some cs)
    | c :: cs =>
      if first then readItem fuel depth (c :: cs)
      else if c = ',' then
        match skipBlanks cs with
        | [] => ([], .broken .cutShort true, none)
        | ']' :: _ => ([], .broken .malformed true, none)
        | c :: cs => readItem fuel depth (c :: cs)
      else ([], .broken .malformed false, none)

def readItem : Nat → Nat → List Char → List Node × Ending × Option (List Char)
  | 0, _, _ => ([], .broken .malformed false, none)
  | fuel + 1, depth, cs =>
    match readValue fuel depth cs with
    | (n, none) => ([n], .closed, none)
    | (n, some cs) =>
      let (ns, ending, rest) := readItems fuel depth false cs
      (n :: ns, ending, rest)

def readMembers :
    Nat → Nat → Bool → List Char → List (String × Node) × Ending × Option (List Char)
  | 0, _, _, _ => ([], .broken .malformed false, none)
  | fuel + 1, depth, first, cs =>
    match skipBlanks cs with
    | [] => ([], .broken .cutShort false, none)
    | '\x7d' :: cs => ([], .closed, some cs)
    | c :: cs =>
      if first then readMember fuel depth (c :: cs)
      else if c = ',' then
        match skipBlanks cs with
        | [] => ([], .broken .cutShort true, none)
        | '\x7d' :: _ => ([], .broken .malformed true, none)
        | c :: cs => readMember fuel depth (c :: cs)
      else ([], .broken .malformed false, none)

def readMember : Nat → Nat → List Char → List (String × Node) × Ending × Option (List Char)
  | 0, _, _ => ([], .broken .malformed false, none)
  | fuel + 1, depth, '"' :: cs =>
    let s := scanString none [] cs
    match s.text with
    | .ok key =>
      let (n, ms, ending, rest) := readKeyed fuel depth s.rest
      ((String.ofList key, n) :: ms, ending, rest)
    | .error b =>
      if s.skipped.isSome then ([], .unreadableKey b s.skipped, none)
      else
        let (n, ms, ending, rest) := readKeyed fuel depth s.rest
        ([], .unreadableKey b (n.skipBreak.or (Node.obj ms ending).skipBreak), rest)
  | _ + 1, _, _ => ([], .broken .malformed true, none)

def readKeyed : Nat → Nat → List Char →
    Node × List (String × Node) × Ending × Option (List Char)
  | 0, _, _ => ((fatal .malformed .malformed).1, [], .closed, none)
  | fuel + 1, depth, cs =>
    match skipBlanks cs with
    | ':' :: cs =>
      match readValue fuel depth cs with
      | (n, none) => (n, [], .closed, none)
      | (n, some cs) =>
        let (ms, ending, rest) := readMembers fuel depth false cs
        (n, ms, ending, rest)
    | [] => (.unreadable .cutShort .nothing (some .cutShort), [], .closed, none)
    | _ => ((fatal .malformed .malformed).1, [], .closed, none)

end

end JsonText

def Node.ofText (text : String) : Node × Bool :=
  let cs := text.toList
  match JsonText.readValue (3 * cs.length + 3) 0 cs with
  | (n, none) => (n, true)
  | (n, some rest) => (n, (JsonText.skipBlanks rest).isEmpty)

def Json.parse? (text : String) : Option Json :=
  match Node.ofText text with
  | (n, true) => if n.readBreak.isNone then some n.toJson else none
  | (_, false) => none

end ChatBridge
