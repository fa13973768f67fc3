import ChatBridge.Text.Alphanumeric
import ChatBridge.Text.Basic

/-!
# Patterns

What a filter may ask of the value of a field: a number or a pattern. Only whether a text is one is
said here, since no record has values to compare.

A pattern is a row of atoms with alternatives between bars; an atom may be repeated any number of
times. Braces end a field, so that counted repetitions and whatever else needs braces cannot occur.
Words have no bounds that could be asked for.
-/

namespace ChatBridge.Pattern

inductive Escape where
  | char (c : Char)
  | characterClass
  | place
deriving DecidableEq, Repr, Inhabited

def numbered? (digits : Nat) (cs : List Char) : Option Char :=
  let ds := cs.take digits
  let n := ofHexDigits ds
  if ds.length = digits && ds.all (fun d => (hexValue? d).isSome) && n.isValidChar then
    some (Char.ofNat n)
  else none

/-- Reads behind a backslash, and says how many characters that took. -/
def escape? : List Char → Option (Escape × Nat)
  | [] => none
  | 'x' :: cs => (numbered? 2 cs).map fun c => (.char c, 3)
  | 'u' :: cs => (numbered? 4 cs).map fun c => (.char c, 5)
  | 'U' :: cs => (numbered? 8 cs).map fun c => (.char c, 9)
  | 'a' :: _ => some (.char '\x07', 1)
  | 'f' :: _ => some (.char '\x0c', 1)
  | 'n' :: _ => some (.char '\n', 1)
  | 'r' :: _ => some (.char '\r', 1)
  | 't' :: _ => some (.char '\t', 1)
  | 'v' :: _ => some (.char '\x0b', 1)
  | 'p' :: c :: _ | 'P' :: c :: _ =>
    if "CLMNPSZ".contains c.toUpper then some (.characterClass, 2) else none
  | c :: _ =>
    if "dDsSwW".contains c then some (.characterClass, 1)
    else if c = 'A' || c = 'z' then some (.place, 1)
    else if c.isAlphanum || 0x80 ≤ c.toNat || c = '<' || c = '>' then none
    else some (.char c, 1)

/-! ## Character classes -/

def classNames : List String :=
  ["alnum", "alpha", "ascii", "blank", "cntrl", "digit", "graph", "lower", "print", "punct", "space",
    "upper", "word", "xdigit"]

def namedClass? : List Char → Option Nat
  | ':' :: cs =>
    let isNegated := cs.head? = some '^'
    let name := (if isNegated then cs.tail else cs).takeWhile (· ≠ ':')
    let size := name.length + if isNegated then 2 else 1
    if classNames.contains (String.ofList name) && (cs.drop (size - 1)).take 2 = [':', ']'] then
      some (size + 2)
    else none
  | _ => none

/-- How much of what follows an opening bracket belongs to the opening: hyphens there, or else a
closing bracket, are members of the class. -/
def openingSize (cs : List Char) : Nat :=
  let negation := if cs.head? = some '^' then 1 else 0
  let rest := cs.drop negation
  let hyphens := (rest.takeWhile (· = '-')).length
  negation + if hyphens = 0 && rest.head? = some ']' then 1 else hyphens

def member? : List Char → Option (Escape × Nat)
  | '\\' :: cs => (escape? cs).map fun (e, size) => (e, size + 1)
  | c :: _ => some (.char c, 1)
  | [] => none

def range? (cs : List Char) : Option Nat :=
  match member? cs with
  | none => none
  | some (.place, _) => none
  | some (first, size) =>
    match cs.drop size with
    | '-' :: ']' :: _ | '-' :: '-' :: _ => some size
    | '-' :: rest =>
      match first, member? rest with
      | .char a, some (.char b, more) => if a ≤ b then some (size + more + 1) else none
      | _, _ => none
    | _ => some size

/-! ## Groups -/

inductive Opening where
  | group
  | named (name : String)
  | settings
deriving DecidableEq, Repr, Inhabited

def isName (cs : List Char) : Bool :=
  let isLetter (c : Char) : Bool := c = '_' || (Text.isAlphanumeric c && !c.isDigit)
  cs.head?.any isLetter && cs.all fun c => Text.isAlphanumeric c || "_.[]".contains c

def named? (start : Nat) (cs : List Char) : Option (Opening × Nat) :=
  let name := cs.takeWhile (· ≠ '>')
  if isName name && name.length < cs.length then
    some (.named (String.ofList name), start + name.length + 1)
  else none

/-- Letters, each once, of which those behind a hyphen are switched off. -/
def areSettings (cs : List Char) : Bool :=
  cs.all ("imsUuRx-".contains ·) && cs.all (cs.count · = 1) && cs.getLast? ≠ some '-'

def opening? : List Char → Option (Opening × Nat)
  | '?' :: '<' :: '=' :: _ | '?' :: '<' :: '!' :: _ => none
  | '?' :: 'P' :: '<' :: cs => named? 3 cs
  | '?' :: '<' :: cs => named? 2 cs
  | '?' :: cs =>
    let settings := cs.takeWhile fun c => c ≠ ':' && c ≠ ')'
    if !areSettings settings then none
    else
      match cs.drop settings.length with
      | ':' :: _ => some (.group, settings.length + 2)
      | ')' :: _ => if settings.isEmpty then none else some (.settings, settings.length + 2)
      | _ => none
  | _ => some (.group, 0)

/-! ## Whole patterns -/

structure State where
  groups : Nat
  classes : Nat
  repeatable : Bool
  names : List String
deriving Repr

def State.start : State := ⟨0, 0, false, []⟩

def readInClass (s : State) : List Char → Option (State × Nat)
  | '[' :: cs =>
    match namedClass? cs with
    | some size => some (s, size + 1)
    | none => some ({ s with classes := s.classes + 1 }, openingSize cs + 1)
  | ']' :: _ => some ({ s with classes := s.classes - 1, repeatable := true }, 1)
  | '&' :: '&' :: _ | '-' :: '-' :: _ | '~' :: '~' :: _ => some (s, 2)
  | cs => (range? cs).map fun size => (s, size)

def openGroup (s : State) : Opening → Option State
  | .settings => some { s with repeatable := false }
  | .group => some { s with groups := s.groups + 1, repeatable := false }
  | .named name =>
    if s.names.contains name then none
    else some { s with groups := s.groups + 1, repeatable := false, names := name :: s.names }

def readInRow (s : State) : List Char → Option (State × Nat)
  | '(' :: cs => do
    let (opening, size) ← opening? cs
    return (← openGroup s opening, size + 1)
  | ')' :: _ =>
    if s.groups = 0 then none else some ({ s with groups := s.groups - 1, repeatable := true }, 1)
  | '|' :: _ => some ({ s with repeatable := false }, 1)
  | '*' :: _ | '+' :: _ | '?' :: _ => if s.repeatable then some (s, 1) else none
  | '[' :: cs => some ({ s with classes := 1 }, openingSize cs + 1)
  | '\\' :: cs => (escape? cs).map fun (_, size) => ({ s with repeatable := true }, size + 1)
  | '\x7b' :: _ => none
  | _ => some ({ s with repeatable := true }, 1)

def isRow (s : State) : List Char → Bool
  | [] => s.groups = 0 && s.classes = 0
  | c :: cs =>
    match if s.classes = 0 then readInRow s (c :: cs) else readInClass s (c :: cs) with
    | none => false
    | some (s, size) => isRow s (cs.drop (size - 1))
  termination_by cs => cs.length
  decreasing_by all_goals simp only [List.length_cons, List.length_drop]; omega

def isPattern (cs : List Char) : Bool := isRow .start cs

/-! ## Values -/

def isDecimal (cs : List Char) : Bool :=
  let mantissa := cs.takeWhile fun c => c ≠ 'e' && c ≠ 'E'
  let digits := mantissa.erase '.'
  let hasExponent : Bool :=
    match cs.drop mantissa.length with
    | [] => true
    | _ :: '+' :: ds | _ :: '-' :: ds | _ :: ds => !ds.isEmpty && ds.all Char.isDigit
  !digits.isEmpty && digits.all Char.isDigit && hasExponent

def isUnlimited (cs : List Char) : Bool :=
  ["inf", "infinity", "nan"].contains (String.ofList (cs.map Char.toLower))

/-- All numbers but those with a plus sign in front are patterns as well. -/
def isValue (cs : List Char) : Bool :=
  isPattern cs || (cs.head? = some '+' && (isDecimal cs.tail || isUnlimited cs.tail))

end ChatBridge.Pattern
