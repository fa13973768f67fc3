/-!
# Arguments

How the words of a command line are read. Words that start with a dash are switches, unless they
follow a lone `--`; a lone `-` is none. A switch that takes a value finds it behind an equals sign,
in the same word after its letter, or in the next word. Words are read one after the other, and the
first that does not fit is the one that is refused.
-/

namespace ChatBridge.Arguments

inductive Misuse where
  | unknownArgument
  | unknownCommand
  | missingArgument
  | missingValue
  | missingCommand
  | repeatedSwitch
  | unwantedValue
  | helpAsked
  | nothingAsked
deriving DecidableEq, Repr, Inhabited

structure Switch where
  name : String
  letter : Option Char
  takesValue : Bool
deriving DecidableEq, Repr, Inhabited

def Switch.help : Switch := ⟨"help", some 'h', false⟩

inductive Word where
  /-- What follows are values. -/
  | separator
  | long (name : String) (value : Option String)
  | letters (cs : List Char)
  | plain (text : String)
deriving DecidableEq, Repr, Inhabited

def Word.ofLong (cs : List Char) : Word :=
  let name := String.ofList (cs.takeWhile (· ≠ '='))
  match cs.dropWhile (· ≠ '=') with
  | _ :: value => .long name (some (String.ofList value))
  | [] => .long name none

def Word.ofText (text : String) : Word :=
  match text.toList with
  | ['-', '-'] => .separator
  | '-' :: '-' :: cs => .ofLong cs
  | '-' :: c :: cs => .letters (c :: cs)
  | _ => .plain text

/-! ## Switches -/

/-- What has been read. The switch read last may still be waiting for its value, and is looked at
only when the next one comes or the words end. -/
structure Scan where
  given : List (String × String)
  pending : Option (Switch × Option String)
  values : List String
deriving DecidableEq, Repr, Inhabited

namespace Scan

def start : Scan := ⟨[], none, []⟩

variable (s : Scan)

def isGiven (name : String) : Bool := s.given.any (·.1 == name)

def value? (name : String) : Option String := s.given.lookup name

def record (w : Switch) (value : String) : Except Misuse Scan :=
  if s.isGiven w.name then .error .repeatedSwitch
  else if w.takesValue && value.isEmpty then .error .missingValue
  else .ok { s with given := s.given ++ [(w.name, value)] }

def settle : Except Misuse Scan :=
  match s.pending with
  | none => .ok s
  | some (_, none) => .error .missingValue
  | some (w, some value) => { s with pending := none }.record w value

def give (w : Switch) (value : String) : Except Misuse Scan := do
  let s ← s.settle
  if w = .help then .error .helpAsked else s.record w value

def await (w : Switch) : Except Misuse Scan := do
  return { ← s.settle with pending := some (w, none) }

def long (known : List Switch) (name : String) (value : Option String) : Except Misuse Scan :=
  match known.find? (·.name == name), value with
  | none, _ => .error .unknownArgument
  | some w, some value => if w.takesValue then s.give w value else .error .unwantedValue
  | some w, none => if w.takesValue then s.await w else s.give w ""

/-- What follows a letter that takes a value is the value, with or without an equals sign. -/
def letters (known : List Switch) : List Char → Scan → Except Misuse Scan
  | [], s => .ok s
  | c :: cs, s =>
    match known.find? (·.letter == some c) with
    | none => .error .unknownArgument
    | some w =>
      if w.takesValue then
        match cs with
        | [] => s.await w
        | '=' :: cs | cs => s.give w (String.ofList cs)
      else do letters known cs (← s.give w "")

def plain? (text : String) : Option Scan :=
  match s.pending with
  | some (w, none) => some { s with pending := some (w, some text) }
  | _ => none

end Scan

/-! ## Forms -/

inductive Arity where
  | none
  | optional
  | single
  | many
deriving DecidableEq, Repr, Inhabited

namespace Arity

@[reducible] def Values : Arity → Type
  | .none => Unit
  | .optional => Option String
  | .single => String
  | .many => List String

def hasRoom : Arity → List String → Bool
  | .none, _ => false
  | .many, _ => true
  | _, values => values.isEmpty

def collect : (a : Arity) → List String → Except Misuse a.Values
  | .none, _ => .ok ()
  | .optional, values => .ok values.head?
  | .single, value :: _ => .ok value
  | .single, [] => .error .missingArgument
  | .many, values => .ok values

end Arity

structure Form (α : Type) where
  word : String
  arity : Arity
  switches : List Switch
  make : arity.Values → (String → Bool) → α

namespace Form

variable {α β : Type}

def map (f : α → β) (form : Form α) : Form β :=
  { form with make := fun values isGiven => f (form.make values isGiven) }

def push (form : Form α) (s : Scan) (text : String) : Except Misuse Scan :=
  if form.arity.hasRoom s.values then .ok { s with values := s.values ++ [text] }
  else .error .unknownArgument

def scan (form : Form α) : List String → Scan → Except Misuse Scan
  | [], s => s.settle
  | text :: rest, s =>
    let known := form.switches ++ [.help]
    match Word.ofText text with
    | .separator => do
      let s ← rest.foldlM form.push s
      s.settle
    | .long name value => do form.scan rest (← s.long known name value)
    | .letters cs => do form.scan rest (← Scan.letters known cs s)
    | .plain text =>
      match s.plain? text with
      | some s => form.scan rest s
      | none => do form.scan rest (← form.push s text)

def read (form : Form α) (words : List String) : Except Misuse α := do
  let s ← form.scan words .start
  return form.make (← form.arity.collect s.values) s.isGiven

end Form

/-! ## Programs -/

structure Usage (α : Type) where
  forms : List (Form α)
  switches : List Switch

namespace Usage

variable {α : Type} (u : Usage α)

def form? (word : String) : Option (Form α) := u.forms.find? (·.word == word)

def isCommand (word : String) : Bool := word == "help" || (u.form? word).isSome

/-- Help may be asked for about one command, or about help itself. -/
def help : List String → Misuse
  | [] => .helpAsked
  | [word] => if u.isCommand word then .helpAsked else .unknownCommand
  | _ => .unknownCommand

/-- Behind the separator nothing fits. -/
def refuse (word : String) : Misuse := if u.isCommand word then .unknownArgument else .unknownCommand

def ending (s : Scan) : Misuse :=
  match s.settle with
  | .error m => m
  | .ok s => if s.given.isEmpty then .nothingAsked else .missingCommand

def scan : List String → Scan → Except Misuse (Scan × α)
  | [], s => .error (ending s)
  | text :: rest, s =>
    let known := u.switches ++ [.help]
    match Word.ofText text with
    | .separator => .error (rest.head?.elim (ending s) u.refuse)
    | .long name value => do scan rest (← s.long known name value)
    | .letters cs => do scan rest (← Scan.letters known cs s)
    | .plain text =>
      match s.plain? text with
      | some s => scan rest s
      | none =>
        if text = "help" then .error (u.help rest)
        else
          match u.form? text with
          | none => .error .unknownCommand
          | some form => do
            let a ← form.read rest
            return (← s.settle, a)

def read (words : List String) : Except Misuse (Scan × α) := u.scan words .start

end Usage
end ChatBridge.Arguments
