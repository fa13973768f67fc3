import ChatBridge.Log.Basic
import ChatBridge.Log.Pattern
import ChatBridge.Text.Basic

/-!
# Log filters

A filter is a list of directives between commas. A directive sets a level for the records whose
target begins with a given text, or for all records, and may ask for fields that a record has to
have: `target[span\x7bfield\x7d]=level`, where each part may be missing. Of the directives that apply
to a record the most specific one decides; a record to which none applies is not kept.
-/

namespace ChatBridge

namespace LogLevel

def ofWord? (word : String) : Option LogLevel :=
  match word with
  | "off" => some none
  | "error" => some (some .error)
  | "warn" => some (some .warning)
  | "info" => some (some .info)
  | "debug" => some (some .debug)
  | "trace" => some (some .trace)
  | _ => none

def ofNumber? : Nat → Option LogLevel
  | 0 => some none
  | 1 => some (some .error)
  | 2 => some (some .warning)
  | 3 => some (some .info)
  | 4 => some (some .debug)
  | 5 => some (some .trace)
  | _ => none

def readNumber? (cs : List Char) : Option Nat :=
  let digits := if cs.head? = some '+' then cs.tail else cs
  if digits.isEmpty || !digits.all Char.isDigit then none
  else some (digits.foldl (fun n c => n * 10 + (c.toNat - '0'.toNat)) 0)

def ofText? (cs : List Char) : Option LogLevel :=
  ((readNumber? cs).bind ofNumber?).or (ofWord? (String.ofList (cs.map Char.toLower)))

end LogLevel

inductive LogFlaw where
  | unreadable
  | splitCharacter
deriving DecidableEq, Repr, Inhabited

structure FieldTest where
  name : String
  value : Option String
deriving DecidableEq, Repr, Inhabited

/-- What stands behind a second equals sign does not count. -/
def FieldTest.ofText (cs : List Char) : Except LogFlaw FieldTest :=
  match Text.splitParts (· = '=') cs with
  | [] | [[]] => .error .unreadable
  | [name] => .ok ⟨String.ofList name, none⟩
  | name :: value :: _ =>
    if Pattern.isValue value then .ok ⟨String.ofList name, some (String.ofList value)⟩
    else .error .unreadable

structure LogDirective where
  target : Option String
  /-- Records are never inside of anything, so that what asks for it never applies. -/
  span : Option String
  field : Option FieldTest
  level : LogLevel
deriving DecidableEq, Repr, Inhabited

namespace LogDirective

/-! ## Reading

Marks are looked for in the text without the blanks around it, but what stands between them is taken
from the same places of the text as it is. -/

def part (text : List Char) (start finish : Nat) : Except LogFlaw (List Char) :=
  match Text.betweenBytes? start finish text with
  | some cs => .ok cs
  | none => .error .splitCharacter

def mayBegin (c : Char) : Bool := c = '-' || c = ':' || c = '_' || Text.isAlphanumeric c

def readLevel (text : List Char) (start : Nat) : Except LogFlaw LogLevel := do
  let cs ← part text start (Text.byteCount text)
  if cs.isEmpty then return some .trace
  match LogLevel.ofText? cs with
  | some level => return level
  | none => throw .unreadable

def readEnd (text shown : List Char) (place : Nat) (d : LogDirective) :
    Except LogFlaw LogDirective :=
  match shown with
  | [] => .ok d
  | '=' :: _ => do return { d with level := ← readLevel text (place + 1) }
  | _ => .error .unreadable

def readField (text shown : List Char) (place : Nat) (d : LogDirective) :
    Except LogFlaw LogDirective := do
  let (field, rest) := Text.cutAt '\x7d' shown
  let finish := place + Text.byteCount field
  match rest with
  | none => throw .unreadable
  | some rest =>
    let test ← FieldTest.ofText (← part text place finish)
    match rest with
    | ']' :: rest => readEnd text rest (finish + 2) { d with field := some test }
    | _ => throw .unreadable

def readSpan (text shown : List Char) (place : Nat) (target : Option String) :
    Except LogFlaw LogDirective := do
  let name := shown.takeWhile fun c => c ≠ ']' && c ≠ '\x7b'
  let finish := place + Text.byteCount name
  match shown.drop name.length with
  | [] => throw .unreadable
  | mark :: rest =>
    let span := String.ofList (← part text place finish)
    if mark = ']' then readEnd text rest (finish + 1) ⟨target, some span, none, some .trace⟩
    else
      let span := if span = "" then none else some span
      readField text rest (finish + 1) ⟨target, span, none, some .trace⟩

def ofWord (text : List Char) : LogDirective :=
  match LogLevel.ofText? text with
  | some level => ⟨none, none, none, level⟩
  | none => ⟨some (String.ofList text), none, none, some .trace⟩

def ofText (text : List Char) : Except LogFlaw LogDirective := do
  let shown := (Text.trim (String.ofList text)).toList
  let first := shown.takeWhile fun c => c ≠ '=' && c ≠ '['
  let size := Text.byteCount first
  match shown, shown.drop first.length with
  | [], _ => throw .unreadable
  | '[' :: _, _ => readSpan text shown.tail 1 none
  | c :: _, rest =>
    if !mayBegin c then throw .unreadable
    match rest with
    | [] => return ofWord text
    | mark :: rest =>
      let target := some (String.ofList (← part text 0 size))
      if mark = '[' then readSpan text rest (size + 1) target
      else return ⟨target, none, none, ← readLevel text (size + 1)⟩

/-! ## Deciding -/

def isDecisive (d : LogDirective) : Bool := d.span.isNone && d.field.all (·.value.isNone)

def appliesTo (d : LogDirective) (r : LogRecord) : Bool :=
  d.isDecisive && d.target.all (r.source.target.startsWith ·)
    && d.field.all fun f => r.fields.contains f.name

def targetSize (d : LogDirective) : Nat := d.target.elim 0 (·.length + 1)

def asksForLater (d e : LogDirective) : Bool :=
  match d.field, e.field with
  | some f, some g => g.name < f.name
  | some _, none => true
  | none, _ => false

/-- Whether a directive decides before another one that applies to the same record: its target is
longer, or it alone asks for a field, or for a later one in the alphabet. -/
def precedes (d e : LogDirective) : Bool :=
  e.targetSize < d.targetSize || (d.targetSize = e.targetSize && d.asksForLater e)

/-- Of two directives that agree in everything but the level the later one counts. -/
def mostSpecific? (directives : List LogDirective) : Option LogDirective :=
  directives.foldl (fun best d => if best.any (·.precedes d) then best else some d) none

end LogDirective

structure LogFilter where
  directives : List LogDirective
deriving DecidableEq, Repr, Inhabited

namespace LogFilter

def ofLevel (level : LogLevel) : LogFilter := ⟨[⟨none, none, none, level⟩]⟩

def ofText (text : String) : Except LogFlaw LogFilter := do
  let parts := (Text.splitParts (· = ',') text.toList).filter (!·.isEmpty)
  if parts.isEmpty then return ofLevel (some .error)
  return ⟨← parts.mapM LogDirective.ofText⟩

/-- Where a filter is missing or cannot be read, everything but details is kept. There is none where
a character would have to be split. -/
def ofSetting? (setting : Option String) : Option LogFilter :=
  match setting.map ofText with
  | some (.ok f) => some f
  | some (.error .splitCharacter) => none
  | some (.error .unreadable) | none => some (ofLevel (some .info))

def keeps (f : LogFilter) (r : LogRecord) : Bool :=
  match LogDirective.mostSpecific? (f.directives.filter (·.appliesTo r)) with
  | some d => d.level.keeps r.severity
  | none => false

end LogFilter
end ChatBridge
