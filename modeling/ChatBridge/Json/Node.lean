import ChatBridge.Json.Basic

/-!
# JSON as a reader meets it

A `Node` is a JSON value that may come from a text, and the text may stop making sense on the way: a
container can end badly after some good items, a string or number can be fit to be skipped but not
to be read. Refusals then come in the order in which a reader working through the text meets them.
A value in memory is the special case in which nothing is broken.
-/

namespace ChatBridge

inductive Break where
  | malformed
  | cutShort
deriving DecidableEq, Repr

inductive Found where
  | null
  | bool (b : Bool)
  | integer (i : Int)
  | double (x : Float)
  | string (s : String)
  | sequence
  | map
deriving DecidableEq, Repr

inductive Ending where
  | closed
  | broken (b : Break) (afterComma : Bool)
  /-- An object goes on with a key that cannot be read; `skipped` is `none` where a reader that does
  not want the object gets to its end. -/
  | unreadableKey (read : Break) (skipped : Option Break)
deriving DecidableEq, Repr

inductive Opening where
  | nothing
  | quote
  | bracket
  | brace
  | other
deriving DecidableEq, Repr

inductive Node where
  | null
  | bool (b : Bool)
  | num (n : Number)
  | str (s : String)
  | arr (items : List Node) (ending : Ending)
  | obj (members : List (String × Node)) (ending : Ending)
  /-- Text that cannot be read as a value; `skipped` is `none` where a reader that does not want the
  value gets past it. -/
  | unreadable (read : Break) (opening : Opening) (skipped : Option Break)
deriving Repr, Inhabited

def Number.found : Number → Found
  | .natural n => .integer n.toNat
  | .negative n => .integer (.negSucc n.val)
  | .double x => .double x

def Ending.break? : Ending → Option Break
  | .closed => none
  | .broken b _ => some b
  | .unreadableKey b _ => some b

def Ending.skipBreak? : Ending → Option Break
  | .unreadableKey _ skipped => skipped
  | ending => ending.break?

namespace Node

mutual

def ofJson : Json → Node
  | .null => .null
  | .bool b => .bool b
  | .num n => .num n
  | .str s => .str s
  | .arr items => .arr (ofItems items) .closed
  | .obj members => .obj (ofMembers members) .closed

def ofItems : List Json → List Node
  | [] => []
  | j :: js => ofJson j :: ofItems js

def ofMembers : List (String × Json) → List (String × Node)
  | [] => []
  | (k, j) :: ms => (k, ofJson j) :: ofMembers ms

end

def found : Node → Except Break Found
  | .null => .ok .null
  | .bool b => .ok (.bool b)
  | .num n => .ok n.found
  | .str s => .ok (.string s)
  | .arr _ _ => .ok .sequence
  | .obj _ _ => .ok .map
  | .unreadable _ .bracket _ => .ok .sequence
  | .unreadable _ .brace _ => .ok .map
  | .unreadable b _ _ => .error b

mutual

def skipBreak : Node → Option Break
  | .arr items ending => (skipBreakItems items).or ending.skipBreak?
  | .obj members ending => (skipBreakMembers members).or ending.skipBreak?
  | .unreadable _ _ skipped => skipped
  | _ => none

def skipBreakItems : List Node → Option Break
  | [] => none
  | n :: ns => n.skipBreak.or (skipBreakItems ns)

def skipBreakMembers : List (String × Node) → Option Break
  | [] => none
  | (_, n) :: ms => n.skipBreak.or (skipBreakMembers ms)

end

mutual

def readBreak : Node → Option Break
  | .arr items ending => (readBreakItems items).or ending.break?
  | .obj members ending => (readBreakMembers members).or ending.break?
  | .unreadable b _ _ => some b
  | _ => none

def readBreakItems : List Node → Option Break
  | [] => none
  | n :: ns => n.readBreak.or (readBreakItems ns)

def readBreakMembers : List (String × Node) → Option Break
  | [] => none
  | (_, n) :: ms => n.readBreak.or (readBreakMembers ms)

end

mutual

def toJson : Node → Json
  | .null => .null
  | .bool b => .bool b
  | .num n => .num n
  | .str s => .str s
  | .arr items _ => .arr (toItems items)
  | .obj members _ => .obj (Entries.ofList (toMembers members))
  | .unreadable _ _ _ => .null

def toItems : List Node → List Json
  | [] => []
  | n :: ns => toJson n :: toItems ns

def toMembers : List (String × Node) → List (String × Json)
  | [] => []
  | (k, n) :: ms => (k, toJson n) :: toMembers ms

end

end Node
end ChatBridge
