import ChatBridge.Text.Basic

/-!
# Tables of code points

Properties of characters come as tables over the code points. A class is a rising list of the code
points at which membership flips; a property with several values is a rising list of the code points
at which the value changes. Large tables are written as text, one entry a word, with code points in
hexadecimal.
-/

namespace ChatBridge.Text

/-! ## Classes and properties -/

/-- The class begins outside and flips at each of the code points. -/
def inClass (flips : List Nat) (c : Char) : Bool := (flips.takeWhile (· ≤ c.toNat)).length % 2 = 1

/-- The value of the last entry that begins at the character or before it. -/
def valueAt {α : Type} (entries : List (Nat × α)) (default : α) (c : Char) : α :=
  ((entries.takeWhile (·.1 ≤ c.toNat)).getLast?.map (·.2)).getD default

/-! ## Tables as text -/

def tableWords (table : String) : List (List Char) :=
  (splitParts (fun c => c = ' ' || c = '\n') table.toList).filter (!·.isEmpty)

def flipsOf (table : String) : List Nat := (tableWords table).map ofHexDigits

def cutCode (word : List Char) : Nat × List Char :=
  let isDigit (c : Char) : Bool := c.isDigit || ('a' ≤ c && c ≤ 'f')
  (ofHexDigits (word.takeWhile isDigit), word.dropWhile isDigit)

def entriesOf {α : Type} (read : List Char → α) (table : String) : List (Nat × α) :=
  (tableWords table).map fun word => ((cutCode word).1, read (cutCode word).2)

end ChatBridge.Text
