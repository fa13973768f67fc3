import ChatBridge.Json.Node
import ChatBridge.Decimal
import ChatBridge.Text.Printable

/-!
# Why a value is refused

A reader names what it found and what it wanted, or which member or variant was at fault.
-/

namespace ChatBridge

inductive Refusal where
  | invalidType (found : Found) (wanted : String)
  | invalidValue (found : Found) (wanted : String)
  | invalidLength (length : Nat) (wanted : String)
  | missingField (name : String)
  | duplicateField (name : String)
  | unknownVariant (name : String) (known : List String)
  | broken (b : Break)
deriving DecidableEq, Repr

def Found.text : Found → String
  | .null => "null"
  | .bool b => "boolean `" ++ (if b then "true" else "false") ++ "`"
  | .integer i => "integer `" ++ toString i ++ "`"
  | .double x => "floating point `" ++ Decimal.text x ++ "`"
  | .string s => "string " ++ Text.quoted s
  | .sequence => "sequence"
  | .map => "map"

namespace Refusal

def ticked (s : String) : String := "`" ++ s ++ "`"

def choices : List String → String
  | [a] => ticked a
  | [a, b] => ticked a ++ " or " ++ ticked b
  | names => "one of " ++ ", ".intercalate (names.map ticked)

def message : Refusal → String
  | .invalidType found wanted => "invalid type: " ++ found.text ++ ", expected " ++ wanted
  | .invalidValue found wanted => "invalid value: " ++ found.text ++ ", expected " ++ wanted
  | .invalidLength n wanted => "invalid length " ++ toString n ++ ", expected " ++ wanted
  | .missingField name => "missing field " ++ ticked name
  | .duplicateField name => "duplicate field " ++ ticked name
  | .unknownVariant name known =>
    if known.isEmpty then "unknown variant " ++ ticked name ++ ", there are no variants"
    else "unknown variant " ++ ticked name ++ ", expected " ++ choices known
  | .broken .malformed => "malformed text"
  | .broken .cutShort => "text cut short"

end Refusal
end ChatBridge
