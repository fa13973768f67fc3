import ChatBridge.Decimal
import ChatBridge.Json.Basic
import ChatBridge.Text.Basic

/-!
# JSON text

`compact` writes without blanks, `pretty` with two blanks a level. Members are written in the order
they have. Beside the short escapes only control characters are escaped.
-/

namespace ChatBridge

namespace Number

def render : Number → List Char
  | .natural n => Nat.toDigits 10 n.toNat
  | .negative n => '-' :: Nat.toDigits 10 (n.val + 1)
  | .double x => Decimal.chars x

end Number

namespace Json

def escape (c : Char) : List Char :=
  if c = '"' then ['\\', '"']
  else if c = '\\' then ['\\', '\\']
  else if c = '\x08' then ['\\', 'b']
  else if c = '\x0c' then ['\\', 'f']
  else if c = '\n' then ['\\', 'n']
  else if c = '\r' then ['\\', 'r']
  else if c = '\t' then ['\\', 't']
  else if c.toNat < 0x20 then
    ['\\', 'u', '0', '0', hexDigit (c.toNat / 16), hexDigit c.toNat]
  else [c]

def renderString (s : String) : List Char := '"' :: s.toList.flatMap escape ++ ['"']

def renderBool (b : Bool) : List Char := if b then "true".toList else "false".toList

mutual

def render : Json → List Char
  | .null => "null".toList
  | .bool b => renderBool b
  | .num n => n.render
  | .str s => renderString s
  | .arr [] => ['[', ']']
  | .arr (j :: js) => '[' :: render j ++ renderItems js
  | .obj [] => ['\x7b', '\x7d']
  | .obj ((k, j) :: ms) => '\x7b' :: renderString k ++ ':' :: render j ++ renderMembers ms

def renderItems : List Json → List Char
  | [] => [']']
  | j :: js => ',' :: render j ++ renderItems js

def renderMembers : List (String × Json) → List Char
  | [] => ['\x7d']
  | (k, j) :: ms => ',' :: renderString k ++ ':' :: render j ++ renderMembers ms

end

def compact (j : Json) : String := String.ofList (render j)

def newline (level : Nat) : List Char := '\n' :: List.replicate (2 * level) ' '

mutual

def renderPretty (level : Nat) : Json → List Char
  | .arr (j :: js) =>
    '[' :: newline (level + 1) ++ renderPretty (level + 1) j ++ renderPrettyItems level js
  | .obj ((k, j) :: ms) =>
    '\x7b' :: newline (level + 1) ++ renderString k ++ ':' :: ' ' :: renderPretty (level + 1) j
      ++ renderPrettyMembers level ms
  | .arr [] => ['[', ']']
  | .obj [] => ['\x7b', '\x7d']
  | .null => "null".toList
  | .bool b => renderBool b
  | .num n => n.render
  | .str s => renderString s

def renderPrettyItems (level : Nat) : List Json → List Char
  | [] => newline level ++ [']']
  | j :: js =>
    ',' :: newline (level + 1) ++ renderPretty (level + 1) j ++ renderPrettyItems level js

def renderPrettyMembers (level : Nat) : List (String × Json) → List Char
  | [] => newline level ++ ['\x7d']
  | (k, j) :: ms =>
    ',' :: newline (level + 1) ++ renderString k ++ ':' :: ' ' :: renderPretty (level + 1) j
      ++ renderPrettyMembers level ms

end

def pretty (j : Json) : String := String.ofList (renderPretty 0 j)

end Json
end ChatBridge
