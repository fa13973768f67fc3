import ChatBridge.Text.Basic

/-!
# Percent codes

What may not stand in a part of an address is written as the percent codes of its bytes.
-/

namespace ChatBridge.Url

def percentByte (b : UInt8) : List Char :=
  ['%', (hexDigit (b.toNat / 16)).toUpper, (hexDigit b.toNat).toUpper]

def encodeChar (keeps : Char → Bool) (c : Char) : List Char :=
  if keeps c then [c] else (String.singleton c).toUTF8.toList.flatMap percentByte

def encode (keeps : Char → Bool) (cs : List Char) : String :=
  String.ofList (cs.flatMap (encodeChar keeps))

/-- The bytes that are meant; a percent sign without two digits stands for itself. -/
def decodeBytes : List UInt8 → List UInt8
  | 0x25 :: high :: low :: bs =>
    match hexValue? (.ofNat high.toNat), hexValue? (.ofNat low.toNat) with
    | some h, some l => .ofNat (h * 16 + l) :: decodeBytes bs
    | _, _ => 0x25 :: decodeBytes (high :: low :: bs)
  | b :: bs => b :: decodeBytes bs
  | [] => []

def decode? (s : String) : Option String := String.fromUTF8? ⟨(decodeBytes s.toUTF8.toList).toArray⟩

/-! ## What is kept -/

def isPlain (c : Char) : Bool := 0x20 ≤ c.toNat && c.toNat ≤ 0x7e

def isVisible (c : Char) : Bool := isPlain c && c ≠ ' '

def keepsFragment (c : Char) : Bool := isVisible c && !"\"<>`".contains c

def keepsPath (c : Char) : Bool := isVisible c && !"\"#<>?`\x7b\x7d".contains c

def keepsUser (c : Char) : Bool := keepsPath c && !"/:;=@[\\]^|".contains c

def keepsQuery (isSpecial : Bool) (c : Char) : Bool :=
  isVisible c && !"\"#<>".contains c && !(isSpecial && c = '\'')

end ChatBridge.Url
