/-!
# Bytes as text

Every sequence of bytes can be read as UTF-8. Where a character is broken off or cannot begin, the
longest part that could have begun one becomes a single replacement character.
-/

namespace ChatBridge.Text

/-- The first byte of a character of several: how many follow, the bits it brings along, and the
bounds of the next byte. -/
structure Utf8Lead where
  following : Nat
  bits : Nat
  low : Nat
  high : Nat

def Utf8Lead.ofByte? (b : Nat) : Option Utf8Lead :=
  if b < 0xc2 then none
  else if b < 0xe0 then some ⟨1, b - 0xc0, 0x80, 0xbf⟩
  else if b < 0xf0 then
    some ⟨2, b - 0xe0, if b = 0xe0 then 0xa0 else 0x80, if b = 0xed then 0x9f else 0xbf⟩
  else if b < 0xf5 then
    some ⟨3, b - 0xf0, if b = 0xf0 then 0x90 else 0x80, if b = 0xf4 then 0x8f else 0xbf⟩
  else none

def replacement : Char := '\ufffd'

/-- The character that the bytes go on to, and how many of them are part of it. -/
def followUtf8 (l : Utf8Lead) : Nat → List UInt8 → Char × Nat
  | 0, _ => (Char.ofNat l.bits, 0)
  | _, [] => (replacement, 0)
  | n + 1, b :: bs =>
    if l.low ≤ b.toNat ∧ b.toNat ≤ l.high then
      let (c, used) := followUtf8 ⟨l.following, l.bits * 64 + b.toNat % 64, 0x80, 0xbf⟩ n bs
      (c, used + 1)
    else (replacement, 0)

def charsOfUtf8 : List UInt8 → List Char
  | [] => []
  | b :: bs =>
    if b < 0x80 then Char.ofNat b.toNat :: charsOfUtf8 bs
    else
      match Utf8Lead.ofByte? b.toNat with
      | none => replacement :: charsOfUtf8 bs
      | some l =>
        let (c, used) := followUtf8 l l.following bs
        c :: charsOfUtf8 (bs.drop used)
  termination_by bytes => bytes.length
  decreasing_by all_goals simp only [List.length_cons, List.length_drop]; omega

def dropMark : List UInt8 → List UInt8
  | 0xef :: 0xbb :: 0xbf :: bytes => bytes
  | bytes => bytes

def ofBytes (bytes : List UInt8) : String := String.ofList (charsOfUtf8 (dropMark bytes))

end ChatBridge.Text
