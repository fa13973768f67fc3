import ChatBridge.Proofs.Ordered.Lookup
import ChatBridge.UserCache.Basic
import Mathlib.Algebra.Group.Nat.Defs

/-!
# A cache file reads back

Each reader takes off the front of the bytes what its writer put there and leaves the rest. Lengths
stand in eight bytes, so texts and lists have to be short enough for that; then a file that was saved
in this second opens with the users that were saved.
-/

namespace ChatBridge

namespace Bytes

variable {α : Type} {n width : Nat} {front rest : List UInt8}

/-- Read from the front, the bytes give the value, whatever follows them. -/
def Reads (read : Reader α) (bytes : List UInt8) (a : α) : Prop :=
  ∀ rest, read (bytes ++ rest) = some (a, rest)

/-! ## Numbers -/

@[simp] theorem length_word (n width : Nat) : (word n width).length = width := by
  induction width generalizing n with
  | zero => rfl
  | succ width ih => rw [word, List.length_cons, ih]

theorem value_word (h : n < 256 ^ width) : value (word n width) = n := by
  induction width generalizing n with
  | zero =>
    rw [Nat.pow_zero] at h
    rw [word, value]
    omega
  | succ width ih =>
    have hdiv : n / 256 < 256 ^ width := by
      rw [Nat.pow_succ] at h
      exact Nat.div_lt_of_lt_mul (by omega)
    have hbyte : (UInt8.ofNat (n % 256)).toNat = n % 256 := by
      rw [UInt8.toNat_ofNat']
      omega
    rw [word, value, ih hdiv, hbyte]
    omega

theorem take_append (front rest : List UInt8) :
    take front.length (front ++ rest) = some (front, rest) := by
  induction front with
  | nil => rw [List.length_nil, List.nil_append, take.eq_1]
  | cons b front ih => rw [List.length_cons, List.cons_append, take, ih]; rfl

theorem reads_word (h : n < 256 ^ width) : Reads (readWord width) (word n width) n := by
  intro rest
  have htake := take_append (word n width) rest
  rw [length_word] at htake
  rw [readWord, htake]
  exact congrArg (some <| Prod.mk · rest) (value_word h)

/-! ## Texts and lists -/

def FitsText (s : String) : Prop := s.utf8ByteSize < 256 ^ 8

instance (s : String) : Decidable (FitsText s) := inferInstanceAs (Decidable (_ < _))

theorem loop_toList (bs : ByteArray) (i : Nat) (acc : List UInt8) :
    ByteArray.toList.loop bs i acc = acc.reverse ++ bs.data.toList.drop i := by
  induction hk : bs.size - i generalizing i acc with
  | zero =>
    have hsize : bs.data.toList.length = bs.size := Array.length_toList
    rw [ByteArray.toList.loop, if_neg (by omega), List.drop_eq_nil_of_le (by omega),
      List.append_nil]
  | succ k ih =>
    have hi : i < bs.size := by omega
    have hget : bs.get! i = bs.data.toList[i] := by
      rw [Array.getElem_toList]
      exact getElem!_pos bs.data i hi
    rw [ByteArray.toList.loop, if_pos hi, ih _ _ (by omega), hget, List.reverse_cons,
      List.append_assoc, List.drop_eq_getElem_cons hi]
    rfl

theorem toList_eq (bs : ByteArray) : bs.toList = bs.data.toList := by
  rw [ByteArray.toList, loop_toList]
  rfl

theorem fromUTF8?_toUTF8 (s : String) : String.fromUTF8? ⟨s.toUTF8.toList.toArray⟩ = some s := by
  rw [toList_eq, Array.toArray_toList]
  exact dif_pos s.isValidUTF8

theorem reads_text {s : String} (h : FitsText s) : Reads readText (text s) s := by
  intro rest
  have hlength : s.toUTF8.toList.length = s.utf8ByteSize := by
    rw [toList_eq]
    exact Array.length_toList
  have hword : Reads (readWord 8) (word s.toUTF8.toList.length 8) s.toUTF8.toList.length :=
    reads_word (hlength ▸ h)
  simp only [readText, text, List.append_assoc, hword _, take_append, fromUTF8?_toUTF8,
    Option.bind_eq_bind, Option.bind_some]
  rfl

theorem reads_optional {read : Reader α} {write : α → List UInt8} {a : Option α}
    (h : ∀ x, a = some x → Reads read (write x) x) :
    Reads (readOptional read) (optional write a) a := by
  intro rest
  cases a with
  | none => rfl
  | some x =>
    show (read (write x ++ rest)).map _ = _
    rw [h x rfl rest]
    rfl

theorem reads_many {read : Reader α} {write : α → List UInt8} {as : List α}
    (h : ∀ a ∈ as, Reads read (write a) a) :
    Reads (readMany read as.length) (as.flatMap write) as := by
  induction as with
  | nil => intro rest; rfl
  | cons a as ih =>
    intro rest
    have hrest := ih fun b hb => h b (List.mem_cons_of_mem _ hb)
    rw [List.flatMap_cons, List.append_assoc, List.length_cons, readMany,
      h a List.mem_cons_self]
    show (readMany read as.length (as.flatMap write ++ rest)).bind _ = _
    rw [hrest rest]
    rfl

end Bytes

/-! ## Users -/

structure UserSummary.Fits (u : UserSummary) : Prop where
  userId : Bytes.FitsText u.userId
  username : ∀ name, u.username = some name → Bytes.FitsText name

namespace CacheFile

open Bytes

theorem reads_user {u : UserSummary} (h : u.Fits) : Reads readUser (writeUser u) u := by
  intro rest
  have hname := reads_optional fun name hn => reads_text (h.username name hn)
  have hword (x : UInt64) : Reads (readWord 8) (word x.toNat 8) x.toNat := reads_word x.toNat_lt
  simp only [writeUser, readUser, List.append_assoc, reads_text h.userId _, hname _, hword _ _,
    Option.bind_eq_bind, Option.bind_some]
  rw [UInt64.ofNat_toNat, UInt64.ofNat_toNat]
  rfl

/-- The file can be written: none of its texts and not its list is too long. -/
structure Fits (f : CacheFile) : Prop where
  count : f.users.length < 256 ^ 8
  key : ∀ e ∈ f.users, FitsText e.1
  user : ∀ e ∈ f.users, e.2.Fits

theorem reads_entry {e : String × UserSummary} (hk : FitsText e.1) (hu : e.2.Fits) :
    Reads readEntry (writeEntry e) e := by
  intro rest
  simp only [readEntry, writeEntry, List.append_assoc, reads_text hk _, reads_user hu _,
    Option.bind_eq_bind, Option.bind_some]
  rfl

theorem decode?_encode_append {f : CacheFile} (h : f.Fits) (rest : List UInt8) :
    decode? (f.encode ++ rest) = some f := by
  have hversion : Reads (readWord 4) (word f.version.toNat 4) f.version.toNat :=
    reads_word f.version.toNat_lt
  have hsaved : Reads (readWord 8) (word f.savedAt.toNat 8) f.savedAt.toNat :=
    reads_word f.savedAt.toNat_lt
  have hcount := reads_word h.count
  have husers := reads_many fun e he => reads_entry (h.key e he) (h.user e he)
  simp only [decode?, encode, List.append_assoc, hversion _, hsaved _, hcount _, husers _,
    Option.bind_eq_bind, Option.bind_some, UInt32.ofNat_toNat, UInt64.ofNat_toNat]
  rfl

theorem users?_encode_append {f : CacheFile} {now : UInt64} (h : f.Fits) (rest : List UInt8) :
    users? (f.encode ++ rest) now =
      if f.version = currentVersion ∧ f.isFresh now then some (.ofList f.users) else none := by
  rw [users?, decode?_encode_append h]
  rfl

theorem users?_encode {f : CacheFile} {now : UInt64} (h : f.Fits) : users? f.encode now =
    if f.version = currentVersion ∧ f.isFresh now then some (.ofList f.users) else none := by
  rw [← List.append_nil f.encode]
  exact users?_encode_append h []

theorem isFresh_iff {f : CacheFile} {now : UInt64} :
    f.isFresh now = true ↔ (now.toNat : Int) - f.savedAt.toNat ≤ 604800 := by
  rw [isFresh, decide_eq_true_iff, freshFor]
  omega

theorem users?_encode_toFile {c : UserCache} {now : UInt64} (h : (c.toFile now).Fits) :
    users? (c.toFile now).encode now = some c.users := by
  have hfresh : (c.toFile now).isFresh now = true := by
    rw [isFresh_iff]
    show (now.toNat : Int) - now.toNat ≤ 604800
    omega
  rw [users?_encode h, if_pos ⟨rfl, hfresh⟩]
  exact congrArg some (KeyMap.ofList_eq_of_perm (.refl _))

end CacheFile
end ChatBridge
