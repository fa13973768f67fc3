import ChatBridge.Proofs.UserCache.Reading

/-!
# What a cache file can be read from

A reader takes off the front of the bytes what its writer would have put there, and nothing else. So
bytes can be read as a file exactly if a file that can be written stands in front, which then is the
only one: no encoding is the front of another.
-/

namespace ChatBridge

namespace Bytes

variable {α : Type} {n width : Nat} {front rest bs : List UInt8}

/-- The reader takes exactly what the writer puts down for a value that fits. -/
def Exact (read : Reader α) (write : α → List UInt8) (fits : α → Prop) : Prop :=
  ∀ bs a rest, read bs = some (a, rest) ↔ fits a ∧ bs = write a ++ rest

theorem exact_of_reads {read : Reader α} {write : α → List UInt8} {fits : α → Prop}
    (h : ∀ a, fits a → Reads read (write a) a)
    (hsound : ∀ bs a rest, read bs = some (a, rest) → fits a ∧ bs = write a ++ rest) :
    Exact read write fits := by
  intro bs a rest
  constructor
  · exact hsound bs a rest
  · rintro ⟨ha, rfl⟩
    exact h a ha rest

/-! ## Numbers -/

theorem take_eq_some_iff : take n bs = some (front, rest) ↔ front.length = n ∧ bs = front ++ rest := by
  constructor
  · intro h
    induction n generalizing bs front with
    | zero =>
      rw [take.eq_1] at h
      cases h
      exact ⟨rfl, rfl⟩
    | succ n ih =>
      cases bs with
      | nil => cases h
      | cons b bs =>
        rw [take, Option.map_eq_some_iff] at h
        obtain ⟨⟨fs, r⟩, hfs, he⟩ := h
        cases he
        obtain ⟨rfl, rfl⟩ := ih hfs
        exact ⟨rfl, rfl⟩
  · rintro ⟨rfl, rfl⟩
    exact take_append front rest

theorem take_eq_none_iff : take n bs = none ↔ bs.length < n := by
  rw [← Option.not_isSome_iff_eq_none, Option.isSome_iff_exists, ← Nat.not_le, not_iff_not]
  constructor
  · rintro ⟨⟨front, rest⟩, h⟩
    obtain ⟨rfl, rfl⟩ := take_eq_some_iff.mp h
    rw [List.length_append]
    exact Nat.le_add_right _ _
  · intro h
    exact ⟨(bs.take n, bs.drop n),
      take_eq_some_iff.mpr ⟨List.length_take_of_le h, (List.take_append_drop n bs).symm⟩⟩

theorem value_lt (bs : List UInt8) : value bs < 256 ^ bs.length := by
  induction bs with
  | nil => rw [value, List.length_nil]; omega
  | cons b bs ih =>
    have hb : b.toNat < 256 := b.toNat_lt
    rw [value, List.length_cons, Nat.pow_succ]
    omega

theorem word_value (bs : List UInt8) : word (value bs) bs.length = bs := by
  induction bs with
  | nil => rfl
  | cons b bs ih =>
    have hb : b.toNat < 256 := b.toNat_lt
    have hmod : (b.toNat + 256 * value bs) % 256 = b.toNat := by omega
    have hdiv : (b.toNat + 256 * value bs) / 256 = value bs := by omega
    rw [value, List.length_cons, word, hmod, hdiv, ih, UInt8.ofNat_toNat]

theorem readWord_eq_some_iff :
    readWord width bs = some (n, rest) ↔ n < 256 ^ width ∧ bs = word n width ++ rest := by
  constructor
  · intro h
    rw [readWord, Option.map_eq_some_iff] at h
    obtain ⟨⟨front, r⟩, hf, he⟩ := h
    cases he
    obtain ⟨rfl, rfl⟩ := take_eq_some_iff.mp hf
    exact ⟨value_lt front, congrArg (· ++ rest) (word_value front).symm⟩
  · rintro ⟨hn, rfl⟩
    exact reads_word hn rest

theorem readWord_eq_none_iff : readWord width bs = none ↔ bs.length < width := by
  rw [readWord, Option.map_eq_none_iff, take_eq_none_iff]

/-! ## Texts and lists -/

theorem text_of_fromUTF8? {s : String} (h : String.fromUTF8? ⟨front.toArray⟩ = some s) :
    s.utf8ByteSize = front.length ∧ text s = word front.length 8 ++ front := by
  unfold String.fromUTF8? at h
  split at h
  · cases h
    have hbytes : (⟨front.toArray⟩ : ByteArray).toList = front := toList_eq _
    refine ⟨rfl, ?_⟩
    show word (⟨front.toArray⟩ : ByteArray).toList.length 8 ++ (⟨front.toArray⟩ : ByteArray).toList = _
    rw [hbytes]
  · cases h

theorem exact_text : Exact readText text FitsText := by
  refine exact_of_reads (fun s => reads_text) fun bs s rest h => ?_
  simp only [readText, Option.bind_eq_bind, Option.bind_eq_some_iff] at h
  obtain ⟨⟨n, bs'⟩, hn, ⟨front, r⟩, hfront, t, ht, he⟩ := h
  cases he
  obtain ⟨hlt, rfl⟩ := readWord_eq_some_iff.mp hn
  obtain ⟨rfl, rfl⟩ := take_eq_some_iff.mp hfront
  obtain ⟨hsize, htext⟩ := text_of_fromUTF8? ht
  refine ⟨?_, by rw [htext, List.append_assoc]⟩
  rw [FitsText, hsize]
  exact hlt

variable {read : Reader α} {write : α → List UInt8} {fits : α → Prop}

theorem exact_optional (h : Exact read write fits) :
    Exact (readOptional read) (optional write) (fun a => ∀ x, a = some x → fits x) := by
  refine exact_of_reads
    (fun a ha => reads_optional fun x hx rest => (h (write x ++ rest) x rest).mpr ⟨ha x hx, rfl⟩)
    fun bs a rest hbs => ?_
  unfold readOptional at hbs
  split at hbs
  · cases hbs
    exact ⟨nofun, rfl⟩
  · rw [Option.map_eq_some_iff] at hbs
    obtain ⟨⟨x, r⟩, hx, he⟩ := hbs
    cases he
    obtain ⟨hfits, rfl⟩ := (h _ _ _).mp hx
    exact ⟨fun y hy => Option.some.inj hy ▸ hfits, rfl⟩
  · cases hbs

theorem readMany_eq_some_iff (h : Exact read write fits) {as : List α} :
    readMany read n bs = some (as, rest) ↔
      as.length = n ∧ (∀ a ∈ as, fits a) ∧ bs = as.flatMap write ++ rest := by
  constructor
  · intro hbs
    induction n generalizing bs as with
    | zero =>
      cases hbs
      exact ⟨rfl, List.forall_mem_nil _, rfl⟩
    | succ n ih =>
      simp only [readMany, Option.bind_eq_bind, Option.bind_eq_some_iff] at hbs
      obtain ⟨⟨a, bs'⟩, ha, ⟨as', r⟩, has, he⟩ := hbs
      cases he
      obtain ⟨hfits, rfl⟩ := (h _ _ _).mp ha
      obtain ⟨rfl, hall, rfl⟩ := ih has
      refine ⟨rfl, List.forall_mem_cons.mpr ⟨hfits, hall⟩, ?_⟩
      rw [List.flatMap_cons, List.append_assoc]
  · rintro ⟨rfl, hall, rfl⟩
    exact reads_many (fun a ha rest => (h (write a ++ rest) a rest).mpr ⟨hall a ha, rfl⟩) rest

end Bytes

/-! ## Files -/

namespace CacheFile

open Bytes

variable {f g : CacheFile} {bs : List UInt8}

def FitsEntry (e : String × UserSummary) : Prop := FitsText e.1 ∧ e.2.Fits

theorem exact_user : Exact readUser writeUser UserSummary.Fits := by
  refine exact_of_reads (fun u => reads_user) fun bs u rest h => ?_
  simp only [readUser, Option.bind_eq_bind, Option.bind_eq_some_iff] at h
  obtain ⟨⟨id, _⟩, hid, ⟨name, _⟩, hname, ⟨seconds, _⟩, hseconds, ⟨updated, _⟩, hupdated, he⟩ := h
  cases he
  obtain ⟨fitsId, rfl⟩ := (exact_text _ _ _).mp hid
  obtain ⟨fitsName, rfl⟩ := (exact_optional exact_text _ _ _).mp hname
  obtain ⟨ltSeconds, rfl⟩ := readWord_eq_some_iff.mp hseconds
  obtain ⟨ltUpdated, rfl⟩ := readWord_eq_some_iff.mp hupdated
  refine ⟨⟨fitsId, fitsName⟩, ?_⟩
  rw [writeUser, UInt64.toNat_ofNat_of_lt' ltSeconds, UInt64.toNat_ofNat_of_lt' ltUpdated]
  simp only [List.append_assoc]

theorem exact_entry : Exact readEntry writeEntry FitsEntry := by
  refine exact_of_reads (fun e he => reads_entry he.1 he.2) fun bs e rest h => ?_
  simp only [readEntry, Option.bind_eq_bind, Option.bind_eq_some_iff] at h
  obtain ⟨⟨key, _⟩, hkey, ⟨user, _⟩, huser, he⟩ := h
  cases he
  obtain ⟨fitsKey, rfl⟩ := (exact_text _ _ _).mp hkey
  obtain ⟨fitsUser, rfl⟩ := (exact_user _ _ _).mp huser
  exact ⟨⟨fitsKey, fitsUser⟩, (List.append_assoc ..).symm⟩

/-- Bytes can be read as a file exactly if one that can be written stands in front of them. -/
theorem decode?_eq_some_iff : decode? bs = some f ↔ f.Fits ∧ f.encode <+: bs := by
  constructor
  · intro h
    simp only [decode?, Option.bind_eq_bind, Option.bind_eq_some_iff] at h
    obtain ⟨⟨version, _⟩, hversion, ⟨saved, _⟩, hsaved, ⟨count, _⟩, hcount, ⟨users, rest⟩, husers,
      he⟩ := h
    cases he
    obtain ⟨ltVersion, rfl⟩ := readWord_eq_some_iff.mp hversion
    obtain ⟨ltSaved, rfl⟩ := readWord_eq_some_iff.mp hsaved
    obtain ⟨ltCount, rfl⟩ := readWord_eq_some_iff.mp hcount
    obtain ⟨rfl, hall, rfl⟩ := (readMany_eq_some_iff exact_entry).mp husers
    refine ⟨⟨ltCount, fun e he => (hall e he).1, fun e he => (hall e he).2⟩, rest, ?_⟩
    rw [encode, UInt32.toNat_ofNat_of_lt' ltVersion, UInt64.toNat_ofNat_of_lt' ltSaved]
    simp only [List.append_assoc]
  · rintro ⟨hf, rest, rfl⟩
    exact decode?_encode_append hf rest

theorem eq_of_encode_isPrefix (hf : f.Fits) (hfbs : f.encode <+: bs) (hg : g.Fits)
    (hgbs : g.encode <+: bs) : f = g := by
  have h := decode?_eq_some_iff.mpr ⟨hf, hfbs⟩
  rw [decode?_eq_some_iff.mpr ⟨hg, hgbs⟩] at h
  exact (Option.some.inj h).symm

theorem decode?_of_strict_prefix (hf : f.Fits) (h : bs <+: f.encode) (hne : bs ≠ f.encode) :
    decode? bs = none := by
  rw [Option.eq_none_iff_forall_ne_some]
  intro g hg
  obtain ⟨hg, hgbs⟩ := decode?_eq_some_iff.mp hg
  have hfg : f = g := eq_of_encode_isPrefix hf (List.prefix_refl _) hg (hgbs.trans h)
  subst hfg
  exact hne (h.eq_of_length_le hgbs.length_le)

end CacheFile
end ChatBridge
