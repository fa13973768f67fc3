import ChatBridge.Proofs.UserCache.Format

/-!
# Whatever stands in the cache file

Any bytes open as a cache. If a file that can still be used stands in front of them, the cache has the
users of that file; otherwise it is empty. The bytes in front of which no file stands are those of
`CacheFile.Broken`: somewhere behind a part that is whole they end too early, or state a length that
they do not have, or hold a text that is not UTF-8, or mark an option with neither zero nor one.
-/

namespace ChatBridge

namespace Bytes

variable {α : Type} {n : Nat} {bs rest front : List UInt8}

inductive BrokenText : List UInt8 → Prop where
  | cutOff {bs : List UInt8} : bs.length < 8 → BrokenText bs
  | tooLong {n : Nat} {rest : List UInt8} : n < 256 ^ 8 → rest.length < n →
      BrokenText (word n 8 ++ rest)
  | notUtf8 {front rest : List UInt8} : front.length < 256 ^ 8 →
      ¬ ByteArray.IsValidUTF8 ⟨front.toArray⟩ → BrokenText (word front.length 8 ++ (front ++ rest))

inductive BrokenOptional (broken : List UInt8 → Prop) : List UInt8 → Prop where
  | cutOff : BrokenOptional broken []
  | mark {b : UInt8} {rest : List UInt8} : 1 < b → BrokenOptional broken (b :: rest)
  | value {rest : List UInt8} : broken rest → BrokenOptional broken (1 :: rest)

/-- Bytes in front of which do not stand that many values: one of them is broken, behind whole ones. -/
inductive BrokenMany (write : α → List UInt8) (fits : α → Prop) (broken : List UInt8 → Prop) :
    Nat → List UInt8 → Prop where
  | here {n : Nat} {bs : List UInt8} : broken bs → BrokenMany write fits broken (n + 1) bs
  | behind {n : Nat} {a : α} {rest : List UInt8} : fits a → BrokenMany write fits broken n rest →
      BrokenMany write fits broken (n + 1) (write a ++ rest)

theorem exists_word_append (n : Nat) (bs : List UInt8) (h : n ≤ bs.length) :
    ∃ k < 256 ^ n, ∃ rest, bs = word k n ++ rest ∧ rest.length = bs.length - n := by
  have hread : readWord n bs ≠ none := by
    rw [ne_eq, readWord_eq_none_iff]
    exact Nat.not_lt.mpr h
  obtain ⟨⟨k, rest⟩, hk⟩ := Option.ne_none_iff_exists'.mp hread
  obtain ⟨hlt, rfl⟩ := readWord_eq_some_iff.mp hk
  refine ⟨k, hlt, rest, rfl, ?_⟩
  rw [List.length_append, length_word, Nat.add_sub_cancel_left]

theorem readText_eq_none_iff : readText bs = none ↔ BrokenText bs := by
  constructor
  · intro h
    cases hn : readWord 8 bs with
    | none => exact .cutOff (readWord_eq_none_iff.mp hn)
    | some p =>
      obtain ⟨n, rest⟩ := p
      obtain ⟨hlt, rfl⟩ := readWord_eq_some_iff.mp hn
      cases hfront : take n rest with
      | none => exact .tooLong hlt (take_eq_none_iff.mp hfront)
      | some p =>
        obtain ⟨front, rest⟩ := p
        obtain ⟨rfl, rfl⟩ := take_eq_some_iff.mp hfront
        refine .notUtf8 hlt fun hvalid => ?_
        have hs : String.fromUTF8? ⟨front.toArray⟩ = some (.fromUTF8 ⟨front.toArray⟩ hvalid) :=
          dif_pos hvalid
        simp only [readText, hn, hfront, hs, Option.bind_eq_bind, Option.bind_some] at h
        cases h
  · intro h
    cases h with
    | cutOff h =>
      rw [readText, readWord_eq_none_iff.mpr h]
      rfl
    | tooLong hn h =>
      simp only [readText, reads_word hn _, take_eq_none_iff.mpr h, Option.bind_eq_bind,
        Option.bind_some, Option.bind_none]
    | @notUtf8 front rest hn h =>
      have hs : String.fromUTF8? ⟨front.toArray⟩ = none := dif_neg h
      simp only [readText, reads_word hn _, take_append, hs, Option.bind_eq_bind, Option.bind_some,
        Option.bind_none]

variable {read : Reader α} {write : α → List UInt8} {fits : α → Prop} {broken : List UInt8 → Prop}

theorem readOptional_eq_none_iff (h : ∀ bs, read bs = none ↔ broken bs) :
    readOptional read bs = none ↔ BrokenOptional broken bs := by
  constructor
  · intro hbs
    unfold readOptional at hbs
    split at hbs
    · cases hbs
    · exact .value ((h _).mp (Option.map_eq_none_iff.mp hbs))
    · rename_i hzero hone
      cases bs with
      | nil => exact .cutOff
      | cons b rest =>
        have h0 : b ≠ 0 := by rintro rfl; exact hzero _ rfl
        have h1 : b ≠ 1 := by rintro rfl; exact hone _ rfl
        refine .mark ?_
        rw [UInt8.lt_iff_toNat_lt]
        rw [ne_eq, ← UInt8.toNat_inj] at h0 h1
        exact Nat.lt_of_le_of_ne (Nat.one_le_iff_ne_zero.mpr h0) (Ne.symm h1)
  · intro hbs
    cases hbs with
    | cutOff => rfl
    | mark hb =>
      unfold readOptional
      split
      · rename_i he
        cases he
        exact absurd hb (by decide)
      · rename_i he
        cases he
        exact absurd hb (by decide)
      · rfl
    | value hr => exact Option.map_eq_none_iff.mpr ((h _).mpr hr)

theorem readMany_eq_none_iff (he : Exact read write fits) (h : ∀ bs, read bs = none ↔ broken bs) :
    readMany read n bs = none ↔ BrokenMany write fits broken n bs := by
  constructor
  · intro hbs
    induction n generalizing bs with
    | zero => cases hbs
    | succ n ih =>
      rw [readMany] at hbs
      cases ha : read bs with
      | none => exact .here ((h bs).mp ha)
      | some p =>
        obtain ⟨a, rest⟩ := p
        obtain ⟨hfits, rfl⟩ := (he _ _ _).mp ha
        refine .behind hfits (ih ?_)
        cases has : readMany read n rest with
        | none => rfl
        | some p =>
          simp only [ha, has, Option.bind_eq_bind, Option.bind_some] at hbs
          cases hbs
  · intro hbs
    induction hbs with
    | here hb => rw [readMany, (h _).mpr hb]; rfl
    | @behind n a rest ha _ ih =>
      rw [readMany, (he _ a rest).mpr ⟨ha, rfl⟩]
      show (readMany read n rest).bind _ = none
      rw [ih]
      rfl

end Bytes

/-! ## Users and files -/

namespace CacheFile

open Bytes

variable {f : CacheFile} {bs rest : List UInt8} {n : Nat}

inductive BrokenUser : List UInt8 → Prop where
  | userId {bs : List UInt8} : BrokenText bs → BrokenUser bs
  | username {id : String} {rest : List UInt8} : FitsText id → BrokenOptional BrokenText rest →
      BrokenUser (text id ++ rest)
  | times {id : String} {name : Option String} {rest : List UInt8} : FitsText id →
      (∀ x, name = some x → FitsText x) → rest.length < 16 →
      BrokenUser (text id ++ (Bytes.optional text name ++ rest))

inductive BrokenEntry : List UInt8 → Prop where
  | key {bs : List UInt8} : BrokenText bs → BrokenEntry bs
  | user {key : String} {rest : List UInt8} : FitsText key → BrokenUser rest →
      BrokenEntry (text key ++ rest)

inductive Broken : List UInt8 → Prop where
  | cutOff {bs : List UInt8} : bs.length < 20 → Broken bs
  | users (version : UInt32) (savedAt : UInt64) {count : Nat} {rest : List UInt8} :
      count < 256 ^ 8 → BrokenMany writeEntry FitsEntry BrokenEntry count rest →
      Broken (word version.toNat 4 ++ (word savedAt.toNat 8 ++ (word count 8 ++ rest)))

theorem readUser_eq_none_iff : readUser bs = none ↔ BrokenUser bs := by
  constructor
  · intro h
    cases hid : readText bs with
    | none => exact .userId (readText_eq_none_iff.mp hid)
    | some p =>
      obtain ⟨id, rest⟩ := p
      obtain ⟨fitsId, rfl⟩ := (exact_text _ _ _).mp hid
      cases hname : readOptional readText rest with
      | none =>
        have hbroken := (readOptional_eq_none_iff fun _ => readText_eq_none_iff).mp hname
        exact .username fitsId hbroken
      | some p =>
        obtain ⟨name, rest⟩ := p
        obtain ⟨fitsName, rfl⟩ := (exact_optional exact_text _ _ _).mp hname
        refine .times fitsId fitsName (Nat.lt_of_not_le fun hlong => ?_)
        obtain ⟨seconds, hseconds, rest, rfl, hrest⟩ := exists_word_append 8 rest (by omega)
        obtain ⟨updated, hupdated, rest, rfl, -⟩ := exists_word_append 8 rest (by omega)
        simp only [readUser, hid, hname, reads_word hseconds _, reads_word hupdated _,
          Option.bind_eq_bind, Option.bind_some] at h
        cases h
  · intro h
    cases h with
    | userId h =>
      rw [readUser, readText_eq_none_iff.mpr h]
      rfl
    | username hid h =>
      have hname := (readOptional_eq_none_iff fun _ => readText_eq_none_iff).mpr h
      simp only [readUser, reads_text hid _, hname, Option.bind_eq_bind, Option.bind_some,
        Option.bind_none]
    | @times id name rest hid hname h =>
      have hn := reads_optional fun x hx => reads_text (hname x hx)
      simp only [readUser, reads_text hid _, hn _, Option.bind_eq_bind, Option.bind_some]
      cases hs : readWord 8 rest with
      | none => rfl
      | some p =>
        obtain ⟨seconds, rest⟩ := p
        obtain ⟨-, rfl⟩ := readWord_eq_some_iff.mp hs
        rw [List.length_append, length_word] at h
        have hu : readWord 8 rest = none := readWord_eq_none_iff.mpr (by omega)
        rw [Option.bind_some, hu]
        rfl

theorem readEntry_eq_none_iff : readEntry bs = none ↔ BrokenEntry bs := by
  constructor
  · intro h
    cases hkey : readText bs with
    | none => exact .key (readText_eq_none_iff.mp hkey)
    | some p =>
      obtain ⟨key, rest⟩ := p
      obtain ⟨fitsKey, rfl⟩ := (exact_text _ _ _).mp hkey
      cases huser : readUser rest with
      | none => exact .user fitsKey (readUser_eq_none_iff.mp huser)
      | some p =>
        simp only [readEntry, hkey, huser, Option.bind_eq_bind, Option.bind_some] at h
        cases h
  · intro h
    cases h with
    | key h =>
      rw [readEntry, readText_eq_none_iff.mpr h]
      rfl
    | user hkey h =>
      simp only [readEntry, reads_text hkey _, readUser_eq_none_iff.mpr h, Option.bind_eq_bind,
        Option.bind_some, Option.bind_none]

theorem le_length_encode (f : CacheFile) : 20 ≤ f.encode.length := by
  simp only [encode, List.length_append, length_word]
  omega

theorem decode?_eq_none_iff : decode? bs = none ↔ Broken bs := by
  have hmany (n : Nat) (bs : List UInt8) : readMany readEntry n bs = none ↔
      BrokenMany writeEntry FitsEntry BrokenEntry n bs :=
    readMany_eq_none_iff exact_entry fun _ => readEntry_eq_none_iff
  constructor
  · intro h
    rcases Nat.lt_or_ge bs.length 20 with hshort | hlong
    · exact .cutOff hshort
    · obtain ⟨version, hversion, bs, rfl, hbs⟩ := exists_word_append 4 bs (by omega)
      obtain ⟨savedAt, hsaved, bs, rfl, hbs'⟩ := exists_word_append 8 bs (by omega)
      obtain ⟨count, hcount, bs, rfl, -⟩ := exists_word_append 8 bs (by omega)
      have husers : readMany readEntry count bs = none := by
        cases hm : readMany readEntry count bs with
        | none => rfl
        | some p =>
          simp only [decode?, reads_word hversion _, reads_word hsaved _, reads_word hcount _, hm,
            Option.bind_eq_bind, Option.bind_some] at h
          cases h
      have hbroken := Broken.users (.ofNat version) (.ofNat savedAt) hcount ((hmany _ _).mp husers)
      rwa [UInt32.toNat_ofNat_of_lt' hversion, UInt64.toNat_ofNat_of_lt' hsaved] at hbroken
  · intro h
    cases h with
    | cutOff h =>
      rw [Option.eq_none_iff_forall_ne_some]
      intro f hf
      have hlength := (decode?_eq_some_iff.mp hf).2.length_le
      have hheader := le_length_encode f
      omega
    | users version savedAt hcount h =>
      have hversion : Reads (readWord 4) (word version.toNat 4) version.toNat :=
        reads_word version.toNat_lt
      have hsaved : Reads (readWord 8) (word savedAt.toNat 8) savedAt.toNat :=
        reads_word savedAt.toNat_lt
      simp only [decode?, hversion _, hsaved _, reads_word hcount _, (hmany _ _).mpr h,
        Option.bind_eq_bind, Option.bind_some, Option.bind_none]

theorem le_length_writeEntry (e : String × UserSummary) : 33 ≤ (writeEntry e).length := by
  have hname : 1 ≤ (Bytes.optional text e.2.username).length := by
    cases e.2.username <;> exact Nat.succ_le_succ (Nat.zero_le _)
  simp only [writeEntry, writeUser, text, List.length_append, length_word]
  omega

theorem le_length_flatMap (es : List (String × UserSummary)) :
    33 * es.length ≤ (es.flatMap writeEntry).length := by
  induction es with
  | nil => exact Nat.le_refl 0
  | cons e es ih =>
    have he := le_length_writeEntry e
    rw [List.flatMap_cons, List.length_append, List.length_cons]
    omega

/-- No users can be read where more are announced than there is room for. -/
theorem brokenMany_of_length_lt (h : rest.length < 33 * n) :
    BrokenMany writeEntry FitsEntry BrokenEntry n rest := by
  rw [← readMany_eq_none_iff exact_entry fun _ => readEntry_eq_none_iff,
    Option.eq_none_iff_forall_ne_some]
  rintro ⟨es, left⟩ hes
  obtain ⟨rfl, -, rfl⟩ := (readMany_eq_some_iff exact_entry).mp hes
  have hlength := le_length_flatMap es
  rw [List.length_append] at h
  omega

/-! ## What a file opens as -/

structure Usable (f : CacheFile) (now : UInt64) : Prop where
  version : f.version = currentVersion
  age : max 0 ((now.toNat : Int) - f.savedAt.toNat) ≤ 7 * 24 * 60 * 60

theorem usable_iff {now : UInt64} :
    f.Usable now ↔ f.version = currentVersion ∧ f.isFresh now = true := by
  have hage : max 0 ((now.toNat : Int) - f.savedAt.toNat) ≤ 7 * 24 * 60 * 60 ↔
      f.isFresh now = true := by
    rw [isFresh_iff]
    omega
  rw [← hage]
  exact ⟨fun h => ⟨h.version, h.age⟩, fun h => ⟨h.1, h.2⟩⟩

end CacheFile

namespace UserCache

variable {f : CacheFile} {bs : List UInt8} {temp : Option (List UInt8)} {now : UInt64}

theorem openIn_folder : openIn (.folder (.file bs) temp) now =
    ⟨(CacheFile.users? bs now).getD ∅, true⟩ := rfl

theorem openIn_of_usable (hf : f.Fits) (hbs : f.encode <+: bs) (h : f.Usable now) :
    openIn (.folder (.file bs) temp) now = ⟨.ofList f.users, true⟩ := by
  obtain ⟨rest, rfl⟩ := hbs
  rw [openIn_folder, CacheFile.users?_encode_append hf, if_pos (CacheFile.usable_iff.mp h)]
  rfl

theorem openIn_of_not_usable (hf : f.Fits) (hbs : f.encode <+: bs) (h : ¬ f.Usable now) :
    openIn (.folder (.file bs) temp) now = ⟨∅, true⟩ := by
  obtain ⟨rest, rfl⟩ := hbs
  rw [openIn_folder, CacheFile.users?_encode_append hf, if_neg (mt CacheFile.usable_iff.mpr h)]
  rfl

theorem openIn_of_broken (h : CacheFile.Broken bs) :
    openIn (.folder (.file bs) temp) now = ⟨∅, true⟩ := by
  rw [openIn_folder, CacheFile.users?, CacheFile.decode?_eq_none_iff.mpr h]
  rfl

/-- Any bytes open at any time. If a file that can still be used stands in front of them, then the
cache has its users, for each key the one named last, and with any other file in front it is empty;
what stands behind the file does not count. It is empty too if no file stands in front, which is so
exactly for broken bytes. All that is cut off anywhere in a file is broken, and so are bytes that
announce more users than there is room for. -/
theorem openIn_file (bs : List UInt8) (temp : Option (List UInt8)) (now : UInt64) :
    (∀ f : CacheFile, f.Fits → f.encode <+: bs →
      (f.Usable now → openIn (.folder (.file bs) temp) now = ⟨.ofList f.users, true⟩ ∧
        ∀ key, (openIn (.folder (.file bs) temp) now).get? key =
          (f.users.reverse.find? (·.1 = key)).map (·.2)) ∧
      (¬ f.Usable now → openIn (.folder (.file bs) temp) now = ⟨∅, true⟩)) ∧
    (CacheFile.Broken bs → openIn (.folder (.file bs) temp) now = ⟨∅, true⟩) ∧
    (CacheFile.Broken bs ↔ ∀ f : CacheFile, f.Fits → ¬ f.encode <+: bs) ∧
    (∀ f : CacheFile, f.Fits → bs <+: f.encode → bs ≠ f.encode → CacheFile.Broken bs) ∧
    ∀ (version : UInt32) (savedAt : UInt64) (count : Nat) (rest : List UInt8), count < 256 ^ 8 →
      bs = Bytes.word version.toNat 4 ++
        (Bytes.word savedAt.toNat 8 ++ (Bytes.word count 8 ++ rest)) →
      rest.length < 33 * count → CacheFile.Broken bs := by
  refine ⟨fun f hf hbs => ⟨fun h => ?_, openIn_of_not_usable hf hbs⟩, openIn_of_broken, ?_, ?_, ?_⟩
  · rw [openIn_of_usable hf hbs h]
    exact ⟨rfl, fun key => KeyMap.get?_ofList _⟩
  · rw [← CacheFile.decode?_eq_none_iff, Option.eq_none_iff_forall_ne_some]
    simp only [ne_eq, CacheFile.decode?_eq_some_iff, not_and]
  · intro f hf hbs hne
    exact CacheFile.decode?_eq_none_iff.mp (CacheFile.decode?_of_strict_prefix hf hbs hne)
  · rintro version savedAt count rest hcount rfl hroom
    exact .users version savedAt hcount (CacheFile.brokenMany_of_length_lt hroom)

/-- A file names one of its users twice, and other bytes stand behind it. It counts for seven days, not
a second longer and not without its last byte. Bytes that announce as many users as a length can are
not read for the one that is whole, since the option of the next is marked with a two. -/
theorem openIn_file_of_user_twice :
    ∃ (f : CacheFile) (u v w : UserSummary), f.Fits ∧ f.users = [("u", u), ("v", v), ("u", w)] ∧
      openIn (.folder (.file (f.encode ++ [7, 255])) none) 605800 = ⟨.ofList f.users, true⟩ ∧
      (openIn (.folder (.file (f.encode ++ [7, 255])) none) 605800).get? "u" = some w ∧
      openIn (.folder (.file (f.encode ++ [7, 255])) none) 605801 = ⟨∅, true⟩ ∧
      openIn (.folder (.file f.encode.dropLast) none) 605800 = ⟨∅, true⟩ ∧
      openIn (.folder (.file (Bytes.word 1 4 ++ (Bytes.word 1000 8 ++
        (Bytes.word 18446744073709551615 8 ++ (CacheFile.writeEntry ("u", u) ++
          (Bytes.text "v" ++ (Bytes.text "v" ++ [2, 0]))))))) none) 1000 = ⟨∅, true⟩ := by
  let u : UserSummary := ⟨"u", some "Zoë", 0, 5⟩
  let v : UserSummary := ⟨"v", none, 3, 18446744073709551615⟩
  let w : UserSummary := ⟨"u", none, 0, 4⟩
  let f : CacheFile := ⟨1, 1000, [("u", u), ("v", v), ("u", w)]⟩
  have hu : u.Fits := ⟨by decide, fun name hn => by cases hn; decide⟩
  have hv : v.Fits := ⟨by decide, fun name hn => by cases hn⟩
  have hw : w.Fits := ⟨by decide, fun name hn => by cases hn⟩
  have hf : f.Fits := by
    refine ⟨by decide, by decide, fun e he => ?_⟩
    rcases List.mem_cons.mp he with rfl | he
    · exact hu
    · rcases List.mem_cons.mp he with rfl | he
      · exact hv
      · cases List.mem_singleton.mp he
        exact hw
  have hbs : f.encode <+: f.encode ++ [7, 255] := List.prefix_append _ _
  have hweek := ((openIn_file (f.encode ++ [7, 255]) none 605800).1 f hf hbs).1 ⟨rfl, by decide⟩
  have hold := ((openIn_file (f.encode ++ [7, 255]) none 605801).1 f hf hbs).2
    fun h => absurd h.age (by decide)
  have hshorter : f.encode.dropLast ≠ f.encode := by
    intro he
    have hlength := congrArg List.length he
    have hheader := f.le_length_encode
    rw [List.length_dropLast] at hlength
    omega
  have hcut : CacheFile.Broken f.encode.dropLast :=
    (openIn_file f.encode.dropLast none 605800).2.2.2.1 f hf (List.dropLast_prefix _) hshorter
  have hmark : CacheFile.BrokenEntry (Bytes.text "v" ++ (Bytes.text "v" ++ [2, 0])) :=
    .user (by decide) (.username (by decide) (.mark (by decide)))
  have husers : Bytes.BrokenMany CacheFile.writeEntry CacheFile.FitsEntry CacheFile.BrokenEntry
      18446744073709551615 (CacheFile.writeEntry ("u", u) ++
        (Bytes.text "v" ++ (Bytes.text "v" ++ [2, 0]))) :=
    .behind ⟨by decide, hu⟩ (.here hmark)
  have hmany := CacheFile.Broken.users 1 1000 (by decide) husers
  exact ⟨f, u, v, w, hf, rfl, hweek.1, (hweek.2 "u").trans rfl, hold,
    (openIn_file _ none 605800).2.1 hcut, (openIn_file _ none 1000).2.1 hmany⟩

end UserCache
end ChatBridge
