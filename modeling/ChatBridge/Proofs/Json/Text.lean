import ChatBridge.Json.Printer
import ChatBridge.Json.Reader

/-!
# JSON text reads back

A text that was written without blanks is read as the value it was written for, and what follows is
left. That holds of values without doubles that are not nested too deep; behind a number has to come
something that ends it.
-/

namespace ChatBridge

/-- Without doubles, with no key twice in an object, and with at most so many containers around each
other. -/
inductive Json.Plain : Nat → Json → Prop
  | null {k : Nat} : Plain k .null
  | bool {k : Nat} (b : Bool) : Plain k (.bool b)
  | natural {k : Nat} (n : UInt64) : Plain k (.num (.natural n))
  | negative {k : Nat} (n : Fin 9223372036854775808) : Plain k (.num (.negative n))
  | str {k : Nat} (s : String) : Plain k (.str s)
  | arr {k : Nat} {items : List Json} (h : ∀ j ∈ items, Plain k j) : Plain (k + 1) (.arr items)
  | obj {k : Nat} {members : List (String × Json)} (hn : (members.map Prod.fst).Nodup)
      (h : ∀ m ∈ members, Plain k m.2) : Plain (k + 1) (.obj members)

namespace JsonText

variable {cs ds rest : List Char} {c : Char}

/-! ## Strings -/

theorem unit?_of_control : ∀ n < 0x20,
    unit? '0' '0' (hexDigit (n / 16)) (hexDigit n) = some n := by decide

theorem scanString_plain (acc : List Char) (hquote : c ≠ '"') (hslash : c ≠ '\\')
    (hc : ¬ c.toNat < 0x20) : scanString none acc (c :: cs) = scanString none (c :: acc) cs := by
  rw [scanString.eq_def]
  split
  · rename_i h; cases h
  · rename_i h; exact absurd (List.cons.inj h).1 hquote
  · rename_i h; exact absurd (List.cons.inj h).1 hslash
  · rename_i h; exact absurd (List.cons.inj h).1 hslash
  · rename_i h; exact absurd (List.cons.inj h).1 hslash
  · rename_i h; exact absurd (List.cons.inj h).1 hslash
  · rename_i h; cases h; exact if_neg hc

theorem scanString_escape (acc : List Char) :
    scanString none acc (Json.escape c ++ cs) = scanString none (c :: acc) cs := by
  unfold Json.escape
  split
  · subst c; simp [scanString, simpleEscape?]
  split
  · subst c; simp [scanString, simpleEscape?]
  split
  · subst c; simp [scanString, simpleEscape?]
  split
  · subst c; simp [scanString, simpleEscape?]
  split
  · subst c; simp [scanString, simpleEscape?]
  split
  · subst c; simp [scanString, simpleEscape?]
  split
  · subst c; simp [scanString, simpleEscape?]
  split
  · rename_i hc
    have hlow : isLowSurrogate c.toNat = false := by simp [isLowSurrogate]; omega
    have hhigh : isHighSurrogate c.toNat = false := by simp [isHighSurrogate]; omega
    rw [List.cons_append, List.cons_append, scanString.eq_def]
    simp [unit?_of_control c.toNat hc, hlow, hhigh]
  · rename_i hquote hslash _ _ _ _ _ hc
    exact scanString_plain acc hquote hslash hc

theorem scanString_escaped (s acc : List Char) :
    scanString none acc (s.flatMap Json.escape ++ '"' :: rest) =
      ⟨.ok (acc.reverse ++ s), none, rest⟩ := by
  induction s generalizing acc with
  | nil => simp [scanString]
  | cons c s ih =>
    rw [List.flatMap_cons, List.append_assoc, scanString_escape, ih]
    simp

theorem scanString_renderString (s : String) :
    scanString none [] (s.toList.flatMap Json.escape ++ '"' :: rest) = ⟨.ok s.toList, none, rest⟩ :=
  scanString_escaped s.toList []

/-! ## Numbers -/

def EndsNumber (rest : List Char) : Prop :=
  ∀ c ∈ rest.head?, isDigit c = false ∧ c ≠ '.' ∧ c ≠ 'e' ∧ c ≠ 'E'

theorem isDigit_iff : isDigit c = true ↔ c.isDigit = true := by
  simp [isDigit, Char.isDigit, Char.le_def]

theorem isDigit_of_mem_toDigits {n : Nat} (h : c ∈ Nat.toDigits 10 n) : isDigit c = true :=
  isDigit_iff.mpr (Nat.isDigit_of_mem_toDigits (by decide) (by decide) h)

theorem digitsValue_toDigits (n : Nat) : digitsValue (Nat.toDigits 10 n) = n := by
  have h := Nat.ofDigitChars_toDigits (b := 10) (n := n) (by decide) (by decide)
  rw [Nat.ofDigitChars_eq_foldl] at h
  rw [digitsValue]
  simpa only [Nat.mul_comm] using h

theorem head?_toDigits_ne {n : Nat} (h : 0 < n) : (Nat.toDigits 10 n).head? ≠ some '0' := by
  induction n using Nat.strongRecOn with
  | ind n ih =>
    by_cases hn : n < 10
    · rw [Nat.toDigits_of_lt_base hn]
      have hall : ∀ k < 10, 0 < k → k.digitChar ≠ '0' := by decide
      simpa using hall n hn h
    · have hfront := ih (n / 10) (by omega) (by omega)
      rw [Nat.toDigits_of_base_le (by decide) (by omega)]
      cases hds : Nat.toDigits 10 (n / 10) with
      | nil => exact absurd hds Nat.toDigits_ne_nil
      | cons d ds => rwa [hds] at hfront

theorem not_padded {n : Nat} {d : Char} (h : Nat.toDigits 10 n = '0' :: d :: ds) : False := by
  rcases Nat.eq_zero_or_pos n with rfl | hn
  · cases h
  · exact head?_toDigits_ne hn (by rw [h]; rfl)

theorem span_digits (hd : ∀ c ∈ ds, isDigit c = true) (hr : EndsNumber rest) :
    (ds ++ rest).takeWhile isDigit = ds ∧ (ds ++ rest).dropWhile isDigit = rest := by
  rw [List.takeWhile_append_of_pos hd, List.dropWhile_append_of_pos hd]
  cases rest with
  | nil => simp
  | cons c rest =>
    have hc := (hr c rfl).1
    simp [hc]

theorem readUnsigned_toDigits (negative : Bool) (n : Nat) (hr : EndsNumber rest) :
    readUnsigned negative (Nat.toDigits 10 n ++ rest) =
      (integer negative (Nat.toDigits 10 n), some rest) := by
  have hdigits : ∀ c ∈ Nat.toDigits 10 n, isDigit c = true := fun _ => isDigit_of_mem_toDigits
  obtain ⟨htake, hdrop⟩ := span_digits hdigits hr
  rw [readUnsigned, htake, hdrop]
  split
  · rename_i hnil; exact absurd hnil Nat.toDigits_ne_nil
  · rename_i hpad; exact (not_padded hpad).elim
  · split
    · exact absurd rfl (hr _ rfl).2.1
    · exact absurd rfl (hr _ rfl).2.2.1
    · exact absurd rfl (hr _ rfl).2.2.2
    · rfl

theorem integer_natural (n : UInt64) :
    integer false (Nat.toDigits 10 n.toNat) = .num (.natural n) := by
  have hn : n.toNat < 18446744073709551616 := n.toNat_lt
  rw [integer, digitsValue_toDigits, if_neg Bool.false_ne_true,
    if_pos (by rw [largestNatural]; omega)]
  show Node.num (if n.toNat < 18446744073709551616 then _ else _) = _
  rw [if_pos hn, UInt64.ofNat_toNat]

theorem integer_negative (n : Fin 9223372036854775808) :
    integer true (Nat.toDigits 10 (n.val + 1)) = .num (.negative n) := by
  rw [integer, digitsValue_toDigits, if_pos rfl, if_pos (by omega)]
  show Node.num (if h : n.val < 9223372036854775808 then _ else _) = _
  rw [dif_pos n.isLt]

/-! ## First characters -/

def Opens (c : Char) : Prop := isBlank c = false ∧ c ≠ ']' ∧ c ≠ '\x7d'

instance : DecidablePred Opens := fun _ => inferInstanceAs (Decidable (_ ∧ _))

theorem cases_of_isDigit (h : isDigit c = true) :
    c ∈ ['0', '1', '2', '3', '4', '5', '6', '7', '8', '9'] := by
  have hc : 48 ≤ c.toNat ∧ c.toNat ≤ 57 := by
    simp only [isDigit, Bool.and_eq_true, decide_eq_true_eq, Char.le_def,
      UInt32.le_iff_toNat_le] at h
    exact h
  have hall : ∀ n : Fin 10,
      Char.ofNat (48 + n) ∈ ['0', '1', '2', '3', '4', '5', '6', '7', '8', '9'] := by decide
  have hmem := hall ⟨c.toNat - 48, by omega⟩
  rwa [Nat.add_sub_cancel' hc.1, Char.ofNat_toNat] at hmem

theorem opens_of_isDigit (h : isDigit c = true) : Opens c := by
  have hc := cases_of_isDigit h
  simp only [List.mem_cons, List.not_mem_nil, or_false] at hc
  rcases hc with rfl | rfl | rfl | rfl | rfl | rfl | rfl | rfl | rfl | rfl <;> decide

theorem opens_render {k : Nat} {j : Json} (h : j.Plain k) :
    ∃ c cs, j.render = c :: cs ∧ Opens c := by
  cases h with
  | null => exact ⟨_, _, rfl, (by decide : Opens 'n')⟩
  | bool b =>
    cases b with
    | true => exact ⟨_, _, rfl, (by decide : Opens 't')⟩
    | false => exact ⟨_, _, rfl, (by decide : Opens 'f')⟩
  | natural n =>
    cases hds : Nat.toDigits 10 n.toNat with
    | nil => exact absurd hds Nat.toDigits_ne_nil
    | cons d ds =>
      refine ⟨d, ds, hds, opens_of_isDigit (isDigit_of_mem_toDigits (n := n.toNat) ?_)⟩
      rw [hds]
      exact List.mem_cons_self
  | negative n => exact ⟨_, _, rfl, (by decide : Opens '-')⟩
  | str s => exact ⟨_, _, rfl, (by decide : Opens '"')⟩
  | @arr k items _ =>
    cases items with
    | nil => exact ⟨_, _, rfl, (by decide : Opens '[')⟩
    | cons j js => exact ⟨_, _, by rw [Json.render]; rfl, (by decide : Opens '[')⟩
  | @obj k members _ _ =>
    cases members with
    | nil => exact ⟨_, _, rfl, (by decide : Opens '\x7b')⟩
    | cons m ms => exact ⟨_, _, by rw [Json.render]; rfl, (by decide : Opens '\x7b')⟩

theorem skipBlanks_cons (h : isBlank c = false) : skipBlanks (c :: cs) = c :: cs := by
  rw [skipBlanks, List.dropWhile_cons_of_neg (by simp [h])]

/-! ## Values -/

def Reads (k : Nat) (j : Json) : Prop :=
  ∀ {fuel depth : Nat} {rest : List Char}, depth + k < depthLimit → 3 * j.render.length ≤ fuel →
    EndsNumber rest → readValue fuel depth (j.render ++ rest) = (.ofJson j, some rest)

theorem endsNumber_cons (h : c = ',' ∨ c = ']' ∨ c = '\x7d') : EndsNumber (c :: cs) := by
  intro d hd
  cases hd
  rcases h with rfl | rfl | rfl <;> decide

theorem readValue_digit {fuel depth : Nat} (h : isDigit c = true) :
    readValue (fuel + 1) depth (c :: cs) = readUnsigned false (c :: cs) := by
  have hmem := cases_of_isDigit h
  rw [readValue, skipBlanks_cons (opens_of_isDigit h).1]
  simp only [List.mem_cons, List.not_mem_nil, or_false] at hmem
  rcases hmem with rfl | rfl | rfl | rfl | rfl | rfl | rfl | rfl | rfl | rfl <;> exact if_pos h

theorem reads_natural (k : Nat) (n : UInt64) : Reads k (.num (.natural n)) := by
  intro fuel depth rest _ hf hr
  show readValue fuel depth (Nat.toDigits 10 n.toNat ++ rest) = _
  have hread := readUnsigned_toDigits false n.toNat hr
  rw [integer_natural] at hread
  change 3 * (Nat.toDigits 10 n.toNat).length ≤ fuel at hf
  cases hds : Nat.toDigits 10 n.toNat with
  | nil => exact absurd hds Nat.toDigits_ne_nil
  | cons d ds =>
    rw [hds] at hread hf
    rw [List.length_cons] at hf
    obtain ⟨fuel, rfl⟩ := Nat.exists_eq_add_of_le' (show 1 ≤ fuel by omega)
    have hmem : d ∈ Nat.toDigits 10 n.toNat := by rw [hds]; exact List.mem_cons_self
    have hd : isDigit d = true := isDigit_of_mem_toDigits hmem
    rw [List.cons_append, readValue_digit hd]
    exact hread

theorem reads_negative (k : Nat) (n : Fin 9223372036854775808) : Reads k (.num (.negative n)) := by
  intro fuel depth rest _ hf hr
  change 3 * ((Nat.toDigits 10 (n.val + 1)).length + 1) ≤ fuel at hf
  obtain ⟨fuel, rfl⟩ := Nat.exists_eq_add_of_le' (show 1 ≤ fuel by omega)
  show readValue (fuel + 1) depth ('-' :: (Nat.toDigits 10 (n.val + 1) ++ rest)) = _
  rw [readValue, skipBlanks_cons (by decide)]
  show readUnsigned true (Nat.toDigits 10 (n.val + 1) ++ rest) = _
  rw [readUnsigned_toDigits true _ hr, integer_negative]
  rfl

theorem reads_str (k : Nat) (s : String) : Reads k (.str s) := by
  intro fuel depth rest _ hf _
  change 3 * ((s.toList.flatMap Json.escape ++ ['"']).length + 1) ≤ fuel at hf
  obtain ⟨fuel, rfl⟩ := Nat.exists_eq_add_of_le' (show 1 ≤ fuel by omega)
  show readValue (fuel + 1) depth ('"' :: (s.toList.flatMap Json.escape ++ ['"']) ++ rest) = _
  rw [List.cons_append, List.append_assoc, readValue, skipBlanks_cons (by decide)]
  simp only [List.singleton_append, scanString_renderString, String.ofList_toList]
  rfl

/-! ## Containers -/

section
variable {k fuel depth : Nat} {j : Json} {items : List Json} {members : List (String × Json)}
  {key : String}

theorem readItems_first (h : Opens c) :
    readItems (fuel + 1) depth true (c :: cs) = readItem fuel depth (c :: cs) := by
  rw [readItems, skipBlanks_cons h.1]
  split
  · rename_i he; cases he
  · rename_i he; cases he; exact absurd rfl h.2.1
  · rename_i he; cases he; rfl

theorem readItems_next (h : Opens c) :
    readItems (fuel + 1) depth false (',' :: c :: cs) = readItem fuel depth (c :: cs) := by
  rw [readItems, skipBlanks_cons (by decide)]
  split
  · rename_i he; cases he
  · rename_i he; exact absurd (List.cons.inj he).1 (by decide)
  · rename_i he
    cases he
    rw [if_neg Bool.false_ne_true, if_pos rfl, skipBlanks_cons h.1]
    split
    · rename_i he; cases he
    · rename_i he; exact absurd (List.cons.inj he).1 h.2.1
    · rename_i he; cases he; rfl

theorem readItems_closed (first : Bool) :
    readItems (fuel + 1) depth first (']' :: rest) = ([], .closed, some rest) := by
  rw [readItems, skipBlanks_cons (by decide)]
  rfl

theorem readMembers_first :
    readMembers (fuel + 1) depth true ('"' :: cs) = readMember fuel depth ('"' :: cs) := by
  rw [readMembers, skipBlanks_cons (by decide)]
  rfl

theorem readMembers_next :
    readMembers (fuel + 1) depth false (',' :: '"' :: cs) = readMember fuel depth ('"' :: cs) := by
  rw [readMembers, skipBlanks_cons (by decide)]
  split
  · rename_i he; cases he
  · rename_i he; exact absurd (List.cons.inj he).1 (by decide)
  · rename_i he
    cases he
    rw [if_neg Bool.false_ne_true, if_pos rfl, skipBlanks_cons (by decide)]
    rfl

theorem readMembers_closed (first : Bool) :
    readMembers (fuel + 1) depth first ('\x7d' :: rest) = ([], .closed, some rest) := by
  rw [readMembers, skipBlanks_cons (by decide)]
  rfl

theorem readValue_bracket {ending : Ending} {nodes : List Node} {left : Option (List Char)}
    (h : readItems fuel (depth + 1) true cs = (nodes, ending, left)) (hd : depth + 1 < depthLimit) :
    readValue (fuel + 1) depth ('[' :: cs) = (.arr nodes ending, left) := by
  rw [readValue, skipBlanks_cons (by decide)]
  show (atDepth (depth + 1) .bracket (.arr (readItems fuel (depth + 1) true cs).1
    (readItems fuel (depth + 1) true cs).2.1), (readItems fuel (depth + 1) true cs).2.2) = _
  rw [h, atDepth, if_pos hd]

theorem readValue_brace {ending : Ending} {nodes : List (String × Node)} {left : Option (List Char)}
    (h : readMembers fuel (depth + 1) true cs = (nodes, ending, left))
    (hd : depth + 1 < depthLimit) :
    readValue (fuel + 1) depth ('\x7b' :: cs) = (.obj nodes ending, left) := by
  rw [readValue, skipBlanks_cons (by decide)]
  show (atDepth (depth + 1) .brace (.obj (readMembers fuel (depth + 1) true cs).1
    (readMembers fuel (depth + 1) true cs).2.1), (readMembers fuel (depth + 1) true cs).2.2) = _
  rw [h, atDepth, if_pos hd]

theorem readKeyed_colon {n : Node} (h : readValue fuel depth cs = (n, some rest)) :
    readKeyed (fuel + 1) depth (':' :: cs) = (n, readMembers fuel depth false rest) := by
  have hcolon : skipBlanks (':' :: cs) = ':' :: cs := skipBlanks_cons (by decide)
  simp only [readKeyed, hcolon, h]

theorem readMember_renderString {n : Node} {ms : List (String × Node)} {ending : Ending}
    {left : Option (List Char)} (h : readKeyed fuel depth cs = (n, ms, ending, left)) :
    readMember (fuel + 1) depth (Json.renderString key ++ cs) = ((key, n) :: ms, ending, left) := by
  have hcs : Json.renderString key ++ cs =
      '"' :: (key.toList.flatMap Json.escape ++ '"' :: cs) := by simp [Json.renderString]
  rw [hcs, readMember]
  simp only [scanString_renderString, String.ofList_toList, h]

theorem endsNumber_renderItems : EndsNumber (Json.renderItems items ++ rest) := by
  cases items with
  | nil => exact endsNumber_cons (.inr (.inl rfl))
  | cons j js => rw [Json.renderItems]; exact endsNumber_cons (.inl rfl)

theorem endsNumber_renderMembers : EndsNumber (Json.renderMembers members ++ rest) := by
  cases members with
  | nil => exact endsNumber_cons (.inr (.inr rfl))
  | cons m ms => rw [Json.renderMembers]; exact endsNumber_cons (.inl rfl)

variable (hd : depth + k < depthLimit)
include hd

theorem readItem_render (h : Reads k j) (hf : 3 * j.render.length ≤ fuel)
    (hrest : readItems fuel depth false (Json.renderItems items ++ rest) =
      (Node.ofItems items, .closed, some rest)) :
    readItem (fuel + 1) depth (j.render ++ (Json.renderItems items ++ rest)) =
      (Node.ofItems (j :: items), .closed, some rest) := by
  rw [readItem, h hd hf endsNumber_renderItems]
  dsimp only
  rw [hrest]
  rfl

theorem readItems_render (hp : ∀ j ∈ items, j.Plain k) (h : ∀ j ∈ items, Reads k j)
    (hf : 3 * (Json.renderItems items).length ≤ fuel) :
    readItems fuel depth false (Json.renderItems items ++ rest) =
      (Node.ofItems items, .closed, some rest) := by
  induction items generalizing fuel with
  | nil =>
    obtain ⟨g, rfl⟩ := Nat.exists_eq_add_of_le' (Nat.le_trans (by decide : 1 ≤ 3) hf)
    exact readItems_closed false
  | cons j js ih =>
    simp only [Json.renderItems, List.cons_append, List.length_cons, List.length_append] at hf
    obtain ⟨g, rfl⟩ := Nat.exists_eq_add_of_le' (show 2 ≤ fuel by omega)
    obtain ⟨c, cs, hj, hc⟩ := opens_render (hp j List.mem_cons_self)
    have hrest : readItems g depth false _ = _ := ih
      (fun i hi => hp i (List.mem_cons_of_mem _ hi)) (fun i hi => h i (List.mem_cons_of_mem _ hi))
      (by omega)
    have hitem := readItem_render hd (h j List.mem_cons_self) (by omega) hrest
    simp only [Json.renderItems, List.cons_append, List.append_assoc]
    rw [hj, List.cons_append, readItems_next hc, ← List.cons_append, ← hj]
    exact hitem

theorem readMember_render (h : Reads k j) (hf : 3 * j.render.length ≤ fuel)
    (hrest : readMembers fuel depth false (Json.renderMembers members ++ rest) =
      (Node.ofMembers members, .closed, some rest)) :
    readMember (fuel + 1 + 1) depth
        (Json.renderString key ++ ':' :: (j.render ++ (Json.renderMembers members ++ rest))) =
      (Node.ofMembers ((key, j) :: members), .closed, some rest) := by
  refine readMember_renderString ((readKeyed_colon (h hd hf endsNumber_renderMembers)).trans ?_)
  rw [hrest]

theorem readMembers_render (h : ∀ m ∈ members, Reads k m.2)
    (hf : 3 * (Json.renderMembers members).length ≤ fuel) :
    readMembers fuel depth false (Json.renderMembers members ++ rest) =
      (Node.ofMembers members, .closed, some rest) := by
  induction members generalizing fuel with
  | nil =>
    obtain ⟨g, rfl⟩ := Nat.exists_eq_add_of_le' (Nat.le_trans (by decide : 1 ≤ 3) hf)
    exact readMembers_closed false
  | cons m ms ih =>
    obtain ⟨key, j⟩ := m
    simp only [Json.renderMembers, List.cons_append, List.length_cons, List.length_append] at hf
    obtain ⟨g, rfl⟩ := Nat.exists_eq_add_of_le' (show 3 ≤ fuel by omega)
    have hrest : readMembers g depth false _ = _ :=
      ih (fun i hi => h i (List.mem_cons_of_mem _ hi)) (by omega)
    have hj : Reads k j := h (key, j) List.mem_cons_self
    have hmember : readMember (g + 1 + 1) depth (Json.renderString key ++ _) = _ :=
      readMember_render hd hj (by omega) hrest
    simp only [Json.renderMembers, List.cons_append, List.append_assoc]
    exact readMembers_next.trans hmember

end

theorem reads_arr {k : Nat} {items : List Json} (hp : ∀ j ∈ items, j.Plain k)
    (h : ∀ j ∈ items, Reads k j) : Reads (k + 1) (.arr items) := by
  intro fuel depth rest hd hf _
  have hlimit : depth + 1 + k < depthLimit := by omega
  cases items with
  | nil =>
    obtain ⟨g, rfl⟩ := Nat.exists_eq_add_of_le' (Nat.le_trans (by decide : 2 ≤ 6) hf)
    exact readValue_bracket (readItems_closed true) (by omega)
  | cons j js =>
    simp only [Json.render, List.cons_append, List.length_cons, List.length_append] at hf
    obtain ⟨g, rfl⟩ := Nat.exists_eq_add_of_le' (show 3 ≤ fuel by omega)
    have hrest : readItems g (depth + 1) false (Json.renderItems js ++ rest) = _ :=
      readItems_render hlimit (fun i hi => hp i (List.mem_cons_of_mem _ hi))
        (fun i hi => h i (List.mem_cons_of_mem _ hi)) (by omega)
    have hitem := readItem_render hlimit (h j List.mem_cons_self) (by omega) hrest
    obtain ⟨c, cs, hj, hc⟩ := opens_render (hp j List.mem_cons_self)
    simp only [Json.render, List.cons_append, List.append_assoc]
    rw [hj, List.cons_append] at hitem ⊢
    exact readValue_bracket ((readItems_first hc).trans hitem) (by omega)

theorem reads_obj {k : Nat} {members : List (String × Json)} (h : ∀ m ∈ members, Reads k m.2) :
    Reads (k + 1) (.obj members) := by
  intro fuel depth rest hd hf _
  have hlimit : depth + 1 + k < depthLimit := by omega
  cases members with
  | nil =>
    obtain ⟨g, rfl⟩ := Nat.exists_eq_add_of_le' (Nat.le_trans (by decide : 2 ≤ 6) hf)
    exact readValue_brace (readMembers_closed true) (by omega)
  | cons m ms =>
    obtain ⟨key, j⟩ := m
    simp only [Json.render, List.cons_append, List.length_cons, List.length_append] at hf
    obtain ⟨g, rfl⟩ := Nat.exists_eq_add_of_le' (show 4 ≤ fuel by omega)
    have hrest : readMembers g (depth + 1) false (Json.renderMembers ms ++ rest) = _ :=
      readMembers_render hlimit (fun i hi => h i (List.mem_cons_of_mem _ hi)) (by omega)
    have hj : Reads k j := h (key, j) List.mem_cons_self
    have hmember : readMember (g + 1 + 1) (depth + 1) (Json.renderString key ++ _) = _ :=
      readMember_render hlimit hj (by omega) hrest
    simp only [Json.render, List.cons_append, List.append_assoc]
    exact readValue_brace (readMembers_first.trans hmember) (by omega)

theorem readWord_append (n : Node) (ws : List Char) :
    readWord n ws (ws ++ rest) = (n, some rest) := by
  induction ws with
  | nil => rfl
  | cons w ws ih => rw [List.cons_append, readWord, if_pos rfl, ih]

theorem reads_null (k : Nat) : Reads k .null := by
  intro fuel depth rest _ hf _
  obtain ⟨fuel, rfl⟩ := Nat.exists_eq_add_of_le' (Nat.le_trans (by decide : 1 ≤ 12) hf)
  show readValue (fuel + 1) depth ('n' :: ("ull".toList ++ rest)) = _
  rw [readValue, skipBlanks_cons (by decide)]
  exact readWord_append .null _

theorem reads_bool (k : Nat) (b : Bool) : Reads k (.bool b) := by
  intro fuel depth rest _ hf _
  cases b with
  | true =>
    obtain ⟨fuel, rfl⟩ := Nat.exists_eq_add_of_le' (Nat.le_trans (by decide : 1 ≤ 12) hf)
    show readValue (fuel + 1) depth ('t' :: ("rue".toList ++ rest)) = _
    rw [readValue, skipBlanks_cons (by decide)]
    exact readWord_append (.bool true) _
  | false =>
    obtain ⟨fuel, rfl⟩ := Nat.exists_eq_add_of_le' (Nat.le_trans (by decide : 1 ≤ 15) hf)
    show readValue (fuel + 1) depth ('f' :: ("alse".toList ++ rest)) = _
    rw [readValue, skipBlanks_cons (by decide)]
    exact readWord_append (.bool false) _

theorem reads_of_plain {k : Nat} {j : Json} (h : j.Plain k) : Reads k j := by
  induction h with
  | null => exact reads_null _
  | bool b => exact reads_bool _ b
  | natural n => exact reads_natural _ n
  | negative n => exact reads_negative _ n
  | str s => exact reads_str _ s
  | arr hp ih => exact reads_arr hp ih
  | obj _ _ ih => exact reads_obj ih

end JsonText

/-- Printed without blanks, a plain value reads back. -/
theorem Node.ofText_compact {k : Nat} {j : Json} (h : j.Plain k) (hk : k < JsonText.depthLimit) :
    Node.ofText j.compact = (.ofJson j, true) := by
  have hread : JsonText.readValue (3 * j.render.length + 3) 0 (j.render ++ []) = _ :=
    JsonText.reads_of_plain h (by omega) (by omega) (by simp [JsonText.EndsNumber])
  rw [List.append_nil] at hread
  rw [Node.ofText, Json.compact, String.toList_ofList, hread]
  rfl

end ChatBridge
