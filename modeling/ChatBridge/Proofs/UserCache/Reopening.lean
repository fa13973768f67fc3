import ChatBridge.Proofs.UserCache.Intakes
import ChatBridge.Proofs.UserCache.Reading

/-!
# A saved cache opens again

The users of a cache may be written in any order, since the file carries the key of each and the map
is put together again from them. What is read back is all that was saved, as long as the file is
fresh, and nothing afterwards. A clock that went back makes no file old.
-/

namespace ChatBridge

/-! ## Users in another order -/

namespace CacheFile

theorem Fits.of_perm {f : CacheFile} {es : List (String × UserSummary)} (h : f.Fits)
    (hes : es.Perm f.users) : Fits { f with users := es } where
  count := by rw [hes.length_eq]; exact h.count
  key e he := h.key e (hes.mem_iff.mp he)
  user e he := h.user e (hes.mem_iff.mp he)

end CacheFile

namespace UserCache

variable {c : UserCache} {d d' : DataDir} {now : UInt64}

/-- In this second a save has succeeded, be it that the users were written by rising key, as `save`
does, or in another order. -/
inductive Saved (c : UserCache) (now : UInt64) (d d' : DataDir) : Prop
  | byKey (h : c.save now d = (d', .ok ()))
  | inOrder {es : List (UserId × UserSummary)} (hes : es.Perm c.users.toList)
      (h : c.saveAs es now d = (d', .ok ()))

namespace Saved

theorem cacheBytes? (h : c.Saved now d d') (hd : c.onDisk = true) :
    ∃ es, es.Perm c.users.toList ∧ d'.cacheBytes? = some (fileOf es now).encode := by
  cases h with
  | byKey h =>
    rw [save_eq_ok hd h]
    exact ⟨_, .refl _, rfl⟩
  | inOrder hes h =>
    rw [saveAs_eq_ok hd h]
    exact ⟨_, hes, rfl⟩

theorem openIn_eq (h : c.Saved now d d') (hd : c.onDisk = true) (hf : (c.toFile now).Fits)
    {d'' : DataDir} (hd'' : d''.cacheBytes? = d'.cacheBytes?) (later : UInt64) :
    openIn d'' later = if (later.toNat : Int) - now.toNat ≤ 604800 then c else ⟨∅, true⟩ := by
  obtain ⟨es, hes, hbytes⟩ := h.cacheBytes? hd
  have hfile : (fileOf es now).Fits := hf.of_perm hes
  have husers : KeyMap.ofList (fileOf es now).users = c.users := KeyMap.ofList_eq_of_perm hes
  rw [openIn, hd'', hbytes, Option.bind_some, CacheFile.users?_encode hfile]
  by_cases hage : (later.toNat : Int) - now.toNat ≤ 604800
  · rw [if_pos ⟨rfl, CacheFile.isFresh_iff.mpr hage⟩, if_pos hage, husers, ← hd]
    rfl
  · rw [if_neg fun hfresh => hage (CacheFile.isFresh_iff.mp hfresh.2), if_neg hage]
    rfl

end Saved

/-- A cache that was saved, in whatever order of its users, opens from the same directory as it was
for 604800 seconds, also when the clock has gone back; after that it opens empty. -/
theorem openIn_of_saved (later : UInt64) (hd : c.onDisk = true) (hf : (c.toFile now).Fits)
    (h : c.Saved now d d') :
    ((later.toNat : Int) - now.toNat ≤ 604800 → openIn d' later = c) ∧
    (604800 < (later.toNat : Int) - now.toNat → openIn d' later = ⟨∅, true⟩) := by
  have hopens := h.openIn_eq hd hf rfl later
  constructor
  · intro hage
    rw [hopens, if_pos hage]
  · intro hage
    rw [hopens, if_neg (Int.not_le.mpr hage)]

/-- A user without a name is saved behind one with a name, and then in front of them, against the
order of their keys. -/
theorem openIn_of_saved_of_two_users :
    ∃ c es d d', c.onDisk = true ∧ c.save 1000 .absent = (d, .ok ()) ∧
      es.Perm c.users.toList ∧ es ≠ c.users.toList ∧ c.saveAs es 1000 d = (d', .ok ()) ∧
      (openIn d 605800 = c ∧ openIn d 5 = c ∧ openIn d 605801 = ⟨∅, true⟩) ∧
      openIn d' 605800 = c ∧ openIn d' 5 = c ∧ openIn d' 605801 = ⟨∅, true⟩ := by
  let u : UserSummary := ⟨"u", some "Zoë", 0, 18446744073709551615⟩
  let v : UserSummary := ⟨"v", none, 3, 7⟩
  let c : UserCache := ⟨.ofList [("u", u), ("v", v)], true⟩
  have husers : c.users.toList = [("u", u), ("v", v)] := by decide
  have hperm : [("v", v), ("u", u)].Perm c.users.toList := husers ▸ .swap ..
  have hfits : (c.toFile 1000).Fits := by
    constructor
    · rw [toFile, husers]; decide
    · rw [toFile, husers]; decide
    · rw [toFile, husers]
      intro e he
      rcases List.mem_cons.mp he with rfl | he
      · exact ⟨by decide, fun name hn => by cases hn; decide⟩
      · cases List.mem_singleton.mp he
        exact ⟨by decide, fun name hn => by cases hn⟩
  have hsave : c.save 1000 .absent =
      (.folder (.file (fileOf [("u", u), ("v", v)] 1000).encode) none, .ok ()) := by
    rw [save, husers]
    rfl
  have hswapped : c.saveAs [("v", v), ("u", u)] 1000
      (.folder (.file (fileOf [("u", u), ("v", v)] 1000).encode) none) =
      (.folder (.file (fileOf [("v", v), ("u", u)] 1000).encode) none, .ok ()) := rfl
  have h (later : UInt64) := openIn_of_saved later rfl hfits (.byKey hsave)
  have h' (later : UInt64) := openIn_of_saved later rfl hfits (.inOrder hperm hswapped)
  exact ⟨c, _, _, _, rfl, hsave, hperm, by rw [husers]; decide, hswapped,
    ⟨(h 605800).1 (by decide), (h 5).1 (by decide), (h 605801).2 (by decide)⟩,
    (h' 605800).1 (by decide), (h' 5).1 (by decide), (h' 605801).2 (by decide)⟩

end UserCache
end ChatBridge
