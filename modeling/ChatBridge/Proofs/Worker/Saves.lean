import ChatBridge.Proofs.UserCache.Reading
import ChatBridge.Proofs.Worker.Passage

/-!
# What the saves keep

A run is read into what its tasks took into the user cache and what they wrote to the disk. Where no
save fails, the files follow each other as the cache does, a task that changed the users is in one of
them before it ends, and with no such task under way the file has what the cache has.
-/

namespace ChatBridge.Worker

def taken (ss : History) : List Intake := ss.filterMap intake?

def written (ss : History) : List (List UInt8) := ss.filterMap written?

variable {d : DataDir} {now : UInt64} {xs : List Intake} {ks : List Nat} {w w' : Worker} {n : Nat}
  {ss pre : History}

/-! ## Runs -/

/-- No save fails, and the tasks are not cut off. -/
structure Undisturbed (ss : History) : Prop where
  saves : ∀ s ∈ ss, ∀ e, saveEnd? s ≠ some (.error e)
  halt : ∀ s ∈ ss, s.action ≠ .act .halt

theorem Undisturbed.of_append {post : History} (h : Undisturbed (ss ++ post)) : Undisturbed ss :=
  ⟨fun s hs => h.saves s (List.mem_append_left _ hs),
    fun s hs => h.halt s (List.mem_append_left _ hs)⟩

theorem taken_snoc (ss : History) (s : Step Worker Turn) :
    taken (ss ++ [s]) = taken ss ++ (intake? s).toList := filterMap_snoc ..

theorem written_snoc (ss : History) (s : Step Worker Turn) :
    written (ss ++ [s]) = written ss ++ (written? s).toList := filterMap_snoc ..

theorem sound_start (d : DataDir) (now : UInt64) : Sound d now [] [] (start (some d) now) where
  second := rfl
  disk := rfl
  rising := .nil
  bound := nofun
  counted := nofun
  idle _ := ⟨rfl, rfl, fun _ => rfl⟩
  memory := nofun
  queue := nofun
  stage := nofun
  due := nofun

theorem goes_of_next (run : Run react? (start (some d) now) ss w) {x : Turn}
    (h : w.react? x = some w') (hu : Undisturbed (ss ++ [⟨w, x, w'⟩]))
    (f : Sound d now (taken ss) ks w) : Goes d now (taken ss) ks ⟨w, x, w'⟩ :=
  goes_of_react f (ledger_of_run run) (fun hset => ((parted_of_run run).waiting hset).1) h
    (hu.saves _ (by simp)) (hu.halt ⟨w, x, w'⟩ (by simp))

theorem sound_of_run (run : Run react? (start (some d) now) ss w) (hu : Undisturbed ss) :
    ∃ ks, Sound d now (taken ss) ks w ∧ written ss = ks.map (UserCache.fileAt d now (taken ss)) := by
  induction run with
  | nil => exact ⟨[], sound_start d now, rfl⟩
  | @snoc ss w x w' run h ih =>
    obtain ⟨ks, f, hks⟩ := ih hu.of_append
    obtain ⟨js, f', hjs⟩ := goes_of_next run h hu f
    refine ⟨ks ++ js, taken_snoc ss _ ▸ f', ?_⟩
    rw [written_snoc, taken_snoc, hks, hjs, List.map_append]
    congr 1
    exact List.map_congr_left fun k hk => (UserCache.fileAt_append (f.bound k hk) _).symm

theorem isSome_task?_of_saveEnd {x : Turn} (h : w.react? x = some w')
    (hs : saveEnd? ⟨w, x, w'⟩ ≠ none) (hn : (w.task? n).isSome = true) :
    (w'.task? n).isSome = true := by
  cases x with
  | act a =>
    cases a with
    | run m =>
      obtain ⟨g, t, hg, ht, h⟩ := withTask_eq_some h
      cases hpr : t.program with
      | save users next =>
        unfold run? at h
        simp only [hpr] at h
        cases h
        rw [task?_proceed (quiet_saveUsers users g).tasks ht next]
        split
        · rfl
        · exact hn
      | _ => exact absurd (saveEnd?_run_of_none hg ht (by rw [Task.saves?, hpr])) hs
    | _ => exact absurd rfl hs
  | _ => exact absurd rfl hs

theorem saved_of_ended (run : Run react? (start (some d) now) pre w) {x : Turn}
    (h : w.react? x = some w') (hu : Undisturbed (pre ++ [⟨w, x, w'⟩]))
    (hn : (w.task? n).isSome = true) (hend : w'.task? n = none) {i : Nat} {y : Intake}
    (hy : (taken pre)[i]? = some y) (hyn : y.task = n) (hc : y.changed ≠ 0) :
    ∃ k, i < k ∧ UserCache.fileAt d now (taken pre) k ∈ written pre := by
  obtain ⟨ks, f, hks⟩ := sound_of_run run hu.of_append
  obtain ⟨js, f', hjs⟩ := goes_of_next run h hu f
  have hy' : (taken pre ++ (intake? ⟨w, x, w'⟩).toList)[i]? = some y := by
    rw [List.getElem?_append_left (List.getElem?_eq_some_iff.mp hy).1]
    exact hy
  rcases f'.due hy' hc with ⟨k, hk, hik⟩ | ⟨t, ht, _⟩
  · rcases List.mem_append.mp hk with hk | hk
    · exact ⟨k, hik, hks ▸ List.mem_map_of_mem hk⟩
    · -- the step that ends the task is not itself the one that saves
      have hsave : saveEnd? ⟨w, x, w'⟩ ≠ none := by
        intro hnone
        rw [written?, hnone] at hjs
        rw [List.map_eq_nil_iff.mp hjs.symm] at hk
        cases hk
      have hstill := isSome_task?_of_saveEnd h hsave hn
      rw [hend] at hstill
      cases hstill
  · rw [hyn] at ht
    cases hend.symm.trans ht

theorem Sound.settled (f : Sound d now xs ks w) (hx : ∃ x ∈ xs, x.changed ≠ 0)
    (hend : ∀ x ∈ xs, x.changed ≠ 0 → w.task? x.task = none) : ∃ g, w.agent = some g ∧
      w.disk = some (.folder (.file (g.cache.toFile now).encode) none) := by
  have hsaved : ∀ i x, xs[i]? = some x → x.changed ≠ 0 → ∃ k ∈ ks, i < k := by
    intro i x hi hc
    refine (f.due hi hc).resolve_right ?_
    rintro ⟨t, ht, _⟩
    cases (hend x (List.mem_of_getElem? hi) hc).symm.trans ht
  obtain ⟨x, hx, hc⟩ := hx
  obtain ⟨g, hg⟩ : ∃ g, w.agent = some g := by
    cases hg : w.agent with
    | none =>
      rw [(f.idle (by rw [shared?, hg]; rfl)).1] at hx
      cases hx
    | some g => exact ⟨g, rfl⟩
  refine ⟨g, hg, ?_⟩
  rcases List.eq_nil_or_concat ks with rfl | ⟨js, k, rfl⟩
  · obtain ⟨i, hi⟩ := List.mem_iff_getElem?.mp hx
    obtain ⟨k, hk, _⟩ := hsaved i x hi hc
    cases hk
  · rw [List.concat_eq_append] at f hsaved
    -- no save is later than the last, so nothing has changed since
    have hlast : ∀ j ∈ js ++ [k], j ≤ k := by
      intro j hj
      rcases List.mem_append.mp hj with hj | hj
      · exact (List.pairwise_append.mp f.rising).2.2 j hj k (List.mem_singleton.mpr rfl)
      · exact Nat.le_of_eq (List.mem_singleton.mp hj)
    have hsame : (UserCache.openIn d now).after xs = (UserCache.openIn d now).after (xs.take k) := by
      refine UserCache.after_eq_of_unchanged f.counted fun i x hi hki => ?_
      by_contra hne
      obtain ⟨j, hj, hij⟩ := hsaved i x hi hne
      exact absurd (Nat.lt_of_lt_of_le hij (hlast j hj)) (Nat.not_lt.mpr hki)
    rw [f.disk, diskAfter, List.getLast?_concat, f.memory (shared?_of_agent hg), hsame]
    rfl

/-! ## Main statement -/

/-- The cache is what the disk had with all the intakes. Each file that is saved is that of the cache
after so many intakes, none has fewer of them than one before, and what is reflected in one is so in
all later ones. A task that changed the users ends only after a file with its intake was saved. With
all such tasks at their end the file is that of the cache, and nothing that was taken in is lost from
it. -/
theorem saves_of_run {d : DataDir} {now : UInt64} {ss : History} {w : Worker}
    (run : Run react? (start (some d) now) ss w) (hu : Undisturbed ss) :
    (∀ g, w.agent = some g → g.cache = (UserCache.openIn d now).after (taken ss)) ∧
    (∃ ks : List Nat, ks.Pairwise (· ≤ ·) ∧ (∀ k ∈ ks, k ≤ (taken ss).length) ∧
      written ss = ks.map (UserCache.fileAt d now (taken ss))) ∧
    (∀ k, (((UserCache.openIn d now).after ((taken ss).take k)).toFile now).Fits →
      CacheFile.users? (UserCache.fileAt d now (taken ss) k) now =
        some ((UserCache.openIn d now).after ((taken ss).take k)).users) ∧
    (∀ j k us, j ≤ k → ((UserCache.openIn d now).after ((taken ss).take j)).users.Reflects us →
      ((UserCache.openIn d now).after ((taken ss).take k)).users.Reflects us) ∧
    (∀ i x k, (taken ss)[i]? = some x → i < k →
      ((UserCache.openIn d now).after ((taken ss).take k)).users.Reflects x.users) ∧
    (∀ pre s post n, ss = pre ++ s :: post → (s.before.task? n).isSome = true →
      s.after.task? n = none → ∀ i x, (taken pre)[i]? = some x → x.task = n → x.changed ≠ 0 →
        ∃ k, i < k ∧ UserCache.fileAt d now (taken pre) k ∈ written pre ∧
          ((UserCache.openIn d now).after ((taken pre).take k)).users.Reflects x.users) ∧
    ((∃ x ∈ taken ss, x.changed ≠ 0) →
      (∀ x ∈ taken ss, x.changed ≠ 0 → w.task? x.task = none) →
      ∃ g bytes, w.agent = some g ∧ w.disk.bind DataDir.cacheBytes? = some bytes ∧
        bytes = (g.cache.toFile now).encode ∧
        ((g.cache.toFile now).Fits → CacheFile.users? bytes now = some g.cache.users) ∧
        ∀ x ∈ taken ss, g.cache.users.Reflects x.users) := by
  obtain ⟨ks, f, hks⟩ := sound_of_run run hu
  refine ⟨fun g hg => f.memory (shared?_of_agent hg), ⟨ks, f.rising, f.bound, hks⟩,
    fun k hk => CacheFile.users?_encode_toFile hk, ?_, ?_, ?_, ?_⟩
  · exact fun j k us hjk h => UserCache.Reflects.later hjk h
  · exact fun i x k hx hik => UserCache.reflects_after hx hik
  · intro pre s post n hss hn hend i x hx hxn hc
    obtain ⟨hrun, hstep⟩ := run.before_of_split hss
    have hu' : Undisturbed (pre ++ [s]) := by
      rw [hss, ← List.singleton_append, ← List.append_assoc] at hu
      exact hu.of_append
    obtain ⟨k, hik, hk⟩ := saved_of_ended hrun hstep hu' hn hend hx hxn hc
    exact ⟨k, hik, hk, UserCache.reflects_after hx hik⟩
  · intro hx hend
    obtain ⟨g, hg, hdisk⟩ := f.settled hx hend
    refine ⟨g, _, hg, by rw [hdisk]; rfl, rfl, CacheFile.users?_encode_toFile, fun x hx => ?_⟩
    obtain ⟨i, hi⟩ := List.mem_iff_getElem?.mp hx
    have hk := UserCache.reflects_after (c := UserCache.openIn d now) hi
      (List.getElem?_eq_some_iff.mp hi).1
    rwa [List.take_length, ← f.memory (shared?_of_agent hg)] at hk

/-- Two requests for users, of which the second takes its users in when the first has made its copy:
the first file has one user and the second has both. -/
theorem saves_of_run_of_two_requests :
    ∃ ss w g bytes, Run react? (start (some .absent) 0) ss w ∧ Undisturbed ss ∧
      (written ss).length = 2 ∧ w.agent = some g ∧
      g.cache.users.toList = [("u", ⟨"u", none, 0, 1⟩), ("v", ⟨"v", none, 0, 1⟩)] ∧
      w.disk.bind DataDir.cacheBytes? = some bytes ∧
      CacheFile.users? bytes 0 = some g.cache.users := by
  have run : ∃ ss w g, Run react? (start (some .absent) 0) ss w ∧ w.agent = some g ∧
      g.cache.users.toList = [("u", ⟨"u", none, 0, 1⟩), ("v", ⟨"v", none, 0, 1⟩)] ∧ w.tasks = [] ∧
      taken ss = [⟨0, [⟨"u", none, 0, 1⟩], 1⟩, ⟨1, [⟨"v", none, 0, 1⟩], 1⟩] ∧
      (written ss).length = 2 ∧ ss.filterMap saveEnd? = [.ok (), .ok ()] ∧
      ∀ a ∈ ss.map Step.action, a ≠ .act .halt := by
    refine ⟨_, _, _, .of_play [
      .deliver (.request "a" "init" ((Wire.codec : Codec AgentConfig).toValue .standard)),
      .deliver (.request "b" "getUsers" (UsersQuery.record.codec.toValue ⟨["u"], false⟩)),
      .deliver (.request "c" "getUsers" (UsersQuery.record.codec.toValue ⟨["v"], false⟩)),
      .act .receive, .act (.provide (.ok (some ⟨"me"⟩))), .act .receive, .act .receive,
      .act (.run 0), .act (.run 1),
      .act (.endCall 0 (.answered (.ok ((Wire.codec : Codec UsersAnswer).toValue
        ⟨none, [⟨"u", none, 0, 1⟩]⟩)))),
      .act (.endCall 1 (.answered (.ok ((Wire.codec : Codec UsersAnswer).toValue
        ⟨none, [⟨"v", none, 0, 1⟩]⟩)))),
      .act (.run 0), .act (.run 0), .act (.run 0), .act (.run 0), .act (.run 1), .act (.run 1),
      .act (.run 0), .act (.run 0), .act (.run 0), .act (.run 0), .act (.run 1), .act (.run 1),
      .act (.run 1), .act (.run 1), .act (.run 1), .act (.run 1)] rfl,
      rfl, rfl, rfl, rfl, rfl, rfl, ?_⟩
    simp
  obtain ⟨ss, w, g, run, hg, husers, htasks, htaken, hwritten, hends, hhalt⟩ := run
  have hu : Undisturbed ss := by
    refine ⟨fun s hs e he => ?_, fun s hs => hhalt _ (List.mem_map_of_mem hs)⟩
    have hmem := List.mem_filterMap.mpr ⟨s, hs, he⟩
    rw [hends] at hmem
    simp at hmem
  obtain ⟨_, _, _, _, _, _, hfile⟩ := saves_of_run run hu
  have hchanged : ∃ x ∈ taken ss, x.changed ≠ 0 := by
    rw [htaken]
    exact ⟨_, List.mem_cons_self, Nat.one_ne_zero⟩
  have hover : ∀ x ∈ taken ss, x.changed ≠ 0 → w.task? x.task = none := by
    intro x _ _
    rw [task?, htasks]
    rfl
  obtain ⟨g', bytes, hg', hbytes, _, hread, _⟩ := hfile hchanged hover
  cases hg.symm.trans hg'
  refine ⟨ss, w, g, bytes, run, hu, hwritten, hg, husers, hbytes, hread ?_⟩
  have hfits : g.cache.users.toList.length < 256 ^ 8 ∧ ∀ e ∈ g.cache.users.toList,
      Bytes.FitsText e.1 ∧ Bytes.FitsText e.2.userId ∧ e.2.username = none := by
    rw [husers]
    decide
  refine ⟨hfits.1, fun e he => (hfits.2 e he).1, fun e he => ⟨(hfits.2 e he).2.1, fun name hn => ?_⟩⟩
  cases (hfits.2 e he).2.2.symm.trans hn

end ChatBridge.Worker
