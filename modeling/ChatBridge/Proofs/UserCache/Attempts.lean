import ChatBridge.Proofs.UserCache.Intakes
import ChatBridge.Proofs.Worker.Founding

/-!
# Saves that do not come to their end

A save may fail in any of its steps, for whatever reason, and the program may go down in the middle of
it. `DataDir.Attempt` says what an attempt leaves in the directory. The file at the path of the cache
is the new one as soon as the rename is done and the old one until then, and the bytes that an attempt
leaves in the temporary file have no part in what comes later.
-/

namespace ChatBridge

inductive SaveEnd where
  | returned (r : Except DiskError Unit)
  | crashed (left : List SaveStep)

/-- The save says that it has succeeded, or nothing was left of it to do. -/
def SaveEnd.tookEffect : SaveEnd → Bool
  | .returned (.ok ()) => true
  | .crashed [] => true
  | _ => false

namespace DataDir

def entry : DataDir → CacheEntry
  | .folder cache _ => cache
  | _ => .absent

def cleared : DataDir → DataDir
  | .folder cache _ => .folder cache none
  | d => d

/-- What a step may leave that does not come to its end. Only a file is written bit by bit. -/
inductive Partly : DataDir → SaveStep → DataDir → Prop
  | nothing (d : DataDir) (s : SaveStep) : Partly d s d
  | written {cache temp bytes part} (h : part <+: bytes) :
      Partly (.folder cache temp) (.writeTemp bytes) (.folder cache (some part))

/-- An attempt at some steps. A step that cannot succeed fails; any other may fail as well. -/
inductive Attempt : DataDir → List SaveStep → DataDir → SaveEnd → Prop
  | finished (d : DataDir) : Attempt d [] d (.returned (.ok ()))
  | ended (d : DataDir) : Attempt d [] d (.crashed [])
  | goesOn {d d' d'' s steps e} (h : d.step s = .ok d') (rest : Attempt d' steps d'' e) :
      Attempt d (s :: steps) d'' e
  | failed {d d' s steps} (h : Partly d s d') (x : DiskError) :
      Attempt d (s :: steps) d' (.returned (.error x))
  | crashed {d d' s steps} (h : Partly d s d') : Attempt d (s :: steps) d' (.crashed (s :: steps))

variable {d d₁ d₂ d' : DataDir} {s : SaveStep} {steps : List SaveStep} {bytes : List UInt8}
  {e : SaveEnd}

theorem attempt_run (d : DataDir) (steps : List SaveStep) :
    Attempt d steps (d.run steps).1 (.returned (d.run steps).2) := by
  induction steps generalizing d with
  | nil => exact .finished d
  | cons s steps ih =>
    rw [run]
    cases h : d.step s with
    | ok d' => exact .goesOn h (ih d')
    | error x => exact .failed (.nothing d s) x

theorem entry_cleared (d : DataDir) : d.cleared.entry = d.entry := by
  cases d <;> rfl

theorem entry_of_cleared (h : d₁.cleared = d₂.cleared) : d₁.entry = d₂.entry := by
  rw [← entry_cleared d₁, h, entry_cleared]

theorem cacheBytes?_cleared (d : DataDir) : d.cleared.cacheBytes? = d.cacheBytes? := by
  cases d with
  | folder cache temp => cases cache <;> rfl
  | _ => rfl

/-! ## The steps of a save -/

theorem cleared_of_partly (h : Partly d s d') : d'.cleared = d.cleared := by
  cases h with
  | nothing => rfl
  | written => rfl

theorem makeDirectory_eq_ok (h : d.makeDirectory = .ok d') :
    d'.entry = d.entry ∧ ∃ cache temp, d' = .folder cache temp := by
  cases d with
  | absent => cases h; exact ⟨rfl, _, _, rfl⟩
  | plainFile => cases h
  | belowPlainFile => cases h
  | folder cache temp => cases h; exact ⟨rfl, _, _, rfl⟩

theorem rename_eq_ok {cache : CacheEntry} (h : rename (.folder cache (some bytes)) = .ok d') :
    d' = .folder (.file bytes) none := by
  cases cache with
  | absent => cases h; rfl
  | file old => cases h; rfl
  | folder => cases h

/-- How far an attempt to save can come: it ends before the directory is there, before the temporary
file is complete or before it is renamed, or it has taken effect. -/
inductive Reached (d : DataDir) (bytes : List UInt8) : DataDir → SaveEnd → Prop
  | broken {d' : DataDir} {e : SaveEnd} (he : e.tookEffect = false) (h : d'.entry = d.entry) :
      Reached d bytes d' e
  | done {e : SaveEnd} (he : e.tookEffect = true) : Reached d bytes (.folder (.file bytes) none) e

theorem reached_of_attempt (h : Attempt d (stepsFor bytes) d' e) : Reached d bytes d' e := by
  cases h with
  | failed hp x => exact .broken rfl (entry_of_cleared (cleared_of_partly hp))
  | crashed hp => exact .broken rfl (entry_of_cleared (cleared_of_partly hp))
  | goesOn hmake rest =>
    obtain ⟨hentry, cache, temp, rfl⟩ := makeDirectory_eq_ok hmake
    cases rest with
    | failed hp x => exact .broken rfl ((entry_of_cleared (cleared_of_partly hp)).trans hentry)
    | crashed hp => exact .broken rfl ((entry_of_cleared (cleared_of_partly hp)).trans hentry)
    | goesOn hwrite rest =>
      cases hwrite
      cases rest with
      | failed hp x => exact .broken rfl ((entry_of_cleared (cleared_of_partly hp)).trans hentry)
      | crashed hp => exact .broken rfl ((entry_of_cleared (cleared_of_partly hp)).trans hentry)
      | goesOn hrename rest =>
        cases rename_eq_ok hrename
        cases rest with
        | finished => exact .done rfl
        | ended => exact .done rfl

/-! ## What is left in the temporary file -/

theorem eq_or_folder_of_cleared (h : d₁.cleared = d₂.cleared) :
    d₁ = d₂ ∨ ∃ cache temp temp', d₁ = .folder cache temp ∧ d₂ = .folder cache temp' := by
  cases d₁ <;> cases d₂ <;> simp_all [cleared]

theorem partly_of_temp {cache : CacheEntry} {temp : Option (List UInt8)}
    (temp' : Option (List UInt8)) (h : Partly (.folder cache temp) s d') :
    ∃ d'', Partly (.folder cache temp') s d'' ∧ d''.cleared = d'.cleared := by
  cases h with
  | nothing => exact ⟨_, .nothing _ s, rfl⟩
  | written hpart => exact ⟨_, .written hpart, rfl⟩

theorem attempt_of_cleared (hc : d₁.cleared = d₂.cleared) (h : Attempt d₁ (stepsFor bytes) d' e) :
    ∃ d'', Attempt d₂ (stepsFor bytes) d'' e ∧ d''.cleared = d'.cleared := by
  rcases eq_or_folder_of_cleared hc with rfl | ⟨cache, temp, temp', rfl, rfl⟩
  · exact ⟨d', h, rfl⟩
  · cases h with
    | failed hp x =>
      obtain ⟨d'', hp', hc'⟩ := partly_of_temp temp' hp
      exact ⟨d'', .failed hp' x, hc'⟩
    | crashed hp =>
      obtain ⟨d'', hp', hc'⟩ := partly_of_temp temp' hp
      exact ⟨d'', .crashed hp', hc'⟩
    | goesOn hmake rest =>
      cases hmake
      cases rest with
      | failed hp x =>
        obtain ⟨d'', hp', hc'⟩ := partly_of_temp temp' hp
        exact ⟨d'', .goesOn rfl (.failed hp' x), hc'⟩
      | crashed hp =>
        obtain ⟨d'', hp', hc'⟩ := partly_of_temp temp' hp
        exact ⟨d'', .goesOn rfl (.crashed hp'), hc'⟩
      | goesOn hwrite rest =>
        -- what the temporary file held is gone, so from here on the two directories are one
        cases hwrite
        exact ⟨d', .goesOn rfl (.goesOn rfl rest), rfl⟩

theorem run_of_cleared (hc : d₁.cleared = d₂.cleared) :
    (d₁.run (stepsFor bytes)).2 = (d₂.run (stepsFor bytes)).2 := by
  rcases eq_or_folder_of_cleared hc with rfl | ⟨cache, temp, temp', rfl, rfl⟩
  · rfl
  · cases cache <;> rfl

end DataDir

namespace UserCache

open DataDir

variable {c : UserCache} {now later : UInt64} {d d' d₂ : DataDir} {e : SaveEnd}

theorem attempt_save (hd : c.onDisk = true) :
    Attempt d (c.saveSteps now) (c.save now d).1 (.returned (c.save now d).2) := by
  rw [save, saveAs, if_pos hd]
  exact attempt_run d _

theorem entry_of_attempt (h : Attempt d (c.saveSteps now) d' e) :
    d'.entry = if e.tookEffect then .file (c.toFile now).encode else d.entry := by
  rw [saveSteps] at h
  cases reached_of_attempt h with
  | broken he hentry => rw [he]; exact hentry
  | done he => rw [he]; rfl

theorem eq_of_tookEffect (h : Attempt d (c.saveSteps now) d' e) (he : e.tookEffect = true) :
    d' = .folder (.file (c.toFile now).encode) none := by
  rw [saveSteps] at h
  cases reached_of_attempt h with
  | broken hne _ => cases he.symm.trans hne
  | done _ => rfl

theorem openIn_cleared (d : DataDir) (later : UInt64) : openIn d.cleared later = openIn d later := by
  rw [openIn, openIn, cacheBytes?_cleared]

end UserCache

/-! ## One attempt after the other -/

structure SaveAttempt where
  cache : UserCache
  now : UInt64
  ended : SaveEnd

def SaveAttempt.bytes (x : SaveAttempt) : List UInt8 := (x.cache.toFile x.now).encode

inductive DataDir.Attempts (d : DataDir) : List SaveAttempt → DataDir → Prop
  | nil : Attempts d [] d
  | snoc {xs x d' d''} (h : Attempts d xs d') (ha : Attempt d' (x.cache.saveSteps x.now) d'' x.ended) :
      Attempts d (xs ++ [x]) d''

namespace UserCache

open DataDir

variable {d d' : DataDir} {xs : List SaveAttempt}

theorem entry_of_attempts (h : d.Attempts xs d') : d'.entry =
    (((xs.filter (·.ended.tookEffect)).getLast?).map fun x => .file x.bytes).getD d.entry := by
  induction h with
  | nil => rfl
  | @snoc xs x d' d'' _ ha ih =>
    rw [entry_of_attempt ha, List.filter_append]
    cases hx : x.ended.tookEffect with
    | true =>
      have hlast : [x].filter (·.ended.tookEffect) = [x] := List.filter_cons_of_pos hx
      rw [hlast, List.getLast?_concat]
      rfl
    | false =>
      have hnone : [x].filter (·.ended.tookEffect) = [] := List.filter_cons_of_neg (by simp [hx])
      rw [hnone, List.append_nil]
      exact ih

theorem save_of_cleared {c : UserCache} {now : UInt64} {b : DataDir} (hc : b.cleared = d.cleared) :
    (c.save now b).2 = (c.save now d).2 := by
  unfold save saveAs
  split
  · exact run_of_cleared hc
  · rfl

theorem agent_of_save {w w' : Worker} {g : Agent} {t : Task} {users : UserLookup}
    {next : Program Json} (hp : t.program = .save users next) (h : w.run? g t = some w') :
    w'.agent = w.agent := by
  unfold Worker.run? at h
  simp only [hp] at h
  cases h
  exact Worker.agent_saveUsers users

/-! ## Main statement -/

/-- After any attempts to save, each of which may have failed or been cut short anywhere, the last one
that took effect has written the file at the path of the cache, whole; without one there stands what
stood there before. A further attempt leaves what it finds there or its own file, and that exactly if
it returns success or breaks off with nothing left to do. The temporary file has no part in how the
cache opens, in how a save ends, or in what a save leaves that takes effect. The cache in memory stays
as it is. -/
theorem old_or_new_of_attempts (h : d.Attempts xs d') :
    d'.entry = (((xs.filter (·.ended.tookEffect)).getLast?).map fun x => .file x.bytes).getD d.entry ∧
    (∀ later, openIn d' later = openIn d'.cleared later) ∧
    (∀ (c : UserCache) (now : UInt64), c.onDisk = true →
      Attempt d' (c.saveSteps now) (c.save now d').1 (.returned (c.save now d').2)) ∧
    (∀ (c : UserCache) (now : UInt64) (d'' : DataDir) (e : SaveEnd),
      Attempt d' (c.saveSteps now) d'' e →
        d''.entry = (if e.tookEffect then .file (c.toFile now).encode else d'.entry) ∧
        ∀ b : DataDir, b.cleared = d'.cleared → ∃ b', Attempt b (c.saveSteps now) b' e ∧
          b'.cleared = d''.cleared ∧ (e.tookEffect = true → b' = d'')) ∧
    (∀ (c : UserCache) (now : UInt64) (b : DataDir), b.cleared = d'.cleared →
      (c.save now b).2 = (c.save now d').2) ∧
    ∀ (w w' : Worker) (g : Agent) (t : Task) (users : UserLookup) (next : Program Json),
      t.program = .save users next → w.run? g t = some w' → w'.agent = w.agent := by
  refine ⟨entry_of_attempts h, fun later => (openIn_cleared d' later).symm, ?_, ?_, ?_, ?_⟩
  · intro c now hd
    exact attempt_save hd
  · intro c now d'' e ha
    refine ⟨entry_of_attempt ha, fun b hb => ?_⟩
    obtain ⟨b', hb', hc⟩ := attempt_of_cleared hb.symm ha
    refine ⟨b', hb', hc, fun he => ?_⟩
    exact (eq_of_tookEffect hb' he).trans (eq_of_tookEffect ha he).symm
  · intro c now b hb
    exact save_of_cleared hb
  · intro w w' g t users next hp hw
    exact agent_of_save hp hw

/-- The program goes down while it writes the first file, the second save succeeds, and the third
fails with its file written. -/
theorem old_or_new_of_attempts_of_debris :
    ∃ x y z d, x.ended.tookEffect = false ∧ y.ended.tookEffect = true ∧
      z.ended = .returned (.error .denied) ∧ DataDir.absent.Attempts [x, y, z] d ∧
      d.hasTemp = true ∧ y.bytes ≠ z.bytes ∧ d.entry = .file y.bytes := by
  let u : UserSummary := ⟨"u", none, 3, 7⟩
  let c : UserCache := ⟨∅, true⟩
  let c' : UserCache := ⟨.ofList [("u", u)], true⟩
  let x : SaveAttempt := ⟨c, 5, .crashed [.writeTemp (c.toFile 5).encode, .rename]⟩
  let y : SaveAttempt := ⟨c, 6, .returned (.ok ())⟩
  let z : SaveAttempt := ⟨c', 7, .returned (.error .denied)⟩
  have hx : Attempt .absent (c.saveSteps 5) (.folder .absent (some [1, 0])) x.ended := by
    refine .goesOn rfl (.crashed (.written ?_))
    exact List.isPrefixOf_iff_prefix.mp (by decide)
  have hy : Attempt (.folder .absent (some [1, 0])) (c.saveSteps 6) (.folder (.file y.bytes) none)
      y.ended := .goesOn rfl (.goesOn rfl (.goesOn rfl (.finished _)))
  have hz : Attempt (.folder (.file y.bytes) none) (c'.saveSteps 7)
      (.folder (.file y.bytes) (some z.bytes)) z.ended :=
    .goesOn rfl (.goesOn rfl (.failed (.nothing _ _) .denied))
  have h₁ : DataDir.absent.Attempts ([] ++ [x]) _ := .snoc .nil hx
  have h₂ : DataDir.absent.Attempts ([x] ++ [y]) _ := .snoc h₁ hy
  have h : DataDir.absent.Attempts ([x, y] ++ [z]) _ := .snoc h₂ hz
  have hlast : (([x, y] ++ [z]).filter (·.ended.tookEffect)).getLast? = some y := rfl
  have hentry := (old_or_new_of_attempts h).1
  rw [hlast] at hentry
  exact ⟨x, y, z, _, rfl, rfl, rfl, h, rfl, by decide, hentry⟩

end UserCache
end ChatBridge
