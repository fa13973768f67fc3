import ChatBridge.Proofs.Agent.Polling
import ChatBridge.Proofs.Agent.Reporting

/-!
# Read positions that are reported, and those that count

While it serves a delta an agent reports each read position in it that is not the one known before,
and a listener takes the position that was reported last. In the merged snapshot the last update of a
chat counts, whether it was reported or not. The two differ where a delta moves a chat away and then
back to where it was: the way back is no news against what was known before, so nobody hears of it.
-/

namespace ChatBridge

structure ReadPosition where
  upTo : Option MessageIndex
  threads : List ThreadRead
deriving DecidableEq, Repr

def ReadPosition.unread : ReadPosition := ⟨none, []⟩

def ChatSummary.readPosition (c : ChatSummary) : ReadPosition := ⟨c.readByMeUpTo, c.threadsRead⟩

def Snapshot.readPosition (s : Snapshot) (k : ChatId) : ReadPosition :=
  ((s.chat? k).map (·.readPosition)).getD .unread

def Event.readPosition? (k : ChatId) : Event → Option ReadPosition
  | .readElsewhere id upTo threads => if id = k then some ⟨upTo, threads⟩ else none
  | _ => none

/-- Where a listener ends who takes over each position of the chat that is reported. -/
def ReadPosition.listen (k : ChatId) (p : ReadPosition) (es : List Event) : ReadPosition :=
  es.foldl (fun p e => (e.readPosition? k).getD p) p

def Delta.positions (d : Delta) (k : ChatId) : List ReadPosition :=
  ((d.chatsUpdated.map (·.summary)).filter (·.chatId = k)).map (·.readPosition)

/-- The delta moves the chat away from the position `p` and in the end back to it. -/
def Delta.LeadsBack (d : Delta) (k : ChatId) (p : ReadPosition) : Prop :=
  (d.positions k).getLast? = some p ∧ ∃ q ∈ d.positions k, q ≠ p

instance (d : Delta) (k : ChatId) (p : ReadPosition) : Decidable (d.LeadsBack k p) :=
  inferInstanceAs (Decidable (_ ∧ _))

open Operation (readChanges)

variable {s : Snapshot} {d : Delta} {k : ChatId} {p q : ReadPosition} {es : List Event}
  {ps : List ReadPosition}

/-! ## What a listener learns -/

theorem listen_eq : p.listen k es = ((es.filterMap (·.readPosition? k)).getLast?).getD p := by
  induction es using List.reverseRecOn with
  | nil => rfl
  | append_singleton es e ih =>
    have hstep : p.listen k (es ++ [e]) = (e.readPosition? k).getD (p.listen k es) := by
      simp [ReadPosition.listen]
    rw [hstep, ih, List.filterMap_append]
    cases he : e.readPosition? k with
    | none => simp [he]
    | some q => simp [he]

theorem readChanges_eq : readChanges s d = d.chatsUpdated.filterMap fun u =>
    if u.summary.readPosition ≠ s.readPosition u.summary.chatId then
      some (.readElsewhere u.summary.chatId u.summary.readByMeUpTo u.summary.threadsRead)
    else none := by
  refine List.filterMap_congr fun u _ => if_congr ?_ rfl rfl
  unfold Snapshot.readPosition
  cases hk : s.chat? u.summary.chatId with
  | none =>
    simp only [Option.map_none, Option.getD_none, ReadPosition.unread, ChatSummary.readPosition, ne_eq,
      ReadPosition.mk.injEq, not_and_or, Bool.or_eq_true, Option.isSome_iff_ne_none,
      Bool.not_eq_true', List.isEmpty_eq_false_iff]
  | some known =>
    rw [ne_comm]
    simp only [Option.map_some, Option.getD_some, ChatSummary.readPosition, ne_eq,
      ReadPosition.mk.injEq, not_and_or, Bool.or_eq_true, decide_eq_true_eq]

theorem positions_readChanges : (readChanges s d).filterMap (·.readPosition? k) =
    (d.positions k).filter (· ≠ s.readPosition k) := by
  rw [readChanges_eq, Delta.positions, List.filterMap_filterMap]
  induction d.chatsUpdated with
  | nil => rfl
  | cons u us ih =>
    rw [List.map_cons, List.filterMap_cons, ih]
    by_cases hk : u.summary.chatId = k
    · rw [List.filter_cons_of_pos (by simpa using hk), List.map_cons]
      subst hk
      by_cases hp : u.summary.readPosition = s.readPosition u.summary.chatId
      · rw [if_neg (not_not_intro hp), List.filter_cons_of_neg (by simpa using hp)]
        rfl
      · rw [if_pos hp, List.filter_cons_of_pos (by simpa using hp), Option.bind_some,
          Event.readPosition?, if_pos rfl]
        rfl
    · have hother : ((if u.summary.readPosition ≠ s.readPosition u.summary.chatId then
          some (Event.readElsewhere u.summary.chatId u.summary.readByMeUpTo u.summary.threadsRead)
          else none).bind fun e => e.readPosition? k) = none := by
        split
        · exact if_neg hk
        · rfl
      rw [List.filter_cons_of_neg (by simpa using hk), hother]

/-- The last news is the last position, unless that is the old one again. -/
theorem getLast?_news (h : ps.getLast? = some q) :
    ((ps.filter (· ≠ p)).getLast?).getD p = q ↔ ¬ (ps.getLast? = some p ∧ ∃ r ∈ ps, r ≠ p) := by
  obtain ⟨init, rfl⟩ := List.getLast?_eq_some_iff.mp h
  rw [h, Option.some_inj, List.filter_append]
  by_cases hq : q = p
  · subst hq
    rw [List.filter_cons_of_neg (by simp), List.filter_nil, List.append_nil]
    cases hi : (init.filter (· ≠ q)).getLast? with
    | none =>
      have hnone := List.filter_eq_nil_iff.mp (List.getLast?_eq_none_iff.mp hi)
      simpa using hnone
    | some r =>
      obtain ⟨hr, hrq⟩ := List.mem_filter.mp (List.mem_of_getLast? hi)
      refine iff_of_false (of_decide_eq_true hrq) fun h => h ⟨rfl, r, ?_, of_decide_eq_true hrq⟩
      exact List.mem_append_left _ hr
  · rw [List.filter_cons_of_pos (by simpa using hq), List.filter_nil, List.getLast?_concat]
    exact iff_of_true rfl fun h => hq h.1

/-! ## What counts -/

theorem lastUpdated?_eq : (d.lastUpdated? k).map (·.readPosition) = (d.positions k).getLast? := by
  rw [Delta.lastUpdated?, Delta.positions, List.getLast?_map, List.getLast?_eq_head?_reverse,
    ← List.filter_reverse, List.head?_filter]

theorem readPosition_merge (hs : (chatIds s.chats).Nodup)
    (hm : k ∈ chatIds (s.merge d).state.chats) (hq : (d.positions k).getLast? = some q) :
    (s.merge d).state.readPosition k = q := by
  have hchat : (s.merge d).state.chat? k = d.winner? (s.chat? k) k :=
    congrArg (·.chat? k) (Snapshot.content_merge hs)
  have hsome : (s.merge d).state.chat? k ≠ none := by
    obtain ⟨c, hc, hid⟩ := List.mem_map.mp hm
    intro hnone
    exact List.find?_eq_none.mp hnone c hc (beq_iff_eq.mpr hid)
  rw [hchat, Delta.winner?] at hsome
  rw [← lastUpdated?_eq] at hq
  obtain ⟨c, hc, rfl⟩ := Option.map_eq_some_iff.mp hq
  have hstays : ¬ d.chatsRemoved.contains k = true := fun hr => hsome (if_pos hr)
  rw [Snapshot.readPosition, hchat, Delta.winner?, if_neg hstays, hc]
  rfl

theorem exists_getLast?_positions (hk : k ∈ d.chatsUpdated.map (·.summary.chatId)) :
    ∃ q, (d.positions k).getLast? = some q := by
  obtain ⟨u, hu, hid⟩ := List.mem_map.mp hk
  have hmem : u.summary.readPosition ∈ d.positions k :=
    List.mem_map_of_mem (List.mem_filter.mpr ⟨List.mem_map_of_mem hu, decide_eq_true hid⟩)
  exact Option.isSome_iff_exists.mp (List.getLast?_isSome.mpr (List.ne_nil_of_mem hmem))

theorem not_leadsBack (hn : (d.chatsUpdated.map (·.summary.chatId)).Nodup) : ¬ d.LeadsBack k p := by
  rintro ⟨hlast, r, hr, hrp⟩
  have hdistinct : (chatIds (d.chatsUpdated.map (·.summary))).Nodup := by
    rwa [chatIds, List.map_map]
  obtain ⟨b, hb, rfl⟩ := List.mem_map.mp (List.mem_of_getLast? hlast)
  obtain ⟨c, hc, rfl⟩ := List.mem_map.mp hr
  obtain ⟨hb, hbk⟩ := List.mem_filter.mp hb
  obtain ⟨hc, hck⟩ := List.mem_filter.mp hc
  refine hrp (congrArg _ (eq_of_chatId_eq hdistinct hc hb ?_))
  exact (of_decide_eq_true hck).trans (of_decide_eq_true hbk).symm

namespace Operation

open Program

variable {config : AgentConfig} {told : List Told} {m : Merged}

theorem reported_getUpdates (h : (getUpdates config s).Returns told (.ok m)) :
    ∃ d, ((getUpdates config s).heard told).filterMap (reading Delta "updates") = [d] ∧
      m = s.merge d ∧ (getUpdates config s).reported told = readChanges s d := by
  obtain ⟨d, hd, hm⟩ := hears_getUpdates.of_done h
  refine ⟨d, hd, hm, ?_⟩
  let ask := ofUser config Delta "updates" [("updatesSince", Wire.write s.cursor)]
  let rest (d : Delta) : Program Merged := (emitAll (readChanges s d)).bind fun _ => .done (s.merge d)
  obtain ⟨d', pre, post, rfl, hfirst, hsecond, hheard, hreported⟩ : ∃ d' pre post,
    ask.Splits rest told m d' pre post := exists_splits h
  have hask : (ask.heard pre).filterMap (reading Delta "updates") = [d'] :=
    (hears_ofUser (P := fun _ => True) (by decide) (fun _ _ _ => trivial) trivial).of_done hfirst
  -- the delta that the first program returns is the only one that is read
  have hread : d' = d := by
    have hboth : (ask.heard pre ++ (rest d').heard post).filterMap (reading Delta "updates") = [d] :=
      hheard ▸ hd
    rw [List.filterMap_append, hask] at hboth
    exact (List.cons.inj hboth).1
  subst hread hm
  have hsilent : ask.reported pre = [] := silent_ofUser pre
  show (ask.bind rest).reported (pre ++ post) = _
  rw [hreported, hsilent, List.nil_append]
  exact reported_emitAll hsecond

theorem getUpdates_of_answer (config : AgentConfig) (s : Snapshot) (d : Delta) : ∃ told,
    (getUpdates config s).Returns told (.ok (s.merge d)) ∧
      ((getUpdates config s).heard told).filterMap (reading Delta "updates") = [d] ∧
      (getUpdates config s).reported told = readChanges s d := by
  let asked : List Told := [.canister (some "own"), .answer (.ok (Wire.codec.toValue d))]
  have hasked : (getUpdates config s).follow asked =
      some ((emitAll (readChanges s d)).bind fun _ => .done (s.merge d)) :=
    follow_ofUser (answerTo_toValue "updates" d)
  let told := asked ++ (readChanges s d).map fun _ => .nothing
  have hreturns : (getUpdates config s).Returns told (.ok (s.merge d)) := by
    show (getUpdates config s).follow told = _
    rw [follow_append, hasked]
    exact follow_emitAll
  obtain ⟨d', hd, _, hreported⟩ := reported_getUpdates hreturns
  have hread : d' = d := by
    have hcall : (getUpdates config s).heard asked =
        [(⟨"own", "updates", args [("updatesSince", Wire.write s.cursor)]⟩,
          .ok (Wire.codec.toValue d))] := rfl
    have hanswer : reading Delta "updates"
        (⟨"own", "updates", args [("updatesSince", Wire.write s.cursor)]⟩,
          .ok (Wire.codec.toValue d)) = some d := by
      rw [reading, if_pos rfl, answerTo_toValue]
      rfl
    rw [heard_append hasked, hcall, List.singleton_append, List.filterMap_cons, hanswer] at hd
    exact (List.cons.inj hd).1.symm
  subst hread
  exact ⟨told, hreturns, hd, hreported⟩

/-- Of a chat that a delta updates and that stays, a listener knows in the end what the snapshot says,
unless the delta leads back to what was known before. It never does if it lists each chat once. -/
theorem listen_getUpdates (hs : (chatIds s.chats).Nodup)
    (h : (getUpdates config s).Returns told (.ok m)) :
    ∃ d, ((getUpdates config s).heard told).filterMap (reading Delta "updates") = [d] ∧
      m = s.merge d ∧
      (∀ k, k ∈ d.chatsUpdated.map (·.summary.chatId) → k ∈ chatIds m.state.chats →
        ((s.readPosition k).listen k ((getUpdates config s).reported told) =
          m.state.readPosition k ↔ ¬ d.LeadsBack k (s.readPosition k))) ∧
      ((d.chatsUpdated.map (·.summary.chatId)).Nodup → ∀ k, ¬ d.LeadsBack k (s.readPosition k)) := by
  obtain ⟨d, hd, rfl, hreported⟩ := reported_getUpdates h
  refine ⟨d, hd, rfl, fun k hk hm => ?_, fun hn k => not_leadsBack hn⟩
  obtain ⟨q, hq⟩ := exists_getLast?_positions hk
  rw [hreported, listen_eq, positions_readChanges, readPosition_merge hs hm hq]
  exact getLast?_news hq

/-- A chat is moved on twice, and another, not known before, has been read. -/
theorem listen_getUpdates_of_two_moves : ∃ (config : AgentConfig) (s : Snapshot) (d : Delta)
    (told : List Told), (chatIds s.chats).Nodup ∧
    (getUpdates config s).Returns told (.ok (s.merge d)) ∧
    d.chatsUpdated.map (fun u => (u.summary.chatId, u.summary.readByMeUpTo)) =
      [("a", some 5), ("b", some 2), ("a", some 4)] ∧
    s.readPosition "a" = ⟨some 3, []⟩ ∧ s.readPosition "b" = .unread ∧
    ∀ k ∈ ["a", "b"], (s.readPosition k).listen k ((getUpdates config s).reported told) =
      (s.merge d).state.readPosition k := by
  let chat (id : ChatId) (n : MessageIndex) : ChatSummary :=
    { (default : ChatSummary) with chatId := id, readByMeUpTo := some n }
  let s : Snapshot := { (default : Snapshot) with chats := [chat "a" 3] }
  let d : Delta := { (default : Delta) with
    chatsUpdated := [⟨chat "a" 5, []⟩, ⟨chat "b" 2, []⟩, ⟨chat "a" 4, []⟩] }
  obtain ⟨told, hreturns, hd, _⟩ := getUpdates_of_answer .standard s d
  have hs : (chatIds s.chats).Nodup := by decide
  obtain ⟨d', hd', _, hlisten, _⟩ := listen_getUpdates hs hreturns
  obtain rfl : d' = d := (List.cons.inj (hd'.symm.trans hd)).1
  have hlisted : ∀ k ∈ ["a", "b"], k ∈ chatIds (d.mergeChats s.chats) := by decide
  have hupdated : ∀ k ∈ ["a", "b"], k ∈ d.chatsUpdated.map (·.summary.chatId) := by decide
  have hforth : ∀ k ∈ ["a", "b"], ¬ d.LeadsBack k (s.readPosition k) := by decide
  refine ⟨.standard, s, d, told, hs, hreturns, rfl, rfl, rfl, fun k hk => ?_⟩
  refine (hlisten k (hupdated k hk) ?_).mpr (hforth k hk)
  rw [Snapshot.merge_of_hasChanges rfl]
  exact Snapshot.chatIds_sortChats.mem_iff.mpr (hlisted k hk)

/-- A chat is moved on and then back. The listener is told of the first move only. -/
theorem listen_getUpdates_of_move_back : ∃ (config : AgentConfig) (s : Snapshot) (d : Delta)
    (told : List Told), (chatIds s.chats).Nodup ∧
    (getUpdates config s).Returns told (.ok (s.merge d)) ∧
    ((getUpdates config s).heard told).filterMap (reading Delta "updates") = [d] ∧
    d.chatsUpdated.map (·.summary.chatId) = ["a", "a"] ∧ "a" ∈ chatIds (s.merge d).state.chats ∧
    (s.merge d).state.readPosition "a" = ⟨some 3, []⟩ ∧
    (s.readPosition "a").listen "a" ((getUpdates config s).reported told) = ⟨some 5, []⟩ := by
  let chat (n : MessageIndex) : ChatSummary :=
    { (default : ChatSummary) with chatId := "a", readByMeUpTo := some n }
  let s : Snapshot := { (default : Snapshot) with chats := [chat 3] }
  let d : Delta := { (default : Delta) with chatsUpdated := [⟨chat 5, []⟩, ⟨chat 3, []⟩] }
  obtain ⟨told, hreturns, hd, hreported⟩ := getUpdates_of_answer .standard s d
  have hs : (chatIds s.chats).Nodup := by decide
  have hstays : "a" ∈ chatIds (s.merge d).state.chats := by
    have hlisted : "a" ∈ chatIds (d.mergeChats s.chats) := by decide
    rw [Snapshot.merge_of_hasChanges rfl]
    exact Snapshot.chatIds_sortChats.mem_iff.mpr hlisted
  refine ⟨.standard, s, d, told, hs, hreturns, hd, rfl, hstays,
    readPosition_merge hs hstays (by decide), ?_⟩
  rw [hreported]
  decide

end Operation
end ChatBridge
