import CopyTrader.Consensus.Votes

/-!
# Consensus decides by distinct wallets

Over a ballot, where every vote counts and none grows old, the entry holds the first
`n` distinct wallets in order of appearance, and the latch says whether there are `n` of them.
-/

namespace CopyTrader.Consensus
open Lib

def voters (h : List TimedCall) : List Pubkey := firstAppearances ((submitted h).map (·.wallet))

theorem voters_snoc_submit (h : List TimedCall) (now : Instant) (s : BuySignal)
    (triggeredAt : Instant) :
    voters (h ++ [(now, .submit s triggeredAt)]) =
      if s.wallet ∈ voters h then voters h else voters h ++ [s.wallet] := by
  rw [voters, submitted_snoc_submit, List.map_append]
  exact firstAppearances_append_single _ _

theorem voters_snoc_cleanup (h : List TimedCall) (now : Instant) :
    voters (h ++ [(now, .cleanup)]) = voters h := by
  rw [voters, submitted_snoc_cleanup, voters]

/-- Submissions for one key, all counting, with the same settings, and cleanup passes, each
while every submitted vote is younger than the timeout. -/
structure Ballot (key : ConsensusKey) (n secs : ℕ) (h : List TimedCall) : Prop where
  calls : ∀ c ∈ h, c.2 = .cleanup ∨ ∃ s triggeredAt, c.2 = .submit s triggeredAt ∧ s.key = key ∧
    s.countsForCandidateConsensus = true ∧ s.consensusMinWallets = n ∧ s.consensusTimeoutSecs = secs
  young : ∀ c ∈ h, ∀ s ∈ submitted h,
    c.1.durationSince s.detectedAt < Duration.fromSecs (max secs 1)

theorem Ballot.of_append {key : ConsensusKey} {n secs : ℕ} {h h' : List TimedCall}
    (ballot : Ballot key n secs (h ++ h')) : Ballot key n secs h where
  calls c member := ballot.calls c (List.mem_append_left _ member)
  young c member s vote :=
    ballot.young c (List.mem_append_left _ member) s (by
      rw [submitted, List.filterMap_append]
      exact List.mem_append_left _ vote)

theorem Ballot.counts {key : ConsensusKey} {n secs : ℕ} {h : List TimedCall}
    (ballot : Ballot key n secs h) {s : BuySignal} (vote : s ∈ submitted h) :
    s.countsForCandidateConsensus = true := by
  obtain ⟨c, member, call⟩ := List.mem_filterMap.mp vote
  rcases ballot.calls c member with sweep | ⟨s', _, submit, _, counts, _⟩
  · simp [sweep] at call
  · simp only [submit, Option.some.injEq] at call
    exact call ▸ counts

structure Tallied (n secs : ℕ) (ws : List Pubkey) (votes : List BuySignal) (entry : TokenSignals) :
    Prop where
  minWallets : entry.minWallets = n
  timeout : entry.timeout = Duration.fromSecs (max secs 1)
  wallets : entry.signals.map (·.wallet) = ws.take n
  triggered : entry.triggered = decide (n ≤ ws.length)
  cast : ∀ s ∈ entry.signals, s ∈ votes

namespace TokenSignals

theorem place_none {live : TokenSignals} {signal : BuySignal} (h : live.place signal = none) :
    (∃ existing ∈ live.signals, existing.wallet = signal.wallet) ∨ live.triggered = true := by
  unfold place at h
  split at h
  · rename_i existing found
    exact Or.inl ⟨existing, find_wallet found⟩
  · split at h
    · rename_i latched
      exact Or.inr latched
    · cases h

end TokenSignals

def vote (ws : List Pubkey) (wallet : Pubkey) : List Pubkey :=
  if wallet ∈ ws then ws else ws ++ [wallet]

theorem take_vote_of_latched {ws : List Pubkey} {n : ℕ} (wallet : Pubkey) (latched : n ≤ ws.length) :
    (vote ws wallet).take n = ws.take n ∧ n ≤ (vote ws wallet).length := by
  unfold vote
  split
  · exact ⟨rfl, latched⟩
  · exact ⟨List.take_append_of_le_length latched, by simp; omega⟩

namespace Tallied

open TokenSignals

variable {n secs : ℕ} {ws : List Pubkey} {votes placed : List BuySignal} {entry : TokenSignals}
  {signal : BuySignal}

theorem vote_of_seen (tallied : Tallied n secs ws votes entry)
    (seen : signal.wallet ∈ entry.signals.map (·.wallet)) : vote ws signal.wallet = ws := by
  rw [tallied.wallets] at seen
  exact if_pos (List.mem_of_mem_take seen)

theorem short_of_armed (tallied : Tallied n secs ws votes entry) (armed : entry.triggered = false) :
    ws.length < n := by
  rw [tallied.triggered, decide_eq_false_iff_not] at armed
  omega

theorem wallets_of_armed (tallied : Tallied n secs ws votes entry) (armed : entry.triggered = false) :
    entry.signals.map (·.wallet) = ws := by
  have short := tallied.short_of_armed armed
  rw [tallied.wallets]
  exact List.take_of_length_le (by omega)

theorem cast_placed (tallied : Tallied n secs ws votes entry) (how : Placed entry signal placed) :
    ∀ s ∈ placed, s ∈ votes ++ [signal] := by
  intro s member
  rcases how.mem member with rfl | old
  · simp
  · exact List.mem_append_left _ (tallied.cast s old)

theorem counted_placed (tallied : Tallied n secs ws votes entry) (how : Placed entry signal placed)
    (counts : ∀ s ∈ votes ++ [signal], s.countsForCandidateConsensus = true) : counted placed = placed :=
  List.filter_eq_self.mpr fun s member => counts s (tallied.cast_placed how s member)

/-- A placement is the vote of a wallet that has voted, or of a new one while the entry is armed. -/
theorem wallets_placed (tallied : Tallied n secs ws votes entry) (how : Placed entry signal placed) :
    placed.map (·.wallet) = entry.signals.map (·.wallet) ∧ vote ws signal.wallet = ws ∨
      entry.triggered = false ∧ placed.map (·.wallet) = vote ws signal.wallet ∧
        (vote ws signal.wallet).length = ws.length + 1 := by
  cases how with
  | replaced existing found same better =>
    have seen : signal.wallet ∈ entry.signals.map (·.wallet) := List.mem_map.mpr ⟨existing, found, same⟩
    exact Or.inl ⟨map_replaceFirst _ fun y _ matched => by simpa using matched, tallied.vote_of_seen seen⟩
  | added new armed =>
    have whole := tallied.wallets_of_armed armed
    have unseen : signal.wallet ∉ ws := by
      rw [← whole]
      intro seen
      obtain ⟨s, member, same⟩ := List.mem_map.mp seen
      exact new s member same
    have grown : vote ws signal.wallet = ws ++ [signal.wallet] := if_neg unseen
    refine Or.inr ⟨armed, ?_, ?_⟩
    · rw [List.map_append, whole, grown]
      rfl
    · rw [grown, List.length_append, List.length_singleton]

/-- A submission that is turned away leaves an entry that still follows the voters. -/
theorem skipped (tallied : Tallied n secs ws votes entry) (turned : entry.place signal = none) :
    Tallied n secs (vote ws signal.wallet) (votes ++ [signal]) entry ∧
      ¬ (ws.length < n ∧ n ≤ (vote ws signal.wallet).length) := by
  have cast : ∀ s ∈ entry.signals, s ∈ votes ++ [signal] :=
    fun s member => List.mem_append_left _ (tallied.cast s member)
  rcases place_none turned with ⟨existing, member, same⟩ | latched
  · rw [tallied.vote_of_seen (List.mem_map.mpr ⟨existing, member, same⟩)]
    exact ⟨⟨tallied.minWallets, tallied.timeout, tallied.wallets, tallied.triggered, cast⟩, by omega⟩
  · have full : n ≤ ws.length := by
      rw [tallied.triggered] at latched
      exact of_decide_eq_true latched
    obtain ⟨kept, enough⟩ := take_vote_of_latched signal.wallet full
    have still : entry.triggered = decide (n ≤ (vote ws signal.wallet).length) := by
      rw [tallied.triggered]
      simp [full, enough]
    exact ⟨⟨tallied.minWallets, tallied.timeout, tallied.wallets.trans kept.symm, still, cast⟩, by omega⟩

/-- A vote that is stored without firing. -/
theorem recorded (tallied : Tallied n secs ws votes entry) (how : Placed entry signal placed)
    (counts : ∀ s ∈ votes ++ [signal], s.countsForCandidateConsensus = true)
    (quiet : entry.triggered = true ∨ (counted placed).length < entry.minWallets ∨ counted placed = []) :
    Tallied n secs (vote ws signal.wallet) (votes ++ [signal]) { entry with signals := placed } ∧
      ¬ (ws.length < n ∧ n ≤ (vote ws signal.wallet).length) := by
  have cast := tallied.cast_placed how
  rcases tallied.wallets_placed how with ⟨same, repeated⟩ | ⟨armed, grown, longer⟩
  · rw [repeated]
    exact ⟨⟨tallied.minWallets, tallied.timeout, same.trans tallied.wallets, tallied.triggered, cast⟩, by omega⟩
  · have length : placed.length = (vote ws signal.wallet).length := by
      rw [← grown, List.length_map]
    have few : (vote ws signal.wallet).length < n := by
      rw [tallied.counted_placed how counts, tallied.minWallets, length] at quiet
      rcases quiet with latched | few | empty
      · rw [armed] at latched
        cases latched
      · exact few
      · rw [empty, longer] at length
        simp at length
    have wallets : placed.map (·.wallet) = (vote ws signal.wallet).take n := by
      rw [grown, List.take_of_length_le (by omega)]
    have still : entry.triggered = decide (n ≤ (vote ws signal.wallet).length) := by
      rw [armed, eq_comm, decide_eq_false_iff_not]
      omega
    exact ⟨⟨tallied.minWallets, tallied.timeout, wallets, still, cast⟩, by omega⟩

/-- A vote that fires: it is the one that makes the voters enough. -/
theorem fired {triggeredAt : Instant} {trigger : ConsensusTrigger} (tallied : Tallied n secs ws votes entry)
    (how : Placed entry signal placed)
    (counts : ∀ s ∈ votes ++ [signal], s.countsForCandidateConsensus = true) (armed : entry.triggered = false)
    (built : Fired placed entry.minWallets triggeredAt signal trigger) :
    Tallied n secs (vote ws signal.wallet) (votes ++ [signal])
        { entry with signals := placed, triggered := true } ∧
      (ws.length < n ∧ n ≤ (vote ws signal.wallet).length) ∧ trigger.wallets = vote ws signal.wallet := by
  have few := tallied.short_of_armed armed
  have whole := tallied.wallets_of_armed armed
  have enough := built.enough
  have wallets := built.wallets
  rw [tallied.counted_placed how counts, tallied.minWallets] at enough
  rw [tallied.counted_placed how counts] at wallets
  rw [← List.length_map (f := (·.wallet))] at enough
  rcases tallied.wallets_placed how with ⟨same, repeated⟩ | ⟨_, grown, longer⟩
  · rw [same, whole] at enough
    omega
  · rw [grown] at enough wallets
    have first : placed.map (·.wallet) = (vote ws signal.wallet).take n := by
      rw [grown, List.take_of_length_le (by omega)]
    have latch : true = decide (n ≤ (vote ws signal.wallet).length) := (decide_eq_true enough).symm
    exact ⟨⟨tallied.minWallets, tallied.timeout, first, latch, tallied.cast_placed how⟩, ⟨few, enough⟩, wallets⟩

end Tallied

/-- One submission: the entry follows the voters, and fires when they become enough. -/
theorem tallied_submit {n secs : ℕ} {ws : List Pubkey} {votes : List BuySignal} {entry : TokenSignals}
    {signal : BuySignal} (now triggeredAt : Instant) (tallied : Tallied n secs ws votes entry)
    (young : ∀ s ∈ votes, now.durationSince s.detectedAt < Duration.fromSecs (max secs 1))
    (counts : ∀ s ∈ votes ++ [signal], s.countsForCandidateConsensus = true) :
    Tallied n secs (vote ws signal.wallet) (votes ++ [signal]) (entry.submit now signal triggeredAt).1 ∧
    (entry.submit now signal triggeredAt).2.map (fun t => (t.groupId, t.tokenMint, t.wallets)) =
      if ws.length < n ∧ n ≤ (vote ws signal.wallet).length then
        some (signal.groupId, signal.tokenMint, vote ws signal.wallet)
      else none := by
  have live : entry.expire now = entry :=
    TokenSignals.expire_eq_self fun s member => by
      rw [tallied.timeout]
      exact young s (tallied.cast s member)
  have spec := TokenSignals.submit_cases entry now signal triggeredAt
  revert spec
  generalize (entry.submit now signal triggeredAt).1 = entry'
  generalize (entry.submit now signal triggeredAt).2 = trigger
  intro spec
  cases spec with
  | skipped turned =>
    rw [live] at turned ⊢
    obtain ⟨next, silent⟩ := tallied.skipped turned
    exact ⟨next, (if_neg silent).symm⟩
  | recorded placed how quiet =>
    rw [live] at how
    obtain ⟨next, silent⟩ := tallied.recorded how counts quiet
    exact ⟨next, (if_neg silent).symm⟩
  | fired placed how armed trigger built =>
    rw [live] at how
    obtain ⟨next, fires, wallets⟩ := tallied.fired how counts armed built
    refine ⟨next, ?_⟩
    rw [if_pos fires, Option.map_some, built.groupId, built.tokenMint, wallets]

theorem tallied_cleanup {n secs : ℕ} {ws : List Pubkey} {votes : List BuySignal} {entry : TokenSignals}
    {now : Instant} (tallied : Tallied n secs ws votes entry) (positive : 1 ≤ n) (nonempty : ws ≠ [])
    (young : ∀ s ∈ votes, now.durationSince s.detectedAt < Duration.fromSecs (max secs 1)) :
    entry.cleanup now = some entry := by
  have fresh : ∀ s ∈ entry.signals, now.durationSince s.detectedAt < entry.timeout := fun s member => by
    rw [tallied.timeout]
    exact young s (tallied.cast s member)
  have present : entry.signals ≠ [] := by
    intro empty
    have wallets := tallied.wallets
    rw [empty, List.map_nil, eq_comm, List.take_eq_nil_iff] at wallets
    exact wallets.elim (by omega) nonempty
  obtain ⟨s, member⟩ := List.exists_mem_of_ne_nil _ present
  have live : s ∈ (entry.expire now).signals := TokenSignals.mem_expire.mpr ⟨member, fresh s member⟩
  rw [TokenSignals.cleanup_of_live live, TokenSignals.expire_eq_self fresh]

def Counted (key : ConsensusKey) (n secs : ℕ) (h : List TimedCall) (engine : ConsensusEngine) : Prop :=
  match engine.signals.get key with
  | none => submitted h = []
  | some entry => submitted h ≠ [] ∧ Tallied n secs (voters h) (submitted h) entry

theorem voters_eq_nil {h : List TimedCall} : voters h = [] ↔ submitted h = [] := by
  refine ⟨fun empty => ?_, fun empty => by rw [voters, empty]; rfl⟩
  rw [← List.map_eq_nil_iff (f := (·.wallet)), List.eq_nil_iff_forall_not_mem]
  intro w member
  have seen : w ∈ voters h := mem_firstAppearances.mpr member
  simp [empty] at seen

theorem counted_entryFor {key : ConsensusKey} {n secs : ℕ} {h : List TimedCall} {engine : ConsensusEngine}
    {signal : BuySignal} (positive : 1 ≤ n) (counted : Counted key n secs h engine)
    (same : signal.key = key) (least : signal.consensusMinWallets = n)
    (timeout : signal.consensusTimeoutSecs = secs) :
    Tallied n secs (voters h) (submitted h) (engine.entryFor signal) := by
  unfold Counted at counted
  unfold ConsensusEngine.entryFor
  rw [same]
  cases read : engine.signals.get key with
  | some entry =>
    rw [read] at counted
    exact counted.2
  | none =>
    rw [read] at counted
    have unvoted : voters h = [] := voters_eq_nil.mpr counted
    exact ⟨least, by rw [← timeout]; rfl, by simp [unvoted, TokenSignals.fresh],
      by rw [unvoted]; simp [TokenSignals.fresh]; omega, by simp [TokenSignals.fresh]⟩

theorem counted_call {key : ConsensusKey} {n secs : ℕ} {h : List TimedCall} {engine : ConsensusEngine}
    {c : TimedCall} (positive : 1 ≤ n) (ballot : Ballot key n secs (h ++ [c]))
    (counted : Counted key n secs h engine) :
    Counted key n secs (h ++ [c]) (engine.call c).1 ∧
    (engine.call c).2.trigger.map (fun t => (t.groupId, t.tokenMint, t.wallets)) =
      if (voters h).length < n ∧ n ≤ (voters (h ++ [c])).length then
        some (key.groupId, key.tokenMint, voters (h ++ [c]))
      else none := by
  obtain ⟨now, call⟩ := c
  have here : (now, call) ∈ h ++ [(now, call)] := by simp
  rcases ballot.calls _ here with sweep | ⟨s, triggeredAt, submit, same, _, least, timeout⟩
  · dsimp only at sweep
    subst sweep
    have young := ballot.young _ here
    rw [submitted_snoc_cleanup] at young
    rw [voters_snoc_cleanup, if_neg (by omega)]
    refine ⟨?_, rfl⟩
    unfold Counted at counted ⊢
    change match (engine.cleanupPass now).signals.get key with | none => _ | some entry => _
    rw [ConsensusEngine.cleanupPass_get, submitted_snoc_cleanup, voters_snoc_cleanup]
    cases read : engine.signals.get key with
    | none =>
      rw [read] at counted
      exact counted
    | some entry =>
      rw [read] at counted
      rw [Option.bind_some, tallied_cleanup counted.2 positive (fun empty => counted.1 (voters_eq_nil.mp empty)) young]
      exact counted
  · dsimp only at submit
    subst submit
    have young := ballot.young _ here
    have counts : ∀ v ∈ submitted h ++ [s], v.countsForCandidateConsensus = true := fun v member =>
      ballot.counts (by rw [submitted_snoc_submit]; exact member)
    rw [submitted_snoc_submit] at young
    obtain ⟨next, fires⟩ := tallied_submit now triggeredAt
      (counted_entryFor positive counted same least timeout)
      (fun v member => young v (List.mem_append_left _ member)) counts
    rw [voters_snoc_submit]
    change Counted _ _ _ _ (engine.submitSignal now s triggeredAt).1 ∧ (engine.submitSignal now s triggeredAt).2.map _ = _
    rw [ConsensusEngine.submitSignal_trigger, fires]
    refine ⟨?_, by rw [← same]; rfl⟩
    unfold Counted
    rw [ConsensusEngine.submitSignal_get, if_pos same.symm, submitted_snoc_submit, voters_snoc_submit]
    exact ⟨by simp, next⟩

theorem ballot_counted {key : ConsensusKey} {n secs : ℕ} {engine : ConsensusEngine} (positive : 1 ≤ n)
    (absent : engine.signals.get key = none) {h : List TimedCall} (ballot : Ballot key n secs h) :
    Counted key n secs h (engineAfter engine h) := by
  refine Machine.history_invariant ConsensusEngine.call
    (P := fun h e => Ballot key n secs h → Counted key n secs h e) ?_ ?_ h ballot
  · intro _
    unfold Counted
    rw [absent]
    rfl
  · intro h c ih ballot
    exact (counted_call positive ballot (ih ballot.of_append)).1

theorem ballot_trigger_count {key : ConsensusKey} {n secs : ℕ} {engine : ConsensusEngine} (positive : 1 ≤ n)
    (absent : engine.signals.get key = none) {h : List TimedCall} (ballot : Ballot key n secs h) :
    (triggers engine h).length = if n ≤ (voters h).length then 1 else 0 := by
  induction h using List.reverseRecOn with
  | nil =>
    have empty : (voters []).length = 0 := rfl
    rw [if_neg (by omega)]
    rfl
  | append_singleton h c ih =>
    have fires := (counted_call positive ballot (ballot_counted positive absent ballot.of_append)).2
    have grows : (voters h).length ≤ (voters (h ++ [c])).length := by
      obtain ⟨now, call⟩ := c
      rcases ballot.calls (now, call) (by simp) with sweep | ⟨s, _, submit, _⟩
      · dsimp only at sweep
        rw [sweep, voters_snoc_cleanup]
      · dsimp only at submit
        rw [submit, voters_snoc_submit]
        split <;> simp
    rw [triggers_snoc, List.length_append, ih ballot.of_append]
    cases reply : ((engineAfter engine h).call c).2.trigger with
    | none =>
      rw [reply] at fires
      rw [Option.toList_none, List.length_nil, Nat.add_zero]
      by_cases before : n ≤ (voters h).length
      · rw [if_pos before, if_pos (before.trans grows)]
      · by_cases after : n ≤ (voters (h ++ [c])).length
        · rw [if_pos ⟨by omega, after⟩] at fires
          cases fires
        · rw [if_neg before, if_neg after]
    | some t =>
      rw [reply] at fires
      rw [Option.toList_some, List.length_singleton]
      by_cases reached : (voters h).length < n ∧ n ≤ (voters (h ++ [c])).length
      · rw [if_neg (by omega), if_pos reached.2]
      · rw [if_neg reached] at fires
        cases fires

/-- Over a ballot from an engine without the entry, the one trigger is emitted when the distinct
wallets become `n`, it names exactly them, and there is none before or after. -/
theorem consensus_decides_exactly {key : ConsensusKey} {n secs : ℕ} {engine : ConsensusEngine}
    {h : List TimedCall} (positive : 1 ≤ n) (absent : engine.signals.get key = none)
    (ballot : Ballot key n secs h) :
    (triggers engine h).length = (if n ≤ (voters h).length then 1 else 0) ∧
    ∀ before c rest, h = before ++ c :: rest →
      ((engineAfter engine before).call c).2.trigger.map (fun t => (t.groupId, t.tokenMint, t.wallets)) =
        if (voters before).length < n ∧ n ≤ (voters (before ++ [c])).length then
          some (key.groupId, key.tokenMint, voters (before ++ [c]))
        else none := by
  refine ⟨ballot_trigger_count positive absent ballot, ?_⟩
  rintro before c rest rfl
  have split : Ballot key n secs ((before ++ [c]) ++ rest) := by simpa using ballot
  have step : Ballot key n secs (before ++ [c]) := split.of_append
  exact (counted_call positive step (ballot_counted positive absent step.of_append)).2

theorem consensus_decides_exactly_for_two :
    (triggers .new [(5, .submit (voteOf 1 4) 6), (7, .cleanup), (8, .submit (voteOf 1 7) 9),
      (10, .submit (voteOf 2 9) 11)]).length = 1 := by
  have ballot : Ballot ⟨"g", 9⟩ 2 1 [(5, .submit (voteOf 1 4) 6), (7, .cleanup),
      (8, .submit (voteOf 1 7) 9), (10, .submit (voteOf 2 9) 11)] := by
    refine ⟨fun c member => ?_, by decide⟩
    simp only [List.mem_cons, List.not_mem_nil, or_false] at member
    rcases member with rfl | rfl | rfl | rfl
    · exact Or.inr ⟨_, _, rfl, rfl, rfl, rfl, rfl⟩
    · exact Or.inl rfl
    · exact Or.inr ⟨_, _, rfl, rfl, rfl, rfl, rfl⟩
    · exact Or.inr ⟨_, _, rfl, rfl, rfl, rfl, rfl⟩
  exact (consensus_decides_exactly (by decide) rfl ballot).1

end CopyTrader.Consensus
