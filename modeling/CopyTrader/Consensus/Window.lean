import CopyTrader.Consensus.History

/-!
# One trigger a window

Without rejections a triggered entry keeps its latch until it is swept away, and a vote leaves
it by age or for a later vote of its wallet only. So a second trigger finds the votes of the
first one timed out.
-/

namespace CopyTrader.Consensus
open Lib
open TokenSignals (counted)

def Call.StampsFrom (t : Instant) : Call → Prop
  | .submit _ triggeredAt => t ≤ triggeredAt
  | _ => True

instance (t : Instant) (call : Call) : Decidable (call.StampsFrom t) :=
  match call with
  | .submit _ triggeredAt => inferInstanceAs (Decidable (t ≤ triggeredAt))
  | .revoke .. | .reject .. | .cleanup => inferInstanceAs (Decidable True)

def Call.isReject : Call → Bool
  | .reject .. => true
  | _ => false

/-- A run of the trade channel: no rejection, votes detected in the order they are submitted,
and no trigger stamped before a clock reading that an earlier call started from. -/
structure Fifo (h : List TimedCall) : Prop where
  noReject : ∀ c ∈ h, c.2.isReject = false
  ordered : (submitted h).Pairwise fun a b => a.detectedAt ≤ b.detectedAt
  stamped : h.Pairwise fun a b => b.2.StampsFrom a.1

theorem Fifo.of_append {h h' : List TimedCall} (fifo : Fifo (h ++ h')) : Fifo h where
  noReject c member := fifo.noReject c (List.mem_append_left _ member)
  ordered := by
    have ordered := fifo.ordered
    rw [submitted, List.filterMap_append] at ordered
    exact (List.pairwise_append.mp ordered).1
  stamped := (List.pairwise_append.mp fifo.stamped).1

theorem Standing.submitted {v : BuySignal} {h : List TimedCall} (standing : Standing v h) :
    v ∈ submitted h := by
  induction standing with
  | cast h now triggeredAt => simp [submitted_snoc_submit]
  | kept h c _ _ ih =>
    rw [Consensus.submitted, List.filterMap_append]
    exact List.mem_append_left _ ih

theorem Fifo.detected {v s : BuySignal} {h : List TimedCall} {now triggeredAt : Instant}
    (fifo : Fifo (h ++ [(now, .submit s triggeredAt)])) (standing : Standing v h) :
    v.detectedAt ≤ s.detectedAt := by
  have ordered := fifo.ordered
  rw [submitted_snoc_submit] at ordered
  exact (List.pairwise_append.mp ordered).2.2 v standing.submitted s (by simp)

theorem Latched.timeout_pos {k : ConsensusKey} {h : List TimedCall} {n : ℕ} {timeout : Duration}
    (latched : Latched k h n timeout) : 0 < timeout := by
  induction latched with
  | created h now triggeredAt s same absent =>
    have least : 1 ≤ max s.consensusTimeoutSecs 1 := Nat.le_max_right ..
    exact Nat.mul_pos least (by decide)
  | kept h c n timeout latched present ih => exact ih

theorem timed_out {now detectedAt : Instant} {timeout : Duration} (positive : 0 < timeout)
    (old : ¬ now.durationSince detectedAt < timeout) : detectedAt + timeout ≤ now := by
  unfold Instant.durationSince at old
  lia

/-- A triggered entry of timeout `timeout` that holds `v`, or a later vote of its wallet. -/
def Holds (timeout : Duration) (v : BuySignal) (entry : TokenSignals) : Prop :=
  entry.triggered = true ∧ entry.timeout = timeout ∧
    ∃ s ∈ entry.signals, s.wallet = v.wallet ∧ v.detectedAt ≤ s.detectedAt

theorem holds_submit {entry : TokenSignals} {timeout : Duration} {v signal : BuySignal}
    {now : Instant} (triggeredAt : Instant) (holds : Holds timeout v entry) (positive : 0 < timeout)
    (later : ∀ s ∈ entry.signals, s.detectedAt ≤ signal.detectedAt) :
    v.detectedAt + timeout ≤ now ∨ Holds timeout v (entry.submit now signal triggeredAt).1 := by
  obtain ⟨latch, rfl, s, member, wallet, since⟩ := holds
  by_cases young : now.durationSince s.detectedAt < entry.timeout
  · refine Or.inr ?_
    have live : s ∈ (entry.expire now).signals := TokenSignals.mem_expire.mpr ⟨member, young⟩
    have kept : ∀ votes, TokenSignals.Placed (entry.expire now) signal votes →
        ∃ s ∈ votes, s.wallet = v.wallet ∧ v.detectedAt ≤ s.detectedAt := by
      intro votes placed
      cases placed with
      | added new untriggered => exact ⟨s, List.mem_append_left _ live, wallet, since⟩
      | replaced existing found same better =>
        by_cases mine : s.wallet = signal.wallet
        · refine ⟨signal, self_mem_replaceFirst ⟨existing, found, by simpa using same⟩, ?_, ?_⟩
          · rw [← mine, wallet]
          · exact since.trans (later s member)
        · exact ⟨s, mem_replaceFirst_of_not live (by simpa using mine), wallet, since⟩
    have spec := TokenSignals.submit_cases entry now signal triggeredAt
    revert spec
    generalize (entry.submit now signal triggeredAt).1 = entry'
    generalize (entry.submit now signal triggeredAt).2 = trigger
    intro spec
    cases spec with
    | skipped turned => exact ⟨latch, rfl, s, live, wallet, since⟩
    | recorded votes placed quiet => exact ⟨latch, rfl, kept votes placed⟩
    | fired votes placed armed trigger built =>
      rw [latch] at armed
      cases armed
  · refine Or.inl ?_
    have aged := timed_out positive young
    lia

theorem holds_cleanup {entry : TokenSignals} {timeout : Duration} {v : BuySignal} {now : Instant}
    (holds : Holds timeout v entry) (positive : 0 < timeout) :
    v.detectedAt + timeout ≤ now ∨ ∃ entry', entry.cleanup now = some entry' ∧ Holds timeout v entry' := by
  obtain ⟨latch, rfl, s, member, wallet, since⟩ := holds
  by_cases young : now.durationSince s.detectedAt < entry.timeout
  · have live : s ∈ (entry.expire now).signals := TokenSignals.mem_expire.mpr ⟨member, young⟩
    exact Or.inr ⟨_, TokenSignals.cleanup_of_live live, latch, rfl, s, live, wallet, since⟩
  · refine Or.inl ?_
    have aged := timed_out positive young
    lia

/-- `v` has timed out at some reading of the history, or a triggered entry still answers for it. -/
def Outstanding (k : ConsensusKey) (timeout : Duration) (v : BuySignal) (h : List TimedCall) : Prop :=
  (∃ c ∈ h, v.detectedAt + timeout ≤ c.1) ∨
    ∃ entry, (engineSinceStart h).signals.get k = some entry ∧ Holds timeout v entry

theorem outstanding_call {k : ConsensusKey} {timeout : Duration} {v : BuySignal} {h : List TimedCall}
    {c : TimedCall} (fifo : Fifo (h ++ [c])) (positive : 0 < timeout)
    (outstanding : Outstanding k timeout v h) : Outstanding k timeout v (h ++ [c]) := by
  rcases outstanding with ⟨c', member, aged⟩ | ⟨entry, read, holds⟩
  · exact Or.inl ⟨c', List.mem_append_left _ member, aged⟩
  unfold Outstanding engineSinceStart engineAfter
  rw [Machine.after_snoc]
  obtain ⟨now, call⟩ := c
  have aged (old : v.detectedAt + timeout ≤ now) :
      ∃ c ∈ h ++ [(now, call)], v.detectedAt + timeout ≤ c.1 := ⟨(now, call), by simp, old⟩
  cases call with
  | submit s triggeredAt =>
    change _ ∨ ∃ entry, ((engineSinceStart h).submitSignal now s triggeredAt).1.signals.get k = _ ∧ _
    rw [ConsensusEngine.submitSignal_get]
    by_cases here : k = s.key
    · have base : (engineSinceStart h).entryFor s = entry := by
        rw [ConsensusEngine.entryFor, ← here, read]
        rfl
      rw [if_pos here, base]
      have standing := (recorded_since_start h read).standing
      rcases holds_submit triggeredAt holds positive
        (fun u member => fifo.detected (standing u member)) with old | still
      · exact Or.inl (aged old)
      · exact Or.inr ⟨_, rfl, still⟩
    · rw [if_neg here]
      exact Or.inr ⟨entry, read, holds⟩
  | revoke groupId mint wallet =>
    refine Or.inr ⟨entry, ?_, holds⟩
    change ((engineSinceStart h).revokeSignal groupId mint wallet).1.signals.get k = _
    rw [ConsensusEngine.revokeSignal_get, read]
    simp [TokenSignals.revoke, holds.1]
  | reject groupId mint wallet signature =>
    have accepted := fifo.noReject (now, .reject groupId mint wallet signature) (by simp)
    cases accepted
  | cleanup =>
    rcases holds_cleanup holds positive with old | ⟨entry', kept, still⟩
    · exact Or.inl (aged old)
    · refine Or.inr ⟨entry', ?_, still⟩
      change ((engineSinceStart h).cleanupPass now).signals.get k = _
      rw [ConsensusEngine.cleanupPass_get, read]
      exact kept

theorem outstanding_run {k : ConsensusKey} {timeout : Duration} {v : BuySignal} {h rest : List TimedCall}
    (fifo : Fifo (h ++ rest)) (positive : 0 < timeout) (outstanding : Outstanding k timeout v h) :
    Outstanding k timeout v (h ++ rest) := by
  induction rest using List.reverseRecOn with
  | nil => simpa using outstanding
  | append_singleton rest c ih =>
    rw [← List.append_assoc] at fifo ⊢
    exact outstanding_call fifo positive (ih fifo.of_append)

/-- When a key triggers again, every vote that its earlier trigger counted has timed out. -/
theorem fires_once_per_window {h rest : List TimedCall} {first second : TimedCall}
    {earlier later : ConsensusTrigger} (fifo : Fifo (h ++ [first] ++ rest ++ [second]))
    (emitted : ((engineSinceStart h).call first).2.trigger = some earlier)
    (again : ((engineSinceStart (h ++ [first] ++ rest)).call second).2.trigger = some later)
    (same : later.groupId = earlier.groupId ∧ later.tokenMint = earlier.tokenMint) :
    ∃ entry, (engineSinceStart (h ++ [first])).signals.get ⟨earlier.groupId, earlier.tokenMint⟩ = some entry ∧
      earlier.wallets = (counted entry.signals).map (·.wallet) ∧
      ∀ v ∈ counted entry.signals, entry.timeout ≤ later.triggeredAt.durationSince v.detectedAt := by
  obtain ⟨_, s, _, entry, _, read, latch, _, _, built⟩ := trigger_fired emitted
  obtain ⟨now, s', triggeredAt, entry', submits, _, _, armed, _, built'⟩ := trigger_fired again
  have key : s.key = ⟨earlier.groupId, earlier.tokenMint⟩ := by
    rw [built.groupId, built.tokenMint]
    rfl
  have key' : s'.key = s.key := by
    rw [key, ← same.1, ← same.2, built'.groupId, built'.tokenMint]
    rfl
  rw [← Machine.after_snoc] at read
  refine ⟨entry, by rw [← key]; exact read, built.wallets, fun v member => ?_⟩
  have stored : v ∈ entry.signals := (List.mem_filter.mp member).1
  have positive := (recorded_since_start _ read).latched.timeout_pos
  have start : Outstanding s.key entry.timeout v (h ++ [first]) :=
    Or.inr ⟨entry, read, latch, rfl, v, stored, rfl, le_rfl⟩
  rcases outstanding_run fifo.of_append positive start with ⟨c, past, aged⟩ | ⟨current, read', holds⟩
  · have stamp : c.1 ≤ triggeredAt := by
      have stamped := (List.pairwise_append.mp fifo.stamped).2.2 c past second (by simp)
      rw [submits] at stamped
      exact stamped
    rw [built'.stamped, Instant.durationSince]
    lia
  · -- the entry that fires is not triggered, so it answers for no vote of the earlier trigger
    rw [ConsensusEngine.entryFor, key', read', Option.getD_some, holds.1] at armed
    cases armed

theorem fires_once_per_window_for_two :
    ∃ entry, (engineSinceStart [(5, .submit (voteOf 1 4) 6), (10, .submit (voteOf 2 9) 11)]).signals.get
        ⟨"g", 9⟩ = some entry ∧
      ∀ v ∈ counted entry.signals, entry.timeout ≤ Instant.durationSince 2000000031 v.detectedAt := by
  have fifo : Fifo ([(5, .submit (voteOf 1 4) 6)] ++ [(10, .submit (voteOf 2 9) 11)] ++
      [(2000000000, .cleanup), (2000000020, .submit (voteOf 1 2000000010) 2000000021)] ++
      [(2000000030, .submit (voteOf 2 2000000020) 2000000031)]) :=
    ⟨by decide, by decide, by decide⟩
  obtain ⟨entry, read, _, aged⟩ := fires_once_per_window fifo rfl rfl ⟨rfl, rfl⟩
  exact ⟨entry, read, aged⟩

end CopyTrader.Consensus
