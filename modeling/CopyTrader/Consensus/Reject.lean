import CopyTrader.Consensus.History

/-!
# Rejections that find nothing

A rejection that finds no vote still recomputes the latch of its entry. The engine is left
alone exactly when the latch already agrees with the count of the stored votes.
-/

namespace CopyTrader.Consensus
open Lib
open TokenSignals (counted)

namespace TokenSignals

/-- The latch says whether the stored votes suffice. -/
def LatchAgrees (entry : TokenSignals) : Prop :=
  entry.triggered = decide (entry.minWallets ≤ (counted entry.signals).length)

def HasVote (entry : TokenSignals) (wallet : Pubkey) (signature : Signature) : Prop :=
  ∃ v ∈ entry.signals, v.wallet = wallet ∧ v.signature = signature

theorem reject_found {entry : TokenSignals} {wallet : Pubkey} {signature : Signature} :
    (entry.reject wallet signature).2 = false ↔ ¬ entry.HasVote wallet signature := by
  unfold reject HasVote
  dsimp only
  rw [bne_eq_false_iff_eq, eq_comm, List.length_filter_eq_length_iff]
  simp only [Bool.not_eq_true', Bool.and_eq_false_iff, beq_eq_false_iff_ne, not_exists, not_and]
  exact forall₂_congr fun v _ => ⟨fun h same => h.resolve_left (not_not.mpr same), fun h => by
    by_cases same : v.wallet = wallet
    · exact Or.inr (h same)
    · exact Or.inl same⟩

theorem reject_absent {entry : TokenSignals} {wallet : Pubkey} {signature : Signature}
    (absent : ¬ entry.HasVote wallet signature) :
    (entry.reject wallet signature).1 =
      { entry with triggered := decide (entry.minWallets ≤ (counted entry.signals).length) } := by
  have kept : entry.signals.filter (fun c => !(c.wallet == wallet && c.signature == signature)) =
      entry.signals := by
    refine List.filter_eq_self.mpr fun v member => ?_
    by_contra matched
    exact absent ⟨v, member, by simpa using matched⟩
  unfold reject
  simp only [kept, VoteTally.shouldTrigger, tallyVotes, counted, List.length_map]
  rfl

theorem reject_absent_eq_self {entry : TokenSignals} {wallet : Pubkey} {signature : Signature}
    (absent : ¬ entry.HasVote wallet signature) :
    (entry.reject wallet signature).1 = entry ↔ entry.LatchAgrees := by
  rw [reject_absent absent, LatchAgrees]
  refine ⟨fun same => (congrArg triggered same).symm, fun agrees => ?_⟩
  rw [← agrees]

end TokenSignals

variable {engine : ConsensusEngine} {groupId : String} {mint wallet : Pubkey} {signature : Signature}

theorem rejectSignal_found :
    (engine.rejectSignal groupId mint wallet signature).2 = false ↔
      ∀ entry, engine.signals.get ⟨groupId, mint⟩ = some entry → ¬ entry.HasVote wallet signature := by
  unfold ConsensusEngine.rejectSignal
  dsimp only
  cases read : engine.signals.get ⟨groupId, mint⟩ with
  | none => simp
  | some entry => simp [TokenSignals.reject_found]

theorem rejectSignal_eq_self
    (missed : (engine.rejectSignal groupId mint wallet signature).2 = false) :
    (engine.rejectSignal groupId mint wallet signature).1 = engine ↔
      ∀ entry, engine.signals.get ⟨groupId, mint⟩ = some entry → entry.LatchAgrees := by
  have absent := rejectSignal_found.mp missed
  unfold ConsensusEngine.rejectSignal
  dsimp only
  cases read : engine.signals.get ⟨groupId, mint⟩ with
  | none => simp
  | some entry =>
    obtain ⟨signals⟩ := engine
    simp only [ConsensusEngine.mk.injEq, DashMap.modify_eq_self_iff]
    rw [read] at absent ⊢
    exact forall₂_congr fun e stored => TokenSignals.reject_absent_eq_self (absent e stored)

/-- A rejection that answers `false` changes neither the engine nor any later trigger, if and only
if the latch of its entry, when there is one without such a vote, agrees with the stored votes. -/
theorem reject_signal_missed_inert (engine : ConsensusEngine) (groupId : String) (mint wallet : Pubkey)
    (signature : Signature) :
    ((engine.rejectSignal groupId mint wallet signature).2 = false →
      (engine.rejectSignal groupId mint wallet signature).1 = engine ∧
      ∀ later, triggers (engine.rejectSignal groupId mint wallet signature).1 later = triggers engine later) ↔
    ∀ entry, engine.signals.get ⟨groupId, mint⟩ = some entry →
      ¬ entry.HasVote wallet signature → entry.LatchAgrees := by
  constructor
  · intro inert entry read absent
    have missed : (engine.rejectSignal groupId mint wallet signature).2 = false :=
      rejectSignal_found.mpr fun e stored => by
        rw [read, Option.some.injEq] at stored
        exact stored ▸ absent
    exact (rejectSignal_eq_self missed).mp (inert missed).1 entry read
  · intro agrees missed
    have same : (engine.rejectSignal groupId mint wallet signature).1 = engine :=
      (rejectSignal_eq_self missed).mpr fun entry read =>
        agrees entry read (rejectSignal_found.mp missed entry read)
    exact ⟨same, fun later => by rw [same]⟩

/-- Two votes trigger, the third submission prunes the first vote, and the rejection of a vote
that is not there re-arms the entry: a fourth submission triggers again. -/
theorem reject_signal_missed_rearms :
    let before : List TimedCall := [(0, .submit (voteOf 1 0) 0), (600000000, .submit (voteOf 2 600000000) 600000000),
      (1100000000, .submit (voteOf 3 1100000000) 1100000000)]
    let later : List TimedCall := [(1200000000, .submit (voteOf 4 1200000000) 1200000000)]
    let engine := engineSinceStart before
    (engine.rejectSignal "g" 9 5 "s").2 = false ∧
      (triggers engine later).length = 0 ∧
      (triggers (engine.rejectSignal "g" 9 5 "s").1 later).length = 1 := by
  decide

end CopyTrader.Consensus
