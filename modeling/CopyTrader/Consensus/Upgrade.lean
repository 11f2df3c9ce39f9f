import CopyTrader.Consensus.Decision
import CopyTrader.Consensus.History

/-!
# Votes that are upgraded

A second signal of a wallet takes the place of its vote when its score is higher. The score does
not look at the trade origin, so a vote that counts for its origin or its amount can give way to
a signal that does not count. This is the only way in which a submission takes a live vote away.
-/

namespace CopyTrader.Consensus
open Lib
open TokenSignals (counted mem_expire)

namespace BuySignal

theorem canonicalScore_mod_two (signal : BuySignal) :
    signal.canonicalScore % 2 = if signal.isPreExecution then 0 else 1 := by
  unfold canonicalScore
  split_ifs <;> simp_all

end BuySignal

/-- Equal scores have equal landed bits, so the tie break never decides. -/
theorem shouldReplaceSignal_iff {existing incoming : BuySignal} :
    shouldReplaceSignal existing incoming = true ↔ existing.canonicalScore < incoming.canonicalScore := by
  have tied : incoming.canonicalScore = existing.canonicalScore →
      (!incoming.isPreExecution && existing.isPreExecution) = false := by
    intro same
    have bits := existing.canonicalScore_mod_two
    rw [← same, incoming.canonicalScore_mod_two] at bits
    cases pre : incoming.isPreExecution <;> cases early : existing.isPreExecution <;> simp_all
  unfold shouldReplaceSignal
  rw [ite_self]
  by_cases same : incoming.canonicalScore = existing.canonicalScore
  · simp [same, tied same]
  · simp [same]

namespace TokenSignals

/-- A vote of the entry that counts and has not expired. -/
structure LiveVote (entry : TokenSignals) (now : Instant) (v : BuySignal) : Prop where
  stored : v ∈ entry.signals
  counts : v.countsForCandidateConsensus = true
  young : now.durationSince v.detectedAt < entry.timeout

def Backs (votes : List BuySignal) (wallet : Pubkey) : Prop :=
  ∃ v ∈ counted votes, v.wallet = wallet

theorem mem_counted {votes : List BuySignal} {v : BuySignal} :
    v ∈ counted votes ↔ v ∈ votes ∧ v.countsForCandidateConsensus = true := List.mem_filter

theorem liveVote_iff {entry : TokenSignals} {now : Instant} {v : BuySignal} :
    entry.LiveVote now v ↔ v ∈ counted (entry.expire now).signals := by
  rw [mem_counted, mem_expire]
  constructor
  · intro live
    exact ⟨⟨live.stored, live.young⟩, live.counts⟩
  · rintro ⟨⟨stored, young⟩, counts⟩
    exact ⟨stored, counts, young⟩

variable {live : TokenSignals} {signal : BuySignal}

theorem eq_of_wallet {votes : List BuySignal} (nodup : (votes.map (·.wallet)).Nodup) {v w : BuySignal}
    (first : v ∈ votes) (second : w ∈ votes) (same : v.wallet = w.wallet) : v = w :=
  List.inj_on_of_nodup_map nodup first second same

/-- A submission that is turned away had no better score than the vote of its wallet. -/
theorem score_of_turned (nodup : (live.signals.map (·.wallet)).Nodup)
    (turned : live.place signal = none) {v : BuySignal} (stored : v ∈ live.signals)
    (same : v.wallet = signal.wallet) : signal.canonicalScore ≤ v.canonicalScore := by
  unfold place at turned
  split at turned
  · rename_i existing found
    obtain ⟨member, own⟩ := find_wallet found
    split at turned
    · cases turned
    · rename_i worse
      rw [eq_of_wallet nodup stored member (same.trans own.symm)]
      rw [shouldReplaceSignal_iff] at worse
      exact Nat.not_lt.mp worse
  · rename_i absent
    exact absurd same (find_wallet_none.mp absent v stored)

theorem Placed.signal_mem {votes : List BuySignal} (placed : Placed live signal votes) :
    signal ∈ votes := by
  cases placed with
  | replaced existing found same better =>
    apply self_mem_replaceFirst
    exact ⟨existing, found, by simpa using same⟩
  | added new untriggered => simp

theorem Placed.other_mem {votes : List BuySignal} (placed : Placed live signal votes) {v : BuySignal}
    (stored : v ∈ live.signals) (other : v.wallet ≠ signal.wallet) : v ∈ votes := by
  cases placed with
  | replaced existing found same better =>
    apply mem_replaceFirst_of_not stored
    simpa using other
  | added new untriggered => exact List.mem_append_left _ stored

theorem Placed.score_lt {votes : List BuySignal} (placed : Placed live signal votes)
    (nodup : (live.signals.map (·.wallet)).Nodup) {v : BuySignal} (stored : v ∈ live.signals)
    (same : v.wallet = signal.wallet) : v.canonicalScore < signal.canonicalScore := by
  cases placed with
  | replaced existing found own better =>
    rw [eq_of_wallet nodup stored found (same.trans own.symm)]
    exact shouldReplaceSignal_iff.mp better
  | added new untriggered => exact absurd same (new v stored)

theorem Placed.keeps_iff {votes : List BuySignal} (placed : Placed live signal votes)
    (nodup : (live.signals.map (·.wallet)).Nodup) :
    (∀ v ∈ counted live.signals, Backs votes v.wallet) ↔
      ∀ v ∈ counted live.signals, v.wallet = signal.wallet →
        signal.countsForCandidateConsensus = true := by
  constructor
  · intro keeps v member same
    obtain ⟨w, counts, own⟩ := keeps v member
    rw [mem_counted] at counts
    rw [← eq_of_wallet (placed.nodup nodup) counts.1 placed.signal_mem (own.trans same)]
    exact counts.2
  · intro counts v member
    by_cases same : v.wallet = signal.wallet
    · exact ⟨signal, mem_counted.mpr ⟨placed.signal_mem, counts v member same⟩, same.symm⟩
    · rw [mem_counted] at member
      exact ⟨v, mem_counted.mpr ⟨placed.other_mem member.1 same, member.2⟩, rfl⟩

theorem Submitted.keeps_iff {entry entry' : TokenSignals} {now triggeredAt : Instant}
    {trigger : Option ConsensusTrigger} (spec : Submitted entry now signal triggeredAt entry' trigger)
    (nodup : (entry.signals.map (·.wallet)).Nodup) :
    (∀ v, entry.LiveVote now v → Backs entry'.signals v.wallet) ↔
      ∀ v, entry.LiveVote now v → v.wallet = signal.wallet →
        v.canonicalScore < signal.canonicalScore → signal.countsForCandidateConsensus = true := by
  have young : ((entry.expire now).signals.map (·.wallet)).Nodup :=
    nodup.sublist ((expire_sublist entry now).map _)
  have placing : ∀ votes, Placed (entry.expire now) signal votes →
      ((∀ v ∈ counted (entry.expire now).signals, Backs votes v.wallet) ↔
        ∀ v ∈ counted (entry.expire now).signals, v.wallet = signal.wallet →
          v.canonicalScore < signal.canonicalScore → signal.countsForCandidateConsensus = true) := by
    intro votes placed
    rw [placed.keeps_iff young]
    constructor
    · intro counts v member same _
      exact counts v member same
    · intro counts v member same
      exact counts v member same (placed.score_lt young (mem_counted.mp member).1 same)
  simp only [liveVote_iff]
  cases spec with
  | skipped turned =>
    constructor
    · intro _ v member same better
      have worse := score_of_turned young turned (mem_counted.mp member).1 same
      omega
    · intro _ v member
      exact ⟨v, member, rfl⟩
  | recorded votes placed quiet => exact placing votes placed
  | fired votes placed armed trigger built => exact placing votes placed

end TokenSignals

/-- A submission leaves every wallet with a live counting vote in its entry a counting vote, if
and only if the signal counts or has no better score than the live counting vote of its wallet. -/
theorem submit_signal_keeps_votes_iff (h : List TimedCall) (now triggeredAt : Instant)
    (signal : BuySignal) :
    (∀ entry v, (engineSinceStart h).signals.get signal.key = some entry → entry.LiveVote now v →
      ∃ entry', ((engineSinceStart h).submitSignal now signal triggeredAt).1.signals.get signal.key =
        some entry' ∧ TokenSignals.Backs entry'.signals v.wallet) ↔
    ∀ entry v, (engineSinceStart h).signals.get signal.key = some entry → entry.LiveVote now v →
      v.wallet = signal.wallet → v.canonicalScore < signal.canonicalScore →
        signal.countsForCandidateConsensus = true := by
  have after : ∀ entry, (engineSinceStart h).signals.get signal.key = some entry →
      ((engineSinceStart h).submitSignal now signal triggeredAt).1.signals.get signal.key =
        some (entry.submit now signal triggeredAt).1 := by
    intro entry read
    rw [ConsensusEngine.submitSignal_get, if_pos rfl, ConsensusEngine.entryFor, read]
    rfl
  have exactly : ∀ entry, (engineSinceStart h).signals.get signal.key = some entry → _ :=
    fun entry read => (TokenSignals.submit_cases entry now signal triggeredAt).keeps_iff
      (recorded_since_start h read).nodup
  constructor
  · intro keeps entry v read
    apply (exactly entry read).mp
    intro w live
    obtain ⟨entry', read', backs⟩ := keeps entry w read live
    rw [after entry read, Option.some.injEq] at read'
    rw [read']
    exact backs
  · intro counts entry v read live
    refine ⟨_, after entry read, ?_⟩
    exact (exactly entry read).mpr (fun w => counts entry w read) v live

/-- A wallet's vote counts for its amount; the landed report of another transaction, with accounts
but neither amount nor instruction, has the higher score and takes the vote's place. -/
theorem submit_signal_withdraws_vote :
    let before : List TimedCall := [(0, .submit (voteOf 1 0) 0)]
    let signal : BuySignal :=
      { voteOf 1 1 with signature := "t", solAmountLamports := 0, instructionAccounts := [7] }
    ∃ entry entry', (engineSinceStart before).signals.get ⟨"g", 9⟩ = some entry ∧
      entry.LiveVote 1 (voteOf 1 0) ∧
      ((engineSinceStart before).submitSignal 1 signal 1).1.signals.get ⟨"g", 9⟩ = some entry' ∧
      ¬ TokenSignals.Backs entry'.signals 1 := by
  refine ⟨_, _, rfl, ⟨by decide, by decide, by decide⟩, rfl, ?_⟩
  rintro ⟨v, member, _⟩
  have gone : v ∉ ([] : List BuySignal) := List.not_mem_nil
  exact gone member

end CopyTrader.Consensus
