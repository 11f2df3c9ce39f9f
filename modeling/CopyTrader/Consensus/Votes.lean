import CopyTrader.Consensus.Engine
import CopyTrader.Lib.Machine

/-!
# What one call does to an entry

One lemma for each operation says everything the operation can do to the votes, the latch and
the latched settings of its entry. The engine lemmas below lift them to a key of the map.
-/

namespace CopyTrader.Consensus
open Lib

namespace TokenSignals

@[simp] theorem expire_triggered (entry : TokenSignals) (now : Instant) :
    (entry.expire now).triggered = entry.triggered := rfl

@[simp] theorem expire_minWallets (entry : TokenSignals) (now : Instant) :
    (entry.expire now).minWallets = entry.minWallets := rfl

theorem mem_expire {entry : TokenSignals} {now : Instant} {s : BuySignal} :
    s ∈ (entry.expire now).signals ↔
      s ∈ entry.signals ∧ now.durationSince s.detectedAt < entry.timeout := by
  simp [expire, List.mem_filter]

theorem expire_sublist (entry : TokenSignals) (now : Instant) :
    (entry.expire now).signals.Sublist entry.signals := List.filter_sublist

theorem cleanup_some {entry entry' : TokenSignals} {now : Instant} (kept : entry.cleanup now = some entry') :
    entry' = entry.expire now := by
  unfold cleanup at kept
  dsimp only at kept
  split at kept
  · cases kept
  · split at kept
    · split at kept
      · cases kept
      · exact (Option.some.inj kept).symm
    · exact (Option.some.inj kept).symm

theorem expire_eq_self {entry : TokenSignals} {now : Instant}
    (young : ∀ s ∈ entry.signals, now.durationSince s.detectedAt < entry.timeout) :
    entry.expire now = entry := by
  have kept : (entry.expire now).signals = entry.signals :=
    List.filter_eq_self.mpr fun s member => decide_eq_true (young s member)
  calc entry.expire now = { entry with signals := (entry.expire now).signals } := rfl
    _ = entry := by rw [kept]

theorem cleanup_of_live {entry : TokenSignals} {now : Instant} {s : BuySignal}
    (live : s ∈ (entry.expire now).signals) : entry.cleanup now = some (entry.expire now) := by
  have present : (entry.expire now).signals.isEmpty = false := by
    rw [List.isEmpty_eq_false_iff]
    exact List.ne_nil_of_mem live
  have twice : now.durationSince s.detectedAt ≤ entry.timeout * 2 :=
    (mem_expire.mp live).2.le.trans (Nat.le_mul_of_pos_right _ (by decide))
  have young : ¬ ((entry.expire now).signals.all fun s =>
      (entry.expire now).timeout * 2 < now.durationSince s.detectedAt) = true := fun old =>
    Nat.not_lt.mpr twice (of_decide_eq_true (List.all_eq_true.mp old s live))
  unfold cleanup
  simp only [present, Bool.false_eq_true, if_false]
  rw [if_neg young, ite_self]

/-- The three ways a vote list answers a submission that is not turned away. -/
inductive Placed (live : TokenSignals) (signal : BuySignal) : List BuySignal → Prop where
  | replaced (existing : BuySignal) (found : existing ∈ live.signals)
      (same : existing.wallet = signal.wallet) (better : shouldReplaceSignal existing signal = true) :
      Placed live signal (replaceFirst (·.wallet == signal.wallet) signal live.signals)
  | added (new : ∀ s ∈ live.signals, s.wallet ≠ signal.wallet) (untriggered : live.triggered = false) :
      Placed live signal (live.signals ++ [signal])

theorem find_wallet {votes : List BuySignal} {wallet : Pubkey} {existing : BuySignal}
    (h : votes.find? (·.wallet == wallet) = some existing) :
    existing ∈ votes ∧ existing.wallet = wallet :=
  ⟨List.mem_of_find?_eq_some h, by simpa using List.find?_some h⟩

theorem find_wallet_none {votes : List BuySignal} {wallet : Pubkey} :
    votes.find? (·.wallet == wallet) = none ↔ ∀ s ∈ votes, s.wallet ≠ wallet := by
  simp

theorem place_some {live placed : TokenSignals} {signal : BuySignal}
    (h : live.place signal = some placed) :
    Placed live signal placed.signals ∧ placed = { live with signals := placed.signals } := by
  unfold place at h
  split at h
  · rename_i existing found
    split at h
    · rename_i better
      obtain rfl := Option.some.inj h
      obtain ⟨member, same⟩ := find_wallet found
      exact ⟨.replaced existing member same better, rfl⟩
    · cases h
  · rename_i absent
    split at h
    · cases h
    · rename_i notTriggered
      obtain rfl := Option.some.inj h
      exact ⟨.added (find_wallet_none.mp absent) (by simpa using notTriggered), rfl⟩

theorem Placed.wallets {live : TokenSignals} {signal : BuySignal} {votes : List BuySignal}
    (h : Placed live signal votes) :
    votes.map (·.wallet) = live.signals.map (·.wallet) ∨
      votes.map (·.wallet) = live.signals.map (·.wallet) ++ [signal.wallet] ∧
        signal.wallet ∉ live.signals.map (·.wallet) := by
  cases h with
  | replaced existing found same better =>
    exact Or.inl (map_replaceFirst _ fun y _ matched => by simpa using matched)
  | added new untriggered =>
    refine Or.inr ⟨by simp, fun member => ?_⟩
    obtain ⟨s, present, same⟩ := List.mem_map.mp member
    exact new s present same

theorem Placed.nodup {live : TokenSignals} {signal : BuySignal} {votes : List BuySignal}
    (h : Placed live signal votes) (nodup : (live.signals.map (·.wallet)).Nodup) :
    (votes.map (·.wallet)).Nodup := by
  rcases h.wallets with same | ⟨grown, new⟩
  · rw [same]
    exact nodup
  · rw [grown, List.nodup_append]
    refine ⟨nodup, by simp, ?_⟩
    rintro a old b fresh rfl
    rw [List.mem_singleton] at fresh
    exact new (fresh ▸ old)

theorem Placed.mem {live : TokenSignals} {signal s : BuySignal} {votes : List BuySignal}
    (h : Placed live signal votes) (member : s ∈ votes) : s = signal ∨ s ∈ live.signals := by
  cases h with
  | replaced existing found same better => exact mem_replaceFirst member
  | added new untriggered =>
    rcases List.mem_append.mp member with old | fresh
    · exact Or.inr old
    · exact Or.inl (by simpa using fresh)

def counted (votes : List BuySignal) : List BuySignal := votes.filter (·.countsForCandidateConsensus)

/-- A trigger built from these votes: the wallets in their order, and one counted vote, of the
greatest score, that gives all canonical fields. -/
structure Fired (votes : List BuySignal) (minWallets : ℕ) (triggeredAt : Instant) (signal : BuySignal)
    (trigger : ConsensusTrigger) : Prop where
  enough : minWallets ≤ (counted votes).length
  groupId : trigger.groupId = signal.groupId
  tokenMint : trigger.tokenMint = signal.tokenMint
  wallets : trigger.wallets = (counted votes).map (·.wallet)
  stamped : trigger.triggeredAt = triggeredAt
  canonical : ∃ c ∈ counted votes, trigger.canonicalSignature = c.signature ∧
    trigger.canonicalWallet = c.wallet ∧ trigger.canonicalTokenProgram = c.tokenProgram ∧
    trigger.canonicalInstructionData = c.instructionData ∧
    trigger.canonicalInstructionAccounts = c.instructionAccounts ∧
    trigger.canonicalTradeOrigin = c.tradeOrigin

theorem fire_none {entry : TokenSignals} {now : Instant} {signal : BuySignal}
    (h : (entry.fire now signal).2 = none) :
    (entry.fire now signal).1 = entry ∧
      ((counted entry.signals).length < entry.minWallets ∨ counted entry.signals = []) := by
  unfold fire at h ⊢
  dsimp only at h ⊢
  split at h
  · rename_i enough
    cases chosen : maxByKey BuySignal.canonicalScore
        (tallyVotes entry.signals entry.minWallets).effectiveSignals with
    | none => exact ⟨by simp [enough], Or.inr (maxByKey_none.mp chosen)⟩
    | some canonical => simp [chosen] at h
  · rename_i few
    rw [if_neg few]
    refine ⟨rfl, Or.inl ?_⟩
    simpa [VoteTally.shouldTrigger, tallyVotes, counted] using few

theorem fire_some {entry : TokenSignals} {now : Instant} {signal : BuySignal} {trigger : ConsensusTrigger}
    (h : (entry.fire now signal).2 = some trigger) :
    (entry.fire now signal).1 = { entry with triggered := true } ∧
      Fired entry.signals entry.minWallets now signal trigger := by
  unfold fire at h ⊢
  dsimp only at h ⊢
  split at h
  · rename_i enough
    rw [if_pos enough]
    cases chosen : maxByKey BuySignal.canonicalScore
        (tallyVotes entry.signals entry.minWallets).effectiveSignals with
    | none => simp [chosen] at h
    | some canonical =>
      simp only [chosen] at h
      obtain rfl := Option.some.inj h
      refine ⟨rfl, ?_, rfl, rfl, rfl, rfl, canonical, maxByKey_mem chosen, rfl, rfl, rfl, rfl, rfl, rfl⟩
      simpa [VoteTally.shouldTrigger, tallyVotes, counted] using enough
  · cases h

/-- Everything a submission does to an entry that was stored before it or just made for it. -/
inductive Submitted (entry : TokenSignals) (now : Instant) (signal : BuySignal)
    (triggeredAt : Instant) : TokenSignals → Option ConsensusTrigger → Prop where
  | skipped (turned : (entry.expire now).place signal = none) :
      Submitted entry now signal triggeredAt (entry.expire now) none
  | recorded (votes : List BuySignal) (placed : Placed (entry.expire now) signal votes)
      (quiet : entry.triggered = true ∨ (counted votes).length < entry.minWallets ∨ counted votes = []) :
      Submitted entry now signal triggeredAt { entry with signals := votes } none
  | fired (votes : List BuySignal) (placed : Placed (entry.expire now) signal votes)
      (armed : entry.triggered = false) (trigger : ConsensusTrigger)
      (built : Fired votes entry.minWallets triggeredAt signal trigger) :
      Submitted entry now signal triggeredAt { entry with signals := votes, triggered := true } (some trigger)

theorem submit_cases (entry : TokenSignals) (now : Instant) (signal : BuySignal)
    (triggeredAt : Instant) :
    Submitted entry now signal triggeredAt (entry.submit now signal triggeredAt).1 (entry.submit now signal triggeredAt).2 := by
  unfold submit
  dsimp only
  cases turned : (entry.expire now).place signal with
  | none => exact .skipped turned
  | some placed =>
    obtain ⟨votes, same⟩ := place_some turned
    dsimp only
    split
    · rename_i latched
      rw [same]
      exact .recorded placed.signals votes (Or.inl latched)
    · rename_i armed
      cases result : (placed.fire triggeredAt signal).2 with
      | none =>
        obtain ⟨unchanged, few⟩ := fire_none result
        rw [unchanged, same]
        rw [same] at few
        exact .recorded placed.signals votes (Or.inr few)
      | some trigger =>
        obtain ⟨latched, built⟩ := fire_some result
        rw [latched, same]
        rw [same] at built
        exact .fired placed.signals votes (by simpa using armed) trigger built

theorem Submitted.settings {entry entry' : TokenSignals} {now triggeredAt : Instant} {signal : BuySignal}
    {trigger : Option ConsensusTrigger} (h : Submitted entry now signal triggeredAt entry' trigger) :
    entry'.minWallets = entry.minWallets ∧ entry'.timeout = entry.timeout := by
  cases h <;> exact ⟨rfl, rfl⟩

theorem Submitted.mem {entry entry' : TokenSignals} {now triggeredAt : Instant} {signal s : BuySignal}
    {trigger : Option ConsensusTrigger} (h : Submitted entry now signal triggeredAt entry' trigger)
    (member : s ∈ entry'.signals) :
    s = signal ∨ s ∈ entry.signals ∧ now.durationSince s.detectedAt < entry.timeout := by
  cases h with
  | skipped turned => exact Or.inr (mem_expire.mp member)
  | recorded votes placed quiet => exact (placed.mem member).imp_right mem_expire.mp
  | fired votes placed armed trigger built => exact (placed.mem member).imp_right mem_expire.mp

theorem Submitted.nodup {entry entry' : TokenSignals} {now triggeredAt : Instant} {signal : BuySignal}
    {trigger : Option ConsensusTrigger} (h : Submitted entry now signal triggeredAt entry' trigger)
    (nodup : (entry.signals.map (·.wallet)).Nodup) : (entry'.signals.map (·.wallet)).Nodup := by
  have live : ((entry.expire now).signals.map (·.wallet)).Nodup :=
    nodup.sublist ((expire_sublist entry now).map _)
  cases h with
  | skipped turned => exact live
  | recorded votes placed quiet => exact placed.nodup live
  | fired votes placed armed trigger built => exact placed.nodup live

end TokenSignals

/-! ### The entry of one key after a call -/

namespace ConsensusEngine

variable (engine : ConsensusEngine)

def entryFor (signal : BuySignal) : TokenSignals :=
  (engine.signals.get signal.key).getD (TokenSignals.fresh signal)

theorem submitSignal_get (now : Instant) (signal : BuySignal) (triggeredAt : Instant)
    (k : ConsensusKey) :
    (engine.submitSignal now signal triggeredAt).1.signals.get k =
      if k = signal.key then some ((engine.entryFor signal).submit now signal triggeredAt).1
      else engine.signals.get k := DashMap.get_insert ..

theorem submitSignal_trigger (now : Instant) (signal : BuySignal) (triggeredAt : Instant) :
    (engine.submitSignal now signal triggeredAt).2 =
      ((engine.entryFor signal).submit now signal triggeredAt).2 := rfl

theorem revokeSignal_get (groupId : String) (mint wallet : Pubkey) (k : ConsensusKey) :
    (engine.revokeSignal groupId mint wallet).1.signals.get k =
      if k = ⟨groupId, mint⟩ then (engine.signals.get k).map fun e => (e.revoke wallet).1
      else engine.signals.get k := by
  unfold revokeSignal
  dsimp only
  split
  · exact DashMap.get_modify ..
  · rename_i absent
    by_cases same : k = ⟨groupId, mint⟩
    · simp [same, absent]
    · simp [same]

theorem rejectSignal_get (groupId : String) (mint wallet : Pubkey) (signature : Signature)
    (k : ConsensusKey) :
    (engine.rejectSignal groupId mint wallet signature).1.signals.get k =
      if k = ⟨groupId, mint⟩ then (engine.signals.get k).map fun e => (e.reject wallet signature).1
      else engine.signals.get k := by
  unfold rejectSignal
  dsimp only
  split
  · exact DashMap.get_modify ..
  · rename_i absent
    by_cases same : k = ⟨groupId, mint⟩
    · simp [same, absent]
    · simp [same]

theorem cleanupPass_get (now : Instant) (k : ConsensusKey) :
    (engine.cleanupPass now).signals.get k = (engine.signals.get k).bind (·.cleanup now) :=
  DashMap.get_retainMut ..

end ConsensusEngine

/-! ### Histories -/

def submitted (h : List TimedCall) : List BuySignal :=
  h.filterMap fun c => match c.2 with
    | .submit s _ => some s
    | _ => none

theorem submitted_snoc_submit (h : List TimedCall) (now : Instant) (s : BuySignal)
    (triggeredAt : Instant) :
    submitted (h ++ [(now, .submit s triggeredAt)]) = submitted h ++ [s] := by
  simp [submitted, List.filterMap_append]

theorem submitted_snoc_cleanup (h : List TimedCall) (now : Instant) :
    submitted (h ++ [(now, .cleanup)]) = submitted h := by
  simp [submitted, List.filterMap_append]

abbrev engineAfter (engine : ConsensusEngine) (h : List TimedCall) : ConsensusEngine :=
  Machine.after ConsensusEngine.call engine h

def triggers (engine : ConsensusEngine) (h : List TimedCall) : List ConsensusTrigger :=
  (Machine.outputs ConsensusEngine.call engine h).filterMap Reply.trigger

theorem triggers_cons (engine : ConsensusEngine) (c : TimedCall) (later : List TimedCall) :
    triggers engine (c :: later) =
      (engine.call c).2.trigger.toList ++ triggers (engine.call c).1 later := by
  simp only [triggers, Machine.outputs, List.filterMap_cons]
  cases (engine.call c).2.trigger <;> rfl

theorem triggers_snoc (engine : ConsensusEngine) (h : List TimedCall) (c : TimedCall) :
    triggers engine (h ++ [c]) =
      triggers engine h ++ ((engineAfter engine h).call c).2.trigger.toList := by
  rw [triggers, Machine.outputs_snoc, List.filterMap_append, ← triggers]
  cases reply : ((engineAfter engine h).call c).2.trigger <;> simp [reply]

/-- A counting vote of a group that asks for two wallets within a second. -/
def voteOf (wallet : Pubkey) (detectedAt : Instant) : BuySignal where
  groupId := "g"
  groupName := "g"
  tokenMint := 9
  wallet := wallet
  tokenProgram := 0
  detectedAt := detectedAt
  signature := "s"
  consensusMinWallets := 2
  consensusTimeoutSecs := 1
  instructionData := []
  instructionAccounts := []
  solAmountLamports := 1
  isPreExecution := false
  tradeOrigin := .direct

end CopyTrader.Consensus
