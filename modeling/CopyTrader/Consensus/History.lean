import CopyTrader.Consensus.Votes

/-!
# Votes and their history

From the engine at start-up, every stored vote was cast under its own key and stands: no
later call withdrew it. Every entry keeps the settings of the submission that made it.
-/

namespace CopyTrader.Consensus
open Lib
open TokenSignals (counted)

abbrev engineSinceStart (h : List TimedCall) : ConsensusEngine := engineAfter .new h

/-- The call takes the vote back: a revocation that removed something, or its rejection. -/
def Withdraws (engine : ConsensusEngine) (c : TimedCall) (v : BuySignal) : Prop :=
  match c.2 with
  | .revoke groupId mint wallet =>
    v.key = ⟨groupId, mint⟩ ∧ v.wallet = wallet ∧ (engine.call c).2 = .removed true
  | .reject groupId mint wallet signature =>
    v.key = ⟨groupId, mint⟩ ∧ v.wallet = wallet ∧ v.signature = signature
  | _ => False

/-- The vote was cast at some point of the history and no call since has withdrawn it. -/
inductive Standing (v : BuySignal) : List TimedCall → Prop where
  | cast (h : List TimedCall) (now triggeredAt : Instant) :
      Standing v (h ++ [(now, .submit v triggeredAt)])
  | kept (h : List TimedCall) (c : TimedCall) (standing : Standing v h)
      (still : ¬ Withdraws (engineSinceStart h) c v) : Standing v (h ++ [c])

/-- The settings that the last creation of the key's entry latched; the entry has been there
ever since. -/
inductive Latched (k : ConsensusKey) : List TimedCall → ℕ → Duration → Prop where
  | created (h : List TimedCall) (now triggeredAt : Instant) (s : BuySignal) (same : s.key = k)
      (absent : (engineSinceStart h).signals.get k = none) :
      Latched k (h ++ [(now, .submit s triggeredAt)]) s.consensusMinWallets
        (Duration.fromSecs (max s.consensusTimeoutSecs 1))
  | kept (h : List TimedCall) (c : TimedCall) (minWallets : ℕ) (timeout : Duration)
      (latched : Latched k h minWallets timeout)
      (present : (engineSinceStart h).signals.get k ≠ none) : Latched k (h ++ [c]) minWallets timeout

/-! ### What one call leaves of an entry -/

/-- `entry'` continues `base` over the call: same settings, one vote a wallet, and every vote is
the one just submitted or an earlier one that the call did not withdraw. -/
structure Continues (engine : ConsensusEngine) (c : TimedCall) (k : ConsensusKey)
    (base entry' : TokenSignals) : Prop where
  minWallets : entry'.minWallets = base.minWallets
  timeout : entry'.timeout = base.timeout
  nodup : (base.signals.map (·.wallet)).Nodup → (entry'.signals.map (·.wallet)).Nodup
  votes : ∀ v ∈ entry'.signals, (∃ now triggeredAt, c = (now, .submit v triggeredAt)) ∧ v.key = k ∨
    v ∈ base.signals ∧ (v.key = k → ¬ Withdraws engine c v)

inductive Origin (engine : ConsensusEngine) (c : TimedCall) (k : ConsensusKey) : TokenSignals → Prop where
  | stored (base entry' : TokenSignals) (read : engine.signals.get k = some base)
      (continues : Continues engine c k base entry') : Origin engine c k entry'
  | made (s : BuySignal) (now triggeredAt : Instant) (submits : c = (now, .submit s triggeredAt))
      (same : s.key = k) (absent : engine.signals.get k = none) (entry' : TokenSignals)
      (continues : Continues engine c k (TokenSignals.fresh s) entry') : Origin engine c k entry'

variable {engine : ConsensusEngine} {k : ConsensusKey}

theorem continues_refl {c : TimedCall} {entry : TokenSignals}
    (still : ∀ v ∈ entry.signals, v.key = k → ¬ Withdraws engine c v) :
    Continues engine c k entry entry :=
  ⟨rfl, rfl, id, fun v member => Or.inr ⟨member, still v member⟩⟩

theorem continues_filter {c : TimedCall} {entry entry' : TokenSignals} {p : BuySignal → Bool}
    (minWallets : entry'.minWallets = entry.minWallets) (timeout : entry'.timeout = entry.timeout)
    (votes : entry'.signals = entry.signals.filter p)
    (still : ∀ v ∈ entry.signals, p v = true → v.key = k → ¬ Withdraws engine c v) :
    Continues engine c k entry entry' := by
  refine ⟨minWallets, timeout, ?_, ?_⟩
  · intro nodup
    rw [votes]
    exact nodup.sublist (List.filter_sublist.map _)
  · intro v member
    rw [votes, List.mem_filter] at member
    exact Or.inr ⟨member.1, still v member.1 member.2⟩

theorem continues_submit {base : TokenSignals} {now triggeredAt : Instant} {s : BuySignal}
    (same : s.key = k) :
    Continues engine (now, .submit s triggeredAt) k base (base.submit now s triggeredAt).1 := by
  have spec := TokenSignals.submit_cases base now s triggeredAt
  refine ⟨spec.settings.1, spec.settings.2, spec.nodup, ?_⟩
  intro v member
  rcases spec.mem member with rfl | ⟨old, _⟩
  · exact Or.inl ⟨⟨now, triggeredAt, rfl⟩, same⟩
  · exact Or.inr ⟨old, fun _ => id⟩

theorem revoke_removed {groupId : String} {mint wallet : Pubkey} {now : Instant}
    (removed : (engine.call (now, .revoke groupId mint wallet)).2 = .removed true) :
    ∃ entry, engine.signals.get ⟨groupId, mint⟩ = some entry ∧ entry.triggered = false := by
  unfold ConsensusEngine.call ConsensusEngine.revokeSignal at removed
  cases read : engine.signals.get ⟨groupId, mint⟩ with
  | none => simp [read] at removed
  | some entry =>
    refine ⟨entry, rfl, ?_⟩
    simp only [read, Reply.removed.injEq, TokenSignals.revoke] at removed
    cases latch : entry.triggered with
    | false => rfl
    | true => simp [latch] at removed

theorem continues_revoke {entry : TokenSignals} {now : Instant} {groupId : String} {mint wallet : Pubkey}
    (here : k = ⟨groupId, mint⟩) (read : engine.signals.get k = some entry) :
    Continues engine (now, .revoke groupId mint wallet) k entry (entry.revoke wallet).1 := by
  unfold TokenSignals.revoke
  cases latch : entry.triggered with
  | true =>
    refine continues_refl fun v _ _ withdrawn => ?_
    obtain ⟨found, read', untriggered⟩ := revoke_removed withdrawn.2.2
    rw [← here, read, Option.some.injEq] at read'
    rw [← read', latch] at untriggered
    cases untriggered
  | false =>
    refine continues_filter (p := (·.wallet != wallet)) rfl rfl rfl fun v _ kept _ withdrawn => ?_
    have same : v.wallet = wallet := withdrawn.2.1
    simp [same] at kept

theorem continues_reject {entry : TokenSignals} {now : Instant} {groupId : String} {mint wallet : Pubkey}
    {signature : Signature} :
    Continues engine (now, .reject groupId mint wallet signature) k entry
      (entry.reject wallet signature).1 := by
  refine continues_filter (p := fun c => !(c.wallet == wallet && c.signature == signature))
    rfl rfl rfl fun v _ kept _ withdrawn => ?_
  have same : v.wallet = wallet ∧ v.signature = signature := withdrawn.2
  simp [same.1, same.2] at kept

theorem continues_cleanup {entry entry' : TokenSignals} {now : Instant}
    (kept : entry.cleanup now = some entry') :
    Continues engine (now, .cleanup) k entry entry' := by
  obtain rfl := TokenSignals.cleanup_some kept
  exact continues_filter rfl rfl rfl fun _ _ _ _ => id

theorem call_origin {c : TimedCall} {entry' : TokenSignals}
    (after : (engine.call c).1.signals.get k = some entry') : Origin engine c k entry' := by
  obtain ⟨now, call⟩ := c
  cases call with
  | submit s triggeredAt =>
    change (engine.submitSignal now s triggeredAt).1.signals.get k = _ at after
    rw [ConsensusEngine.submitSignal_get] at after
    by_cases here : k = s.key
    · rw [if_pos here, Option.some.injEq] at after
      subst after
      unfold ConsensusEngine.entryFor
      rw [← here]
      cases read : engine.signals.get k with
      | some base => exact .stored base _ read (continues_submit here.symm)
      | none => exact .made s now triggeredAt rfl here.symm read _ (continues_submit here.symm)
    · rw [if_neg here] at after
      exact .stored entry' entry' after (continues_refl fun _ _ _ => id)
  | revoke groupId mint wallet =>
    change (engine.revokeSignal groupId mint wallet).1.signals.get k = _ at after
    rw [ConsensusEngine.revokeSignal_get] at after
    by_cases here : k = ⟨groupId, mint⟩
    · rw [if_pos here] at after
      obtain ⟨base, read, rfl⟩ := Option.map_eq_some_iff.mp after
      exact .stored base _ read (continues_revoke here read)
    · rw [if_neg here] at after
      exact .stored entry' entry' after
        (continues_refl fun v _ same withdrawn => here (same ▸ withdrawn.1))
  | reject groupId mint wallet signature =>
    change (engine.rejectSignal groupId mint wallet signature).1.signals.get k = _ at after
    rw [ConsensusEngine.rejectSignal_get] at after
    by_cases here : k = ⟨groupId, mint⟩
    · rw [if_pos here] at after
      obtain ⟨base, read, rfl⟩ := Option.map_eq_some_iff.mp after
      exact .stored base _ read continues_reject
    · rw [if_neg here] at after
      exact .stored entry' entry' after
        (continues_refl fun v _ same withdrawn => here (same ▸ withdrawn.1))
  | cleanup =>
    change (engine.cleanupPass now).signals.get k = _ at after
    rw [ConsensusEngine.cleanupPass_get, Option.bind_eq_some_iff] at after
    obtain ⟨base, read, kept⟩ := after
    exact .stored base entry' read (continues_cleanup kept)

/-! ### Every run -/

structure Recorded (h : List TimedCall) (k : ConsensusKey) (entry : TokenSignals) : Prop where
  nodup : (entry.signals.map (·.wallet)).Nodup
  keys : ∀ v ∈ entry.signals, v.key = k
  standing : ∀ v ∈ entry.signals, Standing v h
  latched : Latched k h entry.minWallets entry.timeout

theorem recorded_call {h : List TimedCall} {c : TimedCall}
    (recorded : ∀ entry, (engineSinceStart h).signals.get k = some entry → Recorded h k entry)
    {entry' : TokenSignals} (after : ((engineSinceStart h).call c).1.signals.get k = some entry') :
    Recorded (h ++ [c]) k entry' := by
  cases call_origin after with
  | stored base _ read continues =>
    have before := recorded base read
    refine ⟨continues.nodup before.nodup, fun v member => ?_, fun v member => ?_, ?_⟩
    · rcases continues.votes v member with ⟨_, same⟩ | ⟨old, _⟩
      · exact same
      · exact before.keys v old
    · rcases continues.votes v member with ⟨⟨now, triggeredAt, rfl⟩, _⟩ | ⟨old, still⟩
      · exact .cast h now triggeredAt
      · exact .kept h c (before.standing v old) (still (before.keys v old))
    · rw [continues.minWallets, continues.timeout]
      exact .kept h c _ _ before.latched (by simp [read])
  | made s now triggeredAt submits same absent _ continues =>
    subst submits
    have cast : ∀ v ∈ entry'.signals, v.key = k ∧ Standing v (h ++ [(now, .submit s triggeredAt)]) := by
      intro v member
      rcases continues.votes v member with ⟨⟨now', at', call⟩, same⟩ | ⟨old, _⟩
      · rw [call]
        exact ⟨same, .cast h now' at'⟩
      · simp [TokenSignals.fresh] at old
    refine ⟨continues.nodup (by simp [TokenSignals.fresh]), fun v member => (cast v member).1,
      fun v member => (cast v member).2, ?_⟩
    rw [continues.minWallets, continues.timeout]
    exact .created h now triggeredAt s same absent

theorem recorded_since_start (h : List TimedCall) {entry : TokenSignals}
    (read : (engineSinceStart h).signals.get k = some entry) : Recorded h k entry := by
  refine Machine.history_invariant ConsensusEngine.call
    (P := fun h e => ∀ entry, e.signals.get k = some entry → Recorded h k entry) ?_ ?_ h entry read
  · intro entry read
    cases read
  · intro h c recorded entry' after
    exact recorded_call recorded after

/-- The votes in `entry` that a trigger rests on. -/
structure Backed (h : List TimedCall) (now : Instant) (signal : BuySignal) (trigger : ConsensusTrigger)
    (entry : TokenSignals) : Prop where
  key : trigger.groupId = signal.groupId ∧ trigger.tokenMint = signal.tokenMint
  wallets : trigger.wallets = (counted entry.signals).map (·.wallet)
  distinct : trigger.wallets.Nodup
  enough : entry.minWallets ≤ trigger.wallets.length
  latched : Latched signal.key h entry.minWallets entry.timeout
  keys : ∀ v ∈ counted entry.signals, v.key = signal.key
  standing : ∀ v ∈ counted entry.signals, Standing v h
  young : ∀ v ∈ counted entry.signals, v = signal ∨ now.durationSince v.detectedAt < entry.timeout
  canonical : ∃ v ∈ counted entry.signals, trigger.canonicalSignature = v.signature ∧
    trigger.canonicalWallet = v.wallet ∧ trigger.canonicalTokenProgram = v.tokenProgram ∧
    trigger.canonicalInstructionData = v.instructionData ∧
    trigger.canonicalInstructionAccounts = v.instructionAccounts ∧
    trigger.canonicalTradeOrigin = v.tradeOrigin

theorem trigger_fired {c : TimedCall} {trigger : ConsensusTrigger}
    (emitted : (engine.call c).2.trigger = some trigger) :
    ∃ now signal triggeredAt entry, c = (now, .submit signal triggeredAt) ∧
      (engine.call c).1.signals.get signal.key = some entry ∧ entry.triggered = true ∧
      (engine.entryFor signal).triggered = false ∧
      TokenSignals.Submitted (engine.entryFor signal) now signal triggeredAt entry (some trigger) ∧
      TokenSignals.Fired entry.signals entry.minWallets triggeredAt signal trigger := by
  obtain ⟨now, call⟩ := c
  cases call with
  | submit signal triggeredAt =>
    change (engine.submitSignal now signal triggeredAt).2 = _ at emitted
    rw [ConsensusEngine.submitSignal_trigger] at emitted
    have spec := TokenSignals.submit_cases (engine.entryFor signal) now signal triggeredAt
    have read : (engine.call (now, .submit signal triggeredAt)).1.signals.get signal.key =
        some ((engine.entryFor signal).submit now signal triggeredAt).1 :=
      (engine.submitSignal_get now signal triggeredAt signal.key).trans (if_pos rfl)
    rw [emitted] at spec
    refine ⟨now, signal, triggeredAt, _, rfl, read, ?_⟩
    generalize ((engine.entryFor signal).submit now signal triggeredAt).1 = entry at spec
    cases spec with
    | fired votes placed armed _ built =>
      exact ⟨rfl, armed, .fired votes placed armed trigger built, built⟩
  | revoke groupId mint wallet => cases emitted
  | reject groupId mint wallet signature => cases emitted
  | cleanup => cases emitted

/-- Every trigger of every run is backed by the votes stored with it. -/
theorem trigger_backed {h : List TimedCall} {c : TimedCall} {trigger : ConsensusTrigger}
    (emitted : ((engineSinceStart h).call c).2.trigger = some trigger) :
    ∃ now signal triggeredAt entry, c = (now, .submit signal triggeredAt) ∧
      (engineSinceStart (h ++ [c])).signals.get signal.key = some entry ∧
      Backed (h ++ [c]) now signal trigger entry := by
  obtain ⟨now, signal, triggeredAt, entry, call, read, _, _, spec, built⟩ := trigger_fired emitted
  rw [← Machine.after_snoc] at read
  have recorded := recorded_since_start (h ++ [c]) read
  have stored : ∀ v ∈ counted entry.signals, v ∈ entry.signals := fun v member =>
    (List.mem_filter.mp member).1
  refine ⟨now, signal, triggeredAt, entry, call, read, ⟨built.groupId, built.tokenMint⟩, built.wallets, ?_,
    ?_, recorded.latched, fun v member => recorded.keys v (stored v member),
    fun v member => recorded.standing v (stored v member), fun v member => ?_, built.canonical⟩
  · rw [built.wallets]
    exact recorded.nodup.sublist (List.filter_sublist.map _)
  · rw [built.wallets, List.length_map]
    exact built.enough
  · rw [spec.settings.2]
    exact (spec.mem (stored v member)).imp_right And.right

theorem trigger_backed_for_two :
    ∃ entry, (engineSinceStart [(5, .submit (voteOf 1 4) 6), (10, .submit (voteOf 2 9) 11)]).signals.get
      ⟨"g", 9⟩ = some entry ∧ ∃ trigger : ConsensusTrigger,
        Backed [(5, .submit (voteOf 1 4) 6), (10, .submit (voteOf 2 9) 11)] 10 (voteOf 2 9) trigger entry := by
  obtain ⟨now, signal, triggeredAt, entry, call, read, backed⟩ :=
    trigger_backed (h := [(5, .submit (voteOf 1 4) 6)]) (c := (10, .submit (voteOf 2 9) 11)) rfl
  obtain ⟨rfl, rfl, rfl⟩ : 10 = now ∧ voteOf 2 9 = signal ∧ 11 = triggeredAt := by simpa using call
  exact ⟨entry, read, _, backed⟩

end CopyTrader.Consensus
