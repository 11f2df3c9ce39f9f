import CopyTrader.Consensus.Reject
import CopyTrader.Consensus.Upgrade
import Mathlib.Data.List.Perm.Subperm

/-!
# What a cleanup pass can be seen to do

Until the next submission under its key, an entry that a cleanup pass has swept differs from the
one it found in expired votes only. A submission prunes these votes itself, so the difference is
seen in two ways: an emptied entry is dropped with its latch and settings, and a rejection counts
the votes that are stored.
-/

namespace CopyTrader.Consensus
open Lib
open TokenSignals (counted mem_expire)

/-- Calls of the users, not before `now` and in the order of the clock. -/
structure Later (now : Instant) (later : List TimedCall) : Prop where
  users : ∀ c ∈ later, c.2 ≠ .cleanup
  after : ∀ c ∈ later, now ≤ c.1
  ordered : later.Pairwise fun c d => c.1 ≤ d.1

namespace TokenSignals

/-- No rejection can tell whether the expired votes are still stored: the votes would not suffice
with them, or none of the votes that count has expired. -/
def Steady (entry : TokenSignals) (now : Instant) : Prop :=
  entry.minWallets = 0 ∨ (counted entry.signals).length < entry.minWallets ∨
    ∀ v ∈ counted entry.signals, now.durationSince v.detectedAt < entry.timeout

variable {entry : TokenSignals} {now later : Instant}

theorem expire_expire (order : now ≤ later) : (entry.expire now).expire later = entry.expire later := by
  have younger : ∀ v ∈ entry.signals, (decide (later.durationSince v.detectedAt < entry.timeout) &&
      decide (now.durationSince v.detectedAt < entry.timeout)) =
        decide (later.durationSince v.detectedAt < entry.timeout) := by
    intro v _
    apply Bool.and_eq_left_iff_imp.mpr
    intro young
    have older : now.durationSince v.detectedAt ≤ later.durationSince v.detectedAt :=
      Nat.sub_le_sub_right order v.detectedAt
    exact decide_eq_true (older.trans_lt (of_decide_eq_true young))
  have votes : ((entry.expire now).expire later).signals = (entry.expire later).signals := by
    simp only [expire, List.filter_filter]
    exact List.filter_congr younger
  calc (entry.expire now).expire later
      = { entry with signals := ((entry.expire now).expire later).signals } := rfl
    _ = entry.expire later := by rw [votes]; rfl

theorem submit_expire (order : now ≤ later) (signal : BuySignal) (triggeredAt : Instant) :
    (entry.expire now).submit later signal triggeredAt = entry.submit later signal triggeredAt := by
  unfold submit
  rw [expire_expire order, expire_triggered]

theorem counted_filter (votes : List BuySignal) (p : BuySignal → Bool) :
    counted (votes.filter p) = (counted votes).filter p := by
  simp only [counted, List.filter_filter, Bool.and_comm]

theorem counted_expire (entry : TokenSignals) (now : Instant) :
    counted (entry.expire now).signals = (counted entry.signals).filter
      fun v => decide (now.durationSince v.detectedAt < entry.timeout) := counted_filter ..

theorem Steady.filter (steady : entry.Steady now) (p : BuySignal → Bool) (triggered : Bool) :
    { entry with signals := entry.signals.filter p, triggered := triggered : TokenSignals }.Steady now := by
  have fewer := List.length_filter_le p (counted entry.signals)
  rcases steady with none | few | young
  · exact Or.inl none
  · refine Or.inr (Or.inl ?_)
    show (counted (entry.signals.filter p)).length < entry.minWallets
    rw [counted_filter]
    omega
  · refine Or.inr (Or.inr ?_)
    intro v member
    change v ∈ counted (entry.signals.filter p) at member
    rw [counted_filter] at member
    exact young v (List.mem_filter.mp member).1

theorem revoke_expire (wallet : Pubkey) :
    ((entry.expire now).revoke wallet).1 = (entry.revoke wallet).1.expire now := by
  unfold revoke
  rw [expire_triggered]
  cases entry.triggered with
  | true => rfl
  | false => simp [expire, List.filter_filter, Bool.and_comm]

theorem Steady.revoke (steady : entry.Steady now) (wallet : Pubkey) :
    (entry.revoke wallet).1.Steady now := by
  unfold TokenSignals.revoke
  split
  · exact steady
  · exact steady.filter _ _

theorem shouldTrigger_iff {votes : List BuySignal} {minWallets : ℕ} :
    (tallyVotes votes minWallets).shouldTrigger = decide (minWallets ≤ (counted votes).length) := by
  simp only [VoteTally.shouldTrigger, tallyVotes, counted, List.length_map]
  rfl

theorem reject_eq (entry : TokenSignals) (wallet : Pubkey) (signature : Signature) :
    (entry.reject wallet signature).1 =
      { entry with
        signals := entry.signals.filter fun c => !(c.wallet == wallet && c.signature == signature)
        triggered := decide (entry.minWallets ≤
          (counted (entry.signals.filter
            fun c => !(c.wallet == wallet && c.signature == signature))).length) } := by
  unfold reject
  simp only [shouldTrigger_iff]

theorem reject_triggered (entry : TokenSignals) (wallet : Pubkey) (signature : Signature) :
    (entry.reject wallet signature).1.triggered =
      decide (entry.minWallets ≤ (counted (entry.reject wallet signature).1.signals).length) := by
  rw [reject_eq]

/-- Rejecting after a pass counts the live votes only. -/
theorem reject_after_expire (entry : TokenSignals) (now : Instant) (wallet : Pubkey)
    (signature : Signature) :
    ((entry.expire now).reject wallet signature).1 =
      { (entry.reject wallet signature).1.expire now with
        triggered := decide (entry.minWallets ≤
          (counted ((entry.reject wallet signature).1.expire now).signals).length) } := by
  rw [reject_eq, reject_eq]
  simp only [expire, List.filter_filter, Bool.and_comm]

theorem Steady.latch (steady : entry.Steady now) :
    decide (entry.minWallets ≤ (counted (entry.expire now).signals).length) =
      decide (entry.minWallets ≤ (counted entry.signals).length) := by
  rw [counted_expire]
  rcases steady with none | few | young
  · simp [none]
  · have fewer := List.length_filter_le
      (fun v => decide (now.durationSince v.detectedAt < entry.timeout)) (counted entry.signals)
    rw [decide_eq_false (by omega), decide_eq_false (by omega)]
  · rw [List.filter_eq_self.mpr fun v member => decide_eq_true (young v member)]

theorem Steady.reject (steady : entry.Steady now) (wallet : Pubkey) (signature : Signature) :
    (entry.reject wallet signature).1.Steady now := steady.filter _ _

theorem reject_expire (steady : entry.Steady now) (wallet : Pubkey) (signature : Signature) :
    ((entry.expire now).reject wallet signature).1 = (entry.reject wallet signature).1.expire now := by
  have latch := (steady.reject wallet signature).latch
  rw [reject_after_expire]
  change decide (entry.minWallets ≤ _) = decide (entry.minWallets ≤ _) at latch
  rw [latch]
  rw [reject_eq]
  rfl

end TokenSignals

/-! ### Passes that cannot be seen -/

/-- `swept` is what `now` has made of `engine`, or less: every entry is the same or lacks only
expired votes that no rejection can tell. -/
def Swept (now : Instant) (engine swept : ConsensusEngine) : Prop :=
  ∀ k, swept.signals.get k = engine.signals.get k ∨
    ∃ entry, engine.signals.get k = some entry ∧ swept.signals.get k = some (entry.expire now) ∧
      entry.Steady now

section
variable {now : Instant} {engine swept : ConsensusEngine}

theorem swept_submit (related : Swept now engine swept) {time : Instant} (order : now ≤ time)
    (signal : BuySignal) (triggeredAt : Instant) :
    (engine.submitSignal time signal triggeredAt).2 = (swept.submitSignal time signal triggeredAt).2 ∧
      Swept now (engine.submitSignal time signal triggeredAt).1
        (swept.submitSignal time signal triggeredAt).1 := by
  have same : (engine.entryFor signal).submit time signal triggeredAt =
      (swept.entryFor signal).submit time signal triggeredAt := by
    unfold ConsensusEngine.entryFor
    rcases related signal.key with equal | ⟨entry, read, read', _⟩
    · rw [equal]
    · rw [read, read']
      exact (TokenSignals.submit_expire order signal triggeredAt).symm
  constructor
  · rw [ConsensusEngine.submitSignal_trigger, ConsensusEngine.submitSignal_trigger, same]
  · intro k
    rw [ConsensusEngine.submitSignal_get, ConsensusEngine.submitSignal_get, same]
    by_cases here : k = signal.key
    · rw [if_pos here, if_pos here]
      exact Or.inl rfl
    · rw [if_neg here, if_neg here]
      exact related k

/-- An edit of one entry that commutes with pruning keeps the relation. -/
theorem swept_edit (related : Swept now engine swept) {engine' swept' : ConsensusEngine}
    {key : ConsensusKey} {f : TokenSignals → TokenSignals}
    (edited : ∀ k, engine'.signals.get k =
      if k = key then (engine.signals.get k).map f else engine.signals.get k)
    (edited' : ∀ k, swept'.signals.get k =
      if k = key then (swept.signals.get k).map f else swept.signals.get k)
    (commutes : ∀ entry, entry.Steady now →
      f (entry.expire now) = (f entry).expire now ∧ (f entry).Steady now) :
    Swept now engine' swept' := by
  intro k
  rw [edited, edited']
  by_cases here : k = key
  · rw [if_pos here, if_pos here]
    rcases related k with equal | ⟨entry, read, read', steady⟩
    · exact Or.inl (by rw [equal])
    · obtain ⟨pruned, kept⟩ := commutes entry steady
      refine Or.inr ⟨f entry, by rw [read]; rfl, ?_, kept⟩
      rw [read', Option.map_some, pruned]
  · rw [if_neg here, if_neg here]
    exact related k

theorem swept_call (related : Swept now engine swept) {c : TimedCall} (order : now ≤ c.1)
    (user : c.2 ≠ .cleanup) :
    (engine.call c).2.trigger = (swept.call c).2.trigger ∧
      Swept now (engine.call c).1 (swept.call c).1 := by
  obtain ⟨time, call⟩ := c
  cases call with
  | submit signal triggeredAt => exact swept_submit related order signal triggeredAt
  | revoke groupId mint wallet =>
    refine ⟨rfl, swept_edit related (engine.revokeSignal_get groupId mint wallet)
      (swept.revokeSignal_get groupId mint wallet) ?_⟩
    intro entry steady
    exact ⟨TokenSignals.revoke_expire wallet, steady.revoke wallet⟩
  | reject groupId mint wallet signature =>
    refine ⟨rfl, swept_edit related (engine.rejectSignal_get groupId mint wallet signature)
      (swept.rejectSignal_get groupId mint wallet signature) ?_⟩
    intro entry steady
    exact ⟨TokenSignals.reject_expire steady wallet signature, steady.reject wallet signature⟩
  | cleanup => exact absurd rfl user

theorem triggers_of_swept (related : Swept now engine swept) {later : List TimedCall}
    (users : Later now later) : triggers swept later = triggers engine later := by
  refine (Machine.outputs_of_simulation ConsensusEngine.call ?_ related).symm
  intro e e' c member related
  exact swept_call related (users.after c member) (users.users c member)

/-- What a pass leaves when every entry has a live vote. -/
theorem swept_cleanupPass
    (kept : ∀ k entry, engine.signals.get k = some entry →
      (∃ v, v ∈ (entry.expire now).signals) ∧ entry.Steady now) :
    Swept now engine (engine.cleanupPass now) := by
  intro k
  rw [ConsensusEngine.cleanupPass_get]
  cases read : engine.signals.get k with
  | none => exact Or.inl rfl
  | some entry =>
    obtain ⟨⟨v, live⟩, steady⟩ := kept k entry read
    exact Or.inr ⟨entry, rfl, TokenSignals.cleanup_of_live live, steady⟩

end

/-! ### Passes that can be seen -/

/-- A counting vote under `k`, submitted at once. -/
def castAt (k : ConsensusKey) (now : Instant) (minWallets : ℕ) (wallet : Pubkey) : BuySignal :=
  { voteOf wallet now with
    groupId := k.groupId
    tokenMint := k.tokenMint
    consensusMinWallets := minWallets }

def castCall (k : ConsensusKey) (now : Instant) (minWallets : ℕ) (wallet : Pubkey) : TimedCall :=
  (now, .submit (castAt k now minWallets wallet) now)

theorem castAt_key (k : ConsensusKey) (now : Instant) (minWallets : ℕ) (wallet : Pubkey) :
    (castAt k now minWallets wallet).key = k := rfl

theorem castAt_counts (k : ConsensusKey) (now : Instant) (minWallets : ℕ) (wallet : Pubkey) :
    (castAt k now minWallets wallet).countsForCandidateConsensus = true := rfl

theorem later_casts (k : ConsensusKey) (now : Instant) (minWallets : ℕ) (wallets : List Pubkey) :
    Later now (wallets.map (castCall k now minWallets)) := by
  have cast : ∀ c ∈ wallets.map (castCall k now minWallets), c.1 = now ∧ c.2 ≠ .cleanup := by
    intro c member
    obtain ⟨wallet, _, rfl⟩ := List.mem_map.mp member
    exact ⟨rfl, nofun⟩
  refine ⟨fun c member => (cast c member).2, fun c member => (cast c member).1.ge, ?_⟩
  apply List.pairwise_of_forall_mem_list
  intro c first d second
  rw [(cast c first).1, (cast d second).1]

theorem Later.cons {now : Instant} {later : List TimedCall} (rest : Later now later) (call : Call)
    (user : call ≠ .cleanup) : Later now ((now, call) :: later) := by
  constructor
  case users => exact List.forall_mem_cons.mpr ⟨user, rest.users⟩
  case after => exact List.forall_mem_cons.mpr ⟨Nat.le_refl now, rest.after⟩
  case ordered => exact List.pairwise_cons.mpr ⟨rest.after, rest.ordered⟩

namespace TokenSignals

variable {entry : TokenSignals} {now triggeredAt : Instant} {signal : BuySignal}

theorem submit_emptied (dead : (entry.expire now).signals = [])
    (counts : signal.countsForCandidateConsensus = true) :
    (entry.submit now signal triggeredAt).2.isSome = (!entry.triggered && decide (entry.minWallets ≤ 1)) := by
  have spec := submit_cases entry now signal triggeredAt
  have single : ∀ votes, Placed (entry.expire now) signal votes →
      entry.triggered = false ∧ (counted votes).length = 1 := by
    intro votes placed
    cases placed with
    | replaced existing found same better => simp [dead] at found
    | added new untriggered => exact ⟨untriggered, by simp [dead, counted, counts]⟩
  generalize (entry.submit now signal triggeredAt).1 = entry' at spec
  cases result : (entry.submit now signal triggeredAt).2 with
  | none =>
    rw [result] at spec
    cases spec with
    | skipped turned =>
      rcases place_none turned with ⟨existing, member, _⟩ | latched
      · simp [dead] at member
      · rw [expire_triggered] at latched
        simp [latched]
    | recorded votes placed quiet =>
      obtain ⟨armed, one⟩ := single votes placed
      rcases quiet with latched | few | nothing
      · simp [latched]
      · have many : ¬ entry.minWallets ≤ 1 := by omega
        simp [many]
      · simp [nothing] at one
  | some trigger =>
    rw [result] at spec
    cases spec with
    | fired votes placed armed _ built =>
      obtain ⟨_, one⟩ := single votes placed
      have enough := built.enough
      rw [one] at enough
      simp [armed, enough]

end TokenSignals

section
variable {now : Instant} {engine swept : ConsensusEngine} {k : ConsensusKey} {entry : TokenSignals}

/-- An emptied entry is told from no entry at all by the next vote: the settings of the vote can be
chosen so that it fires under one of them only. -/
theorem seen_of_emptied (read : engine.signals.get k = some entry)
    (dead : (entry.expire now).signals = []) (dropped : swept.signals.get k = none) :
    ∃ later, Later now later ∧ triggers swept later ≠ triggers engine later := by
  let minWallets := if (!entry.triggered && decide (entry.minWallets ≤ 1)) = true then 2 else 1
  refine ⟨[1].map (castCall k now minWallets), later_casts k now minWallets [1], ?_⟩
  intro same
  have kept : engine.entryFor (castAt k now minWallets 1) = entry := by
    unfold ConsensusEngine.entryFor
    rw [castAt_key, read]
    rfl
  have made : swept.entryFor (castAt k now minWallets 1) =
      TokenSignals.fresh (castAt k now minWallets 1) := by
    unfold ConsensusEngine.entryFor
    rw [castAt_key, dropped]
    rfl
  have replies : ((TokenSignals.fresh (castAt k now minWallets 1)).submit now
      (castAt k now minWallets 1) now).2.isSome =
        (entry.submit now (castAt k now minWallets 1) now).2.isSome := by
    rw [List.map_singleton, triggers_cons, triggers_cons] at same
    change (swept.submitSignal _ _ _).2.toList ++ [] = (engine.submitSignal _ _ _).2.toList ++ [] at same
    rw [ConsensusEngine.submitSignal_trigger, ConsensusEngine.submitSignal_trigger, kept, made,
      List.append_nil, List.append_nil] at same
    generalize (TokenSignals.submit _ _ _ _).2 = after at same ⊢
    generalize (entry.submit _ _ _).2 = before at same ⊢
    cases after <;> cases before <;> simp at same ⊢
  rw [TokenSignals.submit_emptied dead (castAt_counts ..),
    TokenSignals.submit_emptied rfl (castAt_counts ..)] at replies
  change decide (minWallets ≤ 1) = _ at replies
  cases fires : (!entry.triggered && decide (entry.minWallets ≤ 1)) <;> simp [minWallets, fires] at replies

end

namespace TokenSignals

/-- An entry that has not fired while the wallets `done` were casting counting votes, one a
wallet. The wallets `rest` are still to come. -/
structure Waiting (now : Instant) (done rest : List Pubkey) (entry : TokenSignals) : Prop where
  armed : entry.triggered = false
  few : (counted entry.signals).length < entry.minWallets
  nodup : (entry.signals.map (·.wallet)).Nodup
  young : ∀ v ∈ entry.signals, now.durationSince v.detectedAt < entry.timeout
  lasting : 0 < entry.timeout
  voted : ∀ w ∈ done, Backs entry.signals w
  own : ∀ v ∈ entry.signals, v.wallet ∈ rest → v.countsForCandidateConsensus = true

variable {now : Instant} {done rest : List Pubkey} {entry : TokenSignals} {w : Pubkey}

/-- A vote that is not answered with a consensus is counted, or its wallet was counted before, and
the entry still lacks votes. -/
theorem Waiting.counts_cast {entry' : TokenSignals} (waiting : Waiting now done (w :: rest) entry) (k : ConsensusKey)
    (n : ℕ) (spec : Submitted entry now (castAt k now n w) now entry' none) :
    entry'.triggered = false ∧ (counted entry'.signals).length < entry'.minWallets ∧ Backs entry'.signals w := by
  have whole : entry.expire now = entry := expire_eq_self waiting.young
  cases spec with
  | skipped turned =>
    rw [whole] at turned ⊢
    rcases place_none turned with ⟨existing, member, same⟩ | latched
    · have counts := waiting.own existing member (same ▸ List.mem_cons_self)
      exact ⟨waiting.armed, waiting.few, existing, mem_counted.mpr ⟨member, counts⟩, same⟩
    · exact absurd latched (by simp [waiting.armed])
  | recorded votes placed quiet =>
    refine ⟨waiting.armed, ?_, castAt k now n w, mem_counted.mpr ⟨placed.signal_mem, rfl⟩, rfl⟩
    rcases quiet with latched | few | nothing
    · exact absurd latched (by simp [waiting.armed])
    · exact few
    · show (counted votes).length < entry.minWallets
      rw [nothing]
      exact Nat.zero_lt_of_lt waiting.few

theorem Waiting.cast (waiting : Waiting now done (w :: rest) entry) (k : ConsensusKey) (n : ℕ)
    (silent : (entry.submit now (castAt k now n w) now).2 = none) :
    Waiting now (done ++ [w]) rest (entry.submit now (castAt k now n w) now).1 := by
  have spec := submit_cases entry now (castAt k now n w) now
  have keeps := (spec.keeps_iff waiting.nodup).mpr fun _ _ _ _ => castAt_counts k now n w
  have settings := spec.settings
  have nodup := spec.nodup waiting.nodup
  have origin : ∀ v ∈ (entry.submit now (castAt k now n w) now).1.signals,
      v = castAt k now n w ∨ v ∈ entry.signals := fun v member => (spec.mem member).imp_right And.left
  rw [silent] at spec
  have ⟨armed, few, backs⟩ := waiting.counts_cast k n spec
  generalize (entry.submit now (castAt k now n w) now).1 = entry' at keeps settings nodup origin armed few backs ⊢
  constructor
  case armed => exact armed
  case few => exact few
  case nodup => exact nodup
  case lasting => exact settings.2 ▸ waiting.lasting
  case young =>
    intro v member
    rw [settings.2]
    rcases origin v member with rfl | old
    · show now - now < entry.timeout
      rw [Nat.sub_self]
      exact waiting.lasting
    · exact waiting.young v old
  case voted =>
    intro w' member
    rcases List.mem_append.mp member with old | new
    · obtain ⟨v, backs, rfl⟩ := waiting.voted w' old
      have ⟨stored, counts⟩ := mem_counted.mp backs
      exact keeps v ⟨stored, counts, waiting.young v stored⟩
    · rw [List.mem_singleton.mp new]
      exact backs
  case own =>
    intro v member later
    rcases origin v member with rfl | old
    · rfl
    · exact waiting.own v old (List.mem_cons_of_mem _ later)

theorem Waiting.not_enough (waiting : Waiting now done [] entry) (nodup : done.Nodup) :
    done.length < entry.minWallets := by
  have inside : done ⊆ (counted entry.signals).map (·.wallet) := by
    intro w member
    obtain ⟨v, counts, same⟩ := waiting.voted w member
    exact List.mem_map.mpr ⟨v, counts, same⟩
  have fewer := (List.subperm_of_subset nodup inside).length_le
  rw [List.length_map] at fewer
  exact fewer.trans_lt waiting.few

end TokenSignals

section
variable {now : Instant} {engine swept : ConsensusEngine} {k : ConsensusKey} {entry : TokenSignals}
open TokenSignals (Waiting)

theorem submit_castAt (read : engine.signals.get k = some entry) (n : ℕ) (w : Pubkey) :
    (engine.call (castCall k now n w)).2.trigger = (entry.submit now (castAt k now n w) now).2 ∧
      (engine.call (castCall k now n w)).1.signals.get k =
        some (entry.submit now (castAt k now n w) now).1 := by
  have kept : engine.entryFor (castAt k now n w) = entry := by
    unfold ConsensusEngine.entryFor
    rw [castAt_key, read]
    rfl
  constructor
  · show (engine.submitSignal now (castAt k now n w) now).2 = _
    rw [ConsensusEngine.submitSignal_trigger, kept]
  · show (engine.submitSignal now (castAt k now n w) now).1.signals.get k = _
    rw [ConsensusEngine.submitSignal_get, castAt_key, if_pos rfl, kept]

theorem casts_heard {done rest : List Pubkey} (n : ℕ) (nodup : (done ++ rest).Nodup)
    (enough : entry.minWallets ≤ (done ++ rest).length) (waiting : Waiting now done rest entry)
    (read : engine.signals.get k = some entry) :
    triggers engine (rest.map (castCall k now n)) ≠ [] := by
  induction rest generalizing done engine entry with
  | nil =>
    rw [List.append_nil] at nodup enough
    have few := waiting.not_enough nodup
    omega
  | cons w rest ih =>
    intro silent
    rw [List.map_cons, triggers_cons, (submit_castAt read n w).1, List.append_eq_nil_iff] at silent
    have quiet : (entry.submit now (castAt k now n w) now).2 = none := by
      cases reply : (entry.submit now (castAt k now n w) now).2 with
      | none => rfl
      | some trigger => simp [reply] at silent
    have settings := (TokenSignals.submit_cases entry now (castAt k now n w) now).settings
    have split : done ++ w :: rest = (done ++ [w]) ++ rest := by simp
    rw [split] at nodup enough
    rw [← settings.1] at enough
    exact ih nodup enough (waiting.cast k n quiet) (submit_castAt read n w).2 silent.2

theorem casts_silent (n : ℕ) (wallets : List Pubkey) (latched : entry.triggered = true)
    (read : engine.signals.get k = some entry) :
    triggers engine (wallets.map (castCall k now n)) = [] := by
  induction wallets generalizing engine entry with
  | nil => rfl
  | cons w rest ih =>
    have spec := TokenSignals.submit_cases entry now (castAt k now n w) now
    have quiet : (entry.submit now (castAt k now n w) now).2 = none ∧
        (entry.submit now (castAt k now n w) now).1.triggered = true := by
      generalize (entry.submit now (castAt k now n w) now).1 = entry' at spec ⊢
      generalize (entry.submit now (castAt k now n w) now).2 = trigger at spec ⊢
      cases spec with
      | skipped turned => exact ⟨rfl, latched⟩
      | recorded votes placed quiet => exact ⟨rfl, latched⟩
      | fired votes placed armed trigger built => simp [latched] at armed
    rw [List.map_cons, triggers_cons, (submit_castAt read n w).1, quiet.1,
      ih quiet.2 (submit_castAt read n w).2]
    rfl

/-- Once a rejection has set one latch and cleared the other, the wallets of the counted votes are
enough to fire where it is clear, and fire nothing where it is set. -/
theorem seen_of_latch (read : engine.signals.get k = some entry)
    (read' : swept.signals.get k = some { entry.expire now with triggered := false })
    (nodup : (entry.signals.map (·.wallet)).Nodup) (lasting : 0 < entry.timeout)
    (latched : entry.triggered = true) (enough : entry.minWallets ≤ (counted entry.signals).length)
    (few : (counted (entry.expire now).signals).length < entry.minWallets) :
    ∃ later, Later now later ∧ triggers swept later ≠ triggers engine later := by
  let wallets := (counted entry.signals).map (·.wallet)
  have distinct : wallets.Nodup := nodup.sublist (List.filter_sublist.map _)
  have waiting : Waiting now [] wallets { entry.expire now with triggered := false } := by
    constructor
    case armed => rfl
    case few => exact few
    case nodup => exact nodup.sublist ((TokenSignals.expire_sublist entry now).map _)
    case young => exact fun v member => (mem_expire.mp member).2
    case lasting => exact lasting
    case voted => exact fun w member => absurd member List.not_mem_nil
    case own =>
      intro v member listed
      obtain ⟨u, counts, same⟩ := List.mem_map.mp listed
      have stored := (mem_expire.mp member).1
      have ⟨stored', counts'⟩ := TokenSignals.mem_counted.mp counts
      rw [← TokenSignals.eq_of_wallet nodup stored' stored same]
      exact counts'
  refine ⟨wallets.map (castCall k now 1), later_casts k now 1 wallets, ?_⟩
  rw [casts_silent 1 wallets latched read]
  apply casts_heard 1 distinct ?_ waiting read'
  rw [List.nil_append, List.length_map]
  exact enough

theorem call_reject (now : Instant) (read : engine.signals.get k = some entry) (wallet : Pubkey)
    (signature : Signature) :
    ((engine.call (now, .reject k.groupId k.tokenMint wallet signature)).1).signals.get k =
      some (entry.reject wallet signature).1 := by
  show (engine.rejectSignal k.groupId k.tokenMint wallet signature).1.signals.get k = _
  rw [ConsensusEngine.rejectSignal_get, if_pos rfl, read]
  rfl

theorem reject_seen (k : ConsensusKey) (wallet : Pubkey) (signature : Signature)
    (seen : ∃ later, Later now later ∧
      triggers (swept.call (now, .reject k.groupId k.tokenMint wallet signature)).1 later ≠
        triggers (engine.call (now, .reject k.groupId k.tokenMint wallet signature)).1 later) :
    ∃ later, Later now later ∧ triggers swept later ≠ triggers engine later := by
  obtain ⟨later, users, differ⟩ := seen
  refine ⟨_, users.cons (.reject k.groupId k.tokenMint wallet signature) nofun, ?_⟩
  rw [triggers_cons, triggers_cons]
  exact differ

end

namespace TokenSignals

variable {entry : TokenSignals} {u : BuySignal}

theorem reject_counted (nodup : (entry.signals.map (·.wallet)).Nodup) (member : u ∈ counted entry.signals) :
    (counted (entry.reject u.wallet u.signature).1.signals).length + 1 =
      (counted entry.signals).length := by
  have distinct : (counted entry.signals).Nodup :=
    (List.Nodup.of_map _ nodup).sublist List.filter_sublist
  have erased : counted (entry.reject u.wallet u.signature).1.signals =
      (counted entry.signals).erase u := by
    rw [reject_eq, distinct.erase_eq_filter]
    show counted (entry.signals.filter _) = _
    rw [counted_filter]
    apply List.filter_congr
    intro c listed
    by_cases same : c = u
    · simp [same]
    · have apart : c.wallet ≠ u.wallet := fun own =>
        same (eq_of_wallet nodup (mem_counted.mp listed).1 (mem_counted.mp member).1 own)
      rw [beq_eq_false_iff_ne.mpr apart, bne_iff_ne.mpr same]
      rfl
  have positive := List.length_pos_of_mem member
  rw [erased, List.length_erase_of_mem member]
  omega

end TokenSignals

section
variable {now : Instant} {engine swept : ConsensusEngine} {k : ConsensusKey} {entry : TokenSignals}

theorem seen_of_few (read : engine.signals.get k = some entry)
    (read' : swept.signals.get k = some (entry.expire now))
    (nodup : (entry.signals.map (·.wallet)).Nodup) (lasting : 0 < entry.timeout)
    (enough : entry.minWallets ≤ (counted entry.signals).length)
    (few : (counted (entry.expire now).signals).length < entry.minWallets) :
    ∃ later, Later now later ∧ triggers swept later ≠ triggers engine later := by
  have some_vote : counted entry.signals ≠ [] := by
    intro empty
    rw [empty, List.length_nil] at enough
    omega
  obtain ⟨v, member⟩ := List.exists_mem_of_ne_nil _ some_vote
  -- The wallet of `v` has no other vote, so nothing matches a longer signature.
  have absent : ¬ entry.HasVote v.wallet (v.signature ++ "x") := by
    rintro ⟨u, stored, same, signature⟩
    rw [TokenSignals.eq_of_wallet nodup stored (TokenSignals.mem_counted.mp member).1 same] at signature
    simpa using congrArg String.length signature
  have absent' : ¬ (entry.expire now).HasVote v.wallet (v.signature ++ "x") := by
    rintro ⟨u, stored, matched⟩
    exact absent ⟨u, (mem_expire.mp stored).1, matched⟩
  apply reject_seen k v.wallet (v.signature ++ "x")
  have after := call_reject now read v.wallet (v.signature ++ "x")
  have after' := call_reject now read' v.wallet (v.signature ++ "x")
  rw [TokenSignals.reject_absent absent, decide_eq_true enough] at after
  rw [TokenSignals.reject_absent absent', TokenSignals.expire_minWallets,
    decide_eq_false (Nat.not_le.mpr few)] at after'
  exact seen_of_latch after after' nodup lasting rfl enough few

/-- Expired votes that make the difference between enough and too few votes are seen: rejections
take the live votes away one at a time until only one side has enough. -/
theorem seen_of_stale {n : ℕ} (read : engine.signals.get k = some entry)
    (read' : swept.signals.get k = some (entry.expire now))
    (nodup : (entry.signals.map (·.wallet)).Nodup) (lasting : 0 < entry.timeout)
    (positive : 0 < entry.minWallets) (enough : entry.minWallets ≤ (counted entry.signals).length)
    (live : (counted (entry.expire now).signals).length = n)
    (lost : n < (counted entry.signals).length) :
    ∃ later, Later now later ∧ triggers swept later ≠ triggers engine later := by
  induction n generalizing engine swept entry with
  | zero => exact seen_of_few read read' nodup lasting enough (live ▸ positive)
  | succ n ih =>
    by_cases few : n + 1 < entry.minWallets
    · exact seen_of_few read read' nodup lasting enough (live ▸ few)
    have some_vote : counted (entry.expire now).signals ≠ [] := by
      intro empty
      rw [empty, List.length_nil] at live
      omega
    obtain ⟨u, member⟩ := List.exists_mem_of_ne_nil _ some_vote
    have pruned := nodup.sublist ((TokenSignals.expire_sublist entry now).map _)
    have counts : u ∈ counted entry.signals := by
      have ⟨stored, counts⟩ := TokenSignals.mem_counted.mp member
      exact TokenSignals.mem_counted.mpr ⟨(mem_expire.mp stored).1, counts⟩
    have fewer := TokenSignals.reject_counted nodup counts
    have fewer' := TokenSignals.reject_counted pruned member
    apply reject_seen k u.wallet u.signature
    have after := call_reject now read u.wallet u.signature
    have after' := call_reject now read' u.wallet u.signature
    rw [TokenSignals.reject_after_expire] at fewer' after'
    change (counted ((entry.reject u.wallet u.signature).1.expire now).signals).length + 1 = _ at fewer'
    have still : entry.minWallets ≤ (counted (entry.reject u.wallet u.signature).1.signals).length := by
      omega
    have set : (entry.reject u.wallet u.signature).1.triggered = true := by
      rw [TokenSignals.reject_triggered]
      exact decide_eq_true still
    have distinct : ((entry.reject u.wallet u.signature).1.signals.map (·.wallet)).Nodup :=
      nodup.sublist (List.filter_sublist.map _)
    by_cases last : n < entry.minWallets
    · rw [decide_eq_false (by omega)] at after'
      exact seen_of_latch after after' distinct lasting set still (by
        show (counted ((entry.reject u.wallet u.signature).1.expire now).signals).length < entry.minWallets
        omega)
    · rw [decide_eq_true (by omega), ← set] at after'
      exact ih after after' distinct lasting positive still (by omega) (by omega)

end

/-- A cleanup pass changes no later trigger, whatever the users do after it, if and only if every
stored entry has a live vote, and its expired votes do not decide whether it has enough. -/
theorem cleanup_pass_unseen_iff (h : List TimedCall) (now : Instant) :
    (∀ later, Later now later →
      triggers ((engineSinceStart h).cleanupPass now) later = triggers (engineSinceStart h) later) ↔
    ∀ k entry, (engineSinceStart h).signals.get k = some entry →
      (∃ v ∈ entry.signals, now.durationSince v.detectedAt < entry.timeout) ∧ entry.Steady now := by
  constructor
  · intro unseen k entry read
    have swept := (engineSinceStart h).cleanupPass_get now k
    rw [read, Option.bind_some] at swept
    have alive : ∃ v, v ∈ (entry.expire now).signals := by
      by_contra dead
      have dead : (entry.expire now).signals = [] :=
        List.eq_nil_iff_forall_not_mem.mpr (not_exists.mp dead)
      have dropped : entry.cleanup now = none := by simp [TokenSignals.cleanup, dead]
      obtain ⟨later, users, differ⟩ := seen_of_emptied read dead (swept.trans dropped)
      exact differ (unseen later users)
    obtain ⟨v, live⟩ := alive
    have ⟨stored, young⟩ := mem_expire.mp live
    refine ⟨⟨v, stored, young⟩, ?_⟩
    by_contra unsteady
    simp only [TokenSignals.Steady, not_or, not_forall] at unsteady
    obtain ⟨positive, enough, u, counts, old⟩ := unsteady
    have lost : (counted (entry.expire now).signals).length < (counted entry.signals).length := by
      rw [TokenSignals.counted_expire]
      apply List.length_filter_lt_length_iff_exists.mpr
      exact ⟨u, counts, by simpa using old⟩
    obtain ⟨later, users, differ⟩ := seen_of_stale read (swept.trans (TokenSignals.cleanup_of_live live))
      (recorded_since_start h read).nodup (Nat.zero_lt_of_lt young) (Nat.pos_of_ne_zero positive)
      (Nat.not_lt.mp enough) rfl lost
    exact differ (unseen later users)
  · intro kept later users
    apply triggers_of_swept ?_ users
    apply swept_cleanupPass
    intro k entry read
    obtain ⟨⟨v, stored, young⟩, steady⟩ := kept k entry read
    exact ⟨⟨v, mem_expire.mpr ⟨stored, young⟩⟩, steady⟩

/-- A latched entry whose two votes have expired: two new wallets vote within the next second. They
fire only where a cleanup pass has dropped the entry. -/
theorem cleanup_pass_seen :
    let before : List TimedCall := [(0, .submit (voteOf 1 0) 0), (1, .submit (voteOf 2 1) 1)]
    let later : List TimedCall := [(2000000000, .submit (voteOf 3 2000000000) 2000000000),
      (2000000001, .submit (voteOf 4 2000000001) 2000000001)]
    Later 2000000000 later ∧
      (triggers ((engineSinceStart before).cleanupPass 2000000000) later).length = 1 ∧
      (triggers (engineSinceStart before) later).length = 0 := by
  refine ⟨⟨by decide, by decide, by decide⟩, by decide, by decide⟩

end CopyTrader.Consensus
