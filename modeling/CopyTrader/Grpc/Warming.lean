import CopyTrader.Tasks.Alphabet

/-!
# Warming

A task enters the accounts of a mint in the tables of the subscriber before it starts a buy.
-/

namespace CopyTrader.Grpc
open Lib Main Processor Tasks Program

/-! ### What a task has entered -/

def enters : Op → Option SubscriberOp
  | .subscriber op => some op
  | _ => none

def entered (past : List Moment) : List SubscriberOp := past.filterMap (enters ·.op)

/-- The entries track the mint. -/
def Warmed (made : List SubscriberOp) (mint : Pubkey) : Prop :=
  ∃ curve ata, .mapBondingCurve curve mint ∈ made ∧ .subscribe curve .bondingCurve ∈ made ∧
    .mapAta ata mint ∈ made ∧ .subscribe ata .ata ∈ made

/-- Collects what a task has entered. A buy starts when its mint is tracked. -/
def warmMonitor : Monitor World Op Ans (List SubscriberOp) where
  trusts _ := True
  allows made op := ∀ b cause, op = .spawnBuy b cause → Warmed made b.mint
  next made e := made ++ (enters e.op).toList

theorem after_entered (past : List Moment) : warmMonitor.after [] past = entered past := by
  induction past using List.reverseRecOn with
  | nil => rfl
  | append_singleton past e ih =>
    rw [Monitor.after_snoc, ih]
    unfold entered
    rw [List.filterMap_append, List.filterMap_cons, List.filterMap_nil]
    change _ ++ (enters e.op).toList = _
    cases enters e.op <;> rfl

def tracksOrBuys : Op → Bool
  | .subscriber _ | .spawnBuy .. => true
  | _ => false

theorem warm_quiet {op : Op} (other : tracksOrBuys op = false) : warmMonitor.Quiet op := by
  cases op
  case subscriber | spawnBuy => cases other
  all_goals exact ⟨fun _ _ _ => nofun, fun _ _ _ => List.append_nil _⟩

theorem Warmed.append {made more : List SubscriberOp} {mint : Pubkey} (warmed : Warmed made mint) :
    Warmed (made ++ more) mint := by
  obtain ⟨curve, ata, maps, subscribes, mapsAta, subscribesAta⟩ := warmed
  exact ⟨curve, ata, List.mem_append_left _ maps, List.mem_append_left _ subscribes,
    List.mem_append_left _ mapsAta, List.mem_append_left _ subscribesAta⟩

theorem warm_keeps {op : Op} {mint : Pubkey} (buys : ∀ b cause, op = .spawnBuy b cause → b.mint = mint) :
    warmMonitor.Keeps (Warmed · mint) op := by
  intro made warmed
  exact ⟨fun b cause same => buys b cause same ▸ warmed, fun _ _ _ => warmed.append⟩

section
variable {setup : Setup} {made : List SubscriberOp} {mint tokenProgram : Pubkey} {trade : DetectedTrade}
  {groups : List CopyGroup} {effectiveMirror : List Pubkey}

theorem subscriber_enters {α : Type} {op : SubscriberOp} {f : op.Ans → Prog α} {post : α → List SubscriberOp → Prop}
    (rest : ∀ answer, wp warmMonitor post (f answer) (made ++ [op])) :
    wp warmMonitor post (subscriber op >>= f) made :=
  wp_perform (fun _ _ => nofun) fun _ answer _ => rest answer

theorem warmBuyCaches_warms {mirrorAccounts : List Pubkey} {sourceWallet : Pubkey} {sourceSignature : Signature}
    {qualityScore : ℕ} {forceReplace : Bool} :
    wp warmMonitor (fun _ made => Warmed made mint) (warmBuyCaches setup mint tokenProgram mirrorAccounts
      sourceWallet sourceSignature qualityScore forceReplace) made := by
  refine wp_quiet_bind (prefetchToken_uses (warm_quiet rfl) (warm_quiet rfl) fun _ => warm_quiet rfl) fun token => ?_
  refine wp_bind.mpr (subscriber_enters fun _ => subscriber_enters fun _ => ?_)
  refine ⟨fun _ _ => nofun, fun _ _ _ => ?_⟩
  refine subscriber_enters fun _ => subscriber_enters fun _ => ⟨fun _ _ => nofun, fun _ _ _ => ?_⟩
  exact ⟨token.bondingCurve, token.userAta, by simp [warmMonitor, enters], by simp [warmMonitor, enters],
    by simp [warmMonitor, enters], by simp [warmMonitor, enters]⟩

/-- A group enters only if some group wants to. -/
theorem entryGroups_wanted :
    wp warmMonitor (fun entries made' => made' = made ∧ (entries = [] ∨ groups.any (wantsEntry · trade) = true))
      (entryGroups mint trade effectiveMirror groups) made := by
  induction groups with
  | nil => exact ⟨rfl, Or.inl rfl⟩
  | cons group rest ih =>
    have sells : Uses warmMonitor.Quiet (followSell group mint trade) :=
      followSell_uses (warm_quiet rfl) fun _ => warm_quiet rfl
    have wanted : wp warmMonitor (fun enters made' => made' = made ∧ (enters = true → wantsEntry group trade = true))
        (curveGroup mint trade effectiveMirror group) made :=
      wp_ite (fun _ => ⟨rfl, nofun⟩) fun _ => wp_quiet_bind sells fun _ => ⟨rfl, id⟩
    refine wp_seq wanted fun enters _ before => ?_
    obtain ⟨rfl, wants⟩ := before
    refine wp_seq ih fun others _ after => ?_
    obtain ⟨rfl, some_wants⟩ := after
    refine ⟨rfl, ?_⟩
    rw [List.any_cons, Bool.or_eq_true]
    cases enters with
    | true => exact Or.inr (Or.inl (wants rfl))
    | false => exact some_wants.imp id Or.inr

theorem enterGroup_keeps {group : CopyGroup} :
    Uses (warmMonitor.Keeps (Warmed · mint)) (enterGroup mint tokenProgram trade group) := by
  have quiet {op : Op} (other : tracksOrBuys op = false) : warmMonitor.Keeps (Warmed · mint) op :=
    warm_keeps fun b cause same => by subst same; cases other
  refine uses_ite trivial (uses_ite (uses_ite trivial (uses_call.mpr (warm_keeps ?_))) ?_)
  · rintro b cause ⟨⟩
    rfl
  · exact uses_ite (uses_bind (uses_call.mpr (quiet rfl)) fun _ => trivial) (uses_call.mpr (quiet rfl))

theorem curveTrade_warms :
    wp warmMonitor (fun _ _ => True) (curveTrade setup trade mint tokenProgram groups) made := by
  refine wp_quiet_bind (reuseMirror_uses (warm_quiet rfl)) fun cachedMirror => ?_
  have warms : wp warmMonitor (fun _ made => groups.any (wantsEntry · trade) = true → Warmed made mint)
      (warmForEntry setup trade mint tokenProgram (cachedMirror.getD trade.instructionAccounts) groups) made :=
    wp_ite (fun _ => wp_mono (fun _ _ warmed _ => warmed) warmBuyCaches_warms) fun idle wants => absurd wants idle
  refine wp_seq warms fun _ made' warmed => wp_seq entryGroups_wanted fun entries _ found => ?_
  obtain ⟨rfl, nobody | wants⟩ := found
  · subst nobody
    trivial
  · exact wp_mono (fun _ _ _ => trivial) (wp_keeps (forEach_uses fun group => enterGroup_keeps) (warmed wants))

theorem handleTrade_warms : wp warmMonitor (fun _ _ => True) (handleTrade setup trade) made := by
  refine wp_quiet_bind (uses_call.mpr (warm_quiet rfl)) fun running => wp_ite (fun _ => trivial) fun _ => ?_
  refine wp_quiet_bind (uses_call.mpr (warm_quiet rfl)) fun skip => wp_ite (fun _ => trivial) fun _ => ?_
  refine wp_quiet_bind (cacheMirror_uses fun _ _ => warm_quiet rfl) fun _ => ?_
  refine wp_quiet_bind (uses_call.mpr (warm_quiet rfl)) fun groups => wp_ite (fun _ => trivial) fun _ => ?_
  cases extractTokenInfo trade with
  | none => trivial
  | some found =>
    refine wp_quiet_bind (uses_call.mpr (warm_quiet rfl)) fun blocked => wp_ite (fun _ => trivial) fun _ => ?_
    apply wp_ite
    · intro _
      refine wp_quiet (forEach_uses fun group => uses_ite trivial ?_) fun _ => trivial
      refine uses_bind (followSell_uses (warm_quiet rfl) fun _ => warm_quiet rfl) fun _ => ?_
      exact uses_ite trivial (uses_call.mpr (warm_quiet rfl))
    · exact fun _ => curveTrade_warms

theorem handleTrigger_warms {trigger : Consensus.ConsensusTrigger} :
    wp warmMonitor (fun _ _ => True) (handleTrigger setup trigger) made := by
  refine wp_quiet_bind (uses_call.mpr (warm_quiet rfl)) fun _ =>
    wp_quiet_bind (uses_call.mpr (warm_quiet rfl)) fun found => ?_
  cases found with
  | none => trivial
  | some group =>
    refine wp_seq warmBuyCaches_warms fun _ made' warmed => ⟨?_, fun _ _ _ => trivial⟩
    rintro b cause ⟨⟩
    exact warmed

end

theorem code_warms {setup : Setup} (role : Role) : wp warmMonitor (fun _ _ => True) (role.code setup) [] := by
  have other (buysNone : ∀ op, role.alphabet op = true → ∀ b cause, op ≠ .spawnBuy b cause) :
      wp warmMonitor (fun _ _ => True) (role.code setup) [] := by
    have keeps (op : Op) (member : role.alphabet op = true) : warmMonitor.Keeps (fun _ => True) op :=
      fun _ _ => ⟨fun b cause same => absurd same (buysNone op member b cause), fun _ _ _ => trivial⟩
    exact wp_mono (fun _ _ _ => trivial) (wp_keeps (uses_mono keeps (code_within setup role)) trivial)
  cases role with
  | trade => exact handleTrade_warms
  | trigger => exact handleTrigger_warms
  | _ =>
    apply other
    rintro _ member b cause rfl
    cases member

end CopyTrader.Grpc
