import CopyTrader.Lib.Spacing
import CopyTrader.Main.Claims
import CopyTrader.Main.Provenance
import CopyTrader.Main.Settlement

/-!
# What a group spends on a mint

The claims keep the sent buys of a group and mint the cooldown apart. So in any window of time they
are no more than the cooldowns that fit, and spend at most that many times what the group allows.
-/

namespace CopyTrader.Main
open Lib AutoSell Grpc Processor Tasks Program

def isSent (e : Moment) : Bool :=
  match e.op, e.answer with
  | .sendBuy .., .ok _ => true
  | _, _ => false

def spendsOn (key : PositionKey) (e : Moment) : Bool :=
  match e.op with
  | .sendBuy groupId mint _ => (⟨groupId, mint⟩ : PositionKey) = key
  | _ => false

def lamportsOf (e : Moment) : ℕ :=
  match e.op with
  | .sendBuy _ _ lamports => lamports
  | _ => 0

/-- The buys that a task has sent. -/
def sentIn (t : TaskState) : List Moment := t.past.filter isSent

def sentMoments (s : State) : List Moment := s.tasks.flatMap sentIn

/-- What was sent for the key between two times. -/
def spent (key : PositionKey) (start stop : Instant) (s : State) : ℕ :=
  (((sentMoments s).filter fun e => spendsOn key e && start ≤ e.world.clock && e.world.clock ≤ stop).map lamportsOf).sum

variable {setup : Setup} {starts : World → Prop} {ok : State → Step → Prop} {s : State} {key : PositionKey}

/-! ### A task sends once -/

/-- Nothing was sent before the stage has moved, and one buy at most. -/
def SentOnce (past : List Moment) (stage : BuyStage) : Prop :=
  (past.filter isSent).length ≤ 1 ∧ (stage = .fresh → past.filter isSent = [])

theorem sentOnce_next {past : List Moment} {stage : BuyStage} {e : Moment} (allowed : stageMonitor.allows stage e.op)
    (once : SentOnce past stage) : SentOnce (past ++ [e]) (stageMonitor.next stage e) := by
  have other (silent : isSent e = false) (later : stageMonitor.next stage e = .fresh → stage = .fresh) :
      SentOnce (past ++ [e]) (stageMonitor.next stage e) := by
    have same : (past ++ [e]).filter isSent = past.filter isSent := by simp [silent]
    exact ⟨same ▸ once.1, fun fresh => same ▸ once.2 (later fresh)⟩
  obtain ⟨w, op, answer⟩ := e
  cases op
  case sendBuy groupId mint lamports =>
    obtain rfl : stage = .fresh := allowed
    cases answer with
    | error err => exact other rfl fun _ => rfl
    | ok sig =>
      refine ⟨?_, nofun⟩
      rw [List.filter_append, once.2 rfl]
      exact Nat.le_refl 1
  case addPosition | spawnConfirm => exact other rfl nofun
  all_goals exact other rfl id

theorem sends_once (reach : (process setup).Reachable starts ok s) {i : ℕ} {t : TaskState}
    (here : s.tasks[i]? = some t) : (sentIn t).length ≤ 1 := by
  have recorded : SentOnce t.past (stageOf t) :=
    reach.recorded stageMonitor .fresh (fun _ => True) SentOnce (fun _ => trivial)
      (fun role _ => code_staged setup role) ⟨Nat.zero_le 1, fun _ => rfl⟩ (fun _ _ _ => sentOnce_next) here trivial
  exact recorded.1

/-! ### When it sends -/

/-- The claim of a past: made before everything that was sent, and given back after it. -/
structure Timed (past : List Moment) (l : Lease) : Prop where
  since : ∀ τ, l.since = some τ → ∃ e ∈ past, e.world.clock = τ
  sent : ∀ e ∈ past, isSent e = true → l.used = true ∧ (∃ τ, l.since = some τ ∧ τ ≤ e.world.clock) ∧
    ∀ τ, l.ended = some τ → e.world.clock ≤ τ

theorem timed_next {past : List Moment} {l : Lease} {e : Moment} (allowed : claimMonitor.allows l e.op)
    (timed : Timed past l) (onward : ∀ d ∈ past, d.world.clock ≤ e.world.clock) :
    Timed (past ++ [e]) (claimMonitor.next l e) := by
  have grow {τ : Instant} (found : ∃ d ∈ past, d.world.clock = τ) : ∃ d ∈ past ++ [e], d.world.clock = τ := by
    obtain ⟨d, member, same⟩ := found
    exact ⟨d, List.mem_append_left _ member, same⟩
  have other (silent : isSent e = false) (same : claimMonitor.next l e = l) :
      Timed (past ++ [e]) (claimMonitor.next l e) := by
    rw [same]
    refine ⟨fun τ since => grow (timed.since τ since), fun d member was => ?_⟩
    rcases List.mem_append.mp member with old | new
    · exact timed.sent d old was
    · rw [List.mem_singleton.mp new, silent] at was
      cases was
  obtain ⟨w, op, answer⟩ := e
  cases op
  case tryStartGroupMint claim =>
    cases started : answer with
    | false =>
      subst started
      exact other rfl rfl
    | true =>
      obtain rfl : l = .idle := allowed
      refine ⟨fun τ since => ⟨_, List.mem_concat_self, Option.some.inj since⟩, fun d member was => ?_⟩
      rcases List.mem_append.mp member with old | new
      · have used := (timed.sent d old was).1
        cases used
      · rw [List.mem_singleton.mp new] at was
        cases was
  case sendBuy groupId mint lamports =>
    obtain ⟨held, unended⟩ : l.since.isSome = true ∧ l.ended = none := allowed
    obtain ⟨τ, since⟩ := Option.isSome_iff_exists.mp held
    cases answer with
    | error err => exact other rfl rfl
    | ok sig =>
      refine ⟨fun τ since => grow (timed.since τ since), fun d member was => ⟨rfl, ?_, fun τ ended => ?_⟩⟩
      · rcases List.mem_append.mp member with old | new
        · exact (timed.sent d old was).2.1
        · obtain ⟨d', before, same⟩ := timed.since τ since
          rw [List.mem_singleton.mp new]
          exact ⟨τ, since, same ▸ onward d' before⟩
      · exact absurd (unended.symm.trans ended) nofun
  case finishGroupMint claim submitted =>
    refine ⟨fun τ since => grow (timed.since τ since), fun d member was => ?_⟩
    rcases List.mem_append.mp member with old | new
    · obtain ⟨used, since, _⟩ := timed.sent d old was
      exact ⟨used, since, fun τ ended => Option.some.inj ended ▸ onward d old⟩
    · rw [List.mem_singleton.mp new] at was
      cases was
  all_goals exact other rfl rfl

theorem clocks_ordered (reach : (process setup).Reachable starts ok s) {i : ℕ} {t : TaskState}
    (here : s.tasks[i]? = some t) : t.past.Pairwise fun d e => d.world.clock ≤ e.world.clock := by
  refine (reach.past_ordered (R := fun w w' => w.clock ≤ w'.clock) (fun _ => Nat.le_refl _) (fun _ _ _ => Nat.le_trans)
    ?_ ?_ here).2
  · intro w op choice answer w' reply
    exact Nat.le_of_eq (World.respond_frame reply).clock.symm
  · intro w env w' change
    exact (World.disturb_drift change).clock

theorem timed_task (reach : (process setup).Reachable starts ok s) {i : ℕ} {t : TaskState}
    (here : s.tasks[i]? = some t) (buys : t.role.buysFor.isSome = true) : Timed t.past (claimOf t) := by
  have recorded := reach.recorded claimMonitor .idle (fun role => role.buysFor.isSome = true)
    (fun past l => past.Pairwise (fun d e => d.world.clock ≤ e.world.clock) → Timed past l) (fun _ => trivial)
    (fun _ buys => code_follows_claim buys) (fun _ => ⟨nofun, fun _ member => nomatch member⟩) ?_ here buys
  · exact recorded (clocks_ordered reach here)
  · intro past l e allowed timed ordered
    obtain ⟨before, _, onward⟩ := List.pairwise_append.mp ordered
    exact timed_next allowed (timed before) fun d member => onward d member e (List.mem_singleton.mpr rfl)

/-- A buy that was sent for the key was sent by a task that buys for it. -/
theorem buysFor_of_sent (reach : (process setup).Reachable World.Starts ok s) {i : ℕ} {t : TaskState}
    (here : s.tasks[i]? = some t) {e : Moment} (member : e ∈ sentIn t) (own : spendsOn key e = true) :
    t.role.buysFor = some key := by
  obtain ⟨past, was⟩ := List.mem_filter.mp member
  have within := past_within reach here e past
  obtain ⟨w, op, answer⟩ := e
  cases op with
  | sendBuy groupId mint lamports =>
    obtain rfl : (⟨groupId, mint⟩ : PositionKey) = key := of_decide_eq_true own
    obtain ⟨role, past, rest⟩ := t
    cases role with
    | buy b cause => exact congrArg some (of_decide_eq_true within).symm
    | externalBuy b cause => exact congrArg some (of_decide_eq_true within).symm
    | _ => cases within
  | _ => cases own

theorem sent_spaced (reach : (process setup).Reachable World.Starts (KeepsClaim key) s) {i j : ℕ} {t u : TaskState}
    (differs : i ≠ j) (hereT : s.tasks[i]? = some t) (hereU : s.tasks[j]? = some u) {d e : Moment}
    (sentT : d ∈ sentIn t) (sentU : e ∈ sentIn u) (ownT : spendsOn key d = true) (ownU : spendsOn key e = true) :
    Spaced CLAIM_PAUSE d.world.clock e.world.clock := by
  have buysT := buysFor_of_sent reach hereT sentT ownT
  have buysU := buysFor_of_sent reach hereU sentU ownU
  obtain ⟨pastT, wasT⟩ := List.mem_filter.mp sentT
  obtain ⟨pastU, wasU⟩ := List.mem_filter.mp sentU
  obtain ⟨usedT, sinceT, endedT⟩ := (timed_task reach hereT (by rw [buysT]; rfl)).sent d pastT wasT
  obtain ⟨usedU, sinceU, endedU⟩ := (timed_task reach hereU (by rw [buysU]; rfl)).sent e pastU wasU
  have onward {l l' : Lease} {x y : Instant} (before : Lease.Before CLAIM_PAUSE l l')
      (ended : ∀ τ, l.ended = some τ → x ≤ τ) (since : ∃ τ, l'.since = some τ ∧ τ ≤ y) : x + CLAIM_PAUSE ≤ y := by
    obtain ⟨stop, start, stopped, started, apart⟩ := before
    obtain ⟨τ, started', early⟩ := since
    obtain rfl := Option.some.inj (started.symm.trans started')
    exact (Nat.add_le_add_right (ended stop stopped) _).trans (apart.trans early)
  rcases sent_buys_apart reach differs hereT hereU buysT buysU usedT usedU with before | after
  · exact Or.inl (onward before endedT sinceU)
  · exact Or.inr (onward after endedU sinceT)

theorem sentMoments_spaced (reach : (process setup).Reachable World.Starts (KeepsClaim key) s) :
    (sentMoments s).Pairwise fun d e => spendsOn key d = true → spendsOn key e = true →
      Spaced CLAIM_PAUSE d.world.clock e.world.clock := by
  refine List.pairwise_flatMap.mpr ⟨fun t member => ?_, ?_⟩
  · obtain ⟨i, here⟩ := List.mem_iff_getElem?.mp member
    have once := sends_once reach here
    match sent : sentIn t with
    | [] => exact List.Pairwise.nil
    | [e] => exact List.pairwise_singleton ..
    | d :: e :: rest =>
      rw [sent] at once
      simp at once
  · refine List.pairwise_iff_getElem.mpr fun i j hi hj before d sentT e sentU ownT ownU => ?_
    exact sent_spaced reach (Nat.ne_of_lt before) (List.getElem?_eq_getElem hi) (List.getElem?_eq_getElem hj)
      sentT sentU ownT ownU

/-! ### What it sends -/

/-- A buy spends what its group says. -/
def Priced : Role → Op → Prop
  | .buy b _, .sendBuy _ _ lamports => lamports = b.group.buyLamports
  | .externalBuy b _, .sendBuy _ _ lamports => lamports = b.group.externalBuyLamports
  | _, _ => True

/-- Sending for this amount only. -/
def sendsAmount (amount : ℕ) : Op → Bool
  | .sendBuy _ _ lamports => lamports = amount
  | _ => true

theorem submitBuy_amount {p : Position} {userAta : Pubkey} {sol : ℚ} {estimatedTokensRaw : ℕ} :
    Within (sendsAmount p.entrySolAmount) (submitBuy setup p userAta sol estimatedTokensRaw) := by
  refine within_perform (decide_eq_true rfl) fun sent => ?_
  cases sent with
  | error err => exact within_perform rfl fun _ => trivial
  | ok sig =>
    exact within_perform rfl fun _ => uses_ite
      (uses_bind (within_perform rfl fun _ => uses_call.mpr rfl) fun _ => trivial) trivial

theorem setTokenAmountEstimate_lamports (p : Position) (tokenAmount : ℕ) :
    (p.setTokenAmountEstimate tokenAmount).entrySolAmount = p.entrySolAmount := by
  unfold Position.setTokenAmountEstimate
  split <;> rfl

theorem executeBuy_amount {b : BuyTask} : Within (sendsAmount b.group.buyLamports) (executeBuy setup b) := by
  have submits : ∀ prefetched curve estimatedTokensRaw preBuyAtaBalance t userAta sol,
      Within (sendsAmount b.group.buyLamports) (submitBuy setup
        (buyPosition b prefetched curve estimatedTokensRaw preBuyAtaBalance t) userAta sol estimatedTokensRaw) := by
    intro prefetched curve estimatedTokensRaw preBuyAtaBalance t userAta sol
    have amount : (buyPosition b prefetched curve estimatedTokensRaw preBuyAtaBalance t).entrySolAmount =
        b.group.buyLamports := setTokenAmountEstimate_lamports _ _
    exact amount ▸ submitBuy_amount
  refine uses_bind (readOrWait_uses (uses_call.mpr rfl)) fun prefetched =>
    uses_bind (readOrWait_uses (uses_call.mpr rfl)) fun curve =>
    uses_bind (quotePrefetched_uses fun _ => rfl) fun quote =>
    within_perform rfl fun cached => within_perform rfl fun t => ?_
  cases quote with
  | error err => trivial
  | ok estimatedTokensRaw =>
    refine within_perform rfl fun built => ?_
    cases built with
    | ok done => exact submits ..
    | error err => exact within_perform rfl fun _ => trivial

theorem executeExternalBuy_amount {b : ExternalBuyTask} :
    Within (sendsAmount b.group.externalBuyLamports) (executeExternalBuy setup b) := by
  have submits : ∀ estimatedTokensRaw preBuyAtaBalance t userAta sol,
      Within (sendsAmount b.group.externalBuyLamports) (submitBuy setup
        (externalBuyPosition b estimatedTokensRaw preBuyAtaBalance t) userAta sol estimatedTokensRaw) := by
    intro estimatedTokensRaw preBuyAtaBalance t userAta sol
    have amount : (externalBuyPosition b estimatedTokensRaw preBuyAtaBalance t).entrySolAmount =
        b.group.externalBuyLamports := setTokenAmountEstimate_lamports _ _
    exact amount ▸ submitBuy_amount
  refine uses_ite trivial (uses_bind (trackAta_uses fun _ => rfl) fun _ => ?_)
  refine uses_bind (externalPreBuyBalance_uses rfl rfl) fun preBuyAtaBalance => within_perform rfl fun quote => ?_
  cases quote with
  | error err => exact within_perform rfl fun _ => trivial
  | ok estimatedTokensRaw =>
    exact within_perform rfl fun decoded => uses_ite (within_perform rfl fun t => submits ..) trivial

theorem claimedBuy_amount {key : GroupMintKey} {wrapper : Bool} {buy : Prog Bool} {amount : ℕ}
    (buys : Within (sendsAmount amount) buy) : Within (sendsAmount amount) (claimedBuy key wrapper buy) :=
  within_perform rfl fun _ => uses_ite
    (within_perform rfl fun _ => uses_ite (uses_bind buys fun _ => uses_call.mpr rfl) trivial) trivial

theorem amount_of_sendsAmount {groupId : String} {mint : Pubkey} {lamports amount : ℕ}
    (sends : sendsAmount amount (.sendBuy groupId mint lamports) = true) : lamports = amount := of_decide_eq_true sends

theorem code_priced (setup : Setup) (role : Role) : Uses (Priced role) (role.code setup) := by
  have free (unpriced : ∀ op, Priced role op) : Uses (Priced role) (role.code setup) :=
    uses_mono (fun op _ => unpriced op) (code_within setup role)
  cases role with
  | buy b cause =>
    refine uses_mono (fun op amount => ?_) (claimedBuy_amount executeBuy_amount)
    cases op with
    | sendBuy groupId mint lamports => exact amount_of_sendsAmount amount
    | _ => trivial
  | externalBuy b cause =>
    refine uses_mono (fun op amount => ?_) (claimedBuy_amount executeExternalBuy_amount)
    cases op with
    | sendBuy groupId mint lamports => exact amount_of_sendsAmount amount
    | _ => trivial
  | _ => exact free fun _ => trivial

/-! ### The budget -/

/-- The group of the key never asks for more than this. -/
def capped (key : PositionKey) (cap : ℕ) (w : World) : Bool :=
  (w.groups.getGroup key.groupId).all fun group => group.buyLamports ≤ cap && group.externalBuyLamports ≤ cap

def Budgeted (key : PositionKey) (cap : ℕ) (s : State) (step : Step) : Prop :=
  KeepsClaim key s step ∧ capped key cap s.world = true

instance (key : PositionKey) (cap : ℕ) (s : State) (step : Step) : Decidable (Budgeted key cap s step) :=
  inferInstanceAs (Decidable (_ ∧ _))

variable {cap : ℕ}

theorem capped_group {w : World} {group : CopyGroup} (within : capped key cap w = true)
    (stored : w.groups.getGroup key.groupId = some group) :
    group.buyLamports ≤ cap ∧ group.externalBuyLamports ≤ cap := by
  unfold capped at within
  rw [stored, Option.all_some, Bool.and_eq_true, decide_eq_true_eq, decide_eq_true_eq] at within
  exact within

theorem asked_capped {i : ℕ} {t : TaskState} (reach : (process setup).Reachable World.Starts (Budgeted key cap) s)
    (here : s.tasks[i]? = some t) {before : List Moment} (past : before <+: t.past) {op : Op} {group : CopyGroup}
    (asked : Asked before op fun w => w.groups.getGroup key.groupId = some group) :
    group.buyLamports ≤ cap ∧ group.externalBuyLamports ≤ cap := by
  obtain ⟨e, member, _, stored⟩ := asked
  exact capped_group (reach.past_met (P := fun w => capped key cap w = true) (fun _ _ ok => ok.2) here e
    (past.subset member)) stored

theorem buy_capped (reach : (process setup).Reachable World.Starts (Budgeted key cap) s) {i : ℕ} {t : TaskState}
    (here : s.tasks[i]? = some t) {b : BuyTask} {cause : Option DetectedTrade} (buys : t.role = .buy b cause)
    (own : b.group.id = key.groupId) : b.group.buyLamports ≤ cap := by
  have reasoned := buy_reasoned reach here buys
  cases cause with
  | some trade =>
    obtain ⟨j, u, before, there, _, done, followed⟩ := reasoned
    have asked := followed.cleared.followed
    rw [own] at asked
    exact (asked_capped reach there done.earlier asked).1
  | none =>
    obtain ⟨j, u, before, trigger, there, _, done, ordered⟩ := reasoned
    have asked := ordered.group
    obtain ⟨e, _, _, stored⟩ := asked
    have same : trigger.groupId = key.groupId := (e.world.groups.keyed _ (DashMap.mem_of_get stored)).symm.trans own
    have asked := ordered.group
    rw [same] at asked
    exact (asked_capped reach there done.earlier asked).1

theorem external_buy_capped (reach : (process setup).Reachable World.Starts (Budgeted key cap) s) {i : ℕ}
    {t : TaskState} (here : s.tasks[i]? = some t) {b : ExternalBuyTask} {cause : Option DetectedTrade}
    (buys : t.role = .externalBuy b cause) (own : b.group.id = key.groupId) : b.group.externalBuyLamports ≤ cap := by
  obtain ⟨j, u, before, trade, _, there, _, done, followed⟩ := external_buy_reasoned reach here buys
  have asked := followed.cleared.followed
  rw [own] at asked
  exact (asked_capped reach there done.earlier asked).2

theorem sent_capped (reach : (process setup).Reachable World.Starts (Budgeted key cap) s) {e : Moment}
    (member : e ∈ sentMoments s) (own : spendsOn key e = true) : lamportsOf e ≤ cap := by
  obtain ⟨t, among, sent⟩ := List.mem_flatMap.mp member
  obtain ⟨i, here⟩ := List.mem_iff_getElem?.mp among
  have buys := buysFor_of_sent reach here sent own
  have priced := reach.past_uses (p := Priced) (code_priced setup) here e (List.mem_filter.mp sent).1
  obtain ⟨w, op, answer⟩ := e
  cases op with
  | sendBuy groupId mint lamports =>
    obtain ⟨role, past, rest⟩ := t
    cases role with
    | buy b cause =>
      obtain rfl := Option.some.inj buys
      obtain rfl : lamports = b.group.buyLamports := priced
      exact buy_capped reach here rfl rfl
    | externalBuy b cause =>
      obtain rfl := Option.some.inj buys
      obtain rfl : lamports = b.group.externalBuyLamports := priced
      exact external_buy_capped reach here rfl rfl
    | _ => cases buys
  | _ => cases own

/-- What is spent on a group and mint in a window is at most the cap of the group for every cooldown
that the window holds, in every run whose cleanups drop no claim of the key in flight. -/
theorem spent_bounded (reach : (process setup).Reachable World.Starts (Budgeted key cap) s) (start stop : Instant) :
    spent key start stop s ≤ ((stop - start) / CLAIM_PAUSE + 1) * cap := by
  have keeps : (process setup).Reachable World.Starts (KeepsClaim key) s := reach.mono fun _ _ ok => ok.1
  have inside : ∀ e ∈ (sentMoments s).filter fun e =>
        spendsOn key e && start ≤ e.world.clock && e.world.clock ≤ stop,
      e ∈ sentMoments s ∧ spendsOn key e = true ∧ start ≤ e.world.clock ∧ e.world.clock ≤ stop := by
    intro e member
    obtain ⟨among, holds⟩ := List.mem_filter.mp member
    simp only [Bool.and_eq_true, decide_eq_true_eq] at holds
    exact ⟨among, holds.1.1, holds.1.2, holds.2⟩
  refine sum_le_of_spaced (by decide) ?_ (fun e member => (inside e member).2.2)
    fun e member => sent_capped reach (inside e member).1 (inside e member).2.1
  refine ((sentMoments_spaced keeps).sublist List.filter_sublist).imp_of_mem fun {d e} first second apart => ?_
  exact apart (inside d first).2.1 (inside e second).2.1

/-- Two reports of the sample wallet within the cooldown: one buy is sent, and the second report is refused. -/
theorem sample_spends_once : ∃ s, (process sampleSetup).Reachable World.Starts (Budgeted ⟨"g1", 5⟩ 1000000000) s ∧
    spent ⟨"g1", 5⟩ 0 (CLAIM_PAUSE - 1) s = 1000000000 := by
  obtain ⟨s, reach, passes⟩ := reaches sampleSetup (Budgeted ⟨"g1", 5⟩ 1000000000) sampleGroups
    (sampleIntake 0 (sampleTrade "t1" false) ++ sampleBuy 1 1000 "b1" ++
      sampleIntake 3 (sampleTrade "t2" false) ++ runs 4 [.flag true, .nothing])
    (fun s => 1000000000 ≤ spent ⟨"g1", 5⟩ 0 (CLAIM_PAUSE - 1) s) (by decide +kernel)
  refine ⟨s, reach, Nat.le_antisymm ?_ (of_decide_eq_true passes)⟩
  exact (spent_bounded reach 0 (CLAIM_PAUSE - 1)).trans (by decide)

end CopyTrader.Main
