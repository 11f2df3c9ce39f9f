import CopyTrader.Tasks.Reads

/-!
# Confirming on evidence

A record follows a confirm task: whether a balance read has shown more than was remembered, and what
the status of the buy was. The task confirms its position when a balance has risen or the buy has
landed, and gives it up when the buy has failed or no balance has risen.
-/

namespace CopyTrader.Tx
open Lib AutoSell Tasks Program

def rises (before : ℕ) (e : Moment) : Bool := (shown e).any (before < ·)

def saysLanded (signature : Signature) (e : Moment) : Bool :=
  match e.op, e.answer with
  | .rpcSignatureStatus asked, .ok (some status) => asked = signature && status.err.isNone
  | _, _ => false

def saysFailed (signature : Signature) (e : Moment) : Bool :=
  match e.op, e.answer with
  | .rpcSignatureStatus asked, .ok (some status) => asked = signature && status.err.isSome
  | _, _ => false

structure BuyRecord where
  risen : Bool
  landed : Bool
  failed : Bool

def BuyRecord.start : BuyRecord := ⟨false, false, false⟩

/-- The record of a confirm task, confirming or giving up on evidence. -/
def buyMonitor (c : ConfirmTask) : Monitor World Op Ans BuyRecord where
  trusts _ := True
  allows r
    | .confirmSuccess .. => r.risen = true ∨ r.landed = true
    | .confirmFailed .. => r.failed = true ∨ r.risen = false
    | _ => True
  next r e :=
    { risen := r.risen || rises c.preBuyAtaBalance e
      landed := r.landed || saysLanded c.signature e
      failed := r.failed || saysFailed c.signature e }

variable {c : ConfirmTask} {r : BuyRecord}

theorem buyMonitor_after (past : List Moment) : (buyMonitor c).after .start past =
    ⟨past.any (rises c.preBuyAtaBalance), past.any (saysLanded c.signature), past.any (saysFailed c.signature)⟩ := by
  induction past using List.reverseRecOn with
  | nil => rfl
  | append_singleton past e ih =>
    rw [Monitor.after_snoc, ih]
    simp [buyMonitor]

def turnsEvidence : Op → Bool
  | .ataCacheGet _ | .rpcTokenBalance _ | .rpcSignatureStatus _ | .confirmSuccess .. | .confirmFailed .. => true
  | _ => false

theorem quiet_of_silent {op : Op} (other : turnsEvidence op = false) : (buyMonitor c).Quiet op := by
  have same (r : BuyRecord) : (⟨r.risen || false, r.landed || false, r.failed || false⟩ : BuyRecord) = r := by
    simp
  cases op <;> first | exact ⟨fun _ => trivial, fun r _ _ => same r⟩ | cases other

/-- What the task knows in its rounds, `early` standing for an answer not yet looked at. -/
structure Knows (c : ConfirmTask) (seen : Bool) (tokenBalance : ℕ) (early : Option BalanceAnswer)
    (r : BuyRecord) : Prop where
  taken : tokenBalance = 0 ∨ c.preBuyAtaBalance < tokenBalance
  risen : r.risen = true ↔ c.preBuyAtaBalance < tokenBalance ∨
    c.preBuyAtaBalance < (early.map directBalance).getD 0
  landed : seen = true → r.landed = true ∨ c.preBuyAtaBalance < tokenBalance
  unfailed : r.failed = false

variable {seen : Bool} {tokenBalance : ℕ} {early : Option BalanceAnswer} {w : World}

theorem next_balance {account : Pubkey} {answer : BalanceAnswer} :
    (buyMonitor c).next r ⟨w, .rpcTokenBalance account, answer⟩ =
      { r with risen := r.risen || decide (c.preBuyAtaBalance < directBalance answer) } := by
  cases answer with
  | joinError | rpcError => simp [buyMonitor, rises, saysLanded, saysFailed, shown, directBalance]
  | ok amount =>
    cases amount with
    | none => simp [buyMonitor, rises, saysLanded, saysFailed, shown, directBalance]
    | some amount =>
      simp only [buyMonitor, rises, saysLanded, saysFailed, shown, directBalance, Option.any_some, Bool.or_false]
      rfl

theorem takeRpcBalance_eq (before tokenBalance : ℕ) (answer : BalanceAnswer) :
    takeRpcBalance before tokenBalance answer =
      if before < directBalance answer then directBalance answer else tokenBalance := by
  cases answer with
  | joinError | rpcError => rfl
  | ok amount => cases amount <;> rfl

theorem pollCachedBalance_knows (knows : Knows c seen tokenBalance early r) :
    wp (buyMonitor c) (fun tokenBalance r' => Knows c seen tokenBalance early r')
      (pollCachedBalance c.mint c.preBuyAtaBalance tokenBalance) r := by
  refine wp_ite (fun nothing => ?_) fun _ => knows
  subst nothing
  have unrisen : ¬ c.preBuyAtaBalance < 0 := Nat.not_lt_zero _
  apply wp_perform trivial
  intro w cached _
  cases cached with
  | none => simpa [buyMonitor, rises, saysLanded, saysFailed, shown] using knows
  | some amount =>
    have next : (buyMonitor c).next r ⟨w, .ataCacheGet c.mint, some amount⟩ =
        { r with risen := r.risen || decide (c.preBuyAtaBalance < amount.val) } := by
      simp [buyMonitor, rises, saysLanded, saysFailed, shown]
    rw [next]
    apply wp_ite
    · intro higher
      have landed (seen : seen = true) : r.landed = true ∨ c.preBuyAtaBalance < amount.val :=
        (knows.landed seen).imp_right fun _ => higher
      exact ⟨Or.inr higher, by simp [higher], landed, knows.unfailed⟩
    · intro lower
      simpa [lower] using knows

theorem earlyBalance_knows (knows : Knows c seen tokenBalance none r) :
    wp (buyMonitor c) (fun early r' => Knows c seen tokenBalance early r') (earlyBalance c tokenBalance) r := by
  refine wp_ite (fun _ => knows) fun _ => ?_
  refine wp_quiet_bind (uses_call.mpr (quiet_of_silent rfl)) fun overtakes => ?_
  refine wp_ite (fun _ => ?_) fun _ => knows
  apply wp_perform trivial
  intro w answer _
  rw [next_balance]
  refine ⟨knows.taken, ?_, knows.landed, knows.unfailed⟩
  have before : r.risen = true ↔ c.preBuyAtaBalance < tokenBalance := by simpa using knows.risen
  simp [before]

theorem pollBuySignature_knows (knows : Knows c seen tokenBalance early r) :
    wp (buyMonitor c)
      (fun result r' => match result with
        | .error _ => r'.failed = true
        | .ok seen => Knows c seen tokenBalance early r')
      (pollBuySignature c.signature seen) r := by
  refine wp_ite (fun seen => seen ▸ knows) fun unseen => ?_
  apply wp_perform trivial
  intro w answer _
  have unknown (next : (buyMonitor c).next r ⟨w, .rpcSignatureStatus c.signature, answer⟩ = r) :
      Knows c false tokenBalance early ((buyMonitor c).next r ⟨w, .rpcSignatureStatus c.signature, answer⟩) :=
    next.symm ▸ ⟨knows.taken, knows.risen, nofun, knows.unfailed⟩
  cases answer with
  | joinError | rpcError => exact unknown (by simp [buyMonitor, rises, saysLanded, saysFailed, shown])
  | ok status =>
    cases status with
    | none => exact unknown (by simp [buyMonitor, rises, saysLanded, saysFailed, shown])
    | some status =>
      obtain ⟨err⟩ := status
      cases err with
      | some err => simp [buyMonitor, saysFailed]
      | none =>
        have next : (buyMonitor c).next r ⟨w, .rpcSignatureStatus c.signature, .ok (some ⟨none⟩)⟩ =
            { r with landed := true } := by
          simp [buyMonitor, rises, saysLanded, saysFailed, shown]
        rw [next]
        exact ⟨knows.taken, knows.risen, fun _ => Or.inl rfl, knows.unfailed⟩

theorem awaitBalance_knows (knows : Knows c seen tokenBalance early r) :
    wp (buyMonitor c) (fun tokenBalance r' => Knows c seen tokenBalance none r')
      (awaitBalance c early tokenBalance) r := by
  -- an answer is taken up when it shows more than the remembered balance
  have taken (answer : BalanceAnswer) (r' : BuyRecord) (unrisen : tokenBalance ≤ c.preBuyAtaBalance)
      (risen : r'.risen = true ↔ c.preBuyAtaBalance < directBalance answer)
      (landed : seen = true → r'.landed = true) (unfailed : r'.failed = false) :
      Knows c seen (takeRpcBalance c.preBuyAtaBalance tokenBalance answer) none r' := by
    rw [takeRpcBalance_eq]
    split
    · rename_i higher
      exact ⟨Or.inr higher, by simp [risen, higher], fun seen => Or.inl (landed seen), unfailed⟩
    · rename_i lower
      exact ⟨knows.taken, by simp [risen, lower, unrisen], fun seen => Or.inl (landed seen), unfailed⟩
  apply wp_ite
  · intro unrisen
    have landed (seen : seen = true) : r.landed = true :=
      (knows.landed seen).resolve_right (Nat.not_lt.mpr unrisen)
    cases early with
    | some answer => exact taken answer r unrisen (by simpa [Nat.not_lt.mpr unrisen] using knows.risen) landed knows.unfailed
    | none =>
      apply wp_perform trivial
      intro w answer _
      rw [next_balance]
      have before : r.risen = false := by
        have risen := knows.risen
        simpa [Nat.not_lt.mpr unrisen] using risen
      exact taken answer _ unrisen (by simp [before]) landed knows.unfailed
  · intro risen
    have higher : c.preBuyAtaBalance < tokenBalance := Nat.not_le.mp risen
    exact ⟨Or.inr higher, by simp [knows.risen, higher], knows.landed, knows.unfailed⟩

theorem buyConfirmRound_knows (knows : Knows c seen tokenBalance none r) :
    wp (buyMonitor c)
      (fun result r' => match result with
        | .error _ => r'.failed = true
        | .ok (seen, tokenBalance) => Knows c seen tokenBalance none r')
      (buyConfirmRound c seen tokenBalance) r := by
  refine wp_seq (pollCachedBalance_knows knows) fun tokenBalance r₁ knows => ?_
  refine wp_seq (earlyBalance_knows knows) fun early r₂ knows => ?_
  refine wp_seq (pollBuySignature_knows knows) fun result r₃ known => ?_
  cases result with
  | error err => exact known
  | ok seen =>
    refine wp_seq (pollCachedBalance_knows known) fun tokenBalance r₄ knows => ?_
    exact wp_seq (awaitBalance_knows knows) fun tokenBalance r₅ knows => knows

theorem buyConfirmLoop_knows {start : Instant} (rounds : ℕ) (knows : Knows c seen tokenBalance none r) :
    wp (buyMonitor c)
      (fun result r' => match result with
        | .error _ => r'.failed = true
        | .ok (seen, tokenBalance) => Knows c seen tokenBalance none r')
      (buyConfirmLoop c start rounds seen tokenBalance) r := by
  induction rounds generalizing seen tokenBalance r with
  | zero => exact knows
  | succ rounds ih =>
    refine wp_quiet_bind (elapsed_uses (quiet_of_silent rfl)) fun waited => ?_
    refine wp_ite (fun _ => ?_) fun _ => knows
    refine wp_seq (buyConfirmRound_knows knows) fun result r' known => ?_
    cases result with
    | error err => exact known
    | ok result =>
      obtain ⟨seen, tokenBalance⟩ := result
      apply wp_ite
      · intro higher
        exact ⟨known.taken, known.risen, fun _ => Or.inr higher, known.unfailed⟩
      · intro _
        refine wp_quiet_bind (elapsed_uses (quiet_of_silent rfl)) fun waited => ?_
        exact wp_quiet_bind (sleep_uses (quiet_of_silent rfl) fun _ => quiet_of_silent rfl) fun _ => ih known

structure Concludes (c : ConfirmTask) (tokenBalance : ℕ) (r : BuyRecord) : Prop where
  higher : c.preBuyAtaBalance < tokenBalance → r.risen = true ∨ r.landed = true
  lower : tokenBalance ≤ c.preBuyAtaBalance → r.risen = false

theorem Knows.concludes (knows : Knows c seen tokenBalance none r) : Concludes c tokenBalance r := by
  have risen : r.risen = true ↔ c.preBuyAtaBalance < tokenBalance := by simpa using knows.risen
  constructor
  case higher =>
    intro higher
    exact Or.inl (risen.mpr higher)
  case lower =>
    intro lower
    simpa using mt risen.mp (Nat.not_lt.mpr lower)

theorem pollTransaction_concludes (knows : Knows c seen tokenBalance none r) :
    wp (buyMonitor c) (fun tokenBalance r' => Concludes c tokenBalance r')
      (pollTransaction c seen tokenBalance) r := by
  refine wp_ite (fun asks => ?_) fun _ => knows.concludes
  simp only [Bool.and_eq_true, decide_eq_true_eq] at asks
  have landed : r.landed = true := (knows.landed asks.1).resolve_right (Nat.not_lt.mpr asks.2)
  have found (balance : ℕ) : Concludes c balance r :=
    ⟨fun _ => Or.inr landed, fun _ => knows.concludes.lower asks.2⟩
  refine wp_quiet_bind (uses_call.mpr (quiet_of_silent rfl)) fun answer => ?_
  split
  · exact found _
  · exact found _

theorem confirmLost_allowed {reason tgReason : String} (allowed : r.failed = true ∨ r.risen = false) :
    wp (buyMonitor c) (fun _ _ => True) (confirmLost c reason tgReason) r :=
  wp_perform allowed fun _ _ _ => ⟨trivial, fun _ _ _ => trivial⟩

theorem finishConfirm_allowed (concludes : Concludes c tokenBalance r) :
    wp (buyMonitor c) (fun _ _ => True) (finishConfirm c seen tokenBalance) r := by
  have lost (lower : ¬ c.preBuyAtaBalance < tokenBalance) : r.failed = true ∨ r.risen = false :=
    Or.inr (concludes.lower (Nat.not_lt.mp lower))
  apply wp_ite
  · intro higher
    refine wp_quiet_bind (uses_call.mpr (quiet_of_silent rfl)) fun curve => ?_
    refine wp_quiet_bind (uses_call.mpr (quiet_of_silent rfl)) fun openPositions => ?_
    refine wp_perform (concludes.higher higher) fun _ _ _ => ?_
    exact wp_perform trivial fun _ _ _ => wp_perform trivial fun _ _ _ => ⟨trivial, fun _ _ _ => trivial⟩
  · intro lower
    apply wp_ite
    · intro _
      exact confirmLost_allowed (lost lower)
    · intro _
      exact confirmLost_allowed (lost lower)

theorem buyConfirm_allowed : wp (buyMonitor c) (fun _ _ => True) (buyConfirm c) .start := by
  have start : Knows c false 0 none .start := ⟨Or.inl rfl, by simp [BuyRecord.start], nofun, rfl⟩
  refine wp_quiet_bind (uses_call.mpr (quiet_of_silent rfl)) fun t => ?_
  refine wp_seq (buyConfirmLoop_knows _ start) fun result r known => ?_
  cases result with
  | error err => exact confirmLost_allowed (Or.inl known)
  | ok result =>
    exact wp_seq (pollTransaction_concludes known) fun tokenBalance r' concludes => finishConfirm_allowed concludes

theorem confirms_by_past {setup : Setup} {s : State} {ok : State → Step → Prop}
    (reach : (process setup).Reachable World.Starts ok s) {i : ℕ} {t : TaskState} {op : Op}
    {next : Ans op → Prog Unit} (here : s.tasks[i]? = some t) (rest : t.rest = .perform op next)
    (confirms : t.role = .confirm c) :
    (buyMonitor c).allows ⟨t.past.any (rises c.preBuyAtaBalance), t.past.any (saysLanded c.signature),
      t.past.any (saysFailed c.signature)⟩ op := by
  rw [← buyMonitor_after]
  exact reach.allows_trusting (buyMonitor c) .start (· = .confirm c) (fun _ => trivial)
    (by rintro _ rfl; exact buyConfirm_allowed) here confirms rest

end CopyTrader.Tx
