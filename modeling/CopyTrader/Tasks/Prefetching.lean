import CopyTrader.Lib.Machine
import CopyTrader.Tasks.Exits

/-!
# Mirrors in the prefetch cache

The calls of `prefetch_token`, one after another: a curve trade makes one with its own accounts or
with the cached mirror, a trigger one with the accounts of its canonical signal. Which entry stays is
decided by scores and by force, not by the mirror.
-/

namespace CopyTrader.Tasks
open Lib AutoSell Consensus Grpc Main Processor Program

/-- The entry of the mint has a mirror. -/
def HasMirror (w : World) (mint : Pubkey) : Prop := ∃ token, w.prefetch.get mint = some token ∧ token.mirrorAccounts ≠ []

/-- The entry of the mint was removed, or it has expired. -/
def Unprefetched (w : World) (mint : Pubkey) : Prop := w.prefetch.get mint = none

inductive PrefetchStep where
  | curveTrade (trade : DetectedTrade) (mint tokenProgram : Pubkey) (groups : List CopyGroup)
  | cacheMirror (trade : DetectedTrade)
  | consensus (trigger : ConsensusTrigger)
  | remove (mint : Pubkey)
  | disturb (env : World.Disturbance)

def PrefetchStep.code (setup : Setup) : PrefetchStep → Prog Unit
  | .curveTrade trade mint tokenProgram groups => Main.curveTrade setup trade mint tokenProgram groups
  | .cacheMirror trade => Main.cacheMirror trade
  | .consensus trigger => handleTrigger setup trigger
  | .remove mint => perform (.prefetchRemove mint)
  | .disturb _ => return ()

/-- One step to its end. -/
def prefetching (setup : Setup) : Machine World PrefetchStep Unit := fun w step =>
  match step with
  | .disturb env => ((w.disturb env).getD w, ())
  | step => ((((step.code setup).exec World.alone w).elim w Prod.snd), ())

/-- The accounts that a curve trade passes on. -/
def effectiveMirror (w : World) (trade : DetectedTrade) (mint : Pubkey) : List Pubkey :=
  (if trade.instructionAccounts.isEmpty && trade.tradeOrigin.isWrapperCpi then w.mirrorCache.get mint
    else none).getD trade.instructionAccounts

/-- A call for the mint, if the step makes one, brings accounts or is outranked by the entry. -/
def Brings (w : World) (mint : Pubkey) : PrefetchStep → Prop
  | .curveTrade trade mint' _ groups => mint' = mint → groups.any (wantsEntry · trade) = true →
    effectiveMirror w trade mint ≠ [] ∨
      ∃ token, w.prefetch.get mint = some token ∧ tradeSignalQuality trade < token.qualityScore
  | .consensus trigger => trigger.tokenMint = mint → (w.groups.getGroup trigger.groupId).isSome = true →
    trigger.canonicalInstructionAccounts ≠ []
  | _ => True

/-! ### What a call leaves in the cache -/

variable {setup : Setup} {w w' : World} {mint tokenProgram : Pubkey} {α : Type}

/-- An operation that always has an answer and leaves the prefetched tokens alone. -/
def Bystands (op : Op) : Prop :=
  ∀ w : World, ∃ answer w', w.alone op = some (answer, w') ∧ w'.prefetch = w.prefetch

theorem exec_bystands {x : Prog α} (uses : Uses Bystands x) (w : World) :
    ∃ a w', x.exec World.alone w = some (a, w') ∧ w'.prefetch = w.prefetch :=
  exec_keeps (fun _ bystands => bystands) uses w

/-- A call with the entry outranked or replaced. -/
structure Called (w w' : World) (mint : Pubkey) (mirror : List Pubkey) (score : ℕ) (force : Bool) : Prop where
  others : ∀ mint', mint' ≠ mint → w'.prefetch.get mint' = w.prefetch.get mint'
  outranked : ∀ token, w.prefetch.get mint = some token → force = false → score < token.qualityScore →
    w'.prefetch.get mint = some token
  replaced : (∀ token, w.prefetch.get mint = some token → force = true ∨ token.qualityScore ≤ score) →
    ∃ token, w'.prefetch.get mint = some token ∧ token.mirrorAccounts = mirror

theorem prefetchToken_called (setup : Setup) (w : World) (mint tokenProgram : Pubkey) (mirror : List Pubkey)
    (wallet : Pubkey) (signature : Signature) (score : ℕ) (force : Bool) :
    ∃ token w', (prefetchToken setup mint tokenProgram mirror wallet signature score force).exec World.alone w =
      some (token, w') ∧ Called w w' mint mirror score force := by
  have read : World.alone w (.prefetchGet mint) = some (w.prefetch.get mint, w) := rfl
  unfold prefetchToken
  rw [exec_call read]
  cases kept : (w.prefetch.get mint).filter fun token => !force && score < token.qualityScore with
  | some token =>
    obtain ⟨stored, higher⟩ := Option.filter_eq_some_iff.mp kept
    have outranks : force = false ∧ score < token.qualityScore := by simpa using higher
    refine ⟨token, w, rfl, fun _ _ => rfl, fun _ same _ _ => same, fun lower => ?_⟩
    rcases lower token stored with forced | below
    · rw [forced] at outranks
      cases outranks.1
    · exact absurd outranks.2 (Nat.not_lt.mpr below)
  | none =>
    refine ⟨_, _, rfl, ?_⟩
    constructor
    case others => exact fun mint' other => DashMap.get_insert_other _ _ other
    case outranked =>
      intro token stored unforced higher
      rw [stored] at kept
      simp [Option.filter, unforced, higher] at kept
    case replaced => exact fun _ => ⟨_, DashMap.get_insert_same _ _ _, rfl⟩

theorem Called.congr {w₁ w₂ : World} {mirror : List Pubkey} {score : ℕ} {force : Bool}
    (called : Called w₁ w₂ mint mirror score force) (start : w₁.prefetch = w.prefetch)
    (ends : w'.prefetch = w₂.prefetch) : Called w w' mint mirror score force := by
  obtain ⟨others, outranked, replaced⟩ := called
  rw [start, ← ends] at others outranked replaced
  exact ⟨others, outranked, replaced⟩

theorem hasMirror_congr (same : w'.prefetch.get mint = w.prefetch.get mint) : HasMirror w' mint ↔ HasMirror w mint := by
  unfold HasMirror
  rw [same]

/-- A mirror survives a call exactly if the call is for another mint, brings a mirror or is outranked. -/
theorem Called.keeps_iff {mint' : Pubkey} {mirror : List Pubkey} {score : ℕ} {force : Bool}
    (called : Called w w' mint' mirror score force) (has : HasMirror w mint) :
    (¬ Unprefetched w' mint → HasMirror w' mint) ↔
      (mint' = mint → mirror ≠ [] ∨
        ∃ token, w.prefetch.get mint = some token ∧ force = false ∧ score < token.qualityScore) := by
  by_cases other : mint = mint'
  · subst other
    obtain ⟨token, stored, nonempty⟩ := has
    by_cases outranks : force = false ∧ score < token.qualityScore
    · have kept : HasMirror w' mint := ⟨token, called.outranked token stored outranks.1 outranks.2, nonempty⟩
      exact iff_of_true (fun _ => kept) fun _ => Or.inr ⟨token, stored, outranks⟩
    · obtain ⟨token', stored', same⟩ := called.replaced fun found read => by
        obtain rfl : token = found := Option.some.inj (stored.symm.trans read)
        by_cases forced : force = true
        · exact Or.inl forced
        · exact Or.inr (Nat.not_lt.mp fun higher => outranks ⟨by simpa using forced, higher⟩)
      constructor
      · intro keeps _
        obtain ⟨found, read, filled⟩ := keeps (by simp [Unprefetched, stored'])
        obtain rfl : token' = found := Option.some.inj (stored'.symm.trans read)
        exact Or.inl (same ▸ filled)
      · intro brings _
        refine ⟨token', stored', ?_⟩
        rcases brings rfl with filled | ⟨found, read, higher⟩
        · rwa [same]
        · obtain rfl : token = found := Option.some.inj (stored.symm.trans read)
          exact absurd higher outranks
  · have kept : HasMirror w' mint := (hasMirror_congr (called.others mint other)).mpr has
    exact iff_of_true (fun _ => kept) fun same => absurd same.symm other

/-! ### What a step leaves in the cache -/

theorem warmBuyCaches_called (setup : Setup) (w : World) (mint tokenProgram : Pubkey) (mirror : List Pubkey)
    (wallet : Pubkey) (signature : Signature) (score : ℕ) (force : Bool) :
    ∃ w', (warmBuyCaches setup mint tokenProgram mirror wallet signature score force).exec World.alone w = some ((), w') ∧
      Called w w' mint mirror score force := by
  obtain ⟨token, w₁, first, called⟩ :=
    prefetchToken_called setup w mint tokenProgram mirror wallet signature score force
  have tables (op : SubscriberOp) : Bystands (.subscriber op) := fun w => ⟨_, _, rfl, rfl⟩
  have tracks : Uses Bystands (do
      trackBondingCurve mint token.bondingCurve
      trackAta mint token.userAta) :=
    uses_bind (trackBondingCurve_uses tables) fun _ => trackAta_uses tables
  obtain ⟨_, w', later, same⟩ := exec_bystands tracks w₁
  refine ⟨w', ?_, called.congr rfl same⟩
  unfold warmBuyCaches
  rw [exec_bind, first]
  exact later

theorem exec_reuseMirror (w : World) (trade : DetectedTrade) (mint : Pubkey) :
    ∃ cached, (reuseMirror trade mint).exec World.alone w = some (cached, w) ∧
      cached.getD trade.instructionAccounts = effectiveMirror w trade mint := by
  unfold reuseMirror effectiveMirror
  split
  · exact ⟨w.mirrorCache.get mint, rfl, rfl⟩
  · exact ⟨none, rfl, rfl⟩

theorem enterGroups_bystand (trade : DetectedTrade) (mint tokenProgram : Pubkey) (mirror : List Pubkey)
    (groups : List CopyGroup) : Uses Bystands (do
      let entries ← entryGroups mint trade mirror groups
      forEach (enterGroup mint tokenProgram trade) entries) := by
  refine uses_bind (entryGroups_uses (fun _ w => ⟨_, _, rfl, rfl⟩) fun _ w => ⟨_, _, rfl, rfl⟩) fun entries => ?_
  refine forEach_uses fun group => uses_ite trivial (uses_ite (uses_ite trivial ?_) (uses_ite ?_ ?_))
  · exact uses_call.mpr fun w => ⟨_, _, rfl, rfl⟩
  · exact uses_bind (uses_call.mpr fun w => ⟨_, _, rfl, rfl⟩) fun _ => trivial
  · exact uses_call.mpr fun w => ⟨_, _, rfl, rfl⟩

theorem warmForEntry_called (setup : Setup) (w : World) (trade : DetectedTrade) (mint tokenProgram : Pubkey)
    (mirror : List Pubkey) (groups : List CopyGroup) :
    ∃ w', (warmForEntry setup trade mint tokenProgram mirror groups).exec World.alone w = some ((), w') ∧
      (groups.any (wantsEntry · trade) = true → Called w w' mint mirror (tradeSignalQuality trade) false) ∧
      (groups.any (wantsEntry · trade) = false → w'.prefetch = w.prefetch) := by
  unfold warmForEntry
  by_cases wants : groups.any (wantsEntry · trade) = true
  · obtain ⟨w', ends, called⟩ := warmBuyCaches_called setup w mint tokenProgram mirror trade.sourceWallet
      trade.signature (tradeSignalQuality trade) false
    rw [if_pos wants]
    exact ⟨w', ends, fun _ => called, fun unwanted => by simp [wants] at unwanted⟩
  · rw [if_neg wants]
    exact ⟨w, rfl, fun wanted => absurd wanted wants, fun _ => rfl⟩

theorem curveTrade_called (setup : Setup) (w : World) (trade : DetectedTrade) (mint tokenProgram : Pubkey)
    (groups : List CopyGroup) :
    ∃ w', (curveTrade setup trade mint tokenProgram groups).exec World.alone w = some ((), w') ∧
      (groups.any (wantsEntry · trade) = true →
        Called w w' mint (effectiveMirror w trade mint) (tradeSignalQuality trade) false) ∧
      (groups.any (wantsEntry · trade) = false → w'.prefetch = w.prefetch) := by
  obtain ⟨cached, first, mirror⟩ := exec_reuseMirror w trade mint
  obtain ⟨w₁, second, wanted, unwanted⟩ :=
    warmForEntry_called setup w trade mint tokenProgram (effectiveMirror w trade mint) groups
  obtain ⟨_, w', third, same⟩ :=
    exec_bystands (enterGroups_bystand trade mint tokenProgram (effectiveMirror w trade mint) groups) w₁
  refine ⟨w', ?_, fun wants => (wanted wants).congr rfl same, fun none => same.trans (unwanted none)⟩
  unfold curveTrade
  rw [exec_bind, first, Option.bind_some]
  dsimp only
  rw [mirror, exec_bind, second]
  exact third

theorem handleTrigger_called (setup : Setup) (w : World) (trigger : ConsensusTrigger) :
    ∃ w', (handleTrigger setup trigger).exec World.alone w = some ((), w') ∧
      ((w.groups.getGroup trigger.groupId).isSome = true →
        Called w w' trigger.tokenMint trigger.canonicalInstructionAccounts 1000 true) ∧
      (w.groups.getGroup trigger.groupId = none → w'.prefetch = w.prefetch) := by
  have sent : ∃ w₁ : World, w.alone (.tgSend (.consensusReached trigger.groupName trigger.tokenMint trigger.wallets)) =
      some ((), w₁) ∧ w₁.prefetch = w.prefetch ∧ w₁.groups = w.groups := ⟨_, rfl, rfl, rfl⟩
  obtain ⟨w₁, first, same, sameGroups⟩ := sent
  have found : w₁.alone (.getGroup trigger.groupId) = some (w.groups.getGroup trigger.groupId, w₁) :=
    congrArg (fun groups : GroupManager => some (groups.getGroup trigger.groupId, w₁)) sameGroups
  unfold handleTrigger
  rw [exec_call first, exec_call found]
  cases w.groups.getGroup trigger.groupId with
  | none => exact ⟨w₁, rfl, nofun, fun _ => same⟩
  | some group =>
    obtain ⟨w₂, second, called⟩ := warmBuyCaches_called setup w₁ trigger.tokenMint trigger.canonicalTokenProgram
      trigger.canonicalInstructionAccounts trigger.canonicalWallet trigger.canonicalSignature 1000 true
    have spawned (buy : BuyTask) : Uses Bystands (perform (.spawnBuy buy none)) :=
      uses_call.mpr fun w => ⟨_, _, rfl, rfl⟩
    obtain ⟨_, w', third, last⟩ := exec_bystands (spawned ⟨group, trigger.tokenMint, trigger.wallets,
      trigger.canonicalTradeOrigin, trigger.canonicalInstructionData⟩) w₂
    refine ⟨w', ?_, fun _ => called.congr same last, nofun⟩
    rw [exec_bind, second]
    exact third

/-! ### Runs -/

theorem prefetching_code (step : PrefetchStep) (calm : ∀ env, step ≠ .disturb env)
    (ends : (step.code setup).exec World.alone w = some ((), w')) : (prefetching setup w step).1 = w' := by
  cases step with
  | disturb env => exact absurd rfl (calm env)
  | curveTrade | cacheMirror | consensus | remove =>
    unfold prefetching
    dsimp only
    rw [ends]
    rfl

theorem disturb_prefetch {env : World.Disturbance} (change : w.disturb env = some w') :
    w'.prefetch.get mint = w.prefetch.get mint ∨ Unprefetched w' mint := by
  cases env
  case prefetchForget mint' =>
    cases change
    by_cases same : mint = mint'
    · exact Or.inr ((DashMap.get_remove ..).trans (if_pos same))
    · exact Or.inl ((DashMap.get_remove ..).trans (if_neg same))
  case land l =>
    dsimp only [World.disturb] at change
    split at change <;> cases change
    exact Or.inl rfl
  all_goals
    cases change
    exact Or.inl rfl

/-- One step keeps the mirror of a mint exactly if its call brings one or is outranked. -/
theorem prefetching_keeps_iff {step : PrefetchStep} (has : HasMirror w mint) :
    (¬ Unprefetched (prefetching setup w step).1 mint → HasMirror (prefetching setup w step).1 mint) ↔
      Brings w mint step := by
  have kept {w' : World} (same : w'.prefetch.get mint = w.prefetch.get mint ∨ Unprefetched w' mint) :
      ¬ Unprefetched w' mint → HasMirror w' mint :=
    fun there => (hasMirror_congr (same.resolve_right there)).mpr has
  cases step with
  | curveTrade trade mint' tokenProgram groups =>
    obtain ⟨w', ends, wanted, unwanted⟩ := curveTrade_called setup w trade mint' tokenProgram groups
    rw [prefetching_code (.curveTrade trade mint' tokenProgram groups) nofun ends]
    by_cases wants : groups.any (wantsEntry · trade) = true
    · rw [(wanted wants).keeps_iff has]
      refine forall_congr' fun same => ?_
      subst same
      simp [wants]
    · refine iff_of_true (kept (Or.inl ?_)) fun _ wants' => absurd wants' wants
      rw [unwanted (by simpa using wants)]
  | cacheMirror trade =>
    have bystands : Uses Bystands (cacheMirror trade) := cacheMirror_uses fun _ _ w => ⟨_, _, rfl, rfl⟩
    obtain ⟨_, w', ends, same⟩ := exec_bystands bystands w
    rw [prefetching_code (.cacheMirror trade) nofun ends]
    exact iff_of_true (kept (Or.inl (by rw [same]))) trivial
  | consensus trigger =>
    obtain ⟨w', ends, found, missing⟩ := handleTrigger_called setup w trigger
    rw [prefetching_code (.consensus trigger) nofun ends]
    by_cases known : (w.groups.getGroup trigger.groupId).isSome = true
    · rw [(found known).keeps_iff has]
      refine forall_congr' fun same => ?_
      simp [known]
    · refine iff_of_true (kept (Or.inl ?_)) fun _ known' => absurd known' known
      rw [missing (by simpa using known)]
  | remove mint' =>
    rw [prefetching_code (.remove mint') nofun rfl]
    refine iff_of_true (kept ?_) trivial
    by_cases same : mint = mint'
    · exact Or.inr ((DashMap.get_remove ..).trans (if_pos same))
    · exact Or.inl ((DashMap.get_remove ..).trans (if_neg same))
  | disturb env =>
    refine iff_of_true (kept ?_) trivial
    show ((w.disturb env).getD w).prefetch.get mint = _ ∨ Unprefetched ((w.disturb env).getD w) mint
    cases change : w.disturb env with
    | none => exact Or.inl rfl
    | some w' => exact disturb_prefetch change

/-- From any point of the run on, a mirror in the cache stays until its entry is removed or expires. -/
def MirrorStays (setup : Setup) (w : World) (steps : List PrefetchStep) (mint : Pubkey) : Prop :=
  ∀ before during, before ++ during <+: steps → HasMirror (Machine.after (prefetching setup) w before) mint →
    (∀ some, some <+: during → ¬ Unprefetched (Machine.after (prefetching setup) w (before ++ some)) mint) →
    HasMirror (Machine.after (prefetching setup) w (before ++ during)) mint

theorem mirrorStays_iff_steps (setup : Setup) (w : World) (steps : List PrefetchStep) (mint : Pubkey) :
    MirrorStays setup w steps mint ↔ ∀ before step, before ++ [step] <+: steps →
      HasMirror (Machine.after (prefetching setup) w before) mint →
      ¬ Unprefetched (prefetching setup (Machine.after (prefetching setup) w before) step).1 mint →
      HasMirror (prefetching setup (Machine.after (prefetching setup) w before) step).1 mint := by
  have present (w : World) (has : HasMirror w mint) : ¬ Unprefetched w mint := by
    obtain ⟨token, stored, -⟩ := has
    simp [Unprefetched, stored]
  exact Machine.stays_iff (prefetching setup) present steps

/-- Mirrors stay in a run exactly if no call for a mint with a mirror comes without one, unless the entry outranks it. -/
theorem mirrorStays_iff (setup : Setup) (w : World) (steps : List PrefetchStep) (mint : Pubkey) :
    MirrorStays setup w steps mint ↔ ∀ before step, before ++ [step] <+: steps →
      HasMirror (Machine.after (prefetching setup) w before) mint →
      Brings (Machine.after (prefetching setup) w before) mint step := by
  refine (mirrorStays_iff_steps setup w steps mint).trans ?_
  refine forall_congr' fun before => forall_congr' fun step => imp_congr_right fun _ => forall_congr' fun has => ?_
  exact prefetching_keeps_iff has

/-! ### A mirror that is lost -/

/-- A direct buy with a mirror, and two wrapped buys of other wallets that show no accounts. -/
def sampleDirect : DetectedTrade :=
  { sampleTrade "t1" false with
    instructionData := List.replicate 24 0
    instructionAccounts := List.replicate 18 1 }

def sampleWrapped (wallet : Pubkey) (signature : Signature) : DetectedTrade :=
  { sampleTrade signature true with
    sourceWallet := wallet
    tradeOrigin := .wrapperCpi }

def samplePair : CopyGroup := { sampleGroup with consensusMinWallets := 2 }

def sampleCalls : List PrefetchStep :=
  [.cacheMirror sampleDirect, .curveTrade sampleDirect 5 TOKEN_PROGRAM [{ sampleGroup with id := "g2" }],
    .curveTrade (sampleWrapped 8 "t2") 5 TOKEN_PROGRAM [samplePair],
    .curveTrade (sampleWrapped 9 "t3") 5 TOKEN_PROGRAM [samplePair]]

/-- The two wrapped buys make a pair. -/
def sampleTrigger : ConsensusTrigger where
  groupId := "g1"
  groupName := "first"
  tokenMint := 5
  wallets := [8, 9]
  firstSignature := "t2"
  canonicalSignature := "t3"
  canonicalWallet := 9
  canonicalTokenProgram := TOKEN_PROGRAM
  canonicalInstructionData := []
  canonicalInstructionAccounts := []
  canonicalTradeOrigin := .wrapperCpi
  triggeredAt := 0

/-- The trigger of the pair takes the mirror away. -/
theorem mirror_lost :
    sampleTrigger ∈ (Machine.after (prefetching sampleSetup) (World.new sampleGroups) sampleCalls).triggers ∧
    ¬ MirrorStays sampleSetup (World.new sampleGroups) (sampleCalls ++ [.consensus sampleTrigger]) 5 := by
  refine ⟨by decide +kernel, fun stays => ?_⟩
  have before : ((Machine.after (prefetching sampleSetup) (World.new sampleGroups) sampleCalls).prefetch.get 5).map
      (·.mirrorAccounts) = some (List.replicate 18 1) := by decide +kernel
  have after : ((prefetching sampleSetup (Machine.after (prefetching sampleSetup) (World.new sampleGroups) sampleCalls)
      (.consensus sampleTrigger)).1.prefetch.get 5).map (·.mirrorAccounts) = some [] := by decide +kernel
  obtain ⟨token, stored, mirror⟩ := Option.map_eq_some_iff.mp before
  obtain ⟨token', stored', empty⟩ := Option.map_eq_some_iff.mp after
  have has : HasMirror (Machine.after (prefetching sampleSetup) (World.new sampleGroups) sampleCalls) 5 :=
    ⟨token, stored, by simp [mirror]⟩
  have there : ¬ Unprefetched (prefetching sampleSetup
      (Machine.after (prefetching sampleSetup) (World.new sampleGroups) sampleCalls) (.consensus sampleTrigger)).1 5 := by
    unfold Unprefetched
    rw [stored']
    exact Option.some_ne_none token'
  obtain ⟨found, read, filled⟩ := (mirrorStays_iff_steps _ _ _ _).mp stays sampleCalls (.consensus sampleTrigger)
    List.prefix_rfl has there
  obtain rfl : token' = found := Option.some.inj (stored'.symm.trans read)
  exact filled empty

end CopyTrader.Tasks
