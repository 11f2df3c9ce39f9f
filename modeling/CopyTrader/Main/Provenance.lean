import CopyTrader.Consensus.Backing
import CopyTrader.Lib.Evidence
import CopyTrader.Tasks.Alphabet

/-!
# Where buys and votes come from

Every buy and every vote of a report was cleared: the intake of the report had asked whether the
process runs, whether the report is new, which groups follow the wallet and whether the mint is
blocked, and the answers let it through. The buys of triggers carry what the trigger and its group say.
-/

namespace CopyTrader.Main
open Lib AutoSell Consensus Processor Tasks Program

/-- The task has asked for this, in a world that told it so. -/
def Asked (past : List Moment) (op : Op) (told : World → Prop) : Prop := ∃ e ∈ past, e.op = op ∧ told e.world

/-- What the intake of a report had been told before it acted for a group. -/
structure Cleared (past : List Moment) (trade : DetectedTrade) (group : CopyGroup) (mint : Pubkey) : Prop where
  running : Asked past .isRunning fun w => w.isRunning = true
  new : Asked past (.shouldSkipSignature trade) fun w => (shouldSkipSignature w.sigCache trade w.clock).2 = false
  followed : Asked past (.groupsForWallet trade.sourceWallet) fun w => w.groups.getGroup group.id = some group
  enabled : group.enabled = true
  listed : trade.sourceWallet ∈ group.wallets
  unblocked : Asked past (.isBlocked mint) fun w => w.groups.isBlocked mint = false

/-- The group wants to enter with the report. -/
structure Wanted (trade : DetectedTrade) (group : CopyGroup) (mint tokenProgram : Pubkey) : Prop where
  token : extractTokenInfo trade = some (mint, tokenProgram)
  entry : wantsEntry group trade = true
  succeeded : trade.executionFailed = false
  enough : belowMinimum group trade = false

/-- A reverse buy has a mirror, of the report or of an earlier buy. -/
def Mirrored (past : List Moment) (trade : DetectedTrade) (mint : Pubkey) : Prop :=
  trade.isBuy = true ∨ trade.instructionAccounts ≠ [] ∨
    Asked past (.mirrorCacheGet mint) fun w => ∃ mirror, w.mirrorCache.get mint = some mirror ∧ mirror ≠ []

/-- A buy as a trigger orders it, for the group that the store held under its id. -/
structure Ordered (past : List Moment) (trigger : ConsensusTrigger) (b : BuyTask) : Prop where
  group : Asked past (.getGroup trigger.groupId) fun w => w.groups.getGroup trigger.groupId = some b.group
  mint : b.mint = trigger.tokenMint
  wallets : b.wallets = trigger.wallets
  origin : b.tradeOrigin = trigger.canonicalTradeOrigin
  instruction : b.targetInstructionData = trigger.canonicalInstructionData

def targetInstructionOf (group : CopyGroup) (trade : DetectedTrade) : List UInt8 :=
  if group.entryMode = ENTRY_MODE_SMART_BUY then trade.instructionData else []

/-- A buy of a report for a group that one wallet is enough for. -/
structure Followed (past : List Moment) (trade : DetectedTrade) (b : BuyTask) : Prop where
  cleared : Cleared past trade b.group b.mint
  wanted : ∃ tokenProgram, Wanted trade b.group b.mint tokenProgram
  mirrored : Mirrored past trade b.mint
  internal : trade.tradeType = .pumpfun
  single : b.group.consensusMinWallets ≤ 1
  wallets : b.wallets = [trade.sourceWallet]
  origin : b.tradeOrigin = trade.tradeOrigin
  instruction : b.targetInstructionData = targetInstructionOf b.group trade

/-- A buy of a report from another venue, for a group that trades there. -/
structure FollowedOutside (past : List Moment) (trade : DetectedTrade) (b : ExternalBuyTask) : Prop where
  cleared : Cleared past trade b.group b.mint
  wanted : Wanted trade b.group b.mint b.tokenProgram
  external : trade.tradeType ≠ .pumpfun
  live : b.group.externalMode = .live
  single : b.group.consensusMinWallets ≤ 1
  wallet : b.sourceWallet = trade.sourceWallet

/-- A vote of a report, for a group that asks for more wallets. -/
structure Voted (past : List Moment) (trade : DetectedTrade) (signal : BuySignal) (group : CopyGroup) : Prop where
  cleared : Cleared past trade group signal.tokenMint
  wanted : Wanted trade group signal.tokenMint signal.tokenProgram
  mirrored : Mirrored past trade signal.tokenMint
  internal : trade.tradeType = .pumpfun
  several : 1 < group.consensusMinWallets
  signal : signal = buySignal group signal.tokenMint signal.tokenProgram trade (targetInstructionOf group trade)

/-- What a task of the role may do after a past. -/
def reasons (role : Role) (past : List Moment) : Op → Prop
  | .spawnBuy b (some trade) => role = .trade trade ∧ Followed past trade b
  | .spawnBuy b none => ∃ trigger, role = .trigger trigger ∧ Ordered past trigger b
  | .spawnExternalBuy b cause => ∃ trade, cause = some trade ∧ role = .trade trade ∧ FollowedOutside past trade b
  | .submitSignal signal => ∃ trade group, role = .trade trade ∧ Voted past trade signal group
  | _ => True

def needsReason : Op → Bool
  | .spawnBuy .. | .spawnExternalBuy .. | .submitSignal _ => true
  | _ => false

theorem reasons_free {role : Role} {past : List Moment} {op : Op} (free : needsReason op = false) :
    reasons role past op := by
  cases op <;> trivial

/-! ### More of a past -/

variable {setup : Setup} {past : List Moment} {trade : DetectedTrade} {group : CopyGroup} {mint tokenProgram : Pubkey}

theorem Asked.grow {op : Op} {told : World → Prop} (asked : Asked past op told) (e : Moment) :
    Asked (past ++ [e]) op told := by
  obtain ⟨e', member, same, told⟩ := asked
  exact ⟨e', List.mem_append_left _ member, same, told⟩

theorem asked_now {op : Op} {told : World → Prop} {w : World} {answer : Ans op} (now : told w) :
    Asked (past ++ [⟨w, op, answer⟩]) op told := ⟨_, List.mem_concat_self, rfl, now⟩

theorem Cleared.grow (cleared : Cleared past trade group mint) (e : Moment) : Cleared (past ++ [e]) trade group mint :=
  { cleared with
    running := cleared.running.grow e
    new := cleared.new.grow e
    followed := cleared.followed.grow e
    unblocked := cleared.unblocked.grow e }

theorem Mirrored.grow (mirrored : Mirrored past trade mint) (e : Moment) : Mirrored (past ++ [e]) trade mint :=
  mirrored.imp_right fun shown => shown.imp_right fun asked => asked.grow e

/-! ### The intake keeps to its reasons -/

abbrev historian (setup : Setup) (role : Role) := (process setup).historian (reasons role)

theorem replied {w : World} {op : Op} {answer : Ans op} (answered : (process setup).Answers ⟨w, op, answer⟩) :
    ∃ choice w', w.respond op choice = some (answer, w') := answered

/-- The operations that need no reason, over a past that meets an invariant. -/
theorem keeps_free {I : List Moment → Prop} {role : Role} (grows : ∀ past e, I past → I (past ++ [e])) {op : Op}
    (free : needsReason op = false) : (historian setup role).Keeps I op :=
  System.historian_keeps grows fun _ _ => reasons_free free

def AllCleared (trade : DetectedTrade) (groups : List CopyGroup) (mint : Pubkey) (past : List Moment) : Prop :=
  ∀ group ∈ groups, Cleared past trade group mint

theorem AllCleared.grow {groups : List CopyGroup} (past : List Moment) (e : Moment)
    (cleared : AllCleared trade groups mint past) : AllCleared trade groups mint (past ++ [e]) :=
  fun group member => (cleared group member).grow e

theorem externalGroup_reasons {groups : List CopyGroup} (member : group ∈ groups)
    (token : extractTokenInfo trade = some (mint, tokenProgram)) (external : trade.tradeType ≠ .pumpfun) :
    Uses ((historian setup (.trade trade)).Keeps (AllCleared trade groups mint))
      (externalGroup mint tokenProgram trade group) := by
  unfold externalGroup
  split
  · trivial
  · rename_i trades
    refine uses_bind (followSell_uses (keeps_free AllCleared.grow rfl) fun _ => keeps_free AllCleared.grow rfl) fun _ => ?_
    split
    · trivial
    · rename_i enters
      simp only [Bool.or_eq_true, Bool.not_eq_true', not_or, Bool.not_eq_false, Bool.not_eq_true,
        decide_eq_true_eq, Nat.not_lt] at trades enters
      obtain ⟨⟨⟨entry, succeeded⟩, enough⟩, single⟩ := enters
      have live : group.externalMode = .live := by simpa [ExternalMode.isLive] using trades.2
      refine uses_call.mpr (System.historian_keeps AllCleared.grow fun past cleared => ?_)
      exact ⟨trade, rfl, rfl, ⟨cleared group member, ⟨token, entry, succeeded, enough⟩, external, live, single, rfl⟩⟩

/-- What the intake of a curve trade knows before the groups enter. -/
def EntryCleared (trade : DetectedTrade) (groups : List CopyGroup) (mint : Pubkey) (past : List Moment) : Prop :=
  AllCleared trade groups mint past ∧ Mirrored past trade mint

theorem EntryCleared.grow {groups : List CopyGroup} (past : List Moment) (e : Moment)
    (cleared : EntryCleared trade groups mint past) : EntryCleared trade groups mint (past ++ [e]) :=
  ⟨AllCleared.grow past e cleared.1, cleared.2.grow e⟩

theorem enterGroup_reasons {groups : List CopyGroup} (member : group ∈ groups) (entry : wantsEntry group trade = true)
    (token : extractTokenInfo trade = some (mint, tokenProgram)) (internal : trade.tradeType = .pumpfun) :
    Uses ((historian setup (.trade trade)).Keeps (EntryCleared trade groups mint))
      (enterGroup mint tokenProgram trade group) := by
  unfold enterGroup
  dsimp only
  split
  · trivial
  · rename_i enough
    have wanted (succeeded : ¬ trade.executionFailed = true) : Wanted trade group mint tokenProgram :=
      ⟨token, entry, Bool.eq_false_iff.mpr succeeded, Bool.eq_false_iff.mpr enough⟩
    split
    · rename_i single
      split
      · trivial
      · rename_i succeeded
        refine uses_call.mpr (System.historian_keeps EntryCleared.grow fun past ⟨cleared, mirrored⟩ => ?_)
        exact ⟨rfl, ⟨cleared group member, ⟨tokenProgram, wanted succeeded⟩, mirrored, internal, single, rfl, rfl, rfl⟩⟩
    · rename_i several
      split
      · exact uses_bind (uses_call.mpr (keeps_free EntryCleared.grow rfl)) fun _ => trivial
      · rename_i succeeded
        refine uses_call.mpr (System.historian_keeps EntryCleared.grow fun past ⟨cleared, mirrored⟩ => ?_)
        exact ⟨trade, group, rfl,
          ⟨cleared group member, wanted succeeded, mirrored, internal, Nat.not_le.mp several, rfl⟩⟩

/-- The groups that enter are among those of the report and want to; a reverse buy has a mirror. -/
theorem entryGroups_reasons {I : List Moment → Prop} (grows : ∀ past e, I past → I (past ++ [e]))
    {groups : List CopyGroup} {mirror : List Pubkey} {past : List Moment} (start : I past) :
    wp (historian setup (.trade trade)) (fun entries past => I past ∧ ∀ group ∈ entries,
        group ∈ groups ∧ wantsEntry group trade = true ∧ (trade.isBuy = true ∨ mirror ≠ []))
      (entryGroups mint trade mirror groups) past := by
  induction groups generalizing past with
  | nil => exact ⟨start, fun _ member => nomatch member⟩
  | cons group rest ih =>
    have sells : Uses ((historian setup (.trade trade)).Keeps I) (followSell group mint trade) :=
      followSell_uses (keeps_free grows rfl) fun _ => keeps_free grows rfl
    have enters : wp (historian setup (.trade trade)) (fun enters past => I past ∧
        (enters = true → wantsEntry group trade = true ∧ (trade.isBuy = true ∨ mirror ≠ [])))
        (curveGroup mint trade mirror group) past := by
      refine wp_ite (fun _ => ⟨start, nofun⟩) fun allowed => ?_
      refine wp_seq (wp_keeps sells start) fun _ past kept => ⟨kept, fun wants => ⟨wants, ?_⟩⟩
      by_contra neither
      rw [not_or, Bool.not_eq_true, not_not] at neither
      obtain ⟨reverse, rfl⟩ := neither
      have sells : group.buyOnSmartSell = true := by simpa [wantsEntry, reverse] using wants
      exact allowed (by simp [wants, reverse, sells])
    refine wp_seq enters fun enters past ⟨kept, entry⟩ => wp_seq (ih kept) fun others past ⟨kept', entries⟩ => ?_
    refine ⟨kept', fun group' member => ?_⟩
    have later (member : group' ∈ others) : group' ∈ group :: rest ∧ wantsEntry group' trade = true ∧
        (trade.isBuy = true ∨ mirror ≠ []) := by
      obtain ⟨among, holds⟩ := entries group' member
      exact ⟨List.mem_cons_of_mem _ among, holds⟩
    cases enters with
    | false => exact later member
    | true =>
      rcases List.mem_cons.mp member with rfl | old
      · exact ⟨List.mem_cons_self, entry rfl⟩
      · exact later old

/-- The mirror of a curve trade: its own accounts, or what the cache shows of the mint. -/
theorem reuseMirror_reasons {I : List Moment → Prop} (grows : ∀ past e, I past → I (past ++ [e]))
    {past : List Moment} (start : I past) :
    wp (historian setup (.trade trade)) (fun cached past => I past ∧
        (trade.isBuy = true ∨ cached.getD trade.instructionAccounts ≠ [] → Mirrored past trade mint))
      (reuseMirror trade mint) past := by
  apply wp_ite
  · intro _
    refine ⟨trivial, fun w mirror answered => ⟨grows _ _ start, fun holds => ?_⟩⟩
    obtain ⟨_, _, reply⟩ := replied answered
    cases reply
    refine holds.imp_right fun shown => ?_
    cases read : w.mirrorCache.get mint with
    | none =>
      rw [read] at shown
      exact Or.inl shown
    | some mirror =>
      rw [read] at shown
      exact Or.inr (asked_now ⟨mirror, read, shown⟩)
  · intro _
    exact ⟨start, fun holds => holds.imp_right Or.inl⟩

theorem curveTrade_reasons {groups : List CopyGroup} (token : extractTokenInfo trade = some (mint, tokenProgram))
    (internal : trade.tradeType = .pumpfun) {past : List Moment} (start : AllCleared trade groups mint past) :
    wp (historian setup (.trade trade)) (fun _ _ => True) (curveTrade setup trade mint tokenProgram groups) past := by
  refine wp_seq (reuseMirror_reasons AllCleared.grow start) fun cached past ⟨cleared, mirrored⟩ => ?_
  let I (past : List Moment) : Prop := AllCleared trade groups mint past ∧
    (trade.isBuy = true ∨ cached.getD trade.instructionAccounts ≠ [] → Mirrored past trade mint)
  have grows (past : List Moment) (e : Moment) (holds : I past) : I (past ++ [e]) :=
    ⟨AllCleared.grow past e holds.1, fun shown => (holds.2 shown).grow e⟩
  have start : I past := ⟨cleared, mirrored⟩
  refine wp_seq (wp_keeps (warmForEntry_uses (keeps_free grows rfl) (keeps_free grows rfl)
    (fun _ => keeps_free grows rfl) fun _ => keeps_free grows rfl) start) fun _ past kept => ?_
  refine wp_seq (entryGroups_reasons grows kept) fun entries past ⟨kept, entering⟩ => ?_
  cases entries with
  | nil => trivial
  | cons first rest =>
    have mirrored := kept.2 (entering first List.mem_cons_self).2.2
    refine wp_mono (fun _ _ _ => trivial) (wp_keeps (I := EntryCleared trade groups mint) ?_ ⟨kept.1, mirrored⟩)
    refine forEach_uses_mem fun group member => ?_
    obtain ⟨among, entry, _⟩ := entering group member
    exact enterGroup_reasons among entry token internal

theorem followed_of_answer {w : World} {choice : Choice} {wallet : Pubkey} {groups : List CopyGroup} {w' : World}
    (reply : w.respond (.groupsForWallet wallet) choice = some (groups, w')) (member : group ∈ groups) :
    w.groups.getGroup group.id = some group ∧ group.enabled = true ∧ wallet ∈ group.wallets := by
  cases reply
  have filtered := (List.mem_filter.mp member).2
  rw [Bool.and_eq_true, List.contains_iff_mem] at filtered
  exact ⟨w.groups.getGroup_of_mem member, filtered⟩

theorem handleTrade_reasons :
    wp (historian setup (.trade trade)) (fun _ _ => True) (handleTrade setup trade) [] := by
  refine wp_perform trivial fun w running answered => ?_
  obtain ⟨_, _, reply⟩ := replied answered
  cases reply
  refine wp_ite (fun _ => trivial) fun on => ?_
  rw [Bool.not_eq_true', Bool.not_eq_false] at on
  refine wp_perform trivial fun w' skip answered => ?_
  obtain ⟨_, _, reply⟩ := replied answered
  cases reply
  refine wp_ite (fun _ => trivial) fun passed => ?_
  rw [Bool.not_eq_true] at passed
  let I (past : List Moment) : Prop := Asked past .isRunning (fun w => w.isRunning = true) ∧
    Asked past (.shouldSkipSignature trade) fun w => (shouldSkipSignature w.sigCache trade w.clock).2 = false
  have grows (past : List Moment) (e : Moment) (holds : I past) : I (past ++ [e]) :=
    ⟨holds.1.grow e, holds.2.grow e⟩
  refine wp_seq (wp_keeps (I := I) (cacheMirror_uses fun _ _ => keeps_free grows rfl)
    ⟨(asked_now on).grow _, asked_now passed⟩) fun _ past asked => ?_
  refine wp_perform trivial fun w groups listed => ?_
  refine wp_ite (fun _ => trivial) fun _ => ?_
  cases token : extractTokenInfo trade with
  | none => trivial
  | some found =>
    obtain ⟨mint, tokenProgram⟩ := found
    refine wp_perform trivial fun w' blocked answered => ?_
    obtain ⟨_, _, reply⟩ := replied answered
    cases reply
    refine wp_ite (fun _ => trivial) fun unblocked => ?_
    rw [Bool.not_eq_true] at unblocked
    have cleared : AllCleared trade groups mint
        (past ++ [⟨w, .groupsForWallet trade.sourceWallet, groups⟩] ++
          [⟨w', .isBlocked mint, w'.groups.isBlocked mint⟩]) := by
      intro group member
      obtain ⟨_, _, reply⟩ := replied listed
      obtain ⟨stored, enabled, listed⟩ := followed_of_answer reply member
      exact ⟨(asked.1.grow _).grow _, (asked.2.grow _).grow _, (asked_now stored).grow _, enabled, listed,
        asked_now unblocked⟩
    apply wp_ite
    · intro external
      refine wp_mono (fun _ _ _ => trivial) (wp_keeps (I := AllCleared trade groups mint) ?_ cleared)
      exact forEach_uses_mem fun group member => externalGroup_reasons member token (of_decide_eq_true external)
    · intro internal
      exact curveTrade_reasons token (by simpa [isExternalTradeType] using internal) cleared

theorem handleTrigger_reasons {trigger : ConsensusTrigger} :
    wp (historian setup (.trigger trigger)) (fun _ _ => True) (handleTrigger setup trigger) [] := by
  refine wp_perform trivial fun _ _ _ => ?_
  refine wp_perform trivial fun w found answered => ?_
  obtain ⟨_, _, reply⟩ := replied answered
  cases reply
  cases stored : w.groups.getGroup trigger.groupId with
  | none => trivial
  | some group =>
    let I (past : List Moment) : Prop :=
      Asked past (.getGroup trigger.groupId) fun w => w.groups.getGroup trigger.groupId = some group
    have grows (past : List Moment) (e : Moment) (holds : I past) : I (past ++ [e]) := holds.grow e
    refine wp_seq (wp_keeps (I := I) (warmBuyCaches_uses (keeps_free grows rfl) (keeps_free grows rfl)
      (fun _ => keeps_free grows rfl) fun _ => keeps_free grows rfl) (asked_now stored)) fun _ past asked => ?_
    exact ⟨⟨trigger, rfl, asked, rfl, rfl, rfl, rfl⟩, fun _ _ _ => trivial⟩

theorem code_reasons (setup : Setup) (role : Role) :
    wp (historian setup role) (fun _ _ => True) (role.code setup) [] := by
  have other (unreasoned : ∀ op, role.alphabet op = true → needsReason op = false) :
      wp (historian setup role) (fun _ _ => True) (role.code setup) [] :=
    wp_mono (fun _ _ _ => trivial) (wp_keeps (I := fun _ => True)
      (uses_mono (fun op member => keeps_free (fun _ _ _ => trivial) (unreasoned op member)) (code_within setup role))
      trivial)
  cases role with
  | trade t => exact handleTrade_reasons
  | trigger t => exact handleTrigger_reasons
  | _ => exact other fun op member => by cases op <;> first | rfl | cases member

/-! ### Buys of reports -/

variable {starts : World → Prop} {ok : State → Step → Prop} {s : State} {k : ℕ} {u : TaskState}

/-- A task has performed the operation, after `before`. -/
def DoneAfter (t : TaskState) (before : List Moment) (op : Op) : Prop :=
  ∃ e, before ++ [e] <+: t.past ∧ e.op = op

theorem DoneAfter.earlier {t : TaskState} {before : List Moment} {op : Op} (done : DoneAfter t before op) :
    before <+: t.past := by
  obtain ⟨e, performed, _⟩ := done
  exact (List.prefix_append before [e]).trans performed

/-- The task that started a buy, with its reasons before it did. -/
def Reasoned (s : State) : Role → Prop
  | .buy b (some trade) => ∃ (i : ℕ) (t : TaskState) (before : List Moment),
    s.tasks[i]? = some t ∧ t.role = .trade trade ∧ DoneAfter t before (.spawnBuy b (some trade)) ∧
      Followed before trade b
  | .buy b none => ∃ (i : ℕ) (t : TaskState) (before : List Moment) (trigger : ConsensusTrigger),
    s.tasks[i]? = some t ∧ t.role = .trigger trigger ∧ DoneAfter t before (.spawnBuy b none) ∧
      Ordered before trigger b
  | .externalBuy b cause => ∃ (i : ℕ) (t : TaskState) (before : List Moment) (trade : DetectedTrade),
    cause = some trade ∧ s.tasks[i]? = some t ∧ t.role = .trade trade ∧
      DoneAfter t before (.spawnExternalBuy b cause) ∧ FollowedOutside before trade b
  | _ => True

theorem buy_reasoned (reach : (process setup).Reachable starts ok s) (here : s.tasks[k]? = some u) {b : BuyTask}
    {cause : Option DetectedTrade} (buys : u.role = .buy b cause) : Reasoned s (.buy b cause) := by
  obtain ⟨i, t, before, ⟨w, op, answer⟩, there, past, reason, forked⟩ :=
    reach.fork_justified reasons (code_reasons setup) here (by rw [buys]; rfl)
  rw [buys] at forked
  cases op <;> cases forked
  cases cause with
  | some trade => exact ⟨i, t, before, there, reason.1, ⟨_, past, rfl⟩, reason.2⟩
  | none =>
    obtain ⟨trigger, role, ordered⟩ := reason
    exact ⟨i, t, before, trigger, there, role, ⟨_, past, rfl⟩, ordered⟩

theorem external_buy_reasoned (reach : (process setup).Reachable starts ok s) (here : s.tasks[k]? = some u)
    {b : ExternalBuyTask} {cause : Option DetectedTrade} (buys : u.role = .externalBuy b cause) :
    Reasoned s (.externalBuy b cause) := by
  obtain ⟨i, t, before, ⟨w, op, answer⟩, there, past, reason, forked⟩ :=
    reach.fork_justified reasons (code_reasons setup) here (by rw [buys]; rfl)
  rw [buys] at forked
  cases op <;> cases forked
  obtain ⟨trade, same, role, followed⟩ := reason
  exact ⟨i, t, before, trade, same, there, role, ⟨_, past, rfl⟩, followed⟩

/-- Every buy was started by the intake of a report that it had cleared for the group, or by the
handling of a trigger for the group that the store held under its id. -/
theorem every_buy_reasoned (reach : (process setup).Reachable starts ok s) (here : s.tasks[k]? = some u) :
    Reasoned s u.role := by
  cases buys : u.role with
  | buy b cause => exact buy_reasoned reach here buys
  | externalBuy b cause => exact external_buy_reasoned reach here buys
  | _ => trivial

def isFollowBuy (trade : DetectedTrade) : TaskState → Bool
  | ⟨.buy _ (some cause), _, _⟩ => cause = trade
  | _ => false

/-- The buy that follows the sample report had its reasons. -/
theorem sample_buy_reasoned : ∃ (b : BuyTask) (before : List Moment), Followed before (sampleTrade "a" false) b := by
  obtain ⟨s, reach, u, here, follows⟩ := reaches_task sampleSetup anyStep sampleGroups
    (sampleIntake 0 (sampleTrade "a" false)) 1 (isFollowBuy (sampleTrade "a" false)) (by decide +kernel)
  have reasoned := every_buy_reasoned reach here
  unfold isFollowBuy at follows
  split at follows
  · obtain rfl := of_decide_eq_true follows
    obtain ⟨_, _, before, _, _, _, followed⟩ := reasoned
    exact ⟨_, before, followed⟩
  · cases follows

/-! ### Buys of triggers -/

/-- The triggers that are handled were sent by the engine. -/
def delivers (s : State) : Step → Bool
  | .start (.trigger trigger) => trigger ∈ s.world.triggers
  | _ => true

def Delivers (s : State) (step : Step) : Prop := delivers s step = true

instance (s : State) (step : Step) : Decidable (Delivers s step) :=
  inferInstanceAs (Decidable (delivers s step = true))

def Untriggered (w : World) : Prop := w.consensus = ConsensusEngine.new ∧ w.triggers = []

def Submits (s : State) (signal : BuySignal) : Prop := System.Performed s (.submitSignal signal)

/-- The submission of a signal that the engine answered with the trigger, and the minimum of wallets
that its entry held. -/
structure FiredAt (s : State) (e : Moment) (minWallets : ℕ) (trigger : ConsensusTrigger) : Prop where
  performed : ∃ (i : ℕ) (t : TaskState), s.tasks[i]? = some t ∧ e ∈ t.past
  fires : ∃ signal, e.op = .submitSignal signal ∧
    (e.world.consensus.submitSignal e.world.clock signal e.world.clock).2 = some trigger ∧
    minWallets = (e.world.consensus.entryFor signal).minWallets

/-- The engine has fired the trigger, with the votes behind it. -/
def Fired (s : State) (trigger : ConsensusTrigger) : Prop :=
  ∃ e minWallets, FiredAt s e minWallets trigger ∧ BackedTrigger (Submits s) minWallets trigger

structure Backed (s : State) : Prop where
  votes : BackedEngine (Submits s) s.world.consensus
  triggers : ∀ trigger ∈ s.world.triggers, Fired s trigger

theorem Fired.stepped {label : Step} {s' : State} {trigger : ConsensusTrigger} (fired : Fired s trigger)
    (stepped : (process setup).Stepped s label s') : Fired s' trigger := by
  obtain ⟨e, minWallets, ⟨⟨i, t, here, member⟩, fires⟩, backed⟩ := fired
  obtain ⟨t', here', moved⟩ := stepped.moved here
  refine ⟨e, minWallets, ⟨⟨i, t', here', ?_⟩, fires⟩, backed.mono fun signal => stepped.keeps_performed⟩
  cases moved with
  | still => exact member
  | ran => exact List.mem_append_left _ member

theorem Backed.keep {label : Step} {s' : State} (backed : Backed s) (stepped : (process setup).Stepped s label s')
    (votes : s'.world.consensus = s.world.consensus) (triggers : s'.world.triggers = s.world.triggers) : Backed s' where
  votes := by
    rw [votes]
    exact backed.votes.mono fun signal => stepped.keeps_performed
  triggers := by
    rw [triggers]
    exact fun trigger member => (backed.triggers trigger member).stepped stepped

theorem respond_triggers {w w' : World} {op : Op} {choice : Choice} {answer : Ans op}
    (reply : w.respond op choice = some (answer, w')) (other : World.writes op ≠ some .votes) :
    w'.triggers = w.triggers := by
  cases op
  case sleepUntil deadline =>
    dsimp only [World.respond] at reply
    split at reply <;> cases reply
    rfl
  case fallbackConfirm =>
    dsimp only [World.respond] at reply
    split at reply <;> cases reply
    rfl
  case overtakes | rpcTokenBalance | rpcSignatureStatus | rpcTransaction | isBondingCurveMigrated |
      quoteJupiterSell | sendPumpfunSell | sendJupiterSell | quoteBuy | buildBuyTransaction | sendBuy |
      quoteExternalBuy | decodeExternalBuy | acquireBuyPermit | fetchTokenName | actualSolSpent =>
    cases choice <;> cases reply
    rfl
  case submitSignal | rejectSignal => exact absurd rfl other
  all_goals
    cases reply
    rfl

theorem backed_disturbed {w' : World} {env : World.Disturbance} (backed : Backed s)
    (stepped : (process setup).Stepped s (.disturb env) ⟨w', s.tasks⟩) (change : s.world.disturb env = some w') :
    Backed ⟨w', s.tasks⟩ := by
  cases env
  case land l =>
    dsimp only [World.disturb] at change
    split at change <;> cases change
    exact backed.keep stepped rfl rfl
  case cleanupConsensus =>
    cases change
    exact ⟨backed.votes.cleanupPass, fun trigger member => (backed.triggers trigger member).stepped stepped⟩
  all_goals
    cases change
    exact backed.keep stepped rfl rfl

theorem backed_stepped {label : Step} {s' : State} (backed : Backed s) (stepped : (process setup).Stepped s label s') :
    Backed s' := by
  have keeps (signal : BuySignal) : Submits s signal → Submits s' signal := stepped.keeps_performed
  cases stepped with
  | started role opens => exact backed.keep (.started role opens) rfl rfl
  | disturbed env world change => exact backed_disturbed backed (.disturbed env world change) change
  | ran i choice role past op next here answer world reply =>
    have after : (process setup).Stepped _ _ _ := .ran i choice role past op next here answer world reply
    by_cases other : World.writes op = some .votes
    · cases op
      case submitSignal signal =>
        have given : Submits _ signal := after.performed here rfl
        obtain ⟨_, _, here'⟩ := after.performs here rfl
        cases reply
        have votes := backed.votes.mono keeps
        refine ⟨votes.submitSignal given, fun trigger member => ?_⟩
        rcases List.mem_append.mp member with old | fired
        · exact (backed.triggers trigger old).stepped after
        · have fires := Option.mem_toList.mp fired
          exact ⟨_, _, ⟨⟨i, _, here', List.mem_concat_self⟩, signal, rfl, fires, rfl⟩, votes.trigger given fires⟩
      case rejectSignal =>
        cases reply
        exact ⟨(backed.votes.mono keeps).rejectSignal, fun trigger member =>
          (backed.triggers trigger member).stepped after⟩
      all_goals cases other
    · exact backed.keep after ((World.respond_frame reply).votes other) (respond_triggers reply other)

theorem Reachable.backed (reach : (process setup).Reachable Untriggered ok s) : Backed s := by
  refine reach.invariant ?_ fun s label s' _ backed _ stepped => backed_stepped backed stepped
  rintro world ⟨fresh, quiet⟩
  constructor
  · rw [fresh]
    exact BackedEngine.new
  · rw [quiet]
    exact fun trigger member => nomatch member

theorem Reachable.handled (reach : (process setup).Reachable Untriggered Delivers s) {i : ℕ} {t : TaskState}
    {trigger : ConsensusTrigger} (here : s.tasks[i]? = some t) (role : t.role = .trigger trigger) :
    Fired s trigger := by
  revert i t trigger
  refine reach.invariant (I := fun s => ∀ {i : ℕ} {t : TaskState} {trigger : ConsensusTrigger},
    s.tasks[i]? = some t → t.role = .trigger trigger → Fired s trigger) ?_ ?_
  · intro world _ i t trigger here
    cases here
  · intro s label s' before ih allowed stepped i t' trigger here role
    rcases stepped.task here with ⟨role', rfl, _, begun⟩ | ⟨t, there, moved⟩
    · obtain rfl : role' = .trigger trigger := role
      cases begun with
      | opened _ _ =>
        have sent : trigger ∈ s.world.triggers := of_decide_eq_true allowed
        exact ((Reachable.backed before).triggers trigger sent).stepped stepped
      | forked j choice t op next there rest _ forks => cases op <;> cases forks
    · have same : t'.role = t.role := by cases moved <;> rfl
      exact (ih there (same ▸ role)).stepped stepped

/-- A wallet's vote for a group and mint: its report was cleared for the group, and submitted. -/
def VotedFor (s : State) (groupId : String) (mint wallet : Pubkey) (group : CopyGroup) (signal : BuySignal) : Prop :=
  ∃ (i : ℕ) (t : TaskState) (before : List Moment) (trade : DetectedTrade),
    s.tasks[i]? = some t ∧ t.role = .trade trade ∧ DoneAfter t before (.submitSignal signal) ∧
      Voted before trade signal group ∧ group.id = groupId ∧ signal.tokenMint = mint ∧ trade.sourceWallet = wallet

theorem voted_of_submits (reach : (process setup).Reachable starts ok s) {signal : BuySignal}
    (submits : Submits s signal) {groupId : String} (own : signal.key = ⟨groupId, mint⟩) :
    ∃ group, VotedFor s groupId mint signal.wallet group signal ∧
      signal.consensusMinWallets = group.consensusMinWallets := by
  obtain ⟨i, t, before, e, there, past, submitted, trade, group, role, voted⟩ :=
    reach.performed_justified reasons (code_reasons setup) submits
  obtain ⟨rfl, rfl⟩ := ConsensusKey.mk.inj own
  have stated := voted.signal
  refine ⟨group, ⟨i, t, before, trade, there, role, ⟨e, past, submitted⟩, voted, ?_, rfl, ?_⟩, ?_⟩
  · rw [stated]
    rfl
  · rw [stated]
    rfl
  · rw [stated]
    rfl

/-- Every wallet that a consensus buy names voted with a counting signal of a cleared report of its
own, for the group and mint of the buy. They are as many as the entry asked for that fired its trigger,
by the minimum of the group that a report voted for when it opened the entry. -/
theorem consensus_buy_voted (reach : (process setup).Reachable Untriggered Delivers s) (here : s.tasks[k]? = some u)
    {b : BuyTask} (buys : u.role = .buy b none) :
    b.wallets.Nodup ∧
    (∀ wallet ∈ b.wallets, ∃ group signal, VotedFor s b.group.id b.mint wallet group signal ∧
      signal.countsForCandidateConsensus = true) ∧
    ∃ trigger e minWallets, FiredAt s e minWallets trigger ∧ trigger.key = ⟨b.group.id, b.mint⟩ ∧
      trigger.wallets = b.wallets ∧ minWallets ≤ b.wallets.length ∧
      ∃ wallet group signal, VotedFor s b.group.id b.mint wallet group signal ∧
        group.consensusMinWallets = minWallets := by
  obtain ⟨i, t, before, trigger, there, role, _, ordered⟩ := buy_reasoned reach here buys
  obtain ⟨fire, minWallets, fired, backed⟩ := Reachable.handled reach there role
  obtain ⟨e, _, _, stored⟩ := ordered.group
  have own : trigger.key = ⟨b.group.id, b.mint⟩ := by
    rw [ConsensusTrigger.key, ← ordered.mint, e.world.groups.keyed _ (DashMap.mem_of_get stored)]
  rw [ordered.wallets]
  refine ⟨backed.nodup, fun wallet member => ?_, ?_⟩
  · obtain ⟨v, given, key, rfl, counts⟩ := backed.votes wallet member
    obtain ⟨group, voted, _⟩ := voted_of_submits reach given (key.trans own)
    exact ⟨group, v, voted, counts⟩
  · obtain ⟨first, given, key, opened⟩ := backed.opened
    obtain ⟨group, voted, least⟩ := voted_of_submits reach given (key.trans own)
    exact ⟨trigger, fire, minWallets, fired, own, rfl, backed.enough, first.wallet, group, first, voted,
      (opened.trans least).symm⟩

/-! ### A sample: two wallets that a group asks for -/

def twoWalletGroups : GroupManager where
  groups := DashMap.empty.insert "g1" { sampleGroup with wallets := [7, 8], consensusMinWallets := 2 }
  keyed := by decide
  selectedGroupId := some "g1"
  blocklist := []
  zeroSlotBuyEnabled := false

def pairReport (wallet : Pubkey) (signature : Signature) : DetectedTrade :=
  { sampleTrade signature false with sourceWallet := wallet }

def pairTrigger : ConsensusTrigger where
  groupId := "g1"
  groupName := "first"
  tokenMint := 5
  wallets := [7, 8]
  firstSignature := "a"
  canonicalSignature := "b"
  canonicalWallet := 8
  canonicalTokenProgram := TOKEN_PROGRAM
  canonicalInstructionData := []
  canonicalInstructionAccounts := []
  canonicalTradeOrigin := .direct
  triggeredAt := 0

def pairRun : List Step :=
  sampleIntake 0 (pairReport 7 "a") ++ sampleIntake 1 (pairReport 8 "b") ++
    .start (.trigger pairTrigger) :: runs 2 (List.replicate 12 .nothing)

def isConsensusBuy : TaskState → Bool
  | ⟨.buy b none, _, _⟩ => b.wallets = [7, 8]
  | _ => false

/-- The two wallets of the pair voted before their buy. -/
theorem pair_buy_voted : ∃ s, (process sampleSetup).Reachable Untriggered Delivers s ∧
    ∀ wallet ∈ ([7, 8] : List Pubkey), ∃ groupId mint group signal, VotedFor s groupId mint wallet group signal := by
  have start : Untriggered (World.new twoWalletGroups) := ⟨rfl, rfl⟩
  obtain ⟨s, reach, passes⟩ := reaches_from sampleSetup Delivers start pairRun
    (fun s => s.tasks[3]?.any isConsensusBuy) (by decide +kernel)
  obtain ⟨u, here, triggered⟩ := (Option.any_eq_true ..).mp passes
  refine ⟨s, reach, fun wallet member => ?_⟩
  obtain ⟨role, past, rest⟩ := u
  unfold isConsensusBuy at triggered
  split at triggered
  · rename_i b _ _ same
    cases same
    have named : b.wallets = [7, 8] := of_decide_eq_true triggered
    obtain ⟨_, votes, _⟩ := consensus_buy_voted reach here rfl
    obtain ⟨group, signal, voted, _⟩ := votes wallet (named ▸ member)
    exact ⟨_, _, group, signal, voted⟩
  · cases triggered

end CopyTrader.Main
