import CopyTrader.Consensus.Reject
import CopyTrader.Tasks.Alphabet

/-!
# Withdrawn votes

The landed report of a failed transaction withdraws the vote that an earlier report of it has cast,
as long as it passes every filter that stands before the withdrawal and names the mint of the vote.
-/

namespace CopyTrader.Consensus
open Lib

/-- The mints for which the group holds a vote of the wallet for the transaction. -/
def votedMints (engine : ConsensusEngine) (groupId : String) (wallet : Pubkey) (signature : Signature) :
    List Pubkey :=
  (engine.signals.entries.filter fun entry => entry.1.groupId = groupId &&
    entry.2.signals.any fun v => v.wallet = wallet && v.signature = signature).map (·.1.tokenMint)

variable {engine : ConsensusEngine} {groupId groupId' : String} {mint mint' wallet wallet' : Pubkey}
  {signature signature' : Signature}

theorem mem_votedMints : mint ∈ votedMints engine groupId wallet signature ↔
    ∃ entry, engine.signals.get ⟨groupId, mint⟩ = some entry ∧ entry.HasVote wallet signature := by
  simp only [votedMints, List.mem_map, List.mem_filter, Bool.and_eq_true, decide_eq_true_eq, List.any_eq_true]
  constructor
  · rintro ⟨⟨⟨groupId', mint'⟩, entry⟩, ⟨stored, rfl, vote⟩, rfl⟩
    exact ⟨entry, DashMap.get_of_mem stored, vote⟩
  · rintro ⟨entry, read, vote⟩
    exact ⟨(⟨groupId, mint⟩, entry), ⟨DashMap.mem_of_get read, rfl, vote⟩, rfl⟩

theorem votedMints_submitSignal {now triggeredAt : Instant} {signal : BuySignal}
    (after : mint ∈ votedMints (engine.submitSignal now signal triggeredAt).1 groupId wallet signature) :
    (signal.wallet = wallet ∧ signal.signature = signature) ∨ mint ∈ votedMints engine groupId wallet signature := by
  obtain ⟨entry', read, v, member, cast⟩ := mem_votedMints.mp after
  rw [ConsensusEngine.submitSignal_get] at read
  split at read
  · rename_i same
    obtain rfl := Option.some.inj read
    rcases (TokenSignals.submit_cases ..).mem member with rfl | ⟨old, _⟩
    · exact Or.inl cast
    · cases stored : engine.signals.get signal.key with
      | none =>
        rw [ConsensusEngine.entryFor, stored] at old
        cases old
      | some entry =>
        rw [ConsensusEngine.entryFor, stored] at old
        exact Or.inr (mem_votedMints.mpr ⟨entry, same ▸ stored, v, old, cast⟩)
  · exact Or.inr (mem_votedMints.mpr ⟨entry', read, v, member, cast⟩)

theorem reject_hasVote {entry : TokenSignals}
    (after : (entry.reject wallet' signature').1.HasVote wallet signature) :
    entry.HasVote wallet signature ∧ ¬ (wallet' = wallet ∧ signature' = signature) := by
  obtain ⟨v, member, cast⟩ := after
  obtain ⟨stored, other⟩ := List.mem_filter.mp member
  refine ⟨⟨v, stored, cast⟩, ?_⟩
  rintro ⟨rfl, rfl⟩
  simp [cast.1, cast.2] at other

theorem votedMints_rejectSignal
    (after : mint ∈ votedMints (engine.rejectSignal groupId' mint' wallet' signature').1 groupId wallet signature) :
    mint ∈ votedMints engine groupId wallet signature ∧
      ¬ (groupId' = groupId ∧ mint' = mint ∧ wallet' = wallet ∧ signature' = signature) := by
  obtain ⟨entry', read, vote⟩ := mem_votedMints.mp after
  rw [ConsensusEngine.rejectSignal_get] at read
  split at read
  · obtain ⟨entry, stored, rfl⟩ := Option.map_eq_some_iff.mp read
    obtain ⟨before, other⟩ := reject_hasVote vote
    exact ⟨mem_votedMints.mpr ⟨entry, stored, before⟩, fun same => other same.2.2⟩
  · rename_i differs
    refine ⟨mem_votedMints.mpr ⟨entry', read, vote⟩, ?_⟩
    rintro ⟨rfl, rfl, _⟩
    exact differs rfl

theorem votedMints_cleanupPass {now : Instant}
    (after : mint ∈ votedMints (engine.cleanupPass now) groupId wallet signature) :
    mint ∈ votedMints engine groupId wallet signature := by
  obtain ⟨entry', read, v, member, cast⟩ := mem_votedMints.mp after
  rw [ConsensusEngine.cleanupPass_get] at read
  obtain ⟨entry, stored, kept⟩ := Option.bind_eq_some_iff.mp read
  obtain rfl := TokenSignals.cleanup_some kept
  exact mem_votedMints.mpr ⟨entry, stored, v, (TokenSignals.mem_expire.mp member).1, cast⟩

end CopyTrader.Consensus

namespace CopyTrader.Main
open Lib Consensus Processor Tasks Program

/-- The mints for which the group still holds the vote of the report's transaction. -/
def heldVotes (w : World) (groupId : String) (trade : DetectedTrade) : List Pubkey :=
  votedMints w.consensus groupId trade.sourceWallet trade.signature

def asksForMore (w : World) (groupId : String) : Bool :=
  (w.groups.getGroup groupId).any (1 < ·.consensusMinWallets)

/-- A curve trade of a known mint that shows accounts, or may find a mirror, if it is a sale. -/
def readable (trade : DetectedTrade) : Bool :=
  (extractTokenInfo trade).isSome && !isExternalTradeType trade.tradeType &&
    (trade.isBuy || !trade.instructionAccounts.isEmpty || trade.tradeOrigin.isWrapperCpi)

/-- The filter behind an operation of the intake lets the report through to the withdrawal. -/
def passesFilter (w : World) (groupId : String) (trade : DetectedTrade) : Op → Bool
  | .isRunning => w.isRunning
  | .shouldSkipSignature report => !(shouldSkipSignature w.sigCache report w.clock).2
  | .groupsForWallet wallet =>
    readable trade && (w.groups.groupsForWallet wallet).any fun group =>
      group.id = groupId && wantsEntry group trade && !belowMinimum group trade
  | .isBlocked mint => !w.groups.isBlocked mint
  | .mirrorCacheGet mint => trade.isBuy || !((w.mirrorCache.get mint).getD []).isEmpty
  | .rejectSignal groupId' mint _ _ => groupId' ≠ groupId || (heldVotes w groupId trade).all (· = mint)
  | _ => true

/-- Follows whether the vote is known to be gone. A filter has to let the report through only while
the group holds the vote. -/
def withdrawMonitor (groupId : String) (trade : DetectedTrade) : Monitor World Op Ans Prop where
  trusts e := (∃ choice w', e.world.respond e.op choice = some (e.answer, w')) ∧
    asksForMore e.world groupId = true ∧
      (heldVotes e.world groupId trade = [] ∨ passesFilter e.world groupId trade e.op = true)
  allows _ _ := True
  next gone e := gone ∨
    ∀ choice w', e.world.respond e.op choice = some (e.answer, w') → heldVotes w' groupId trade = []

variable {setup : Setup} {groupId : String} {trade : DetectedTrade} {mint tokenProgram : Pubkey}

/-- The operation submits no vote for the report's transaction. -/
def CastsOther (trade : DetectedTrade) (op : Op) : Prop :=
  ∀ signal, op = .submitSignal signal →
    ¬ (signal.wallet = trade.sourceWallet ∧ signal.signature = trade.signature)

theorem CastsOther.of_other {op : Op} (other : casts op = false) : CastsOther trade op := by
  rintro signal rfl
  cases other

/-- A vote comes back only by a submission of its own. -/
theorem respond_heldVotes {w w' : World} {op : Op} {choice : Choice} {answer : Ans op}
    (reply : w.respond op choice = some (answer, w')) (other : CastsOther trade op)
    (gone : heldVotes w groupId trade = []) : heldVotes w' groupId trade = [] := by
  unfold heldVotes at gone ⊢
  by_cases votes : World.writes op = some .votes
  · cases op
    case submitSignal signal =>
      cases reply
      refine List.eq_nil_iff_forall_not_mem.mpr fun mint after => ?_
      rcases votedMints_submitSignal after with own | before
      · exact other signal rfl own
      · exact List.eq_nil_iff_forall_not_mem.mp gone mint before
    case rejectSignal =>
      cases reply
      exact List.eq_nil_iff_forall_not_mem.mpr fun mint after =>
        List.eq_nil_iff_forall_not_mem.mp gone mint (votedMints_rejectSignal after).1
    all_goals cases votes
  · rw [(World.respond_frame reply).votes votes]
    exact gone

theorem disturb_heldVotes {w w' : World} {env : World.Disturbance} (change : w.disturb env = some w')
    (gone : heldVotes w groupId trade = []) : heldVotes w' groupId trade = [] := by
  unfold heldVotes at gone ⊢
  by_cases other : World.cleans env = some .votes
  · cases env
    case cleanupConsensus =>
      cases change
      exact List.eq_nil_iff_forall_not_mem.mpr fun mint after =>
        List.eq_nil_iff_forall_not_mem.mp gone mint (votedMints_cleanupPass after)
    all_goals cases other
  · rw [(World.disturb_drift change).votes other]
    exact gone

/-! ### The intake of a failed report -/

/-- The task ends with the vote gone, however much of it is known so far. -/
def Withdraws (groupId : String) (trade : DetectedTrade) (x : Prog Unit) : Prop :=
  ∀ gone, wp (withdrawMonitor groupId trade) (fun _ gone => gone) x gone

theorem wp_gone {α : Type} {x : Prog α} {gone : Prop} (known : gone) :
    wp (withdrawMonitor groupId trade) (fun _ gone => gone) x gone := by
  induction x generalizing gone with
  | done a => exact known
  | perform op next ih => exact ⟨trivial, fun w answer _ => ih answer (Or.inl known)⟩

theorem wp_any {α : Type} {x : Prog α} {p : α → Prop} {gone : Prop} (always : ∀ a, p a) :
    wp (withdrawMonitor groupId trade) (fun a _ => p a) x gone :=
  wp_free (fun _ _ => trivial) fun a _ => always a

theorem withdraws_after {α : Type} {x : Prog α} {f : α → Prog Unit} (rest : ∀ a, Withdraws groupId trade (f a)) :
    Withdraws groupId trade (x >>= f) :=
  fun _ => wp_seq (wp_any (p := fun _ => True) fun _ => trivial) fun a gone _ => rest a gone

/-- A filter: the task goes on with the vote gone, or with an answer that lets the report through. -/
theorem withdraws_filter {op : Op} {f : Ans op → Prog Unit} (other : casts op = false)
    (rest : ∀ w choice w' answer, w.respond op choice = some (answer, w') → asksForMore w groupId = true →
      passesFilter w groupId trade op = true → Withdraws groupId trade (f answer)) :
    Withdraws groupId trade (perform op >>= f) := by
  intro gone
  refine wp_perform trivial fun w answer trusted => ?_
  obtain ⟨⟨choice, w', reply⟩, asks, held⟩ := trusted
  rcases held with none | passes
  · exact wp_gone (Or.inr fun _ _ reply' => respond_heldVotes reply' (.of_other other) none)
  · exact rest w choice w' answer reply asks passes _

theorem enterGroup_withdraws {group : CopyGroup} (failed : trade.executionFailed = true)
    (same : group.id = groupId) (more : 1 < group.consensusMinWallets) (enough : belowMinimum group trade = false) :
    Withdraws groupId trade (enterGroup mint tokenProgram trade group) := by
  unfold enterGroup
  dsimp only
  rw [if_neg (by simp [enough]), if_neg (Nat.not_le.mpr more), if_pos failed]
  intro gone
  refine ⟨trivial, fun w answer trusted => ?_⟩
  obtain ⟨_, _, held⟩ := trusted
  refine Or.inr fun choice w' reply => ?_
  obtain rfl := congrArg Prod.snd (Option.some.inj reply)
  refine List.eq_nil_iff_forall_not_mem.mpr fun mint' after => ?_
  obtain ⟨before, kept⟩ := votedMints_rejectSignal after
  rcases held with none | passes
  · exact List.eq_nil_iff_forall_not_mem.mp none mint' before
  · have own : (heldVotes w groupId trade).all (· = mint) = true := by simpa [passesFilter, same] using passes
    exact kept ⟨same, (of_decide_eq_true (List.all_eq_true.mp own mint' before)).symm, rfl, rfl⟩

theorem forEach_withdraws {f : CopyGroup → Prog Unit} {group : CopyGroup} {groups : List CopyGroup}
    (member : group ∈ groups) (withdraws : Withdraws groupId trade (f group)) :
    Withdraws groupId trade (forEach f groups) := by
  induction groups with
  | nil => cases member
  | cons first rest ih =>
    intro gone
    rcases List.mem_cons.mp member with rfl | later
    · exact wp_seq (withdraws gone) fun _ _ known => wp_gone known
    · exact withdraws_after (fun _ => ih later) gone

section
variable {group : CopyGroup} {groups : List CopyGroup} {effectiveMirror : List Pubkey}

theorem curveGroup_enters (shown : trade.isBuy = true ∨ effectiveMirror.isEmpty = false) {gone : Prop} :
    wp (withdrawMonitor groupId trade) (fun enters _ => enters = wantsEntry group trade)
      (curveGroup mint trade effectiveMirror group) gone := by
  unfold curveGroup
  dsimp only
  apply wp_ite
  · intro skips
    simp only [Bool.and_eq_true, Bool.not_eq_true'] at skips
    rcases shown with buys | mirrored
    · rw [skips.1.1.2] at buys
      cases buys
    · rw [skips.2] at mirrored
      cases mirrored
  · intro _
    exact wp_seq (wp_any (p := fun _ => True) fun _ => trivial) fun _ _ _ => rfl

theorem entryGroups_enters (shown : trade.isBuy = true ∨ effectiveMirror.isEmpty = false) {gone : Prop} :
    wp (withdrawMonitor groupId trade)
      (fun entries _ => ∀ group ∈ groups, wantsEntry group trade = true → group ∈ entries)
      (entryGroups mint trade effectiveMirror groups) gone := by
  induction groups generalizing gone with
  | nil => exact fun _ member => absurd member List.not_mem_nil
  | cons first rest ih =>
    refine wp_seq (curveGroup_enters shown) fun enters gone' entered => ?_
    refine wp_seq ih fun others _ found => ?_
    intro group member wants
    rcases List.mem_cons.mp member with rfl | later
    · rw [entered, if_pos wants]
      exact List.mem_cons_self
    · split
      · exact List.mem_cons_of_mem _ (found group later wants)
      · exact found group later wants

theorem curveTrade_withdraws (failed : trade.executionFailed = true)
    (shows : (trade.isBuy || !trade.instructionAccounts.isEmpty || trade.tradeOrigin.isWrapperCpi) = true)
    (member : group ∈ groups) (same : group.id = groupId) (more : 1 < group.consensusMinWallets)
    (wants : wantsEntry group trade = true) (enough : belowMinimum group trade = false) :
    Withdraws groupId trade (curveTrade setup trade mint tokenProgram groups) := by
  have enters (cached : Option (List Pubkey))
      (shown : trade.isBuy = true ∨ (cached.getD trade.instructionAccounts).isEmpty = false) :
      Withdraws groupId trade (do
        warmForEntry setup trade mint tokenProgram (cached.getD trade.instructionAccounts) groups
        let entries ← entryGroups mint trade (cached.getD trade.instructionAccounts) groups
        forEach (enterGroup mint tokenProgram trade) entries) :=
    withdraws_after fun _ _ => wp_seq (entryGroups_enters shown) fun _ gone found =>
      forEach_withdraws (found group member wants) (enterGroup_withdraws failed same more enough) gone
  unfold curveTrade reuseMirror
  split
  · rename_i wrapped
    simp only [Bool.and_eq_true, List.isEmpty_iff] at wrapped
    refine withdraws_filter rfl fun w choice w' cached reply _ passes => ?_
    refine enters cached ?_
    obtain rfl := congrArg Prod.fst (Option.some.inj reply)
    simpa [passesFilter, wrapped.1] using passes
  · rename_i plain
    refine enters none ?_
    simp only [Bool.and_eq_true, not_and, Bool.or_eq_true, Bool.not_eq_true'] at plain shows
    rcases shows with (buys | shown) | wrapper
    · exact Or.inl buys
    · exact Or.inr shown
    · exact Or.inr (Bool.eq_false_iff.mpr fun empty => plain empty wrapper)

theorem handleTrade_withdraws (failed : trade.executionFailed = true) :
    Withdraws groupId trade (handleTrade setup trade) := by
  refine withdraws_filter rfl fun _ _ _ running reply _ passes => ?_
  obtain rfl := congrArg Prod.fst (Option.some.inj reply)
  rw [if_neg (by simpa [passesFilter] using passes)]
  refine withdraws_filter rfl fun _ _ _ skip reply _ passes => ?_
  obtain rfl := congrArg Prod.fst (Option.some.inj reply)
  rw [if_neg (by simpa [passesFilter] using passes)]
  refine withdraws_after fun _ => ?_
  refine withdraws_filter rfl fun w _ _ groups reply asks passes => ?_
  obtain rfl := congrArg Prod.fst (Option.some.inj reply)
  simp only [passesFilter, readable, Bool.and_eq_true, List.any_eq_true, decide_eq_true_eq, Bool.not_eq_true']
    at passes
  obtain ⟨⟨⟨known, curve⟩, shows⟩, group, member, ⟨same, wants⟩, enough⟩ := passes
  have more : 1 < group.consensusMinWallets := by
    obtain ⟨stored, read, more⟩ := (Option.any_eq_true ..).mp asks
    have found := w.groups.getGroup_of_mem member
    rw [same, read] at found
    exact Option.some.inj found ▸ of_decide_eq_true more
  rw [if_neg (by simpa using List.ne_nil_of_mem member)]
  obtain ⟨⟨mint, tokenProgram⟩, extracted⟩ := Option.isSome_iff_exists.mp known
  rw [extracted]
  refine withdraws_filter rfl fun _ _ _ blocked reply _ passes => ?_
  obtain rfl := congrArg Prod.fst (Option.some.inj reply)
  rw [if_neg (by simpa [passesFilter] using passes), if_neg (by simp [curve])]
  exact curveTrade_withdraws failed shows member same more wants enough

end

/-! ### Who votes -/

/-- A vote is for the transaction of the report that is being handled, and the report does not say
that it failed. -/
def CastsOwn (role : Role) (op : Op) : Prop :=
  ∀ signal, op = .submitSignal signal → ∃ trade, role = .trade trade ∧ trade.executionFailed = false ∧
    signal.wallet = trade.sourceWallet ∧ signal.signature = trade.signature

theorem CastsOwn.of_other {role : Role} {op : Op} (other : casts op = false) : CastsOwn role op := by
  rintro signal rfl
  cases other

theorem code_casts (setup : Setup) (role : Role) : Uses (CastsOwn role) (role.code setup) := by
  have other (quiet : ∀ op, role.alphabet op = true → casts op = false) :
      Uses (CastsOwn role) (role.code setup) :=
    uses_mono (fun op member => .of_other (quiet op member)) (code_within setup role)
  cases role with
  | trade t =>
    refine handleTrade_uses (fun _ _ other => .of_other other) fun landed group mint tokenProgram data => ?_
    rintro signal ⟨rfl⟩
    exact ⟨t, rfl, landed, rfl, rfl⟩
  | trigger t => exact handleTrigger_uses fun _ _ other => .of_other other
  | _ => exact other fun op member => by cases op <;> first | rfl | cases member

/-! ### Runs of the loop -/

def isReport : Role → Bool
  | .trade _ => true
  | _ => false

/-- The loop receives a report when it is done with the one before. -/
def takesTurn (s : State) : Step → Bool
  | .start (.trade _) => s.tasks.all fun t => !isReport t.role || t.rest.isDone
  | _ => true

def LoopRun (groupId : String) (s : State) (step : Step) : Prop :=
  takesTurn s step = true ∧ asksForMore s.world groupId = true

instance (groupId : String) (s : State) (step : Step) : Decidable (LoopRun groupId s step) :=
  inferInstanceAs (Decidable (_ ∧ _))

def landedFailure (trade : DetectedTrade) : Bool := trade.executionFailed && !trade.isPreExecution

/-- The filters let a landed failure through as long as the group holds a vote for it. -/
def letsThrough (groupId : String) (s : State) : Step → Bool
  | .run i _ =>
    match s.tasks[i]? with
    | some ⟨.trade trade, _, .perform op _⟩ =>
      !landedFailure trade || (heldVotes s.world groupId trade).isEmpty || passesFilter s.world groupId trade op
    | _ => true
  | _ => true

def FilteredRun (groupId : String) (s : State) (step : Step) : Prop :=
  LoopRun groupId s step ∧ letsThrough groupId s step = true

instance (groupId : String) (s : State) (step : Step) : Decidable (FilteredRun groupId s step) :=
  inferInstanceAs (Decidable (_ ∧ _))

section
variable {ok : State → Step → Prop} {s s' : State} {step : Step} {i j : ℕ} {t u : TaskState}

theorem forks_no_report {op : Op} {role : Role} (forked : forks op = some role) : isReport role = false := by
  cases op <;> first | cases forked; rfl | cases forked

theorem reports_in_turn (reach : (process setup).Reachable World.Starts ok s)
    (turns : ∀ s step, ok s step → takesTurn s step = true) (before : i < j) (here : s.tasks[i]? = some t)
    (there : s.tasks[j]? = some u) (first : isReport t.role = true) (second : isReport u.role = true) :
    t.rest.isDone = true := by
  revert t u
  refine reach.invariant (I := fun s => ∀ {t u : TaskState}, s.tasks[i]? = some t → s.tasks[j]? = some u →
    isReport t.role = true → isReport u.role = true → t.rest.isDone = true) ?_ ?_
  · intro world _ t u here
    cases here
  · intro s step s' _ ih fine stepped t' u' here there first second
    have turn := turns s step fine
    rcases stepped.task there with ⟨role, rfl, last, begun⟩ | ⟨u, there, moved'⟩
    · cases begun with
      | opened role opens =>
        rcases stepped.task here with ⟨_, _, last', _⟩ | ⟨t, old, moved⟩
        · omega
        · cases moved with
          | ran choice runs => cases runs
          | still =>
            cases role
            case trade trade =>
              have done := List.all_eq_true.mp turn _ (List.mem_of_getElem? old)
              simpa [first] using done
            all_goals cases second
      | forked k choice v op next _ _ role forked => exact absurd second (by simp [System.begin, forks_no_report forked])
    · have role' : u'.role = u.role := by cases moved' <;> rfl
      rcases stepped.task here with ⟨_, _, last, _⟩ | ⟨t, old, moved⟩
      · have place := (List.getElem?_eq_some_iff.mp there).1
        omega
      · cases moved with
        | still => exact ih old there first (role' ▸ second)
        | ran choice runs op next rest answer reply =>
          have done := ih old there first (role' ▸ second)
          rw [rest] at done
          cases done

theorem casts_own (reach : (process setup).Reachable World.Starts ok s) {op : Op} {next : Ans op → Prog Unit}
    (here : s.tasks[i]? = some t) (rest : t.rest = .perform op next) : CastsOwn t.role op := by
  have uses := reach.uses (code_casts setup) here
  rw [rest] at uses
  exact uses.1

/-- Every later report of the transaction says that it failed. -/
def NoneLanded (s : State) (i : ℕ) (trade : DetectedTrade) : Prop :=
  ∀ j u later, i < j → s.tasks[j]? = some u → u.role = .trade later →
    later.sourceWallet = trade.sourceWallet → later.signature = trade.signature → later.executionFailed = true

theorem NoneLanded.before (last : NoneLanded s' i trade) (stepped : (process setup).Stepped s step s') :
    NoneLanded s i trade := by
  intro j u later after there role
  obtain ⟨u', there', moved⟩ := stepped.moved there
  have role' : u'.role = u.role := by cases moved <;> rfl
  exact last j u' later after there' (role'.trans role)

theorem stepped_heldVotes (stepped : (process setup).Stepped s step s')
    (other : ∀ j choice u op next, step = .run j choice → s.tasks[j]? = some u → u.rest = .perform op next →
      CastsOther trade op)
    (gone : heldVotes s.world groupId trade = []) : heldVotes s'.world groupId trade = [] := by
  cases stepped with
  | ran j choice role past op next there answer world reply =>
    exact respond_heldVotes reply (other j choice _ op next rfl there rfl) gone
  | started role opens => exact gone
  | disturbed env world change => exact disturb_heldVotes change gone

def withdrawn (groupId : String) (trade : DetectedTrade) (t : TaskState) : Prop :=
  (withdrawMonitor groupId trade).after False t.past

/-- A vote that is gone stays gone until a report says that the transaction did not fail. -/
theorem withdrawn_gone (reach : (process setup).Reachable World.Starts ok s)
    (turns : ∀ s step, ok s step → takesTurn s step = true) (here : s.tasks[i]? = some t)
    (role : t.role = .trade trade) (failed : trade.executionFailed = true) (known : withdrawn groupId trade t)
    (last : NoneLanded s i trade) : heldVotes s.world groupId trade = [] := by
  revert t
  refine reach.invariant (I := fun s => NoneLanded s i trade → ∀ {t : TaskState}, s.tasks[i]? = some t →
    t.role = .trade trade → withdrawn groupId trade t → heldVotes s.world groupId trade = []) ?_ ?_ last
  · intro world _ _ t here
    cases here
  · intro s step s' reach ih _ stepped last t' here role known
    rcases stepped.task here with ⟨_, rfl, _⟩ | ⟨t, there, moved⟩
    · exact known.elim
    · have role' : t.role = .trade trade := by cases moved <;> exact role
      have keeps : heldVotes s.world groupId trade = [] → heldVotes s'.world groupId trade = [] := by
        refine stepped_heldVotes stepped ?_
        intro j choice u op next _ here' rest signal casts own
        obtain ⟨trade', reports, landed, wallet, signature⟩ := casts_own reach here' rest signal casts
        -- the report that casts the vote is no later one, not this one, and no earlier one
        rcases lt_trichotomy i j with later | rfl | earlier
        · have fails := last.before stepped j u trade' later here' reports (wallet ▸ own.1) (signature ▸ own.2)
          rw [landed] at fails
          cases fails
        · obtain rfl := Option.some.inj (there.symm.trans here')
          cases reports.symm.trans role'
          rw [landed] at failed
          cases failed
        · have done := reports_in_turn reach turns earlier here' there (by rw [reports]; rfl) (by rw [role']; rfl)
          rw [rest] at done
          cases done
      cases moved with
      | still => exact keeps (ih (last.before stepped) there role known)
      | ran choice runs op next rest answer reply =>
        unfold withdrawn at known
        rw [Monitor.after_snoc] at known
        rcases known with before | after
        · exact keeps (ih (last.before stepped) there role' before)
        · exact after choice _ reply

theorem failed_task (reach : (process setup).Reachable World.Starts (FilteredRun groupId) s)
    (here : s.tasks[i]? = some t) (role : t.role = .trade trade) (failed : landedFailure trade = true) :
    wp (withdrawMonitor groupId trade) (fun _ gone => gone) t.rest (withdrawn groupId trade t) := by
  refine reach.tasks (P := fun t => t.role = .trade trade →
    wp (withdrawMonitor groupId trade) (fun _ gone => gone) t.rest (withdrawn groupId trade t)) ?_ ?_ i t here role
  · rintro role rfl
    exact handleTrade_withdraws (Bool.and_eq_true_iff.mp failed).1 _
  · intro s i t choice op next answer w' there ih rest fine reply role
    have follows := ih role
    rw [rest] at follows
    unfold withdrawn
    rw [Monitor.after_snoc]
    refine follows.2 s.world answer ⟨⟨choice, w', reply⟩, fine.1.2, ?_⟩
    obtain ⟨_, past, _⟩ := t
    cases role
    cases rest
    have lets := fine.2
    simp only [letsThrough, there, failed, Bool.not_true, Bool.false_or, Bool.or_eq_true, List.isEmpty_iff] at lets
    exact lets

/-- After the landed report of a failed transaction, and until a report says otherwise, the group
holds no vote of the wallet for it, in every run whose filters let the report through. -/
theorem failed_report_withdraws (reach : (process setup).Reachable World.Starts (FilteredRun groupId) s)
    (here : s.tasks[i]? = some t) (role : t.role = .trade trade) (landed : trade.isPreExecution = false)
    (failed : trade.executionFailed = true) (processed : t.rest.isDone = true) (last : NoneLanded s i trade) :
    ∀ mint entry, s.world.consensus.signals.get ⟨groupId, mint⟩ = some entry →
      ¬ entry.HasVote trade.sourceWallet trade.signature := by
  have follows := failed_task reach here role (by simp [landedFailure, landed, failed])
  have known : withdrawn groupId trade t := by
    cases rest : t.rest with
    | done _ =>
      rw [rest] at follows
      exact follows
    | perform op next =>
      rw [rest] at processed
      cases processed
  have gone := withdrawn_gone reach (fun _ _ fine => fine.1.1) here role failed known last
  intro mint entry read vote
  exact List.eq_nil_iff_forall_not_mem.mp gone mint (mem_votedMints.mpr ⟨entry, read, vote⟩)

end

/-- The sample group, asking for two wallets. -/
def votingGroups : GroupManager where
  groups := DashMap.empty.insert "g1" { sampleGroup with consensusMinWallets := 2 }
  keyed := by decide
  selectedGroupId := some "g1"
  blocklist := []
  zeroSlotBuyEnabled := false

def handled (trade : DetectedTrade) (t : TaskState) : Bool :=
  match t.role with
  | .trade trade' => trade' = trade && t.rest.isDone
  | _ => false

theorem handled_iff {trade : DetectedTrade} {t : TaskState} :
    handled trade t = true ↔ t.role = .trade trade ∧ t.rest.isDone = true := by
  obtain ⟨role, past, rest⟩ := t
  cases role <;> simp [handled]

theorem last_noneLanded {s : State} {i : ℕ} {trade : DetectedTrade} (last : s.tasks.length = i + 1) :
    NoneLanded s i trade := by
  intro j u later after there
  have place := (List.getElem?_eq_some_iff.mp there).1
  omega

theorem failed_report_withdraws_sample : ∃ s,
    (process sampleSetup).Reachable World.Starts (FilteredRun "g1") s ∧
    ∀ mint entry, s.world.consensus.signals.get ⟨"g1", mint⟩ = some entry → ¬ entry.HasVote 7 "t1" := by
  obtain ⟨s, reach, passes⟩ := reaches sampleSetup (FilteredRun "g1") votingGroups
    (sampleIntake 0 (sampleTrade "t1" true) ++
      sampleIntake 1 { sampleTrade "t1" false with executionFailed := true })
    (fun s => s.tasks.length = 2 &&
      s.tasks[1]?.any (handled { sampleTrade "t1" false with executionFailed := true })) (by decide +kernel)
  rw [Bool.and_eq_true, decide_eq_true_eq] at passes
  obtain ⟨t, here, done⟩ := (Option.any_eq_true ..).mp passes.2
  obtain ⟨role, processed⟩ := handled_iff.mp done
  exact ⟨s, reach, failed_report_withdraws reach here role rfl rfl processed (last_noneLanded passes.1)⟩

/-- A wrapped sale that credits the wallet's wrapped SOL is taken for a buy before it executes. The
landed report shows the sale, which the group does not want, and the vote stays. -/
theorem failed_report_keeps_vote : ¬ ∀ groupId s,
    (process sampleSetup).Reachable World.Starts (LoopRun groupId) s →
    ∀ (i : ℕ) t trade, s.tasks[i]? = some t → t.role = .trade trade → trade.isPreExecution = false →
      trade.executionFailed = true → t.rest.isDone = true → NoneLanded s i trade →
      ∀ mint entry, s.world.consensus.signals.get ⟨groupId, mint⟩ = some entry →
        ¬ entry.HasVote trade.sourceWallet trade.signature := by
  intro claim
  let guess : DetectedTrade := { sampleTrade "t1" true with tradeOrigin := .wrapperCpi, solAmountLamports := 0 }
  let landed : DetectedTrade := { sampleTrade "t1" false with isBuy := false, executionFailed := true }
  obtain ⟨s, reach, passes⟩ := reaches sampleSetup (LoopRun "g1") votingGroups
    (.start (.trade guess) :: runs 0 (List.replicate 15 .nothing) ++
      .start (.trade landed) :: runs 1 (List.replicate 4 .nothing))
    (fun s => s.tasks.length = 2 && s.tasks[1]?.any (handled landed) && heldVotes s.world "g1" landed = [5])
    (by decide +kernel)
  simp only [Bool.and_eq_true, decide_eq_true_eq] at passes
  obtain ⟨⟨last, done⟩, held⟩ := passes
  obtain ⟨t, here, done⟩ := (Option.any_eq_true ..).mp done
  obtain ⟨role, processed⟩ := handled_iff.mp done
  obtain ⟨entry, read, vote⟩ := mem_votedMints.mp (held ▸ List.mem_singleton_self 5)
  exact claim "g1" s reach 1 t landed here role rfl rfl processed (last_noneLanded last) 5 entry read vote

end CopyTrader.Main
