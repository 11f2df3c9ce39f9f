import CopyTrader.Groups.Wallets
import CopyTrader.Main.Provenance

/-!
# What an intake decides

A finished intake has done for each group exactly what it was told asks for: one entry for each group
that follows the wallet and wants it, one look at the position of each group that follows sales, and a
signal for each position found that can be sold.
-/

namespace CopyTrader.Main
open Lib AutoSell Consensus Processor Tasks Program

def followSale (groupName : String) (position : Position) : SellSignal where
  positionKey := position.key
  groupName := groupName
  reason := .followSell
  currentPrice := position.currentPrice
  pnlPercent := position.pnlPercent

def canFollowSale (position : Position) : Bool :=
  position.canSell && !position.maxSellAttemptsReached MAX_AUTO_SELL_SIGNAL_ATTEMPTS

/-- What an intake was told and what it has done. -/
structure Told where
  running : Bool
  seen : Bool
  /-- The groups when it asked who follows the wallet. -/
  store : Option GroupManager
  blocked : Bool
  mirror : Option (List Pubkey)
  entries : List Op
  /-- The positions it looked for, and the signals for those found that can be sold. -/
  asked : List PositionKey
  due : List SellSignal
  sent : List SellSignal

namespace Told

def start : Told := ⟨false, true, none, true, none, [], [], [], []⟩

def nameOf (told : Told) (key : PositionKey) : String :=
  ((told.store.bind (·.getGroup key.groupId)).map (·.name)).getD ""

def hear (told : Told) : Moment → Told
  | ⟨_, .isRunning, running⟩ => { told with running := running }
  | ⟨_, .shouldSkipSignature _, seen⟩ => { told with seen := seen }
  | ⟨world, .groupsForWallet _, _⟩ => { told with store := some world.groups }
  | ⟨_, .isBlocked _, blocked⟩ => { told with blocked := blocked }
  | ⟨_, .mirrorCacheGet _, mirror⟩ => { told with mirror := mirror }
  | ⟨_, .getPosition key, found⟩ =>
    { told with
      asked := told.asked ++ [key]
      due := told.due ++ ((found.filter canFollowSale).map (followSale (told.nameOf key))).toList }
  | ⟨_, .sendSellSignal signal, _⟩ => { told with sent := told.sent ++ [signal] }
  | ⟨_, .spawnBuy buy cause, _⟩ => { told with entries := told.entries ++ [.spawnBuy buy cause] }
  | ⟨_, .spawnExternalBuy buy cause, _⟩ => { told with entries := told.entries ++ [.spawnExternalBuy buy cause] }
  | ⟨_, .submitSignal signal, _⟩ => { told with entries := told.entries ++ [.submitSignal signal] }
  | ⟨_, .rejectSignal groupId mint wallet signature, _⟩ =>
    { told with entries := told.entries ++ [.rejectSignal groupId mint wallet signature] }
  | _ => told

/-- Some looks at positions, each found one that can be sold with its signal. -/
def sale (told : Told) (asked : List PositionKey) (signals : List SellSignal) : Told :=
  { told with asked := told.asked ++ asked, due := told.due ++ signals, sent := told.sent ++ signals }

def enter (told : Told) (entries : List Op) : Told := { told with entries := told.entries ++ entries }

def cleared (told : Told) : Bool := told.running && !told.seen && !told.blocked

def followers (told : Told) (wallet : Pubkey) : List CopyGroup :=
  if told.cleared then told.store.elim [] (·.groupsForWallet wallet) else []

/-- The group under the id, if it is enabled and follows the wallet. -/
def follower (told : Told) (wallet : Pubkey) (groupId : String) : Option CopyGroup :=
  if told.cleared then
    (told.store.bind (·.getGroup groupId)).filter fun group => group.enabled && group.wallets.contains wallet
  else none

def mirrorOf (told : Told) (trade : DetectedTrade) : List Pubkey := told.mirror.getD trade.instructionAccounts

end Told

section
variable (mint tokenProgram : Pubkey) (trade : DetectedTrade) (mirror : List Pubkey) (group : CopyGroup)

/-- The entry of a group on the curve that takes part. -/
def entryOf : Option Op :=
  if belowMinimum group trade then none
  else if group.consensusMinWallets ≤ 1 then
    if trade.executionFailed then none
    else some (.spawnBuy
      ⟨group, mint, [trade.sourceWallet], trade.tradeOrigin, targetInstructionOf group trade⟩ (some trade))
  else if trade.executionFailed then some (.rejectSignal group.id mint trade.sourceWallet trade.signature)
  else some (.submitSignal (buySignal group mint tokenProgram trade (targetInstructionOf group trade)))

/-- A group takes part in what it wants; against a sale it needs a mirror. -/
def takesPart : Bool := wantsEntry group trade && (trade.isBuy || !mirror.isEmpty)

def tradesOutside : Bool := group.acceptsExternalTradeType trade.tradeType && group.externalMode.isLive

def outsideEntryOf : Option Op :=
  if tradesOutside trade group && wantsEntry group trade && !trade.executionFailed && !belowMinimum group trade &&
      group.consensusMinWallets ≤ 1 then
    some (.spawnExternalBuy ⟨group, mint, tokenProgram, trade.sourceWallet⟩ (some trade))
  else none

def followsSale : Bool := !trade.executionFailed && !trade.isBuy && group.followSellMode

/-- A reverse buy without a mirror is not a follow sale either. -/
def saleOf : Option PositionKey :=
  if followsSale trade group && !(wantsEntry group trade && mirror.isEmpty) then some ⟨group.id, mint⟩ else none

def outsideSaleOf : Option PositionKey :=
  if tradesOutside trade group && followsSale trade group then some ⟨group.id, mint⟩ else none

end

namespace Told

/-- The entry that a report asks for in a group that follows its wallet. -/
def entryFor (told : Told) (trade : DetectedTrade) (group : CopyGroup) : Option Op :=
  (extractTokenInfo trade).bind fun (mint, tokenProgram) =>
    if isExternalTradeType trade.tradeType then outsideEntryOf mint tokenProgram trade group
    else if takesPart trade (told.mirrorOf trade) group then entryOf mint tokenProgram trade group
    else none

def saleFor (told : Told) (trade : DetectedTrade) (group : CopyGroup) : Option PositionKey :=
  (extractTokenInfo trade).bind fun (mint, _) =>
    if isExternalTradeType trade.tradeType then outsideSaleOf mint trade group
    else saleOf mint trade (told.mirrorOf trade) group

/-- Everything was done that the report asks for, and nothing else. -/
structure Decided (told : Told) (trade : DetectedTrade) : Prop where
  entries : told.entries = (told.followers trade.sourceWallet).filterMap (told.entryFor trade)
  asked : told.asked = (told.followers trade.sourceWallet).filterMap (told.saleFor trade)
  sent : told.sent = told.due

end Told

/-- Notes what an intake is told and does. -/
def listener (setup : Setup) : Monitor World Op Ans Told where
  trusts := (process setup).Answers
  allows _ _ := True
  next := Told.hear

section
variable {setup : Setup} {trade : DetectedTrade} {mint tokenProgram : Pubkey} {group : CopyGroup} {told : Told}

/-- One of the operations that an intake is not told anything by. -/
theorem listener_quiet {op : Op} (silent : ∀ told world answer, Told.hear told ⟨world, op, answer⟩ = told) :
    (listener setup).Quiet op := ⟨fun _ => trivial, silent⟩

theorem followSell_told (known : told.nameOf ⟨group.id, mint⟩ = group.name) :
    wp (listener setup) (fun _ told' => ∃ signals,
        told' = told.sale (if followsSale trade group then [⟨group.id, mint⟩] else []) signals)
      (followSell group mint trade) told := by
  have still : told = told.sale [] [] := by simp [Told.sale]
  unfold followSell
  refine wp_ite (fun follows => ?_) fun other => ?_
  · rw [followsSale, if_pos follows]
    refine wp_perform trivial fun world found _ => ?_
    cases found with
    | none => exact ⟨[], by simp [listener, Told.hear, Told.sale]⟩
    | some position =>
      refine wp_ite (fun sells => ?_) fun keeps => ?_
      · refine ⟨trivial, fun _ _ _ => ⟨[followSale group.name position], ?_⟩⟩
        have can : canFollowSale position = true := sells
        simp [listener, Told.hear, Told.sale, can, known, followSale]
      · refine ⟨[], ?_⟩
        have cannot : canFollowSale position = false := Bool.not_eq_true _ ▸ keeps
        simp [listener, Told.hear, Told.sale, cannot]
  · rw [followsSale, if_neg other]
    exact ⟨[], still⟩

theorem Told.sale_sale (told : Told) (asked asked' : List PositionKey) (signals signals' : List SellSignal) :
    (told.sale asked signals).sale asked' signals' = told.sale (asked ++ asked') (signals ++ signals') := by
  simp [Told.sale]

theorem Told.enter_sale_enter (told : Told) (asked asked' : List PositionKey) (signals signals' : List SellSignal)
    (entries entries' : List Op) :
    (((told.sale asked signals).enter entries).sale asked' signals').enter entries' =
      (told.sale (asked ++ asked') (signals ++ signals')).enter (entries ++ entries') := by
  simp [Told.sale, Told.enter]

theorem externalGroup_told (known : told.nameOf ⟨group.id, mint⟩ = group.name) :
    wp (listener setup) (fun _ told' => ∃ signals,
        told' = (told.sale (outsideSaleOf mint trade group).toList signals).enter
          (outsideEntryOf mint tokenProgram trade group).toList)
      (externalGroup mint tokenProgram trade group) told := by
  unfold externalGroup
  refine wp_ite (fun outside => ?_) fun inside => ?_
  · have no : tradesOutside trade group = false := by
      simpa [tradesOutside, ← Bool.not_and, Bool.not_eq_true'] using outside
    exact ⟨[], by simp [outsideSaleOf, outsideEntryOf, no, Told.sale, Told.enter]⟩
  · have yes : tradesOutside trade group = true := by
      simpa [tradesOutside, ← Bool.not_and] using inside
    refine wp_seq (followSell_told known) ?_
    rintro _ told' ⟨signals, rfl⟩
    have asked : (if followsSale trade group then [(⟨group.id, mint⟩ : PositionKey)] else []) =
        (outsideSaleOf mint trade group).toList := by
      unfold outsideSaleOf
      rw [yes, Bool.true_and]
      split <;> rfl
    have taken : (tradesOutside trade group && wantsEntry group trade && !trade.executionFailed &&
        !belowMinimum group trade && decide (group.consensusMinWallets ≤ 1)) =
        !(!wantsEntry group trade || trade.executionFailed || belowMinimum group trade ||
          decide (1 < group.consensusMinWallets)) := by
      have single : decide (group.consensusMinWallets ≤ 1) = !decide (1 < group.consensusMinWallets) := by
        rw [← decide_not, decide_eq_decide]
        omega
      rw [yes, Bool.true_and, single]
      simp only [Bool.not_or, Bool.not_not]
    rw [asked, outsideEntryOf, taken]
    refine wp_ite (fun skips => ⟨signals, ?_⟩) fun enters => ⟨trivial, fun _ _ _ => ⟨signals, ?_⟩⟩
    · simp [skips, Told.enter]
    · simp [Bool.not_eq_true _ ▸ enters, listener, Told.hear, Told.enter, Told.sale]

/-- Groups served one after the other. -/
theorem forEach_told {groups : List CopyGroup} {act : CopyGroup → Prog Unit} (asks : CopyGroup → Option PositionKey)
    (enters : CopyGroup → Option Op) (known : ∀ group ∈ groups, told.nameOf ⟨group.id, mint⟩ = group.name)
    (each : ∀ group ∈ groups, ∀ told : Told, told.nameOf ⟨group.id, mint⟩ = group.name →
      wp (listener setup) (fun _ told' => ∃ signals,
        told' = (told.sale (asks group).toList signals).enter (enters group).toList) (act group) told) :
    wp (listener setup) (fun _ told' => ∃ signals,
        told' = (told.sale (groups.filterMap asks) signals).enter (groups.filterMap enters)) (forEach act groups) told := by
  induction groups generalizing told with
  | nil => exact ⟨[], by simp [Told.sale, Told.enter]⟩
  | cons group rest ih =>
    refine wp_seq (each group List.mem_cons_self told (known group List.mem_cons_self)) ?_
    rintro _ told' ⟨signals, rfl⟩
    refine wp_mono ?_ (ih (fun group' member => known group' (List.mem_cons_of_mem _ member))
      fun group' member => each group' (List.mem_cons_of_mem _ member))
    rintro _ told'' ⟨signals', rfl⟩
    refine ⟨signals ++ signals', ?_⟩
    simp only [Told.enter_sale_enter, List.filterMap_eq_flatMap_toList, List.flatMap_cons]

theorem curveGroup_told (mirror : List Pubkey) (known : told.nameOf ⟨group.id, mint⟩ = group.name) :
    wp (listener setup) (fun enters told' => enters = takesPart trade mirror group ∧ ∃ signals,
        told' = told.sale (saleOf mint trade mirror group).toList signals)
      (curveGroup mint trade mirror group) told := by
  unfold curveGroup
  dsimp only
  -- a group that wants to enter after a sale is one that buys on sales
  have asked : (wantsEntry group trade && !trade.isBuy && group.buyOnSmartSell && mirror.isEmpty) =
      (wantsEntry group trade && !trade.isBuy && mirror.isEmpty) := by
    cases buys : trade.isBuy <;> simp [wantsEntry, buys]
  rw [asked]
  refine wp_ite (fun bare => ⟨?_, [], ?_⟩) fun fine => ?_
  · simp only [Bool.and_eq_true, Bool.not_eq_true'] at bare
    simp [takesPart, bare]
  · simp only [Bool.and_eq_true, Bool.not_eq_true'] at bare
    simp [saleOf, bare, Told.sale]
  · refine wp_seq (followSell_told known) ?_
    rintro _ told' ⟨signals, rfl⟩
    refine ⟨?_, signals, ?_⟩
    · cases wants : wantsEntry group trade with
      | false => simp [takesPart, wants]
      | true =>
        cases buys : trade.isBuy with
        | true => simp [takesPart, wants, buys]
        | false =>
          have shown : mirror.isEmpty = false := by simpa [wants, buys] using fine
          simp [takesPart, wants, buys, shown]
    · unfold saleOf
      cases follows : followsSale trade group with
      | false => simp
      | true =>
        have reverse : trade.isBuy = false := by
          simp only [followsSale, Bool.and_eq_true, Bool.not_eq_true'] at follows
          exact follows.1.2
        have shown : (wantsEntry group trade && mirror.isEmpty) = false := by simpa [reverse] using fine
        simp [shown]

theorem entryGroups_told (mirror : List Pubkey) {groups : List CopyGroup}
    (known : ∀ group ∈ groups, told.nameOf ⟨group.id, mint⟩ = group.name) :
    wp (listener setup) (fun entries told' => entries = groups.filter (takesPart trade mirror) ∧ ∃ signals,
        told' = told.sale (groups.filterMap (saleOf mint trade mirror)) signals)
      (entryGroups mint trade mirror groups) told := by
  induction groups generalizing told with
  | nil => exact ⟨rfl, [], by simp [Told.sale]⟩
  | cons group rest ih =>
    refine wp_seq (curveGroup_told mirror (known group List.mem_cons_self)) ?_
    rintro _ told' ⟨rfl, signals, rfl⟩
    refine wp_seq (ih fun group' member => known group' (List.mem_cons_of_mem _ member)) ?_
    rintro others told'' ⟨rfl, signals', rfl⟩
    refine ⟨?_, signals ++ signals', ?_⟩
    · rw [List.filter_cons]
    · rw [Told.sale_sale, List.filterMap_eq_flatMap_toList, List.filterMap_eq_flatMap_toList, List.flatMap_cons]

theorem enterGroup_told (told : Told) :
    wp (listener setup) (fun _ told' => told' = told.enter (entryOf mint tokenProgram trade group).toList)
      (enterGroup mint tokenProgram trade group) told := by
  unfold enterGroup entryOf
  dsimp only
  refine wp_ite (fun small => ?_) fun enough => ?_
  · simp [small, Told.enter]
  · rw [if_neg enough]
    refine wp_ite (fun single => ?_) fun several => ?_
    · rw [if_pos single]
      refine wp_ite (fun failed => ?_) fun succeeded => ⟨trivial, fun _ _ _ => ?_⟩
      · simp [failed, Told.enter]
      · rw [if_neg succeeded]
        rfl
    · rw [if_neg several]
      refine wp_ite (fun failed => ⟨trivial, fun _ _ _ => ?_⟩) fun succeeded => ⟨trivial, fun _ _ _ => ?_⟩
      · rw [if_pos failed]
        rfl
      · rw [if_neg succeeded]
        rfl

theorem reuseMirror_told (unread : told.mirror = none) :
    wp (listener setup) (fun cached told' => told' = { told with mirror := cached }) (reuseMirror trade mint) told := by
  refine wp_ite (fun _ => ⟨trivial, fun _ _ _ => rfl⟩) fun _ => ?_
  show told = { told with mirror := none }
  rw [← unread]

theorem curveTrade_told {groups : List CopyGroup} (known : ∀ group ∈ groups, told.nameOf ⟨group.id, mint⟩ = group.name)
    (unread : told.mirror = none) :
    wp (listener setup) (fun _ told' => ∃ cached signals,
        let mirror := cached.getD trade.instructionAccounts
        told' = ({ told with mirror := cached }.sale (groups.filterMap (saleOf mint trade mirror)) signals).enter
          (groups.filterMap fun group => if takesPart trade mirror group then entryOf mint tokenProgram trade group else none))
      (curveTrade setup trade mint tokenProgram groups) told := by
  refine wp_seq (reuseMirror_told unread) ?_
  rintro cached told' rfl
  refine wp_quiet_bind (warmForEntry_uses (listener_quiet fun _ _ _ => rfl) (listener_quiet fun _ _ _ => rfl)
    (fun _ => listener_quiet fun _ _ _ => rfl) fun _ => listener_quiet fun _ _ _ => rfl) fun _ => ?_
  refine wp_seq (entryGroups_told _ known) ?_
  rintro entries told' ⟨rfl, signals, rfl⟩
  have within {group : CopyGroup} (member : group ∈ groups.filter (takesPart trade (cached.getD trade.instructionAccounts))) :
      group ∈ groups := List.mem_of_mem_filter member
  refine wp_mono ?_ (forEach_told (fun _ => none) (entryOf mint tokenProgram trade)
    (fun group member => known group (within member)) fun group _ told _ => wp_mono ?_ (enterGroup_told told))
  · rintro _ told' ⟨signals', rfl⟩
    refine ⟨cached, signals ++ signals', ?_⟩
    have nobody (groups : List CopyGroup) : groups.filterMap (fun _ => (none : Option PositionKey)) = [] :=
      List.filterMap_eq_nil_iff.mpr fun _ _ => rfl
    rw [Told.sale_sale, nobody, List.append_nil, List.filterMap_filter]
  · rintro _ told' rfl
    exact ⟨[], by simp [Told.sale]⟩

theorem decided_nothing (entries : told.entries = []) (asked : told.asked = []) (sent : told.sent = told.due)
    (nobody : told.followers trade.sourceWallet = [] ∨ extractTokenInfo trade = none) : told.Decided trade := by
  have tokenless (group : CopyGroup) (token : extractTokenInfo trade = none) :
      told.entryFor trade group = none ∧ told.saleFor trade group = none := by
    simp [Told.entryFor, Told.saleFor, token]
  rcases nobody with nobody | token
  · exact ⟨by rw [entries, nobody, List.filterMap_nil], by rw [asked, nobody, List.filterMap_nil], sent⟩
  · refine ⟨?_, ?_, sent⟩
    · exact entries.trans (List.filterMap_eq_nil_iff.mpr fun group _ => (tokenless group token).1).symm
    · exact asked.trans (List.filterMap_eq_nil_iff.mpr fun group _ => (tokenless group token).2).symm

theorem decided_of {groups : List CopyGroup} {entry : CopyGroup → Option Op} {sale : CopyGroup → Option PositionKey}
    (followers : told.followers trade.sourceWallet = groups) (entries : told.entries = groups.filterMap entry)
    (asked : told.asked = groups.filterMap sale) (sent : told.sent = told.due)
    (enters : ∀ group, entry group = told.entryFor trade group) (sells : ∀ group, sale group = told.saleFor trade group) :
    told.Decided trade where
  entries := by rw [entries, followers, funext enters]
  asked := by rw [asked, followers, funext sells]
  sent := sent

theorem nameOf_follower {store : GroupManager} {wallet : Pubkey} (stored : told.store = some store) :
    ∀ group ∈ store.groupsForWallet wallet, told.nameOf ⟨group.id, mint⟩ = group.name := by
  intro group member
  rw [Told.nameOf, stored, Option.bind_some, store.getGroup_of_mem member]
  rfl

theorem handleTrade_decided : wp (listener setup) (fun _ told => told.Decided trade) (handleTrade setup trade) Told.start := by
  refine wp_perform trivial fun _ running _ => ?_
  refine wp_ite (fun off => decided_nothing rfl rfl rfl (.inl ?_)) fun on => ?_
  · rw [Bool.not_eq_true'] at off
    simp [Told.followers, Told.cleared, listener, Told.hear, off]
  rw [Bool.not_eq_true', Bool.not_eq_false] at on
  refine wp_perform trivial fun _ seen _ => ?_
  refine wp_ite (fun known => decided_nothing rfl rfl rfl (.inl ?_)) fun new => ?_
  · simp [Told.followers, Told.cleared, listener, Told.hear, known]
  rw [Bool.not_eq_true] at new
  refine wp_quiet_bind (cacheMirror_uses fun _ _ => listener_quiet fun _ _ _ => rfl) fun _ => ?_
  refine wp_perform trivial fun w groups listed => ?_
  obtain ⟨_, _, reply⟩ := replied listed
  cases reply
  refine wp_ite (fun nobody => decided_nothing rfl rfl rfl (.inl ?_)) fun _ => ?_
  · simp [Told.followers, Told.cleared, listener, Told.hear, Told.start]
  cases token : extractTokenInfo trade with
  | none => exact decided_nothing rfl rfl rfl (.inr token)
  | some found =>
    obtain ⟨mint, tokenProgram⟩ := found
    refine wp_perform trivial fun _ blocked _ => ?_
    refine wp_ite (fun stopped => decided_nothing rfl rfl rfl (.inl ?_)) fun unblocked => ?_
    · simp [Told.followers, Told.cleared, listener, Told.hear, stopped]
    rw [Bool.not_eq_true] at unblocked
    let told : Told := { Told.start with running := running, seen := seen, store := some w.groups, blocked := blocked }
    have known : ∀ group ∈ w.groups.groupsForWallet trade.sourceWallet,
        told.nameOf ⟨group.id, mint⟩ = group.name := nameOf_follower rfl
    have followers : told.followers trade.sourceWallet = w.groups.groupsForWallet trade.sourceWallet := by
      simp [told, Told.followers, Told.cleared, on, new, unblocked]
    apply wp_ite
    · intro external
      refine wp_mono ?_ (forEach_told (outsideSaleOf mint trade) (outsideEntryOf mint tokenProgram trade) known
        fun group _ told known => externalGroup_told known)
      rintro _ told' ⟨signals, rfl⟩
      refine decided_of followers rfl rfl rfl (fun group => ?_) fun group => ?_
      · simp [Told.entryFor, token, external]
      · simp [Told.saleFor, token, external]
    · intro internal
      refine wp_mono ?_ (curveTrade_told known rfl)
      rintro _ told' ⟨cached, signals, rfl⟩
      refine decided_of followers rfl rfl rfl (fun group => ?_) fun group => ?_
      · simp only [Told.entryFor, token, Option.bind_some, if_neg internal]
        rfl
      · simp only [Told.saleFor, token, Option.bind_some, if_neg internal]
        rfl

end

/-! ### One group -/

theorem followers_filter (told : Told) (wallet : Pubkey) (groupId : String) :
    (told.followers wallet).filter (fun group => group.id = groupId) = (told.follower wallet groupId).toList := by
  unfold Told.followers Told.follower
  split
  · cases told.store with
    | none => rfl
    | some store =>
      refine filter_key_eq (store.groupsForWallet_nodup wallet) fun group => ?_
      simp only [Option.bind_some, Option.filter_eq_some_iff, Bool.and_eq_true, List.contains_iff_mem]
      rw [GroupManager.mem_groupsForWallet]
      constructor
      · rintro ⟨stored, follows⟩
        obtain rfl : group.id = groupId := GroupManager.keyed_iff.mp store.keyed groupId group stored
        exact ⟨⟨stored, follows⟩, rfl⟩
      · rintro ⟨⟨stored, follows⟩, rfl⟩
        exact ⟨stored, follows⟩
  · rfl

/-- What is done for each group by its id, when every group is served under its own. -/
theorem filterMap_follower {α : Type} {act : CopyGroup → Option α} (mine : String → α → Bool)
    (own : ∀ group a, act group = some a → ∀ groupId, mine groupId a = decide (group.id = groupId)) (told : Told)
    (wallet : Pubkey) (groupId : String) :
    ((told.followers wallet).filterMap act).filter (mine groupId) = ((told.follower wallet groupId).bind act).toList := by
  have same : ((told.followers wallet).filterMap act).filter (mine groupId) =
      ((told.followers wallet).filter fun group => group.id = groupId).filterMap act := by
    rw [List.filter_filterMap, List.filterMap_filter]
    refine List.filterMap_congr fun group _ => ?_
    cases done : act group with
    | none => simp
    | some a => simp [own group a done groupId, Option.filter]
  rw [same, followers_filter]
  cases told.follower wallet groupId with
  | none => rfl
  | some group => cases done : act group <;> simp [done]

/-! ### A finished intake -/

/-- The operation enters a group under the id. -/
def entersFor (groupId : String) : Op → Bool
  | .spawnBuy buy _ => buy.group.id = groupId
  | .spawnExternalBuy buy _ => buy.group.id = groupId
  | .submitSignal signal => signal.groupId = groupId
  | .rejectSignal id .. => id = groupId
  | _ => false

def looksAt (groupId : String) : Op → Option PositionKey
  | .getPosition key => if key.groupId = groupId then some key else none
  | _ => none

def sentSignal : Op → Option SellSignal
  | .sendSellSignal signal => some signal
  | _ => none

/-- What is noted of an event, as far as it was done. -/
theorem hear_done (groupId : String) (told : Told) (e : Moment) :
    (told.hear e).entries.filter (entersFor groupId) =
        told.entries.filter (entersFor groupId) ++ [e.op].filter (entersFor groupId) ∧
      (told.hear e).asked.filter (fun key => key.groupId = groupId) =
        told.asked.filter (fun key => key.groupId = groupId) ++ (looksAt groupId e.op).toList ∧
      (told.hear e).sent = told.sent ++ (sentSignal e.op).toList := by
  obtain ⟨world, op, answer⟩ := e
  cases op
  case getPosition key =>
    refine ⟨(List.append_nil _).symm, ?_, (List.append_nil _).symm⟩
    by_cases same : key.groupId = groupId <;> simp [Told.hear, looksAt, same]
  case spawnBuy | spawnExternalBuy | submitSignal | rejectSignal =>
    exact ⟨List.filter_append .., (List.append_nil _).symm, (List.append_nil _).symm⟩
  case sendSellSignal => exact ⟨(List.append_nil _).symm, (List.append_nil _).symm, rfl⟩
  all_goals exact ⟨(List.append_nil _).symm, (List.append_nil _).symm, (List.append_nil _).symm⟩

section
variable {setup : Setup} {starts : World → Prop} {ok : State → Step → Prop} {s : State} {i : ℕ} {t : TaskState}
  {trade : DetectedTrade}

abbrev toldBy (setup : Setup) (past : List Moment) : Told := (listener setup).after Told.start past

theorem toldBy_done (groupId : String) (past : List Moment) :
    (toldBy setup past).entries.filter (entersFor groupId) = (past.map (·.op)).filter (entersFor groupId) ∧
      (toldBy setup past).asked.filter (fun key => key.groupId = groupId) = past.filterMap (looksAt groupId ·.op) ∧
      (toldBy setup past).sent = past.filterMap (sentSignal ·.op) := by
  induction past using List.reverseRecOn with
  | nil => exact ⟨rfl, rfl, rfl⟩
  | append_singleton past e ih =>
    obtain ⟨entries, asked, sent⟩ := hear_done groupId (toldBy setup past) e
    have next : toldBy setup (past ++ [e]) = (toldBy setup past).hear e := Monitor.after_snoc ..
    rw [next, entries, asked, sent, ih.1, ih.2.1, ih.2.2]
    simp [List.filterMap_eq_flatMap_toList]

theorem decided (reach : (process setup).Reachable starts ok s) (here : s.tasks[i]? = some t)
    (intake : t.role = .trade trade) (ended : t.rest.isDone = true) : (toldBy setup t.past).Decided trade := by
  have follows := reach.obeys (fun _ => listener setup) (fun _ => Told.start) (fun role => role = .trade trade)
    (fun _ told => told.Decided trade) (fun role same => same ▸ handleTrade_decided)
    (fun s i t choice op next answer world _ _ _ reply => ⟨choice, world, reply⟩) here intake
  cases rest : t.rest with
  | done a =>
    rw [rest] at follows
    exact follows
  | perform op next =>
    rw [rest] at ended
    cases ended

theorem entryFor_own (told : Told) (group : CopyGroup) (op : Op) (enters : told.entryFor trade group = some op)
    (groupId : String) : entersFor groupId op = decide (group.id = groupId) := by
  obtain ⟨⟨mint, tokenProgram⟩, _, entry⟩ := Option.bind_eq_some_iff.mp enters
  unfold outsideEntryOf entryOf at entry
  dsimp only at entry
  split at entry
  · split at entry
    · cases entry
      rfl
    · cases entry
  · split at entry
    · split at entry
      · cases entry
      · split at entry
        · split at entry
          · cases entry
          · cases entry
            rfl
        · split at entry
          · cases entry
            rfl
          · cases entry
            rfl
    · cases entry

theorem saleFor_own (told : Told) (group : CopyGroup) (key : PositionKey) (looks : told.saleFor trade group = some key)
    (groupId : String) : decide (key.groupId = groupId) = decide (group.id = groupId) := by
  obtain ⟨⟨mint, tokenProgram⟩, _, sale⟩ := Option.bind_eq_some_iff.mp looks
  unfold outsideSaleOf saleOf at sale
  dsimp only at sale
  split at sale
  all_goals
    split at sale
    · cases sale
      rfl
    · cases sale

/-- A finished intake has entered each group exactly as it was told: once if the group follows the wallet
and the report asks for an entry, and else not at all. It has looked for the position of each group that
follows the sale, and signalled the sale of those found that can be sold. -/
theorem intake_decides (reach : (process setup).Reachable starts ok s) (here : s.tasks[i]? = some t)
    (intake : t.role = .trade trade) (ended : t.rest.isDone = true) :
    let told := toldBy setup t.past
    (∀ groupId, (t.past.map (·.op)).filter (entersFor groupId) =
      ((told.follower trade.sourceWallet groupId).bind (told.entryFor trade)).toList) ∧
    (∀ groupId, t.past.filterMap (looksAt groupId ·.op) =
      ((told.follower trade.sourceWallet groupId).bind (told.saleFor trade)).toList) ∧
    t.past.filterMap (sentSignal ·.op) = told.due := by
  intro told
  have done := decided reach here intake ended
  refine ⟨fun groupId => ?_, fun groupId => ?_, ?_⟩
  · rw [← (toldBy_done groupId t.past).1, done.entries]
    exact filterMap_follower entersFor (entryFor_own told) told trade.sourceWallet groupId
  · rw [← (toldBy_done groupId t.past).2.1, done.asked]
    exact filterMap_follower (fun groupId (key : PositionKey) => key.groupId = groupId) (saleFor_own told) told
      trade.sourceWallet groupId
  · rw [← (toldBy_done "" t.past).2.2, done.sent]

end

/-- The intake of a report has ended, and was told of a group that enters. -/
def wasAsked (setup : Setup) (trade : DetectedTrade) (groupId : String) : TaskState → Bool
  | ⟨.trade report, past, rest⟩ => report = trade && rest.isDone &&
    (((toldBy setup past).follower trade.sourceWallet groupId).bind ((toldBy setup past).entryFor trade)).isSome
  | _ => false

theorem sample_entered_once : ∃ t : TaskState, t.role = .trade (sampleTrade "a" false) ∧
    ((t.past.map (·.op)).filter (entersFor "g1")).length = 1 := by
  obtain ⟨s, reach, t, here, asked⟩ := reaches_task sampleSetup anyStep sampleGroups
    (sampleIntake 0 (sampleTrade "a" false)) 0 (wasAsked sampleSetup (sampleTrade "a" false) "g1") (by decide +kernel)
  unfold wasAsked at asked
  split at asked
  · rename_i report past rest
    simp only [Bool.and_eq_true, decide_eq_true_eq] at asked
    obtain ⟨⟨rfl, ended⟩, enters⟩ := asked
    refine ⟨⟨.trade (sampleTrade "a" false), past, rest⟩, rfl, ?_⟩
    rw [(intake_decides reach here rfl ended).1 "g1"]
    obtain ⟨op, found⟩ := Option.isSome_iff_exists.mp enters
    rw [found]
    rfl
  · cases asked

end CopyTrader.Main
