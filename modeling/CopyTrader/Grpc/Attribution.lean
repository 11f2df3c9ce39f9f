import CopyTrader.Grpc.Transactions

/-!
# Whose trade it is

The wallet of a reported trade is looked for among the keys of the transaction, before any instruction is
read.
-/

namespace CopyTrader.Grpc.GrpcSubscriber
open Lib Processor

variable {sdk : Sdk} {targetWallets allAccountKeys : List Pubkey} {hashOrder : HashOrder} {message : Message}
  {status : Option TransactionStatusMeta} {signature : Signature} {sourceWallet : Pubkey} {recvTime : Instant}
  {scope : ParseScope} {ix : CompiledInstruction} {trade : DetectedTrade}

/-- An order on the curve by its user, with all that names the user. -/
def IsOrder (accounts : List Pubkey) (data : List UInt8) : Prop :=
  7 ≤ accounts.length ∧ data.take 8 ∈ [PUMPFUN_BUY_DISC, PUMPFUN_BUY_EXACT_SOL_IN_DISC, PUMPFUN_SELL_DISC]

/-- A trade that is read off an instruction of Pump.fun itself. -/
def IsDirect (trade : DetectedTrade) : Prop := trade.tradeType = .pumpfun ∧ trade.tradeOrigin = .direct

def callsPumpfun (allAccountKeys : List Pubkey) (ix : CompiledInstruction) : Bool :=
  allAccountKeys[ix.programIdIndex]?.any fun programId => tradeTypeForProgram programId .internal = some .pumpfun

def accountsOf (allAccountKeys : List Pubkey) (ix : CompiledInstruction) : List Pubkey :=
  instructionAccounts (ix.accounts.map fun idx => allAccountKeys[idx.toNat]?)

/-- The first instruction of Pump.fun, the outer ones first. -/
def firstPumpfun (message : Message) (status : Option TransactionStatusMeta) : Option CompiledInstruction :=
  (message.instructions ++ innerInstructions status).find? (callsPumpfun (accountKeys message status))

/-- The trade reads as the instruction does. -/
structure ReadsAs (allAccountKeys : List Pubkey) (sourceWallet : Pubkey) (ix : CompiledInstruction)
    (trade : DetectedTrade) : Prop where
  direct : IsDirect trade
  wallet : trade.sourceWallet = sourceWallet
  accounts : trade.instructionAccounts = accountsOf allAccountKeys ix
  data : trade.instructionData = ix.data

theorem tradeType_internal {programId : Pubkey} {tradeType : TradeType}
    (known : tradeTypeForProgram programId .internal = some tradeType) : tradeType = .pumpfun := by
  unfold tradeTypeForProgram at known
  dsimp only at known
  split_ifs at known
  exact (Option.some.inj known).symm

theorem tradeType_external {programId : Pubkey} : tradeTypeForProgram programId .external ≠ some .pumpfun := by
  unfold tradeTypeForProgram
  dsimp only
  split_ifs <;> exact nofun

theorem parseCompiled_internal_isSome :
    (parseCompiled sdk targetWallets allAccountKeys signature sourceWallet recvTime .internal ix).isSome =
      callsPumpfun allAccountKeys ix := by
  unfold parseCompiled callsPumpfun
  cases allAccountKeys[ix.programIdIndex]? with
  | none => rfl
  | some programId =>
    refine tryParseInstruction_isSome.trans ?_
    rw [Option.any_some]
    cases known : tradeTypeForProgram programId .internal with
    | none => rfl
    | some tradeType =>
      rw [tradeType_internal known]
      exact supported_of_unchecked nofun nofun

theorem parseCompiled_internal
    (parsed : parseCompiled sdk targetWallets allAccountKeys signature sourceWallet recvTime .internal ix = some trade) :
    ReadsAs allAccountKeys sourceWallet ix trade := by
  unfold parseCompiled at parsed
  obtain ⟨programId, -, parsed⟩ := Option.bind_eq_some_iff.mp parsed
  obtain ⟨known, data, wallet, origin, accounts⟩ := tryParseInstruction_fields parsed
  exact ⟨⟨tradeType_internal known, origin⟩, wallet, accounts, data⟩

theorem parseCompiled_external
    (parsed : parseCompiled sdk targetWallets allAccountKeys signature sourceWallet recvTime .external ix = some trade) :
    ¬ IsDirect trade := by
  unfold parseCompiled at parsed
  obtain ⟨programId, -, parsed⟩ := Option.bind_eq_some_iff.mp parsed
  rintro ⟨type, -⟩
  exact tradeType_external (type ▸ (tryParseInstruction_fields parsed).1)

theorem tryDetectCpiPumpfun_indirect
    (detected : tryDetectCpiPumpfun sdk targetWallets allAccountKeys signature sourceWallet status recvTime = some trade) :
    ¬ IsDirect trade := by
  unfold tryDetectCpiPumpfun at detected
  obtain ⟨mint, -, detected⟩ := Option.bind_eq_some_iff.mp detected
  rintro ⟨-, origin⟩
  cases Option.some.inj detected
  exact nomatch origin

theorem isDirect_finished {isPreExecution : Bool} :
    IsDirect (finishTrade hashOrder message status allAccountKeys isPreExecution trade) ↔ IsDirect trade := by
  unfold finishTrade enrichTradeFromMeta
  cases status <;> exact Iff.rfl

theorem ReadsAs.finished (reads : ReadsAs allAccountKeys sourceWallet ix trade) {isPreExecution : Bool} :
    ReadsAs allAccountKeys sourceWallet ix (finishTrade hashOrder message status allAccountKeys isPreExecution trade) := by
  unfold finishTrade enrichTradeFromMeta
  cases status <;> exact ⟨reads.direct, reads.wallet, reads.accounts, reads.data⟩

theorem parseCompiled_wallet
    (parsed : parseCompiled sdk targetWallets allAccountKeys signature sourceWallet recvTime scope ix = some trade) :
    trade.sourceWallet = sourceWallet := by
  unfold parseCompiled at parsed
  obtain ⟨programId, -, parsed⟩ := Option.bind_eq_some_iff.mp parsed
  exact (tryParseInstruction_fields parsed).2.2.1

theorem tryDetectCpiPumpfun_wallet
    (detected : tryDetectCpiPumpfun sdk targetWallets allAccountKeys signature sourceWallet status recvTime = some trade) :
    trade.sourceWallet = sourceWallet := by
  unfold tryDetectCpiPumpfun at detected
  obtain ⟨mint, -, detected⟩ := Option.bind_eq_some_iff.mp detected
  cases Option.some.inj detected
  rfl

theorem scan_wallet {instructions : List CompiledInstruction} {isPreExecution : Bool}
    (scanned : (instructions.findSome? (parseCompiled sdk targetWallets allAccountKeys signature sourceWallet recvTime
      scope)).map (finishTrade hashOrder message status allAccountKeys isPreExecution) = some trade) :
    trade.sourceWallet = sourceWallet := by
  obtain ⟨read, found, rfl⟩ := Option.map_eq_some_iff.mp scanned
  obtain ⟨ix, -, parsed⟩ := List.exists_of_findSome?_eq_some found
  have kept : (finishTrade hashOrder message status allAccountKeys isPreExecution read).sourceWallet = read.sourceWallet := by
    unfold finishTrade enrichTradeFromMeta
    cases status <;> rfl
  exact kept.trans (parseCompiled_wallet parsed)

theorem external_scan_indirect {instructions : List CompiledInstruction} {isPreExecution : Bool}
    (scanned : (instructions.findSome? (parseCompiled sdk targetWallets allAccountKeys signature sourceWallet recvTime
      .external)).map (finishTrade hashOrder message status allAccountKeys isPreExecution) = some trade) :
    ¬ IsDirect trade := by
  obtain ⟨read, found, rfl⟩ := Option.map_eq_some_iff.mp scanned
  obtain ⟨ix, -, parsed⟩ := List.exists_of_findSome?_eq_some found
  intro direct
  exact parseCompiled_external parsed (isDirect_finished.mp direct)

/-- A scan stops at the first instruction that it takes. -/
theorem findSome?_eq_bind {α β : Type} {f : α → Option β} {p : α → Bool} (takes : ∀ a, (f a).isSome = p a) (l : List α) :
    l.findSome? f = (l.find? p).bind f := by
  induction l with
  | nil => rfl
  | cons a l ih =>
    rw [List.findSome?_cons, List.find?_cons, ← takes a]
    cases taken : f a with
    | none => exact ih
    | some b => exact taken.symm

/-- The scan for Pump.fun reads the first of its instructions. -/
theorem internal_scan (instructions : List CompiledInstruction) :
    instructions.findSome? (parseCompiled sdk targetWallets allAccountKeys signature sourceWallet recvTime .internal) =
      (instructions.find? (callsPumpfun allAccountKeys)).bind
        (parseCompiled sdk targetWallets allAccountKeys signature sourceWallet recvTime .internal) :=
  findSome?_eq_bind (fun _ => parseCompiled_internal_isSome) instructions

theorem parsed_of_found {instructions : List CompiledInstruction}
    (found : instructions.find? (callsPumpfun allAccountKeys) = some ix) : ∃ trade,
      parseCompiled sdk targetWallets allAccountKeys signature sourceWallet recvTime .internal ix = some trade ∧
        ReadsAs allAccountKeys sourceWallet ix trade := by
  have some : (parseCompiled sdk targetWallets allAccountKeys signature sourceWallet recvTime .internal ix).isSome = true :=
    parseCompiled_internal_isSome.trans (List.find?_some found)
  obtain ⟨trade, parsed⟩ := Option.isSome_iff_exists.mp some
  exact ⟨trade, parsed, parseCompiled_internal parsed⟩

section
variable {bytes : List UInt8} {wallet : Pubkey}

/-- A trade is read off the first instruction of Pump.fun, and is given to the first target wallet among the keys. -/
theorem parseTransaction_direct (found : (accountKeys message status).find? targetWallets.contains = some wallet)
    (first : firstPumpfun message status = some ix) : ∃ trade,
      parseTransaction sdk targetWallets hashOrder bytes (some message) status recvTime = .ok (some trade) ∧
        ReadsAs (accountKeys message status) wallet ix trade := by
  unfold parseTransaction
  dsimp only
  rw [found]
  dsimp only
  rw [internal_scan, internal_scan]
  rw [firstPumpfun, List.find?_append] at first
  cases outer : message.instructions.find? (callsPumpfun (accountKeys message status)) with
  | some ix' =>
    obtain rfl : ix' = ix := by
      rw [outer] at first
      exact Option.some.inj first
    obtain ⟨trade, parsed, reads⟩ := parsed_of_found outer
    refine ⟨finishTrade hashOrder message status (accountKeys message status) status.isNone trade, ?_, reads.finished⟩
    rw [Option.bind_some, parsed]
    rfl
  | none =>
    rw [outer, Option.none_or] at first
    -- there are inner instructions, so that the transaction has a status
    have executed : status.isNone = false := by
      cases status with
      | none => simp [innerInstructions] at first
      | some => rfl
    obtain ⟨trade, parsed, reads⟩ := parsed_of_found first
    refine ⟨finishTrade hashOrder message status (accountKeys message status) false trade, ?_, reads.finished⟩
    rw [first, Option.bind_some, parsed, executed, Bool.and_false]
    rfl

/-- Without an instruction of Pump.fun there is no trade that is read off one. -/
theorem parseTransaction_indirect (absent : firstPumpfun message status = none)
    (parsed : parseTransaction sdk targetWallets hashOrder bytes (some message) status recvTime = .ok (some trade)) :
    ¬ IsDirect trade := by
  unfold parseTransaction at parsed
  dsimp only at parsed
  rw [firstPumpfun, List.find?_append, Option.or_eq_none_iff] at absent
  split at parsed
  · exact nomatch parsed
  next wallet found =>
    rw [internal_scan, internal_scan, absent.1, absent.2] at parsed
    simp only [Option.bind_none, Option.map_none, Option.none_or, Except.ok.injEq, Option.or_eq_some_iff] at parsed
    obtain wrapped | ⟨-, outer | ⟨-, inner⟩⟩ := parsed
    · split at wrapped
      · exact tryDetectCpiPumpfun_indirect wrapped
      · exact nomatch wrapped
    · exact external_scan_indirect outer
    · exact external_scan_indirect inner

/-- Every trade is given to the first target wallet among the keys. -/
theorem parseTransaction_wallet
    (parsed : parseTransaction sdk targetWallets hashOrder bytes (some message) status recvTime = .ok (some trade)) :
    (accountKeys message status).find? targetWallets.contains = some trade.sourceWallet := by
  unfold parseTransaction at parsed
  dsimp only at parsed
  split at parsed
  · cases parsed
  next wallet found =>
    rw [found]
    simp only [Except.ok.injEq, Option.or_eq_some_iff] at parsed
    obtain outer | ⟨-, wrapped | ⟨-, inner | ⟨-, external | ⟨-, last⟩⟩⟩⟩ := parsed
    · rw [scan_wallet outer]
    · split at wrapped
      · rw [tryDetectCpiPumpfun_wallet wrapped]
      · cases wrapped
    · rw [scan_wallet inner]
    · rw [scan_wallet external]
    · rw [scan_wallet last]

/-- Every direct trade on Pump.fun belongs to its user exactly when the first target wallet among the keys is the user
of the first instruction of Pump.fun, if that is an order. -/
theorem attributed_iff :
    (∀ trade, parseTransaction sdk targetWallets hashOrder bytes (some message) status recvTime = .ok (some trade) →
      IsDirect trade → IsOrder trade.instructionAccounts trade.instructionData →
        trade.instructionAccounts[6]? = some trade.sourceWallet) ↔
      ∀ wallet ix, (accountKeys message status).find? targetWallets.contains = some wallet →
        firstPumpfun message status = some ix → IsOrder (accountsOf (accountKeys message status) ix) ix.data →
          (accountsOf (accountKeys message status) ix)[6]? = some wallet := by
  constructor
  · intro attributed wallet ix found first order
    obtain ⟨trade, parsed, reads⟩ : ∃ trade,
        parseTransaction sdk targetWallets hashOrder bytes (some message) status recvTime = .ok (some trade) ∧
          ReadsAs (accountKeys message status) wallet ix trade := parseTransaction_direct found first
    rw [← reads.accounts, ← reads.data] at order
    rw [← reads.accounts, ← reads.wallet]
    exact attributed trade parsed reads.direct order
  · intro users trade parsed direct order
    cases found : (accountKeys message status).find? targetWallets.contains with
    | none =>
      unfold parseTransaction at parsed
      dsimp only at parsed
      rw [found] at parsed
      exact nomatch parsed
    | some wallet =>
      cases first : firstPumpfun message status with
      | none => exact absurd direct (parseTransaction_indirect first parsed)
      | some ix =>
        obtain ⟨trade', parsed', reads⟩ : ∃ trade,
            parseTransaction sdk targetWallets hashOrder bytes (some message) status recvTime = .ok (some trade) ∧
              ReadsAs (accountKeys message status) wallet ix trade := parseTransaction_direct found first
        obtain rfl : trade = trade' := Option.some.inj (Except.ok.inj (parsed.symm.trans parsed'))
        rw [reads.accounts, reads.data] at order
        rw [reads.accounts, reads.wallet]
        exact users wallet ix found first order

end

/-- Wallet 20 buys, and the target wallet 7 is only listed among the keys. -/
def sampleListed : Message where
  accountKeys :=
    [20, 7, PUMPFUN_GLOBAL, PUMPFUN_FEE_RECIPIENT, 9, curveOf sampleSdk 9, 11, 12, SYSTEM_PROGRAM, TOKEN_PROGRAM,
      PUMPFUN_PROGRAM_ID].map fun key => (leBytes 32 key.toNat).reverse
  instructions := [⟨10, [2, 3, 4, 5, 6, 7, 0, 8, 9], PumpfunProcessor.orderData BUY_DISCRIMINATOR 1000 500⟩]

theorem sampleListed_found : (accountKeys sampleListed none).find? [7].contains = some 7 := by decide +kernel

theorem sampleListed_first : firstPumpfun sampleListed none =
    some ⟨10, [2, 3, 4, 5, 6, 7, 0, 8, 9], PumpfunProcessor.orderData BUY_DISCRIMINATOR 1000 500⟩ := by decide +kernel

theorem listed_wallet_trades : ∃ trade,
    parseTransaction sampleSdk [7] id [1] (some sampleListed) none 0 = .ok (some trade) ∧ IsDirect trade ∧
      IsOrder trade.instructionAccounts trade.instructionData ∧
        trade.instructionAccounts[6]? ≠ some trade.sourceWallet := by
  obtain ⟨trade, parsed, reads⟩ : ∃ trade, parseTransaction sampleSdk [7] id [1] (some sampleListed) none 0 =
      .ok (some trade) ∧ ReadsAs (accountKeys sampleListed none) 7 _ trade := parseTransaction_direct sampleListed_found sampleListed_first
  refine ⟨trade, parsed, reads.direct, ?_, ?_⟩
  · rw [reads.accounts, reads.data]
    exact ⟨by decide +kernel, by decide +kernel⟩
  · rw [reads.accounts, reads.wallet]
    decide +kernel

end CopyTrader.Grpc.GrpcSubscriber
