import CopyTrader.Grpc.Attribution

/-!
# Pump.fun comes first

The scans of a transaction try every instruction of Pump.fun before they look at another venue.
-/

namespace CopyTrader.Grpc.GrpcSubscriber
open Lib Processor

variable {sdk : Sdk} {targetWallets allAccountKeys : List Pubkey} {hashOrder : HashOrder} {message : Message}
  {status : Option TransactionStatusMeta} {bytes : List UInt8} {recvTime : Instant} {wallet : Pubkey}
  {ix : CompiledInstruction}

/-- The program of the instruction is Pump.fun. A program that is not among the keys is none. -/
def resolvesToPumpfun (allAccountKeys : List Pubkey) (ix : CompiledInstruction) : Bool :=
  allAccountKeys[ix.programIdIndex]? = some PUMPFUN_PROGRAM_ID

theorem toText_pumpfun : PUMPFUN_PROGRAM_ID.toText = PUMPFUN_PROGRAM := by decide +kernel

theorem toText_eq_pumpfun {key : Pubkey} : key.toText = PUMPFUN_PROGRAM ↔ key = PUMPFUN_PROGRAM_ID := by
  constructor
  · intro same
    have read := congrArg Pubkey.fromStr (same.trans toText_pumpfun.symm)
    simpa using read
  · rintro rfl
    exact toText_pumpfun

theorem callsPumpfun_eq : callsPumpfun allAccountKeys = resolvesToPumpfun allAccountKeys := by
  funext ix
  unfold callsPumpfun resolvesToPumpfun
  cases allAccountKeys[ix.programIdIndex]? with
  | none => rfl
  | some programId => simp [tradeTypeForProgram, toText_eq_pumpfun]

theorem parseTransaction_ok (sdk : Sdk) (targetWallets : List Pubkey) (hashOrder : HashOrder) (bytes : List UInt8)
    (message : Message) (status : Option TransactionStatusMeta) (recvTime : Instant) : ∃ result,
      parseTransaction sdk targetWallets hashOrder bytes (some message) status recvTime = .ok result := by
  unfold parseTransaction
  dsimp only
  split
  · exact ⟨none, rfl⟩
  · exact ⟨_, rfl⟩

/-- The outer instructions are scanned first, and the scan takes the first of Pump.fun. -/
theorem parseTransaction_outer (found : (accountKeys message status).find? targetWallets.contains = some wallet)
    (first : message.instructions.find? (resolvesToPumpfun (accountKeys message status)) = some ix) : ∃ read,
      parseCompiled sdk targetWallets (accountKeys message status) (signatureText bytes) wallet recvTime .internal ix =
        some read ∧
      parseTransaction sdk targetWallets hashOrder bytes (some message) status recvTime =
        .ok (some (finishTrade hashOrder message status (accountKeys message status) status.isNone read)) := by
  rw [← callsPumpfun_eq] at first
  obtain ⟨read, parsed, -⟩ : ∃ read, parseCompiled sdk targetWallets (accountKeys message status) (signatureText bytes)
      wallet recvTime .internal ix = some read ∧ ReadsAs (accountKeys message status) wallet ix read :=
    parsed_of_found first
  refine ⟨read, parsed, ?_⟩
  unfold parseTransaction
  simp only [found, internal_scan, first, Option.bind_some, parsed, Option.map_some, Option.some_or]

/-- A trade on another venue means that there is no instruction of Pump.fun. -/
theorem parseTransaction_external {trade : DetectedTrade}
    (found : (accountKeys message status).find? targetWallets.contains = some wallet)
    (parsed : parseTransaction sdk targetWallets hashOrder bytes (some message) status recvTime = .ok (some trade))
    (external : trade.tradeType ≠ .pumpfun) : ∀ ix ∈ message.instructions ++ innerInstructions status,
      resolvesToPumpfun (accountKeys message status) ix = false := by
  have absent : firstPumpfun message status = none := by
    cases first : firstPumpfun message status with
    | none => rfl
    | some ix =>
      obtain ⟨direct, parsed', reads⟩ : ∃ direct,
          parseTransaction sdk targetWallets hashOrder bytes (some message) status recvTime = .ok (some direct) ∧
            ReadsAs (accountKeys message status) wallet ix direct := parseTransaction_direct found first
      obtain rfl : trade = direct := Option.some.inj (Except.ok.inj (parsed.symm.trans parsed'))
      exact absurd reads.direct.1 external
  rw [firstPumpfun, callsPumpfun_eq, List.find?_eq_none] at absent
  intro ix member
  exact Bool.eq_false_of_not_eq_true (absent ix member)

/-- The priority of Pump.fun over any transaction of a target wallet. -/
theorem pumpfun_first (sdk : Sdk) (hashOrder : HashOrder) (bytes : List UInt8) (recvTime : Instant)
    (found : (accountKeys message status).find? targetWallets.contains = some wallet) : ∃ result,
      parseTransaction sdk targetWallets hashOrder bytes (some message) status recvTime = .ok result ∧
      (∀ trade, result = some trade → trade.tradeType ≠ .pumpfun →
        ∀ ix ∈ message.instructions ++ innerInstructions status,
          resolvesToPumpfun (accountKeys message status) ix = false) ∧
      ∀ ix, message.instructions.find? (resolvesToPumpfun (accountKeys message status)) = some ix → ∃ read,
        parseCompiled sdk targetWallets (accountKeys message status) (signatureText bytes) wallet recvTime .internal ix =
          some read ∧
        result = some (finishTrade hashOrder message status (accountKeys message status) status.isNone read) := by
  obtain ⟨result, returned⟩ := parseTransaction_ok sdk targetWallets hashOrder bytes message status recvTime
  refine ⟨result, returned, ?_, ?_⟩
  · rintro trade rfl external
    exact parseTransaction_external found returned external
  · intro ix first
    obtain ⟨read, parsed, outer⟩ : ∃ read,
        parseCompiled sdk targetWallets (accountKeys message status) (signatureText bytes) wallet recvTime .internal ix =
          some read ∧
        parseTransaction sdk targetWallets hashOrder bytes (some message) status recvTime =
          .ok (some (finishTrade hashOrder message status (accountKeys message status) status.isNone read)) :=
      parseTransaction_outer found first
    exact ⟨read, parsed, Except.ok.inj (returned.symm.trans outer)⟩

/-- A swap on PumpSwap, then a purchase on Pump.fun. -/
def sampleRouted : Message where
  accountKeys :=
    [7, 9, Pubkey.ofText PUMPSWAP_PROGRAM, PUMPFUN_PROGRAM_ID].map fun key => (leBytes 32 key.toNat).reverse
  instructions := [
    ⟨2, [0, 0, 0, 0, 0, 0, 0, 1], leBytes 24 0⟩,
    ⟨3, [0, 0, 1], PumpfunProcessor.orderData BUY_DISCRIMINATOR 1000 500⟩]

theorem pumpfun_first_sample : ∃ trade,
    parseTransaction sampleSdk [7] id [1] (some sampleRouted) none 0 = .ok (some trade) ∧ trade.tradeType = .pumpfun := by
  have found : (accountKeys sampleRouted none).find? [7].contains = some 7 := by decide +kernel
  have first : sampleRouted.instructions.find? (resolvesToPumpfun (accountKeys sampleRouted none)) =
      some ⟨3, [0, 0, 1], PumpfunProcessor.orderData BUY_DISCRIMINATOR 1000 500⟩ := by decide +kernel
  obtain ⟨result, returned, -, outer⟩ := pumpfun_first sampleSdk id [1] 0 found
  obtain ⟨read, parsed, rfl⟩ := outer _ first
  exact ⟨_, returned, (parseCompiled_internal parsed).direct.1⟩

end CopyTrader.Grpc.GrpcSubscriber
