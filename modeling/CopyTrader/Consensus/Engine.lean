import CopyTrader.Lib.DashMap
import CopyTrader.Lib.Lists
import CopyTrader.Processor.Trade

/-!
# Consensus engine

Votes for a buy, collected by group and mint. Every operation holds the map guard of its
entry, so each is one step on the engine state. `now` is the clock reading the operation takes
before it asks for the guard, `triggeredAt` the one a trigger takes under it.
-/

namespace CopyTrader.Consensus
open Lib Processor

structure ConsensusKey where
  groupId : String
  tokenMint : Pubkey
  deriving DecidableEq, Repr

structure BuySignal where
  groupId : String
  groupName : String
  tokenMint : Pubkey
  wallet : Pubkey
  tokenProgram : Pubkey
  detectedAt : Instant
  signature : Signature
  consensusMinWallets : ℕ
  consensusTimeoutSecs : ℕ
  instructionData : List UInt8
  instructionAccounts : List Pubkey
  solAmountLamports : ℕ
  isPreExecution : Bool
  tradeOrigin : TradeOrigin
  deriving DecidableEq, Repr

structure ConsensusTrigger where
  groupId : String
  groupName : String
  tokenMint : Pubkey
  wallets : List Pubkey
  firstSignature : Signature
  canonicalSignature : Signature
  canonicalWallet : Pubkey
  canonicalTokenProgram : Pubkey
  canonicalInstructionData : List UInt8
  canonicalInstructionAccounts : List Pubkey
  canonicalTradeOrigin : TradeOrigin
  triggeredAt : Instant
  deriving DecidableEq, Repr

/-- The entry of one key: its votes, the latch, and the settings of the signal that made it. -/
structure TokenSignals where
  signals : List BuySignal
  triggered : Bool
  minWallets : ℕ
  timeout : Duration
  deriving DecidableEq, Repr

structure ConsensusEngine where
  signals : DashMap ConsensusKey TokenSignals

def ConsensusEngine.new : ConsensusEngine := ⟨DashMap.empty⟩

namespace BuySignal

def key (signal : BuySignal) : ConsensusKey := ⟨signal.groupId, signal.tokenMint⟩

def hasTargetInstruction (signal : BuySignal) : Bool := 24 ≤ signal.instructionData.length

def countsForCandidateConsensus (signal : BuySignal) : Bool :=
  signal.hasTargetInstruction || 0 < signal.solAmountLamports || signal.tradeOrigin.isWrapperCpi

def canonicalScore (signal : BuySignal) : ℕ :=
  (if signal.hasTargetInstruction then 8 else 0) +
    (if !signal.instructionAccounts.isEmpty then 4 else 0) +
    (if 0 < signal.solAmountLamports then 2 else 0) +
    (if !signal.isPreExecution then 1 else 0)

end BuySignal

/-- The source compares signatures first, but both of its branches test the same thing. -/
def shouldReplaceSignal (existing incoming : BuySignal) : Bool :=
  if incoming.signature = existing.signature then
    existing.canonicalScore < incoming.canonicalScore ||
      (incoming.canonicalScore == existing.canonicalScore &&
        !incoming.isPreExecution && existing.isPreExecution)
  else
    existing.canonicalScore < incoming.canonicalScore ||
      (incoming.canonicalScore == existing.canonicalScore &&
        !incoming.isPreExecution && existing.isPreExecution)

structure VoteTally where
  effectiveSignals : List BuySignal
  candidateWallets : List Pubkey
  effectiveWallets : List Pubkey
  minWallets : ℕ

def VoteTally.shouldTrigger (tally : VoteTally) : Bool :=
  tally.minWallets ≤ tally.candidateWallets.length

def tallyVotes (signals : List BuySignal) (minWallets : ℕ) : VoteTally :=
  let effective := signals.filter (·.countsForCandidateConsensus)
  { effectiveSignals := effective
    candidateWallets := effective.map (·.wallet)
    effectiveWallets := effective.map (·.wallet)
    minWallets }

namespace TokenSignals

/-- What `or_insert_with` stores for the first signal of a key. -/
def fresh (signal : BuySignal) : TokenSignals where
  signals := []
  triggered := false
  minWallets := signal.consensusMinWallets
  timeout := Duration.fromSecs (max signal.consensusTimeoutSecs 1)

def expire (entry : TokenSignals) (now : Instant) : TokenSignals :=
  { entry with
    signals := entry.signals.filter fun c => now.durationSince c.detectedAt < entry.timeout }

def fire (entry : TokenSignals) (triggeredAt : Instant) (signal : BuySignal) :
    TokenSignals × Option ConsensusTrigger :=
  let tally := tallyVotes entry.signals entry.minWallets
  if tally.shouldTrigger then
    match maxByKey BuySignal.canonicalScore tally.effectiveSignals with
    | none => (entry, none)
    | some canonical =>
      ({ entry with triggered := true },
        some
          { groupId := signal.groupId
            groupName := signal.groupName
            tokenMint := signal.tokenMint
            wallets := tally.effectiveWallets
            firstSignature :=
              ((minByKey (·.detectedAt) tally.effectiveSignals).map (·.signature)).getD ""
            canonicalSignature := canonical.signature
            canonicalWallet := canonical.wallet
            canonicalTokenProgram := canonical.tokenProgram
            canonicalInstructionData := canonical.instructionData
            canonicalInstructionAccounts := canonical.instructionAccounts
            canonicalTradeOrigin := canonical.tradeOrigin
            triggeredAt })
  else (entry, none)

/-- Put the vote of a wallet in place of its earlier one, or at the end. `none` is an early
return: the earlier vote is kept, or the entry has triggered and takes no new wallet. -/
def place (live : TokenSignals) (signal : BuySignal) : Option TokenSignals :=
  match live.signals.find? (·.wallet == signal.wallet) with
  | some existing =>
    if shouldReplaceSignal existing signal then
      some { live with signals := replaceFirst (·.wallet == signal.wallet) signal live.signals }
    else none
  | none =>
    if live.triggered then none
    else some { live with signals := live.signals ++ [signal] }

def submit (entry : TokenSignals) (now : Instant) (signal : BuySignal) (triggeredAt : Instant) :
    TokenSignals × Option ConsensusTrigger :=
  let live := entry.expire now
  match live.place signal with
  | none => (live, none)
  | some placed => if entry.triggered then (placed, none) else placed.fire triggeredAt signal

/-- `reject_signal` on its entry: the latch is recomputed whether or not a vote was found. -/
def reject (entry : TokenSignals) (wallet : Pubkey) (signature : Signature) : TokenSignals × Bool :=
  let kept := entry.signals.filter fun c => !(c.wallet == wallet && c.signature == signature)
  ({ entry with signals := kept, triggered := (tallyVotes kept entry.minWallets).shouldTrigger },
    entry.signals.length != kept.length)

def revoke (entry : TokenSignals) (wallet : Pubkey) : TokenSignals × Bool :=
  if entry.triggered then (entry, false)
  else
    let kept := entry.signals.filter (·.wallet != wallet)
    ({ entry with signals := kept }, entry.signals.length != kept.length)

/-- One entry of a cleanup pass: `none` when the pass drops it. -/
def cleanup (entry : TokenSignals) (now : Instant) : Option TokenSignals :=
  let live := entry.expire now
  if live.signals.isEmpty then none
  else if live.triggered then
    if live.signals.all fun s => live.timeout * 2 < now.durationSince s.detectedAt then none
    else some live
  else some live

end TokenSignals

namespace ConsensusEngine

def submitSignal (engine : ConsensusEngine) (now : Instant) (signal : BuySignal)
    (triggeredAt : Instant) : ConsensusEngine × Option ConsensusTrigger :=
  let entry := (engine.signals.get signal.key).getD (TokenSignals.fresh signal)
  let (entry, trigger) := entry.submit now signal triggeredAt
  (⟨engine.signals.insert signal.key entry⟩, trigger)

def revokeSignal (engine : ConsensusEngine) (groupId : String) (mint wallet : Pubkey) :
    ConsensusEngine × Bool :=
  let key : ConsensusKey := ⟨groupId, mint⟩
  match engine.signals.get key with
  | some entry => (⟨engine.signals.modify key fun e => (e.revoke wallet).1⟩, (entry.revoke wallet).2)
  | none => (engine, false)

def rejectSignal (engine : ConsensusEngine) (groupId : String) (mint wallet : Pubkey)
    (signature : Signature) : ConsensusEngine × Bool :=
  let key : ConsensusKey := ⟨groupId, mint⟩
  match engine.signals.get key with
  | some entry =>
    (⟨engine.signals.modify key fun e => (e.reject wallet signature).1⟩,
      (entry.reject wallet signature).2)
  | none => (engine, false)

def cleanupPass (engine : ConsensusEngine) (now : Instant) : ConsensusEngine :=
  ⟨engine.signals.retainMut fun _ entry => entry.cleanup now⟩

end ConsensusEngine

/-! ### Runs -/

inductive Call where
  | submit (signal : BuySignal) (triggeredAt : Instant)
  | revoke (groupId : String) (mint wallet : Pubkey)
  | reject (groupId : String) (mint wallet : Pubkey) (signature : Signature)
  | cleanup
  deriving DecidableEq, Repr

inductive Reply where
  | submitted (trigger : Option ConsensusTrigger)
  | removed (found : Bool)
  | swept
  deriving DecidableEq, Repr

def Reply.trigger : Reply → Option ConsensusTrigger
  | .submitted trigger => trigger
  | _ => none

abbrev TimedCall := Instant × Call

def ConsensusEngine.call (engine : ConsensusEngine) : TimedCall → ConsensusEngine × Reply
  | (now, .submit signal triggeredAt) =>
    ((engine.submitSignal now signal triggeredAt).1,
      .submitted (engine.submitSignal now signal triggeredAt).2)
  | (_, .revoke groupId mint wallet) =>
    ((engine.revokeSignal groupId mint wallet).1,
      .removed (engine.revokeSignal groupId mint wallet).2)
  | (_, .reject groupId mint wallet signature) =>
    ((engine.rejectSignal groupId mint wallet signature).1,
      .removed (engine.rejectSignal groupId mint wallet signature).2)
  | (now, .cleanup) => (engine.cleanupPass now, .swept)

end CopyTrader.Consensus
