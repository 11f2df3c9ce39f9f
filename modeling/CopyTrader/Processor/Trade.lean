import CopyTrader.Basic

/-!
# Detected trades
-/

namespace CopyTrader.Processor

inductive TradeType where
  | pumpfun | pumpSwap | raydiumAmm | raydiumCpmm | raydiumClmm | meteoraDlmm
  deriving DecidableEq, Repr

/-- Whether the target called the venue itself or through a wrapper program. -/
inductive TradeOrigin where
  | direct | wrapperCpi
  deriving DecidableEq, Repr

def TradeOrigin.usesMirrorAccounts : TradeOrigin → Bool
  | .direct => true
  | .wrapperCpi => false

def TradeOrigin.isWrapperCpi : TradeOrigin → Bool
  | .direct => false
  | .wrapperCpi => true

/-- A trade of a target wallet, reported before execution or after landing. -/
structure DetectedTrade where
  signature : Signature
  sourceWallet : Pubkey
  tradeType : TradeType
  tradeOrigin : TradeOrigin
  isBuy : Bool
  instructionData : List UInt8
  instructionAccounts : List Pubkey
  detectedAt : Instant
  solAmountLamports : ℕ
  isPreExecution : Bool
  executionFailed : Bool
  tokenMint : Option Pubkey
  tokenProgram : Option Pubkey
  deriving DecidableEq, Repr

end CopyTrader.Processor
