import CopyTrader.Basic

/-!
# Bonding curves
-/

namespace CopyTrader.Processor

def PUMP_TOTAL_SUPPLY : ℚ := 1000000000

structure BondingCurveState where
  virtualTokenReserves : ℕ
  virtualSolReserves : ℕ
  realTokenReserves : ℕ
  complete : Bool
  creator : Option Pubkey
  isMayhemMode : Bool
  isCashback : Bool
  deriving DecidableEq, Repr

namespace BondingCurveState

/-- SOL for one token; the two reserves differ by three decimals. -/
def priceSol (state : BondingCurveState) : ℚ :=
  if state.virtualTokenReserves = 0 then 0
  else state.virtualSolReserves / state.virtualTokenReserves / 1000

def marketCapSol (state : BondingCurveState) : ℚ := state.priceSol * PUMP_TOTAL_SUPPLY

/-- Tokens for an amount of SOL, by the constant product of the reserves. -/
def solToTokenQuote (state : BondingCurveState) (solAmount : ℕ) : ℕ :=
  if state.virtualSolReserves = 0 then 0
  else state.virtualTokenReserves * solAmount / (state.virtualSolReserves + solAmount) % 2 ^ 64

def tokenToSolQuote (state : BondingCurveState) (tokenAmount : ℕ) : ℕ :=
  if state.virtualTokenReserves = 0 then 0
  else state.virtualSolReserves * tokenAmount / (state.virtualTokenReserves + tokenAmount) % 2 ^ 64

end BondingCurveState

end CopyTrader.Processor
