import CopyTrader.Basic

/-!
# Prefetched tokens
-/

namespace CopyTrader.Processor

structure PrefetchedToken where
  mint : Pubkey
  bondingCurve : Pubkey
  associatedBondingCurve : Pubkey
  userAta : Pubkey
  tokenProgram : Pubkey
  mirrorAccounts : List Pubkey
  sourceWallet : Pubkey
  sourceSignature : Signature
  qualityScore : ℕ
  createdAt : Instant
  deriving DecidableEq, Repr

end CopyTrader.Processor
