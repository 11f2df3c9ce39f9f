import CopyTrader.Basic

/-!
# Telegram events

The events the trading tasks send, less the amounts and names that are only rendered in them.
-/

namespace CopyTrader

inductive TgEvent where
  | consensusReached (groupName : String) (mint : Pubkey) (wallets : List Pubkey)
  | buySubmitted (groupName : String) (mint : Pubkey) (solAmount : ℚ)
  | buyConfirmed (groupId groupName : String) (mint : Pubkey) (spentSol : ℚ)
  | buyFailed (groupId groupName : String) (mint : Pubkey) (reason : String)
  | sellSuccess (groupId groupName : String) (mint : Pubkey) (tokenName reason : String) (pnlPercent : ℚ)
      (txSig buySig : Signature) (holdSeconds : ℕ) (entrySolAmount : ℚ) (fullyClosed : Bool)
  | sellFailed (groupId groupName : String) (mint : Pubkey) (reason : String)
  deriving DecidableEq, Repr

def TgEvent.reportsSale : TgEvent → Bool
  | .sellSuccess .. => true
  | _ => false

end CopyTrader
