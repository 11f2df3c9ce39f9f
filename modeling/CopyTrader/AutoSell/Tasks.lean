import CopyTrader.Tasks.Op

/-!
# The monitor tasks

One pass of the fallback monitor and the push monitor on one curve update. What they read for
their log lines only is left out.
-/

namespace CopyTrader.AutoSell
open Lib Processor CopyTrader.Tasks

def sendExit (signal : Option SellSignal) : Prog Unit :=
  match signal with
  | some signal => perform (.sendSellSignal signal)
  | none => return ()

/-- What the whole position would bring, when it was bought elsewhere and no curve is cached. -/
def fallbackQuote (snapshot : Position) : Prog (Option ℕ) := do
  let curve ← perform (.bcCacheGet snapshot.tokenMint)
  if snapshot.isExternalJupiter && 0 < snapshot.tokenAmount && curve.isNone then
    perform (.quoteJupiterSell snapshot.tokenMint snapshot.tokenAmount snapshot.group.sellSlippageBps)
  else return none

def fallbackExitCheck (key : PositionKey) (snapshot : Position) : Prog Unit := do
  let quote ← fallbackQuote snapshot
  let signal ← perform (.fallbackExit key quote)
  sendExit signal

def fallbackCheck (setup : Setup) (key : PositionKey) : Prog Unit := do
  let some snapshot ← perform (.getPosition key) | return ()
  let t ← perform .now
  if snapshot.needsConfirmCheck setup.config.confirmTimeoutSecs t then
    let answer ← perform (.rpcTokenBalance (setup.snapshotAta snapshot))
    perform (.fallbackConfirm key (directBalance answer))
  else fallbackExitCheck key snapshot

def fallbackChecks (setup : Setup) : List PositionKey → Prog Unit
  | [] => return ()
  | key :: rest => do
    fallbackCheck setup key
    fallbackChecks setup rest

def fallbackPass (setup : Setup) : Prog Unit := do
  let keys ← perform .positionKeys
  if keys.isEmpty then return ()
  else
    fallbackChecks setup keys
    perform .prunePositions

def grpcChecks (state : BondingCurveState) : List PositionKey → Prog Unit
  | [] => return ()
  | key :: rest => do
    let signal ← perform (.grpcExit key state)
    sendExit signal
    grpcChecks state rest

def bondingCurveUpdate (mint : Pubkey) (state : BondingCurveState) : Prog Unit := do
  let keys ← perform (.positionKeysForMint mint)
  grpcChecks state keys

end CopyTrader.AutoSell
