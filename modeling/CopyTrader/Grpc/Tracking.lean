import CopyTrader.Tasks.Op

/-!
# Tracking the accounts of a mint

The methods of the account subscriber that tasks call, one entry at a time.
-/

namespace CopyTrader.Grpc
open Lib Tasks

def ACCOUNT_CANDIDATE_TTL_SECS : ℕ := 120

def subscriber (op : SubscriberOp) : Prog op.Ans := perform (.subscriber op)

def trackBondingCurve (mint bondingCurve : Pubkey) : Prog Unit := do
  subscriber (.mapBondingCurve bondingCurve mint)
  subscriber (.touch mint)
  subscriber (.subscribe bondingCurve .bondingCurve)

def trackAta (mint ataAddress : Pubkey) : Prog Unit := do
  subscriber (.mapAta ataAddress mint)
  subscriber (.touch mint)
  subscriber (.subscribe ataAddress .ata)

def dropBondingCurve (bondingCurve : Pubkey) : Prog Unit := do
  subscriber (.unmapBondingCurve bondingCurve)
  subscriber (.unsubscribe bondingCurve)

def dropAta (ata : Pubkey) : Prog Unit := do
  subscriber (.unmapAta ata)
  subscriber (.unsubscribe ata)

def untrackMint (mint : Pubkey) : Prog Unit := do
  let bcToRemove ← subscriber (.bondingCurvesOf mint)
  forEach dropBondingCurve bcToRemove
  let ataToRemove ← subscriber (.atasOf mint)
  forEach dropAta ataToRemove
  perform (.bcCacheRemove mint)
  perform (.ataCacheRemove mint)
  subscriber (.forgetTouch mint)

def pruneStaleCandidateMints (activeMints : List Pubkey) (maxIdle : Duration) : Prog Unit := do
  let staleMints ← subscriber (.staleMints activeMints maxIdle)
  forEach untrackMint staleMints

/-- One round of the candidate cleanup. -/
def candidateCleanup : Prog Unit := do
  let activeMints ← perform .openPositionMints
  pruneStaleCandidateMints activeMints (Duration.fromSecs ACCOUNT_CANDIDATE_TTL_SECS)

/-! ### What tracking asks for -/

variable {ops : Op → Prop}

theorem trackBondingCurve_uses {mint bondingCurve : Pubkey} (tables : ∀ op, ops (.subscriber op)) :
    Program.Uses ops (trackBondingCurve mint bondingCurve) :=
  Program.uses_bind (Program.uses_call.mpr (tables _)) fun _ =>
    Program.uses_bind (Program.uses_call.mpr (tables _)) fun _ => Program.uses_call.mpr (tables _)

theorem trackAta_uses {mint ataAddress : Pubkey} (tables : ∀ op, ops (.subscriber op)) :
    Program.Uses ops (trackAta mint ataAddress) :=
  Program.uses_bind (Program.uses_call.mpr (tables _)) fun _ =>
    Program.uses_bind (Program.uses_call.mpr (tables _)) fun _ => Program.uses_call.mpr (tables _)

theorem untrackMint_uses {mint : Pubkey} (tables : ∀ op, ops (.subscriber op))
    (curves : ops (.bcCacheRemove mint)) (balances : ops (.ataCacheRemove mint)) :
    Program.Uses ops (untrackMint mint) := by
  have drops (account : Pubkey) :
      Program.Uses ops (dropBondingCurve account) ∧ Program.Uses ops (dropAta account) :=
    ⟨Program.uses_bind (Program.uses_call.mpr (tables _)) fun _ => Program.uses_call.mpr (tables _),
      Program.uses_bind (Program.uses_call.mpr (tables _)) fun _ => Program.uses_call.mpr (tables _)⟩
  refine Program.uses_bind (Program.uses_call.mpr (tables _)) fun bcToRemove => ?_
  refine Program.uses_bind (forEach_uses fun account => (drops account).1) fun _ => ?_
  refine Program.uses_bind (Program.uses_call.mpr (tables _)) fun ataToRemove => ?_
  refine Program.uses_bind (forEach_uses fun account => (drops account).2) fun _ => ?_
  refine Program.uses_bind (Program.uses_call.mpr curves) fun _ => ?_
  exact Program.uses_bind (Program.uses_call.mpr balances) fun _ => Program.uses_call.mpr (tables _)

theorem candidateCleanup_uses (mints : ops .openPositionMints) (tables : ∀ op, ops (.subscriber op))
    (curves : ∀ mint, ops (.bcCacheRemove mint)) (balances : ∀ mint, ops (.ataCacheRemove mint)) :
    Program.Uses ops candidateCleanup := by
  refine Program.uses_bind (Program.uses_call.mpr mints) fun activeMints => ?_
  refine Program.uses_bind (Program.uses_call.mpr (tables _)) fun staleMints => ?_
  exact forEach_uses fun mint => untrackMint_uses tables (curves mint) (balances mint)

end CopyTrader.Grpc
