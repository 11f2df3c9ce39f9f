import CopyTrader.Processor.Quotes

/-!
# Transactions

A transaction starts with the compute budget and ends with the swap. A 0slot tip stands before them, a
Jito tip behind them.
-/

namespace CopyTrader.Tx
open Processor PumpfunProcessor

variable (sdk : Sdk)

namespace TxBuilder

def assembleInstructions (mirror : MirrorInstruction) (config : AppConfig) : List Instruction :=
  (if 0 < config.computeUnits then [setComputeUnitLimit config.computeUnits] else []) ++
    (if 0 < config.priorityFeeMicroLamport then [setComputeUnitPrice config.priorityFeeMicroLamport] else []) ++
    mirror.preInstructions ++ mirror.swapInstructions ++ mirror.postInstructions

def tip (keypair : Keypair) (tipAccount : Pubkey) (tipLamports : ℕ) : List Instruction :=
  if 0 < tipLamports then [transfer keypair.pubkey tipAccount tipLamports] else []

def buildTransaction (mirror : MirrorInstruction) (config : AppConfig) (keypair : Keypair) (recentBlockhash : BitVec 256) :
    Except String sdk.VersionedTransaction :=
  sdk.compileAndSign (assembleInstructions mirror config) keypair recentBlockhash

def build0slotTransaction (mirror : MirrorInstruction) (config : AppConfig) (keypair : Keypair)
    (recentBlockhash : BitVec 256) (zeroSlotTipAccount : Pubkey) (tipLamports : ℕ) :
    Except String sdk.VersionedTransaction :=
  sdk.compileAndSign (tip keypair zeroSlotTipAccount tipLamports ++ assembleInstructions mirror config) keypair
    recentBlockhash

def buildJitoBundleTransaction (mirror : MirrorInstruction) (config : AppConfig) (keypair : Keypair)
    (recentBlockhash : BitVec 256) (jitoTipAccount : Pubkey) (tipLamports : ℕ) :
    Except String sdk.VersionedTransaction :=
  sdk.compileAndSign (assembleInstructions mirror config ++ tip keypair jitoTipAccount tipLamports) keypair
    recentBlockhash

end TxBuilder

/-- The data of a tip tells its amount. -/
theorem tip_data_inj {keypair : Keypair} {account : Pubkey} {m n : ℕ} (hm : m < 2 ^ 64) (hn : n < 2 ^ 64)
    {rest : List (List UInt8)}
    (same : (TxBuilder.tip keypair account m).map (·.data) ++ rest = (TxBuilder.tip keypair account n).map (·.data) ++ rest) :
    m = n := by
  have tips := List.append_cancel_right same
  unfold TxBuilder.tip at tips
  split_ifs at tips with m_pos n_pos n_pos
  · have bytes := List.append_cancel_left (List.singleton_inj.mp tips)
    have inj : Lib.leBytes 8 m = Lib.leBytes 8 n → m = n := Lib.leBytes_inj hm hn
    exact inj bytes
  · exact nomatch tips
  · exact nomatch tips
  · omega

variable {sdk}

theorem addressCount_tip {keypair : Keypair} {account : Pubkey} {lamports : ℕ} :
    addressCount (TxBuilder.tip keypair account lamports) ≤ 3 := by
  unfold TxBuilder.tip
  split_ifs
  · exact Nat.le_refl 3
  · exact Nat.zero_le 3

theorem addressCount_purchase {config : AppConfig} {mint tokenProgramId : Pubkey} {buyIx : Instruction} :
    addressCount (TxBuilder.assembleInstructions (purchase sdk mint tokenProgramId config buyIx) config) ≤
      10 + buyIx.accounts.length := by
  unfold TxBuilder.assembleInstructions
  simp only [addressCount_append]
  have limit : addressCount (if 0 < config.computeUnits then [setComputeUnitLimit config.computeUnits] else []) ≤ 1 := by
    split_ifs
    · exact Nat.le_refl 1
    · exact Nat.zero_le 1
  have price : addressCount (if 0 < config.priorityFeeMicroLamport then
      [setComputeUnitPrice config.priorityFeeMicroLamport] else []) ≤ 1 := by
    split_ifs
    · exact Nat.le_refl 1
    · exact Nat.zero_le 1
  have swap : addressCount [buyIx] = buyIx.accounts.length + 1 := rfl
  have ata : addressCount (purchase sdk mint tokenProgramId config buyIx).preInstructions = 7 := rfl
  have post : addressCount (purchase sdk mint tokenProgramId config buyIx).postInstructions = 0 := rfl
  rw [ata, post, show (purchase sdk mint tokenProgramId config buyIx).swapInstructions = [buyIx] from rfl, swap]
  omega

theorem signedBy_tip {keypair : Keypair} {account : Pubkey} {lamports : ℕ} :
    SignedBy keypair.pubkey (TxBuilder.tip keypair account lamports) := by
  unfold TxBuilder.tip
  split_ifs
  · simp [SignedBy, transfer, AccountMeta.new]
  · simp [SignedBy]

/-- A purchase is signed by the wallet of the configuration, if its swap is. -/
theorem signedBy_purchase {config : AppConfig} {mint tokenProgramId : Pubkey} {buyIx : Instruction}
    (swap : SignedBy config.pubkey [buyIx]) : SignedBy config.keypair.pubkey
      (TxBuilder.assembleInstructions (purchase sdk mint tokenProgramId config buyIx) config) := by
  have ata : SignedBy config.pubkey (purchase sdk mint tokenProgramId config buyIx).preInstructions := by
    simp [SignedBy, purchase, Sdk.createAssociatedTokenAccountIdempotent, AccountMeta.new, AccountMeta.newReadonly]
  have none : SignedBy config.pubkey (purchase sdk mint tokenProgramId config buyIx).postInstructions := by
    simp [SignedBy, purchase]
  rw [← config.own]
  unfold TxBuilder.assembleInstructions
  simp only [signedBy_append]
  refine ⟨⟨⟨⟨?_, ?_⟩, ata⟩, swap⟩, none⟩
  · split_ifs <;> simp [SignedBy, setComputeUnitLimit]
  · split_ifs <;> simp [SignedBy, setComputeUnitPrice]

end CopyTrader.Tx
