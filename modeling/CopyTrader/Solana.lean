import CopyTrader.Basic
import CopyTrader.Lib.Base58
import CopyTrader.Lib.Bytes

/-!
# Addresses and transactions

Addresses as text, the account lists of instructions, and a transaction as what it is compiled from.
Derived addresses are taken from the Solana libraries.
-/

namespace CopyTrader
open Lib

def Pubkey.toText (key : Pubkey) : String := Base58.encode 32 key.toNat

def Pubkey.fromStr (text : String) : Option Pubkey := (Base58.decode 32 text).map (BitVec.ofNat 256)

@[simp] theorem Pubkey.fromStr_toText (key : Pubkey) : Pubkey.fromStr key.toText = some key := by
  have fits : key.toNat < 256 ^ 32 := key.isLt.trans_eq (by decide)
  rw [Pubkey.fromStr, Pubkey.toText, Base58.decode_encode fits, Option.map_some, BitVec.ofNat_toNat,
    BitVec.setWidth_eq]

theorem Pubkey.toText_clean (key : Pubkey) : ':' ∉ key.toText.toList :=
  fun member => (Base58.encode_chars 32 key.toNat ':' member).2 rfl

theorem Pubkey.toText_size (key : Pubkey) : key.toText.utf8ByteSize ≤ 44 := Base58.encode_size key.isLt

/-- An address that the source writes down. -/
@[irreducible] def Pubkey.ofText (text : String) : Pubkey := (Pubkey.fromStr text).getD 0

/-- An address from its 32 bytes. -/
def Pubkey.ofBytes (bytes : List UInt8) : Option Pubkey :=
  if bytes.length = 32 then some (BitVec.ofNat 256 (ofLeBytes bytes.reverse)) else none

def TOKEN_2022_PROGRAM : Pubkey := Pubkey.ofText "TokenzQdBNbLqP5VEhdkAS6EPFLC1PHnBqCXEpPxuEb"
def WSOL_MINT : Pubkey := Pubkey.ofText "So11111111111111111111111111111111111111112"

/-- The address of the system program, and the default address. -/
def SYSTEM_PROGRAM : Pubkey := 0

structure AccountMeta where
  pubkey : Pubkey
  isSigner : Bool
  isWritable : Bool
  deriving DecidableEq, Repr

def AccountMeta.new (pubkey : Pubkey) (isSigner : Bool) : AccountMeta := ⟨pubkey, isSigner, true⟩

def AccountMeta.newReadonly (pubkey : Pubkey) (isSigner : Bool) : AccountMeta := ⟨pubkey, isSigner, false⟩

structure Instruction where
  programId : Pubkey
  accounts : List AccountMeta
  data : List UInt8
  deriving DecidableEq, Repr

def Instruction.keys (instruction : Instruction) : List Pubkey := instruction.accounts.map (·.pubkey)

/-- A transfer by the system program. -/
def transfer (payer recipient : Pubkey) (lamports : ℕ) : Instruction where
  programId := SYSTEM_PROGRAM
  accounts := [AccountMeta.new payer true, AccountMeta.new recipient false]
  data := leBytes 4 2 ++ leBytes 8 lamports

def COMPUTE_BUDGET_PROGRAM : Pubkey := Pubkey.ofText "ComputeBudget111111111111111111111111111111"

def setComputeUnitLimit (units : ℕ) : Instruction where
  programId := COMPUTE_BUDGET_PROGRAM
  accounts := []
  data := 2 :: leBytes 4 units

def setComputeUnitPrice (microLamports : ℕ) : Instruction where
  programId := COMPUTE_BUDGET_PROGRAM
  accounts := []
  data := 3 :: leBytes 8 microLamports

inductive Seed where
  | text (s : String)
  | key (key : Pubkey)
  deriving DecidableEq, Repr

/-- What the Solana libraries derive from addresses, and how they compile and sign a transaction. -/
structure Sdk where
  findProgramAddress : List Seed → Pubkey → Pubkey
  associatedTokenAddress (wallet mint tokenProgram : Pubkey) : Pubkey
  VersionedTransaction : Type
  compileAndSign (instructions : List Instruction) (keypair : Keypair) (recentBlockhash : BitVec 256) :
    Except String VersionedTransaction

def ASSOCIATED_TOKEN_PROGRAM : Pubkey := Pubkey.ofText "ATokenGPvbdGVxr1b2hvZbsiqW5xWH25efTNsLJA8knL"

def Sdk.createAssociatedTokenAccountIdempotent (sdk : Sdk) (funder wallet mint tokenProgram : Pubkey) : Instruction where
  programId := ASSOCIATED_TOKEN_PROGRAM
  accounts := [
    .new funder true,
    .new (sdk.associatedTokenAddress wallet mint tokenProgram) false,
    .newReadonly wallet false,
    .newReadonly mint false,
    .newReadonly SYSTEM_PROGRAM false,
    .newReadonly tokenProgram false]
  data := [1]

/-- The number of addresses that instructions refer to, those that occur again included. -/
def addressCount (instructions : List Instruction) : ℕ :=
  (instructions.map fun instruction => instruction.accounts.length + 1).sum

theorem addressCount_append (first second : List Instruction) :
    addressCount (first ++ second) = addressCount first + addressCount second := by
  unfold addressCount
  rw [List.map_append, List.sum_append]

/-- The instructions need no signature but this one. -/
def SignedBy (signer : Pubkey) (instructions : List Instruction) : Prop :=
  ∀ instruction ∈ instructions, ∀ account ∈ instruction.accounts, account.isSigner = true → account.pubkey = signer

theorem signedBy_append {signer : Pubkey} {first second : List Instruction} :
    SignedBy signer (first ++ second) ↔ SignedBy signer first ∧ SignedBy signer second := List.forall_mem_append

/-- The documented format of a compiled message: up to 256 addresses fit, one of them the payer's, the payer alone
can sign it if no other signature is needed, and the data of every instruction is kept. -/
structure Sdk.Compiles (sdk : Sdk) : Prop where
  fits : ∀ (instructions : List Instruction) (keypair : Keypair) (blockhash : BitVec 256),
    SignedBy keypair.pubkey instructions → addressCount instructions < 256 →
      ∃ transaction, sdk.compileAndSign instructions keypair blockhash = .ok transaction
  data : ∀ (instructions instructions' : List Instruction) (keypair : Keypair) (blockhash : BitVec 256) transaction,
    sdk.compileAndSign instructions keypair blockhash = .ok transaction →
      sdk.compileAndSign instructions' keypair blockhash = .ok transaction →
        instructions.map (·.data) = instructions'.map (·.data)

end CopyTrader
