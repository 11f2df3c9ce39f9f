import Mathlib.Algebra.Order.Ring.Rat

/-!
# Addresses and clocks

Addresses are opaque 256-bit words and signatures are their base58 text. Clock readings and
durations count nanoseconds. As in the source, subtracting a later reading gives zero. Prices
and SOL amounts, floating-point numbers in the source, are exact fractions here.
-/

namespace CopyTrader

abbrev Pubkey := BitVec 256

abbrev Signature := String

/-- The 64 bytes of a signing key: the secret half, then the address. -/
abbrev Keypair := BitVec 512

def Keypair.pubkey (keypair : Keypair) : Pubkey := keypair.setWidth 256

abbrev Instant := ℕ

abbrev Duration := ℕ

def Duration.fromSecs (secs : ℕ) : Duration := secs * 1000000000

def Duration.fromMillis (millis : ℕ) : Duration := millis * 1000000

def Duration.asSecs (d : Duration) : ℕ := d / 1000000000

/-- A 64-bit amount as the network reports it. -/
abbrev U64 := Fin (2 ^ 64)

/-- The cast of a decimal number to `u64`: towards zero, saturating. -/
def toU64 (x : ℚ) : ℕ := min x.floor.toNat (2 ^ 64 - 1)

def displayTokens (raw : ℕ) : ℚ := raw / 1000000

def lamportsToSol (lamports : ℕ) : ℚ := lamports / 1000000000

def TOKEN_PROGRAM : Pubkey := 0x06ddf6e1d765a193d9cbe146ceeb79ac1cb485ed5f5b37913a8cf5857eff00a9

/-- Time from `earlier` to `later`, zero when `earlier` is the later one. -/
def Instant.durationSince (later earlier : Instant) : Duration := later - earlier

end CopyTrader
