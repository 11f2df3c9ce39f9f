import CopyTrader.Lib.DashMap
import CopyTrader.Processor.Trade

/-!
# Claims and seen signatures

The two stores that keep a trade from being bought twice: the claims by group and mint, and the
signatures already passed on. Each operation holds its entry, so each is one step.
-/

namespace CopyTrader.Main
open Lib Processor

def GROUP_MINT_DEDUP_SUCCESS_MS : ℕ := 2500
def GROUP_MINT_DEDUP_STALE_SECS : ℕ := 30

structure GroupMintClaim where
  inFlight : Bool
  cooldownUntil : Option Instant
  lastTouched : Instant
  deriving DecidableEq, Repr

/-- A group and a mint; the source joins them with a colon. -/
structure GroupMintKey where
  groupId : String
  mint : Pubkey
  deriving DecidableEq, Repr

abbrev GroupMintDedup := DashMap GroupMintKey GroupMintClaim

def GroupMintClaim.coolingDown (claim : GroupMintClaim) (now : Instant) : Bool :=
  claim.cooldownUntil.any fun cooldown => now < cooldown

def tryStartGroupMint (dedup : GroupMintDedup) (key : GroupMintKey) (now : Instant) :
    GroupMintDedup × Bool :=
  match dedup.get key with
  | some claim =>
    if claim.inFlight || claim.coolingDown now then
      (dedup.insert key { claim with lastTouched := now }, false)
    else (dedup.insert key ⟨true, none, now⟩, true)
  | none => (dedup.insert key ⟨true, none, now⟩, true)

def finishGroupMint (dedup : GroupMintDedup) (key : GroupMintKey) (submitted : Bool) (now : Instant) :
    GroupMintDedup :=
  if submitted then
    dedup.modify key fun _ =>
      ⟨false, some (now + Duration.fromMillis GROUP_MINT_DEDUP_SUCCESS_MS), now⟩
  else dedup.remove key

def keepGroupMintClaim (claim : GroupMintClaim) (now : Instant) : Bool :=
  if claim.inFlight then
    now.durationSince claim.lastTouched < Duration.fromSecs GROUP_MINT_DEDUP_STALE_SECS
  else claim.coolingDown now

structure SignatureSeen where
  preSeen : Bool
  landedSeen : Bool
  lastSeen : Instant
  deriving DecidableEq, Repr

abbrev SignatureCache := DashMap Signature SignatureSeen

def SignatureSeen.report (seen : SignatureSeen) (isPreExecution : Bool) (now : Instant) :
    SignatureSeen × Bool :=
  let seen := { seen with lastSeen := now }
  if isPreExecution then
    if seen.preSeen || seen.landedSeen then (seen, true) else ({ seen with preSeen := true }, false)
  else if seen.landedSeen then (seen, true)
  else ({ seen with landedSeen := true }, false)

def shouldSkipSignature (cache : SignatureCache) (trade : DetectedTrade) (now : Instant) :
    SignatureCache × Bool :=
  let seen := (cache.get trade.signature).getD ⟨false, false, now⟩
  (cache.insert trade.signature (seen.report trade.isPreExecution now).1,
    (seen.report trade.isPreExecution now).2)

def keepSignature (seen : SignatureSeen) (now : Instant) : Bool :=
  now.durationSince seen.lastSeen < Duration.fromSecs 10

def SignatureSeen.knows (seen : SignatureSeen) (isPreExecution : Bool) : Bool :=
  if isPreExecution then seen.preSeen else seen.landedSeen

namespace SignatureSeen

variable {seen : SignatureSeen} {kind : Bool} {now : Instant}

theorem report_lastSeen : (seen.report kind now).1.lastSeen = now := by
  obtain ⟨pre, landed, last⟩ := seen
  cases kind <;> cases pre <;> cases landed <;> rfl

theorem report_knows (isPreExecution : Bool) (known : seen.knows kind = true) :
    (seen.report isPreExecution now).1.knows kind = true := by
  obtain ⟨pre, landed, last⟩ := seen
  cases isPreExecution <;> cases kind <;> cases pre <;> cases landed <;> first | rfl | cases known

theorem report_known (known : seen.knows kind = true) : (seen.report kind now).2 = true := by
  obtain ⟨pre, landed, last⟩ := seen
  cases kind <;> cases pre <;> cases landed <;> first | rfl | cases known

theorem report_passed (passed : (seen.report kind now).2 = false) : (seen.report kind now).1.knows kind = true := by
  obtain ⟨pre, landed, last⟩ := seen
  cases kind <;> cases pre <;> cases landed <;> first | rfl | cases passed

end SignatureSeen

end CopyTrader.Main
