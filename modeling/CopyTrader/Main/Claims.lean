import CopyTrader.Lib.Lease
import CopyTrader.Tasks.Alphabet

/-!
# Claims on a group and mint

The claim of a group and mint is a lease: the buys of that key that were sent executed apart, the
later one at least the cooldown after the earlier one had given its claim back.
-/

namespace CopyTrader.Main
open Lib AutoSell Tasks Program

def CLAIM_PAUSE : Duration := Duration.fromMillis GROUP_MINT_DEDUP_SUCCESS_MS

def claimCell : Option GroupMintClaim → Lease.Cell
  | none => .free
  | some claim =>
    if claim.inFlight then .busy
    else
      match claim.cooldownUntil with
      | some wake => .resting wake
      | none => .free

/-- Follows the claim of a buy; its lease counts as used when a transaction was sent. -/
def claimMonitor : Monitor World Op Ans Lease where
  trusts _ := True
  allows l
    | .tryStartGroupMint _ => l = .idle
    | .sendBuy .. => l.Holds
    | .finishGroupMint _ submitted => l.Holds ∧ submitted = l.used
    | _ => True
  next l e :=
    match e.op, e.answer with
    | .tryStartGroupMint _, started => if started then ⟨some e.world.clock, false, none⟩ else l
    | .sendBuy .., .ok _ => { l with used := true }
    | .finishGroupMint .., _ => { l with ended := some e.world.clock }
    | _, _ => l

/-- What a task has done with its claim. -/
def claimOf (t : TaskState) : Lease := claimMonitor.after .idle t.past

/-! ### Every buy keeps to its claim -/

def turnsClaim : Op → Bool
  | .tryStartGroupMint _ | .sendBuy .. | .finishGroupMint .. => true
  | _ => false

theorem quiet_of_unclaimed {op : Op} (other : turnsClaim op = false) : claimMonitor.Quiet op := by
  cases op <;> first | exact ⟨fun _ => trivial, fun _ _ _ => rfl⟩ | cases other

variable {setup : Setup} {l : Lease}

/-- The part of a buy that its claim covers. -/
def Covered (buy : Prog Bool) : Prop :=
  ∀ l : Lease, l.Holds → l.used = false → wp claimMonitor (fun submitted l => l.Holds ∧ submitted = l.used) buy l

theorem covered_tgSend {event : TgEvent} : Covered (perform (.tgSend event) >>= fun _ => pure false) :=
  fun _ holds unused => wp_perform trivial fun _ _ _ => ⟨holds, unused.symm⟩

theorem submitBuy_covered {p : Position} {userAta : Pubkey} {sol : ℚ} {estimatedTokensRaw : ℕ} :
    Covered (submitBuy setup p userAta sol estimatedTokensRaw) := by
  intro l holds unused
  apply wp_perform holds
  intro w sent _
  cases sent with
  | error err => exact covered_tgSend l holds unused
  | ok sig =>
    refine wp_perform trivial fun _ _ _ => ?_
    apply wp_ite
    · intro _
      refine wp_quiet_bind ?_ fun _ => ⟨holds, rfl⟩
      exact uses_bind (uses_call.mpr (quiet_of_unclaimed rfl)) fun _ => uses_call.mpr (quiet_of_unclaimed rfl)
    · intro _
      exact ⟨holds, rfl⟩

theorem quiet_of_quoting (op : Op) (quotes : op.ofQuoting = true) : claimMonitor.Quiet op := by
  cases op <;> first | exact quiet_of_unclaimed rfl | cases quotes

theorem executeBuy_covered {b : BuyTask} : Covered (executeBuy setup b) := by
  intro l holds unused
  apply executeBuy_wp quiet_of_quoting
  · exact ⟨holds, unused.symm⟩
  · intro p sol estimatedTokensRaw _ _
    exact submitBuy_covered l holds unused

theorem executeExternalBuy_covered {b : ExternalBuyTask} : Covered (executeExternalBuy setup b) := by
  intro l holds unused
  apply executeExternalBuy_wp quiet_of_quoting
  · exact ⟨holds, unused.symm⟩
  · intro p sol estimatedTokensRaw _ _ _
    exact submitBuy_covered l holds unused

theorem claimedBuy_follows {key : GroupMintKey} {wrapper : Bool} {buy : Prog Bool} (covered : Covered buy) :
    wp claimMonitor (fun _ _ => True) (claimedBuy key wrapper buy) .idle := by
  refine wp_perform trivial fun _ permit _ => ?_
  refine wp_ite (fun _ => ?_) fun _ => trivial
  apply wp_perform rfl
  intro w started _
  cases started with
  | false => trivial
  | true =>
    refine wp_seq (covered _ ⟨rfl, rfl⟩ rfl) fun submitted l held => ?_
    exact ⟨held, fun _ _ _ => trivial⟩

theorem code_follows_claim {role : Role} (buys : role.buysFor.isSome = true) :
    wp claimMonitor (fun _ _ => True) (role.code setup) .idle := by
  cases role with
  | buy b cause => exact claimedBuy_follows executeBuy_covered
  | externalBuy b cause => exact claimedBuy_follows executeExternalBuy_covered
  | _ => cases buys

/-! ### The claims of one key -/

theorem respond_mintDedup {w w' : World} {op : Op} {choice : Choice} {answer : Ans op}
    (reply : w.respond op choice = some (answer, w')) (other : turnsClaim op = false) :
    w'.mintDedup = w.mintDedup := by
  apply (World.respond_frame reply).claims
  intro claims
  cases op
  case tryStartGroupMint | finishGroupMint => cases other
  all_goals cases claims

def claimKey (key : PositionKey) : GroupMintKey := ⟨key.groupId, key.tokenMint⟩

def leases (key : PositionKey) : State → ℕ → Lease :=
  System.observe (fun t => if t.role.buysFor = some key then claimOf t else .idle) .idle

/-- The cleanup drops no claim of the key that is in flight. -/
def keepsClaim (key : PositionKey) (s : State) : Step → Bool
  | .disturb .cleanupClaims =>
    (s.world.mintDedup.get (claimKey key)).all fun claim =>
      !claim.inFlight || keepGroupMintClaim claim s.world.clock
  | _ => true

def KeepsClaim (key : PositionKey) (s : State) (step : Step) : Prop := keepsClaim key s step = true

instance (key : PositionKey) (s : State) (step : Step) : Decidable (KeepsClaim key s step) :=
  inferInstanceAs (Decidable (_ = true))

def ClaimsSound (key : PositionKey) (s : State) : Prop :=
  Lease.Sound CLAIM_PAUSE (leases key s) (claimCell (s.world.mintDedup.get (claimKey key))) s.world.clock

/-- Asking for a claim: it is refused and the cell stays, or the cell was free or has rested. -/
theorem tryStartGroupMint_cell (dedup : GroupMintDedup) (key : GroupMintKey) (now : Instant) :
    ((tryStartGroupMint dedup key now).2 = false ∧
      claimCell ((tryStartGroupMint dedup key now).1.get key) = claimCell (dedup.get key)) ∨
    ((tryStartGroupMint dedup key now).2 = true ∧
      claimCell ((tryStartGroupMint dedup key now).1.get key) = .busy ∧
      claimCell (dedup.get key) ≠ .busy ∧
      ∀ wake, claimCell (dedup.get key) = .resting wake → wake ≤ now) := by
  unfold tryStartGroupMint
  cases read : dedup.get key with
  | none => exact Or.inr ⟨rfl, by simp [claimCell], nofun, nofun⟩
  | some claim =>
    dsimp only
    split
    · exact Or.inl ⟨rfl, by simp [claimCell]⟩
    · rename_i free
      obtain ⟨idle, awake⟩ : claim.inFlight = false ∧ claim.coolingDown now = false := by simpa using free
      refine Or.inr ⟨rfl, by simp [claimCell], ?_, fun wake resting => ?_⟩
      · cases cooled : claim.cooldownUntil <;> simp [claimCell, idle, cooled]
      · cases cooled : claim.cooldownUntil with
        | none => simp [claimCell, idle, cooled] at resting
        | some wake' =>
          obtain rfl : wake' = wake := by simpa [claimCell, idle, cooled] using resting
          simpa [GroupMintClaim.coolingDown, cooled] using awake

theorem tryStartGroupMint_other (dedup : GroupMintDedup) {key key' : GroupMintKey} (now : Instant)
    (differs : key ≠ key') : (tryStartGroupMint dedup key' now).1.get key = dedup.get key := by
  unfold tryStartGroupMint
  split
  · split <;> exact DashMap.get_insert_other _ _ differs
  · exact DashMap.get_insert_other _ _ differs

theorem finishGroupMint_cell {dedup : GroupMintDedup} {key : GroupMintKey} {submitted : Bool} {now : Instant}
    (busy : claimCell (dedup.get key) = .busy) :
    claimCell ((finishGroupMint dedup key submitted now).get key) =
      if submitted then .resting (now + CLAIM_PAUSE) else .free := by
  unfold finishGroupMint
  cases submitted with
  | true =>
    cases read : dedup.get key with
    | none => simp [read, claimCell] at busy
    | some claim => simp [read, claimCell, CLAIM_PAUSE]
  | false => simp [DashMap.get_remove, claimCell]

theorem finishGroupMint_other (dedup : GroupMintDedup) {key key' : GroupMintKey} (submitted : Bool)
    (now : Instant) (differs : key ≠ key') :
    (finishGroupMint dedup key' submitted now).get key = dedup.get key := by
  unfold finishGroupMint
  split
  · exact DashMap.get_modify_other _ _ differs
  · simp [DashMap.get_remove, differs]

/-- A cleanup that drops no claim in flight only forgets cells that have rested. -/
theorem cleanup_cell {ι : Type} {records : ι → Lease} {claim : Option GroupMintClaim} {now : Instant}
    (keeps : claim.all (fun claim => !claim.inFlight || keepGroupMintClaim claim now) = true)
    (sound : Lease.Sound CLAIM_PAUSE records (claimCell claim) now) :
    Lease.Sound CLAIM_PAUSE records (claimCell (claim.filter fun claim => keepGroupMintClaim claim now)) now := by
  cases claim with
  | none => exact sound
  | some claim =>
    cases kept : keepGroupMintClaim claim now with
    | true => simpa [Option.filter, kept] using sound
    | false =>
      have idle : claim.inFlight = false := by simpa [kept] using keeps
      have dropped : Option.filter (fun claim => keepGroupMintClaim claim now) (some claim) = none := by
        simp [Option.filter, kept]
      rw [dropped]
      cases cooled : claim.cooldownUntil with
      | none => simpa [claimCell, idle, cooled] using sound
      | some wake =>
        have awake : wake ≤ now := by
          simpa [keepGroupMintClaim, idle, GroupMintClaim.coolingDown, cooled] using kept
        have resting : claimCell (some claim) = .resting wake := by simp [claimCell, idle, cooled]
        exact (resting ▸ sound).sweep awake

theorem claimKey_injective {key key' : PositionKey} (same : claimKey key = claimKey key') : key = key' := by
  cases key
  cases key'
  cases same
  rfl

theorem claims_own {role : Role} {claim : GroupMintKey} {op : Op} (member : role.alphabet op = true)
    (touches : op = .tryStartGroupMint claim ∨ ∃ submitted, op = .finishGroupMint claim submitted) :
    ∃ key, role.buysFor = some key ∧ claim = claimKey key := by
  rcases touches with rfl | ⟨submitted, rfl⟩ <;> cases role
  case inl.buy b cause | inl.externalBuy b cause => exact ⟨_, rfl, of_decide_eq_true member⟩
  case inr.buy b cause | inr.externalBuy b cause => exact ⟨_, rfl, of_decide_eq_true member⟩
  all_goals cases member

theorem claimsSound_disturbed {key : PositionKey} {s : State} {env : World.Disturbance} {world : World}
    (sound : ClaimsSound key s) (keeps : KeepsClaim key s (.disturb env))
    (change : s.world.disturb env = some world) : ClaimsSound key ⟨world, s.tasks⟩ := by
  have drift := World.disturb_drift change
  by_cases other : World.cleans env = some .claims
  · cases env
    case cleanupClaims =>
      cases change
      unfold ClaimsSound
      dsimp only
      rw [DashMap.get_retain]
      exact cleanup_cell keeps sound
    all_goals cases other
  · unfold ClaimsSound
    rw [drift.claims other]
    exact Lease.Sound.tick sound drift.clock

theorem claim_untouched {key : PositionKey} {role : Role} {op : Op} {choice : Choice} {answer : Ans op}
    {w w' : World} (member : role.alphabet op = true) (other : role.buysFor ≠ some key)
    (reply : w.respond op choice = some (answer, w')) :
    w'.mintDedup.get (claimKey key) = w.mintDedup.get (claimKey key) := by
  cases op
  case tryStartGroupMint claim =>
    obtain ⟨key', own', rfl⟩ := claims_own member (Or.inl rfl)
    cases reply
    refine tryStartGroupMint_other _ _ fun same => other ?_
    rw [claimKey_injective same, own']
  case finishGroupMint claim submitted =>
    obtain ⟨key', own', rfl⟩ := claims_own member (Or.inr ⟨submitted, rfl⟩)
    cases reply
    refine finishGroupMint_other _ _ _ fun same => other ?_
    rw [claimKey_injective same, own']
  case sendBuy => cases choice <;> cases reply; rfl
  all_goals rw [respond_mintDedup reply rfl]

/-- Every step of a buy is one that its claim allows. -/
theorem claim_allowed {ok : State → Step → Prop} {s : State} (reach : (process setup).Reachable World.Starts ok s)
    {i : ℕ} {t : TaskState} {op : Op} {next : Ans op → Prog Unit} (here : s.tasks[i]? = some t)
    (buys : t.role.buysFor.isSome = true) (rest : t.rest = .perform op next) : claimMonitor.allows (claimOf t) op :=
  reach.allows_trusting claimMonitor .idle (fun role => role.buysFor.isSome = true) (fun _ => trivial)
    (fun _ buys => code_follows_claim buys) here buys rest

section
variable {ι : Type} [DecidableEq ι] {records : ι → Lease} {dedup : GroupMintDedup} {claim : GroupMintKey}
  {now : Instant} {i : ι}

theorem claimsSound_tryStart (sound : Lease.Sound CLAIM_PAUSE records (claimCell (dedup.get claim)) now) :
    Lease.Sound CLAIM_PAUSE
      (Function.update records i
        (if (tryStartGroupMint dedup claim now).2 then ⟨some now, false, none⟩ else records i))
      (claimCell ((tryStartGroupMint dedup claim now).1.get claim)) now := by
  rcases tryStartGroupMint_cell dedup claim now with ⟨refused, same⟩ | ⟨started, busy, notBusy, awake⟩
  · rw [if_neg (by simp [refused]), same, Function.update_eq_self]
    exact sound
  · rw [if_pos started, busy]
    exact sound.acquire notBusy awake

theorem claimsSound_finish (sound : Lease.Sound CLAIM_PAUSE records (claimCell (dedup.get claim)) now)
    (holds : (records i).Holds) :
    Lease.Sound CLAIM_PAUSE (Function.update records i { records i with ended := some now })
      (claimCell ((finishGroupMint dedup claim (records i).used now).get claim)) now := by
  rw [finishGroupMint_cell (sound.busy i holds)]
  exact sound.release holds

end

theorem claimsSound_ran {key : PositionKey} {s : State} {i : ℕ} {choice : Choice} {role : Role}
    {past : List Moment} {op : Op} {next : Ans op → Prog Unit} {answer : Ans op} {world : World}
    (reach : (process setup).Reachable World.Starts (KeepsClaim key) s) (sound : ClaimsSound key s)
    (here : s.tasks[i]? = some ⟨role, past, .perform op next⟩)
    (reply : s.world.respond op choice = some (answer, world)) :
    Lease.Sound CLAIM_PAUSE
      (Function.update (leases key s) i
        (if role.buysFor = some key then
          claimMonitor.next (claimOf ⟨role, past, .perform op next⟩) ⟨s.world, op, answer⟩
        else .idle))
      (claimCell (world.mintDedup.get (claimKey key))) s.world.clock := by
  have member : role.alphabet op = true := performs_within reach here rfl
  have mine : leases key s i = if role.buysFor = some key then claimOf ⟨role, past, .perform op next⟩ else .idle :=
    System.observe_at here
  by_cases own : role.buysFor = some key
  · rw [if_pos own] at mine ⊢
    rw [← mine]
    have allowed : claimMonitor.allows (leases key s i) op := by
      rw [mine]
      exact claim_allowed reach here (by rw [own]; rfl) rfl
    cases op
    case tryStartGroupMint claim =>
      obtain ⟨key', own', rfl⟩ := claims_own member (Or.inl rfl)
      obtain rfl := Option.some.inj (own.symm.trans own')
      cases reply
      exact claimsSound_tryStart sound
    case sendBuy groupId mint lamports =>
      cases choice <;> cases reply
      cases answer with
      | ok sig => exact sound.use allowed
      | error err => exact (Function.update_eq_self i (leases key s)).symm ▸ sound
    case finishGroupMint claim submitted =>
      obtain ⟨key', own', rfl⟩ := claims_own member (Or.inr ⟨submitted, rfl⟩)
      obtain rfl := Option.some.inj (own.symm.trans own')
      cases reply
      obtain ⟨holds, rfl⟩ := allowed
      exact claimsSound_finish sound holds
    all_goals
      rw [respond_mintDedup reply rfl]
      exact (Function.update_eq_self i (leases key s)).symm ▸ sound
  · rw [if_neg own] at mine ⊢
    have same := claim_untouched member own reply
    rw [same, ← mine, Function.update_eq_self]
    exact sound

theorem claimsSound_step {key : PositionKey} {s s' : State} {step : Step}
    (reach : (process setup).Reachable World.Starts (KeepsClaim key) s) (sound : ClaimsSound key s)
    (keeps : KeepsClaim key s step) (stepped : (process setup).Stepped s step s') : ClaimsSound key s' := by
  have fresh : ∀ role, (if ((process setup).begin role).role.buysFor = some key then
      claimOf ((process setup).begin role) else Lease.idle) = .idle := fun role => ite_self _
  have begins (world : World) (tasks : List TaskState) (role : Option Role) :
      leases key ⟨world, tasks ++ (role.map (process setup).begin).toList⟩ = leases key ⟨world, tasks⟩ :=
    System.observe_begin fresh world tasks role
  unfold ClaimsSound
  cases stepped with
  | started role opens =>
    have same : leases key ⟨s.world, s.tasks ++ [(process setup).begin role]⟩ = leases key s :=
      begins s.world s.tasks (some role)
    rw [same]
    exact sound
  | disturbed env world change => exact claimsSound_disturbed sound keeps change
  | ran i choice role past op next here answer world reply =>
    have ran := claimsSound_ran reach sound here reply
    have after : claimMonitor.next (claimOf ⟨role, past, .perform op next⟩) ⟨s.world, op, answer⟩ =
        claimOf ⟨role, past ++ [⟨s.world, op, answer⟩], next answer⟩ := (Monitor.after_snoc ..).symm
    have set : leases key ⟨world, s.tasks.set i ⟨role, past ++ [⟨s.world, op, answer⟩], next answer⟩⟩ =
        Function.update (leases key s) i (if role.buysFor = some key then
          claimOf ⟨role, past ++ [⟨s.world, op, answer⟩], next answer⟩ else .idle) :=
      System.observe_set here _ _
    rw [after] at ran
    rw [begins world _ ((process setup).forks op), set]
    dsimp only
    rw [(World.respond_frame reply).clock]
    exact ran

theorem claimsSound_of_reachable {key : PositionKey} {s : State}
    (reach : (process setup).Reachable World.Starts (KeepsClaim key) s) : ClaimsSound key s :=
  reach.invariant (I := ClaimsSound key) (fun _ _ => Lease.sound_idle ..)
    fun _ _ _ reach sound keeps stepped => claimsSound_step reach sound keeps stepped

/-- Of two buys of a key that were sent, one claimed the key at least the cooldown after the other
had given it back. -/
theorem sent_buys_apart {key : PositionKey} {s : State}
    (reach : (process setup).Reachable World.Starts (KeepsClaim key) s) {i j : ℕ} {t u : TaskState}
    (differs : i ≠ j) (hereT : s.tasks[i]? = some t) (hereU : s.tasks[j]? = some u)
    (buysT : t.role.buysFor = some key) (buysU : u.role.buysFor = some key)
    (sentT : (claimOf t).used = true) (sentU : (claimOf u).used = true) :
    Lease.Before CLAIM_PAUSE (claimOf t) (claimOf u) ∨ Lease.Before CLAIM_PAUSE (claimOf u) (claimOf t) := by
  have leaseT : leases key s i = claimOf t := (System.observe_at hereT).trans (if_pos buysT)
  have leaseU : leases key s j = claimOf u := (System.observe_at hereU).trans (if_pos buysU)
  rw [← leaseT, ← leaseU]
  exact (claimsSound_of_reachable reach).used_apart differs (leaseT ▸ sentT) (leaseU ▸ sentU)

end CopyTrader.Main
