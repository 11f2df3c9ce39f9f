import CopyTrader.Main.Claims

/-!
# Buys in flight

While the cleanup drops no claim in flight, at most one buy of a key is between its claim and its
finish, and a finish after a submitted buy keeps the key closed for the cooldown.
-/

namespace CopyTrader.Main
open Lib AutoSell Tasks Program

/-- A buy of the key that has its claim and has not given it back. -/
structure InFlight (key : PositionKey) (t : TaskState) : Prop where
  buys : t.role.buysFor = some key
  holds : (claimOf t).Holds

def finishes (submitted : Bool) (e : Moment) : Bool :=
  match e.op with
  | .finishGroupMint _ submitted' => submitted' = submitted
  | _ => false

/-- What a finish after a submitted buy leaves in the lease of its task. -/
def Finished (t : TaskState) : Prop :=
  ∀ e ∈ t.past, finishes true e = true → (claimOf t).used = true ∧ (claimOf t).ended = some e.world.clock

theorem finished_snoc {l : Lease} {e : Moment} {past : List Moment} (allowed : claimMonitor.allows l e.op)
    (before : ∀ e ∈ past, finishes true e = true → l.used = true ∧ l.ended = some e.world.clock) :
    ∀ d ∈ past ++ [e], finishes true d = true →
      (claimMonitor.next l e).used = true ∧ (claimMonitor.next l e).ended = some d.world.clock := by
  intro d member finish
  -- a task that has finished turns its claim no more
  have spent (old : d ∈ past) (other : claimMonitor.next l e = l) :
      (claimMonitor.next l e).used = true ∧ (claimMonitor.next l e).ended = some d.world.clock := by
    rw [other]
    exact before d old finish
  obtain ⟨w, op, answer⟩ := e
  rcases List.mem_append.mp member with old | new
  · obtain ⟨used, ended⟩ := before d old finish
    cases op
    case tryStartGroupMint =>
      rw [show l = .idle from allowed] at used
      cases used
    case sendBuy =>
      have holds : l.ended = none := allowed.2
      rw [holds] at ended
      cases ended
    case finishGroupMint =>
      have holds : l.ended = none := allowed.1.2
      rw [holds] at ended
      cases ended
    all_goals exact spent old rfl
  · rw [List.mem_singleton] at new
    subst new
    cases op
    case finishGroupMint claim submitted =>
      have same : submitted = true := of_decide_eq_true finish
      exact ⟨allowed.2.symm.trans same, rfl⟩
    all_goals cases finish

variable {setup : Setup} {key : PositionKey}

theorem finished_of_reachable {ok : State → Step → Prop} {s : State}
    (reach : (process setup).Reachable World.Starts ok s) {i : ℕ} {t : TaskState}
    (here : s.tasks[i]? = some t) (buys : t.role.buysFor.isSome = true) : Finished t := by
  revert i t
  refine reach.invariant (I := fun s => ∀ {i : ℕ} {t : TaskState}, s.tasks[i]? = some t →
    t.role.buysFor.isSome = true → Finished t) ?_ ?_
  · intro w start i t here
    cases here
  · intro s step s' reach before fine stepped i t' here buys
    rcases stepped.task here with ⟨role, rfl, _⟩ | ⟨t, there, moved⟩
    · exact fun e member => absurd member List.not_mem_nil
    · cases moved with
      | still => exact before there buys
      | ran choice runs op next rest answer reply =>
        have allowed : claimMonitor.allows (claimOf t) op := claim_allowed reach there buys rest
        have after : claimOf ⟨t.role, t.past ++ [⟨s.world, op, answer⟩], next answer⟩ =
            claimMonitor.next (claimOf t) ⟨s.world, op, answer⟩ := Monitor.after_snoc ..
        unfold Finished
        rw [after]
        exact finished_snoc allowed (before there buys)

/-- At most one buy of a key is in flight, and after a finish that submitted no claim of the key
succeeds for the cooldown, in every run whose cleanups drop no claim of the key in flight. -/
theorem buys_in_flight {s : State} (reach : (process setup).Reachable World.Starts (KeepsClaim key) s) :
    (∀ (i j : ℕ) (t u : TaskState), s.tasks[i]? = some t → s.tasks[j]? = some u →
      InFlight key t → InFlight key u → i = j) ∧
    ∀ (i : ℕ) (t : TaskState) (e : Moment), s.tasks[i]? = some t → t.role.buysFor = some key → e ∈ t.past →
      finishes true e = true → s.world.clock < e.world.clock + CLAIM_PAUSE →
        (tryStartGroupMint s.world.mintDedup (claimKey key) s.world.clock).2 = false := by
  have sound := claimsSound_of_reachable reach
  have lease {i : ℕ} {t : TaskState} (here : s.tasks[i]? = some t) (buys : t.role.buysFor = some key) :
      leases key s i = claimOf t := (System.observe_at here).trans (if_pos buys)
  constructor
  · intro i j t u here there first second
    apply sound.alone i j
    · rw [lease here first.buys]
      exact first.holds
    · rw [lease there second.buys]
      exact second.holds
  · intro i t e here buys member finish soon
    have ended := finished_of_reachable reach here (by rw [buys]; rfl) e member finish
    rw [← lease here buys] at ended
    rcases tryStartGroupMint_cell s.world.mintDedup (claimKey key) s.world.clock with
      ⟨refused, _⟩ | ⟨_, _, _, awake⟩
    · exact refused
    · rcases sound.rests i e.world.clock ended.1 ended.2 with rested | ⟨wake, resting, late⟩
      · exact absurd soon (Nat.not_lt.mpr rested)
      · exact absurd soon (Nat.not_lt.mpr (late.trans (awake wake resting)))

theorem buys_in_flight_sample : ∃ s t e, (process sampleSetup).Reachable World.Starts (KeepsClaim ⟨"g1", 5⟩) s ∧
    s.tasks[1]? = some t ∧ e ∈ t.past ∧ finishes true e = true ∧
      (tryStartGroupMint s.world.mintDedup ⟨"g1", 5⟩ s.world.clock).2 = false := by
  obtain ⟨s, reach, passes⟩ := reaches sampleSetup (KeepsClaim ⟨"g1", 5⟩) sampleGroups
    (sampleIntake 0 (sampleTrade "t1" false) ++ sampleBuy 1 1000 "b1")
    (fun s => s.world.clock = 0 && s.tasks[1]?.any fun t => t.role.buysFor = some ⟨"g1", 5⟩ &&
      t.past.any fun e => finishes true e && e.world.clock = 0) (by decide +kernel)
  simp only [Bool.and_eq_true, decide_eq_true_eq] at passes
  obtain ⟨t, here, bought⟩ := (Option.any_eq_true ..).mp passes.2
  simp only [Bool.and_eq_true, decide_eq_true_eq, List.any_eq_true] at bought
  obtain ⟨buys, e, member, finish, start⟩ := bought
  refine ⟨s, t, e, reach, here, member, finish, (buys_in_flight reach).2 1 t e here buys member finish ?_⟩
  rw [passes.1, start]
  decide

/-- The first buy hangs for 30 seconds, the cleanup drops its claim as stale, and the next report
starts a second buy of the same key. -/
def sampleStale : List Step :=
  sampleIntake 0 (sampleTrade "t1" false) ++ runs 1 [.flag true, .nothing] ++
    [.disturb (.tick (Duration.fromSecs GROUP_MINT_DEDUP_STALE_SECS)), .disturb .cleanupClaims] ++
    sampleIntake 2 (sampleTrade "t2" false) ++ runs 3 [.flag true, .nothing]

theorem buys_both_in_flight : ¬ ∀ s, (process sampleSetup).Reachable World.Starts anyStep s →
    ∀ key (i j : ℕ) t u, s.tasks[i]? = some t → s.tasks[j]? = some u → InFlight key t → InFlight key u → i = j := by
  intro claim
  let flying (t : TaskState) : Bool :=
    t.role.buysFor = some ⟨"g1", 5⟩ && (claimOf t).since.isSome && (claimOf t).ended = none
  obtain ⟨s, reach, passes⟩ := reaches sampleSetup anyStep sampleGroups sampleStale
    (fun s => s.tasks[1]?.any flying && s.tasks[3]?.any flying) (by decide +kernel)
  rw [Bool.and_eq_true] at passes
  obtain ⟨t, here, first⟩ := (Option.any_eq_true ..).mp passes.1
  obtain ⟨u, there, second⟩ := (Option.any_eq_true ..).mp passes.2
  have inFlight (t : TaskState) (passes : flying t = true) : InFlight ⟨"g1", 5⟩ t := by
    simp only [flying, Bool.and_eq_true, decide_eq_true_eq] at passes
    exact ⟨passes.1.1, passes.1.2, passes.2⟩
  have same := claim s reach ⟨"g1", 5⟩ 1 3 t u here there (inFlight t first) (inFlight u second)
  cases same

end CopyTrader.Main
