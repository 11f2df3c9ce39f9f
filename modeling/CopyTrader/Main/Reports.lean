import CopyTrader.Main.Claims

/-!
# Reports of a transaction

The signature cache lets one report before execution and one of the landing through while it
remembers the signature, and a report that is let through leads to at most one buy for each
group.
-/

namespace CopyTrader.Main
open Lib AutoSell Processor Tasks Program

/-- What the intake of a report has done: when the report was let through, and for which groups it
has started a buy. -/
structure IntakeRecord where
  passed : Option Instant
  spawned : List String

def IntakeRecord.start : IntakeRecord := ⟨none, []⟩

/-- The groups of a wallet have distinct ids. Buys are started after the report was let through,
with the report as their cause, for each group once. -/
def intakeMonitor (role : Role) : Monitor World Op Ans IntakeRecord where
  trusts e :=
    match e.op, e.answer with
    | .groupsForWallet _, groups => (groups.map (·.id)).Nodup
    | _, _ => True
  allows r
    | .shouldSkipSignature report => role = .trade report ∧ r = .start
    | .spawnBuy b cause =>
      ∀ trade, cause = some trade → role = .trade trade ∧ r.passed.isSome = true ∧ b.group.id ∉ r.spawned
    | .spawnExternalBuy b cause =>
      ∀ trade, cause = some trade → role = .trade trade ∧ r.passed.isSome = true ∧ b.group.id ∉ r.spawned
    | _ => True
  next r e :=
    match e.op, e.answer with
    | .shouldSkipSignature _, skip => if skip then r else { r with passed := some e.world.clock }
    | .spawnBuy b _, _ => { r with spawned := b.group.id :: r.spawned }
    | .spawnExternalBuy b _, _ => { r with spawned := b.group.id :: r.spawned }
    | _, _ => r

def turnsIntake : Op → Bool
  | .shouldSkipSignature _ | .spawnBuy .. | .spawnExternalBuy .. => true
  | _ => false

variable {setup : Setup} {trade : DetectedTrade} {r : IntakeRecord} {mint tokenProgram : Pubkey}
  {group : CopyGroup} {groups : List CopyGroup}

theorem quiet_of_unspawned {role : Role} {op : Op} (other : turnsIntake op = false) :
    (intakeMonitor role).Quiet op := by
  cases op <;> first | exact ⟨fun _ => trivial, fun _ _ _ => rfl⟩ | cases other

/-! ### One buy for each group -/

/-- The record after a group was handled: at most this group is new among those bought for. -/
def Handled (r : IntakeRecord) (group : CopyGroup) (r' : IntakeRecord) : Prop :=
  r'.passed = r.passed ∧ ∀ id ∈ r'.spawned, id = group.id ∨ id ∈ r.spawned

theorem Handled.refl : Handled r group r := ⟨rfl, fun _ member => Or.inr member⟩

theorem Handled.spawned : Handled r group { r with spawned := group.id :: r.spawned } :=
  ⟨rfl, fun _ member => List.mem_cons.mp member⟩

theorem spawn_allowed (passed : r.passed.isSome = true) (fresh : group.id ∉ r.spawned) :
    ∀ trade', some trade = some trade' →
      Role.trade trade = .trade trade' ∧ r.passed.isSome = true ∧ group.id ∉ r.spawned := by
  intro trade' same
  obtain rfl := Option.some.inj same
  exact ⟨rfl, passed, fresh⟩

def Handles (trade : DetectedTrade) (f : CopyGroup → Prog Unit) : Prop :=
  ∀ group (r : IntakeRecord), r.passed.isSome = true → group.id ∉ r.spawned →
    wp (intakeMonitor (.trade trade)) (fun _ => Handled r group) (f group) r

theorem forEach_spawns {f : CopyGroup → Prog Unit} (handles : Handles trade f)
    (passed : r.passed.isSome = true) (distinct : (groups.map (·.id)).Nodup)
    (fresh : ∀ group ∈ groups, group.id ∉ r.spawned) :
    wp (intakeMonitor (.trade trade)) (fun _ _ => True) (forEach f groups) r := by
  induction groups generalizing r with
  | nil => trivial
  | cons group rest ih =>
    rw [List.map_cons, List.nodup_cons] at distinct
    refine wp_seq (handles group r passed (fresh group (by simp))) fun _ r' handled => ?_
    refine ih (handled.1 ▸ passed) distinct.2 fun group' member spawned => ?_
    rcases handled.2 _ spawned with same | before
    · exact distinct.1 (same ▸ List.mem_map_of_mem member)
    · exact fresh group' (by simp [member]) before

theorem externalGroup_handles : Handles trade (externalGroup mint tokenProgram trade) := by
  intro group r passed fresh
  have sells : Uses (intakeMonitor (.trade trade)).Quiet (followSell group mint trade) :=
    followSell_uses (quiet_of_unspawned rfl) fun _ => quiet_of_unspawned rfl
  apply wp_ite
  · intro _
    exact .refl
  · intro _
    refine wp_quiet_bind sells fun _ => ?_
    apply wp_ite
    · intro _
      exact .refl
    · intro _
      exact ⟨spawn_allowed passed fresh, fun _ _ _ => .spawned⟩

theorem enterGroup_handles : Handles trade (enterGroup mint tokenProgram trade) := by
  intro group r passed fresh
  refine wp_ite (fun _ => .refl) fun _ => ?_
  apply wp_ite
  · -- a single wallet is enough
    intro _
    apply wp_ite
    · intro _
      exact .refl
    · intro _
      exact ⟨spawn_allowed passed fresh, fun _ _ _ => .spawned⟩
  · -- the report is a vote, or takes one back
    intro _
    apply wp_ite
    · intro _
      exact wp_perform trivial fun _ _ _ => .refl
    · intro _
      exact ⟨trivial, fun _ _ _ => .refl⟩

theorem entryGroups_among {effectiveMirror : List Pubkey} :
    wp (intakeMonitor (.trade trade)) (fun entries r' => r' = r ∧ entries.Sublist groups)
      (entryGroups mint trade effectiveMirror groups) r := by
  induction groups with
  | nil => exact ⟨rfl, .slnil⟩
  | cons group rest ih =>
    have sells : Uses (intakeMonitor (.trade trade)).Quiet (followSell group mint trade) :=
      followSell_uses (quiet_of_unspawned rfl) fun _ => quiet_of_unspawned rfl
    have enters : Uses (intakeMonitor (.trade trade)).Quiet (curveGroup mint trade effectiveMirror group) :=
      uses_ite trivial (uses_bind sells fun _ => trivial)
    refine wp_quiet_bind enters fun enters => wp_seq ih fun others r' among => ?_
    cases enters with
    | true => exact ⟨among.1, among.2.cons_cons group⟩
    | false => exact ⟨among.1, among.2.cons group⟩

theorem curveTrade_spawns (passed : r.passed.isSome = true) (unspawned : r.spawned = [])
    (distinct : (groups.map (·.id)).Nodup) :
    wp (intakeMonitor (.trade trade)) (fun _ _ => True) (curveTrade setup trade mint tokenProgram groups) r := by
  refine wp_quiet_bind (reuseMirror_uses (quiet_of_unspawned rfl)) fun cachedMirror => ?_
  refine wp_quiet_bind (warmForEntry_uses (quiet_of_unspawned rfl) (quiet_of_unspawned rfl)
    (fun _ => quiet_of_unspawned rfl) fun _ => quiet_of_unspawned rfl) fun _ => ?_
  apply wp_seq entryGroups_among
  rintro entries _ ⟨rfl, among⟩
  have distinct' : (entries.map (·.id)).Nodup := distinct.sublist (among.map _)
  exact forEach_spawns enterGroup_handles passed distinct' (by simp [unspawned])

theorem handleTrade_spawns :
    wp (intakeMonitor (.trade trade)) (fun _ _ => True) (handleTrade setup trade) .start := by
  apply wp_perform trivial
  intro _ running _
  refine wp_ite (fun _ => trivial) fun _ => ?_
  refine wp_perform ⟨rfl, rfl⟩ fun w skip _ => ?_
  cases skip with
  | true => trivial
  | false =>
    refine wp_quiet_bind (cacheMirror_uses fun _ _ => quiet_of_unspawned rfl) fun _ => ?_
    apply wp_perform trivial
    intro _ groups distinct
    refine wp_ite (fun _ => trivial) fun _ => ?_
    cases extractTokenInfo trade with
    | none => trivial
    | some found =>
      apply wp_perform trivial
      intro _ blocked _
      refine wp_ite (fun _ => trivial) fun _ => ?_
      apply wp_ite
      · intro _
        exact forEach_spawns externalGroup_handles rfl distinct fun _ _ => List.not_mem_nil
      · intro _
        exact curveTrade_spawns rfl rfl distinct

theorem handleTrigger_spawns {role : Role} {trigger : Consensus.ConsensusTrigger} :
    wp (intakeMonitor role) (fun _ _ => True) (handleTrigger setup trigger) .start := by
  refine wp_perform trivial fun _ _ _ => ?_
  refine wp_perform trivial fun _ found _ => ?_
  cases found with
  | none => trivial
  | some group =>
    refine wp_quiet_bind (warmBuyCaches_uses (quiet_of_unspawned rfl) (quiet_of_unspawned rfl)
      (fun _ => quiet_of_unspawned rfl) fun _ => quiet_of_unspawned rfl) fun _ => ?_
    -- the buy of a trigger is nobody's report
    exact ⟨nofun, fun _ _ _ => trivial⟩

theorem code_spawns {role : Role} : wp (intakeMonitor role) (fun _ _ => True) (role.code setup) .start := by
  have other (unspawned : ∀ op, role.alphabet op = true → turnsIntake op = false) :
      wp (intakeMonitor role) (fun _ _ => True) (role.code setup) .start :=
    wp_quiet (uses_mono (fun op member => quiet_of_unspawned (unspawned op member)) (code_within setup role))
      fun _ => trivial
  cases role with
  | trade t => exact handleTrade_spawns
  | trigger t => exact handleTrigger_spawns
  | _ => exact other fun op member => by cases op <;> first | rfl | cases member

/-! ### Reports that passed -/

def intakeOf (t : TaskState) : IntakeRecord := (intakeMonitor t.role).after .start t.past

def REPORT_PAUSE : Duration := Duration.fromSecs 10

def PassedAt (s : State) (i : ℕ) (trade : DetectedTrade) (τ : Instant) : Prop :=
  ∃ t, s.tasks[i]? = some t ∧ t.role = .trade trade ∧ (intakeOf t).passed = some τ

def SpawnedAt (s : State) (i : ℕ) (trade : DetectedTrade) (groupId : String) : Prop :=
  ∃ t, s.tasks[i]? = some t ∧ t.role = .trade trade ∧ (intakeOf t).passed.isSome = true ∧
    groupId ∈ (intakeOf t).spawned

theorem intake_allows {s : State} {ok : State → Step → Prop}
    (reach : (process setup).Reachable World.Starts ok s) {i : ℕ} {t : TaskState} {op : Op}
    {next : Ans op → Prog Unit} (here : s.tasks[i]? = some t) (rest : t.rest = .perform op next) :
    (intakeMonitor t.role).allows (intakeOf t) op := by
  refine reach.allows intakeMonitor (fun _ => .start) (fun _ => True) (fun _ _ => True) (fun _ _ => code_spawns) ?_
    here trivial rest
  intro s i t choice op next answer world _ _ _ reply
  cases op
  case groupsForWallet wallet =>
    cases reply
    exact s.world.groups.groupsForWallet_nodup _
  all_goals trivial

theorem passedAt_cases {s s' : State} {ok : State → Step → Prop} {step : Step}
    (reach : (process setup).Reachable World.Starts ok s) (stepped : (process setup).Stepped s step s')
    {i : ℕ} {τ : Instant} (after : PassedAt s' i trade τ) :
    PassedAt s i trade τ ∨ ∃ choice, step = .run i choice ∧ τ = s.world.clock ∧
      s.world.respond (.shouldSkipSignature trade) choice = some (false, s'.world) := by
  obtain ⟨t', here', role, passed⟩ := after
  rcases stepped.task here' with ⟨role', rfl, _⟩ | ⟨t, here, moved⟩
  · cases passed
  · cases moved with
    | still => exact Or.inl ⟨_, here, role, passed⟩
    | ran choice runs op next rest answer reply =>
      have allowed := intake_allows reach here rest
      unfold intakeOf at passed
      rw [Monitor.after_snoc] at passed
      cases op
      case shouldSkipSignature report =>
        obtain ⟨same, fresh⟩ := allowed
        obtain rfl : report = trade := by injection same.symm.trans role
        cases answer with
        | true => exact Or.inl ⟨t, here, role, passed⟩
        | false => exact Or.inr ⟨choice, runs, (Option.some.inj passed).symm, reply⟩
      all_goals exact Or.inl ⟨t, here, role, passed⟩

/-- The cache knows of a report of this kind that passed at `τ`, unless its time is over. -/
def Remembered (w : World) (signature : Signature) (isPreExecution : Bool) (τ : Instant) : Prop :=
  τ ≤ w.clock ∧ (τ + REPORT_PAUSE ≤ w.clock ∨
    ∃ seen, w.sigCache.get signature = some seen ∧ seen.knows isPreExecution = true ∧ τ ≤ seen.lastSeen)

namespace Remembered

variable {w w' : World} {signature : Signature} {kind : Bool} {τ : Instant}

theorem of_same (known : Remembered w signature kind τ) (later : w.clock ≤ w'.clock)
    (same : w'.sigCache = w.sigCache) : Remembered w' signature kind τ := by
  unfold Remembered
  rw [same]
  exact ⟨Nat.le_trans known.1 later, known.2.imp_left fun ended => Nat.le_trans ended later⟩

theorem shouldSkip (known : Remembered w signature kind τ) (trade : DetectedTrade) :
    Remembered { w with sigCache := (shouldSkipSignature w.sigCache trade w.clock).1 } signature kind τ := by
  refine ⟨known.1, known.2.imp_right fun ⟨seen, read, knows, later⟩ => ?_⟩
  unfold shouldSkipSignature
  dsimp only
  rw [DashMap.get_insert]
  split
  · rename_i same
    refine ⟨_, rfl, ?_, ?_⟩
    · rw [← same, read]
      exact SignatureSeen.report_knows _ knows
    · rw [SignatureSeen.report_lastSeen]
      exact known.1
  · exact ⟨seen, read, knows, later⟩

theorem respond {op : Op} {choice : Choice} {answer : Ans op} (known : Remembered w signature kind τ)
    (reply : w.respond op choice = some (answer, w')) : Remembered w' signature kind τ := by
  have frame := World.respond_frame reply
  by_cases other : World.writes op = some .signatures
  · cases op
    case shouldSkipSignature trade =>
      cases reply
      exact known.shouldSkip trade
    all_goals cases other
  · exact known.of_same (Nat.le_of_eq frame.clock.symm) (frame.signatures other)

theorem cleanup (known : Remembered w signature kind τ) :
    Remembered { w with sigCache := w.sigCache.retain fun _ seen => keepSignature seen w.clock }
      signature kind τ := by
  refine ⟨known.1, known.2.elim Or.inl fun ⟨seen, read, knows, later⟩ => ?_⟩
  cases kept : keepSignature seen w.clock with
  | true => exact Or.inr ⟨seen, by simp [DashMap.get_retain, read, kept, Option.filter], knows, later⟩
  | false =>
    have ended := of_decide_eq_false kept
    refine Or.inl ?_
    dsimp only
    unfold REPORT_PAUSE
    unfold Instant.durationSince at ended
    have positive : 0 < Duration.fromSecs 10 := by decide
    lia

theorem disturb {env : World.Disturbance} (known : Remembered w signature kind τ)
    (change : w.disturb env = some w') : Remembered w' signature kind τ := by
  have drift := World.disturb_drift change
  by_cases other : World.cleans env = some .signatures
  · cases env
    case cleanupSignatures =>
      cases change
      exact known.cleanup
    all_goals cases other
  · exact known.of_same drift.clock (drift.signatures other)

theorem passed_again (known : Remembered w trade.signature trade.isPreExecution τ)
    (passed : (shouldSkipSignature w.sigCache trade w.clock).2 = false) : τ + REPORT_PAUSE ≤ w.clock := by
  refine known.2.elim id fun ⟨seen, read, knows, _⟩ => ?_
  have skipped : (seen.report trade.isPreExecution w.clock).2 = true := SignatureSeen.report_known knows
  unfold shouldSkipSignature at passed
  rw [read] at passed
  cases skipped.symm.trans passed

theorem just_passed (passed : (shouldSkipSignature w.sigCache trade w.clock).2 = false) :
    Remembered { w with sigCache := (shouldSkipSignature w.sigCache trade w.clock).1 } trade.signature
      trade.isPreExecution w.clock := by
  refine ⟨Nat.le_refl _, Or.inr ⟨_, DashMap.get_insert_same .., SignatureSeen.report_passed passed, ?_⟩⟩
  rw [SignatureSeen.report_lastSeen]

end Remembered

/-- Reports of one kind of a signature passed with the pause between them. -/
def PassedApart (s : State) : Prop :=
  ∀ i j trade trade' τ τ', i ≠ j → PassedAt s i trade τ → PassedAt s j trade' τ' →
    trade.signature = trade'.signature → trade.isPreExecution = trade'.isPreExecution →
      τ + REPORT_PAUSE ≤ τ' ∨ τ' + REPORT_PAUSE ≤ τ

/-- What holds of the reports that have passed: they are remembered, and they passed apart. -/
structure ReportsSound (s : State) : Prop where
  remembered : ∀ i trade τ, PassedAt s i trade τ →
    Remembered s.world trade.signature trade.isPreExecution τ
  apart : PassedApart s

theorem remembered_step {s s' : State} {step : Step} (stepped : (process setup).Stepped s step s')
    {signature : Signature} {kind : Bool} {τ : Instant} (known : Remembered s.world signature kind τ) :
    Remembered s'.world signature kind τ := by
  cases stepped with
  | ran i choice role past op next here answer world reply => exact known.respond reply
  | started role opens => exact known
  | disturbed env world change => exact known.disturb change

theorem reportsSound_step {s s' : State} {ok : State → Step → Prop} {step : Step}
    (reach : (process setup).Reachable World.Starts ok s) (sound : ReportsSound s)
    (stepped : (process setup).Stepped s step s') : ReportsSound s' where
  remembered i trade τ after := by
    rcases passedAt_cases reach stepped after with before | ⟨choice, _, rfl, reply⟩
    · exact remembered_step stepped (sound.remembered i trade τ before)
    · rw [show s'.world = _ from (congrArg Prod.snd (Option.some.inj reply)).symm]
      exact Remembered.just_passed (congrArg Prod.fst (Option.some.inj reply))
  apart i j trade trade' τ τ' differs after after' sameSignature sameKind := by
    have again (k : ℕ) (passed passes : DetectedTrade) (σ : Instant) (before : PassedAt s k passed σ)
        (signatures : passed.signature = passes.signature) (kinds : passed.isPreExecution = passes.isPreExecution)
        (choice : Choice) (reply : s.world.respond (.shouldSkipSignature passes) choice = some (false, s'.world)) :
        σ + REPORT_PAUSE ≤ s.world.clock := by
      have known := sound.remembered k passed σ before
      rw [signatures, kinds] at known
      exact known.passed_again (congrArg Prod.fst (Option.some.inj reply))
    rcases passedAt_cases reach stepped after with before | ⟨choice, runs, rfl, reply⟩ <;>
      rcases passedAt_cases reach stepped after' with before' | ⟨choice', runs', rfl, reply'⟩
    · exact sound.apart i j trade trade' τ τ' differs before before' sameSignature sameKind
    · exact Or.inl (again i trade trade' τ before sameSignature sameKind choice' reply')
    · exact Or.inr (again j trade' trade τ' before' sameSignature.symm sameKind.symm choice reply)
    · exact absurd (by injection runs.symm.trans runs') differs

theorem reportsSound_of_reachable {s : State} {ok : State → Step → Prop}
    (reach : (process setup).Reachable World.Starts ok s) : ReportsSound s := by
  refine reach.invariant (I := ReportsSound) (fun world _ => ⟨?_, ?_⟩) fun _ _ _ reach sound _ stepped =>
    reportsSound_step reach sound stepped
  · rintro i trade τ ⟨t, here, _⟩
    cases here
  · rintro i j trade trade' τ τ' _ ⟨t, here, _⟩
    cases here

/-! ### Where buys come from -/

def startedFor : Role → Option (String × DetectedTrade)
  | .buy b cause => cause.map (b.group.id, ·)
  | .externalBuy b cause => cause.map (b.group.id, ·)
  | _ => none

theorem spawnedAt_step {s s' : State} {step : Step} (stepped : (process setup).Stepped s step s') {i : ℕ}
    {groupId : String} (before : SpawnedAt s i trade groupId) : SpawnedAt s' i trade groupId := by
  obtain ⟨t, here, role, passed, spawned⟩ := before
  obtain ⟨t', here', moved⟩ := stepped.moved here
  cases moved with
  | still => exact ⟨t, here', role, passed, spawned⟩
  | ran choice runs op next rest answer reply =>
    refine ⟨_, here', role, ?_⟩
    unfold intakeOf
    rw [Monitor.after_snoc]
    cases op
    case shouldSkipSignature report =>
      cases answer with
      | true => exact ⟨passed, spawned⟩
      | false => exact ⟨rfl, spawned⟩
    case spawnBuy | spawnExternalBuy => exact ⟨passed, List.mem_cons_of_mem _ spawned⟩
    all_goals exact ⟨passed, spawned⟩

/-- A buy of a report starts in a step of the report's intake that has started none for the group. -/
theorem startedFor_begun {s s' : State} {ok : State → Step → Prop} {step : Step} {role : Role} {groupId : String}
    (reach : (process setup).Reachable World.Starts ok s) (stepped : (process setup).Stepped s step s')
    (begun : System.Begun (process setup) s step role) (started : startedFor role = some (groupId, trade)) :
    ∃ i, SpawnedAt s' i trade groupId ∧ ∀ trade', ¬ SpawnedAt s i trade' groupId := by
  cases begun with
  | opened role opens =>
    cases role
    case buy | externalBuy => cases opens
    all_goals cases started
  | forked j choice t op next here rest role forks =>
    have allowed := intake_allows reach here rest
    obtain ⟨answer, _, here'⟩ := stepped.performs here rest
    have spawns (id : String) (cause : Option DetectedTrade) (same : cause.map (id, ·) = some (groupId, trade))
        (allowed : ∀ trade, cause = some trade → t.role = .trade trade ∧ (intakeOf t).passed.isSome = true ∧
          id ∉ (intakeOf t).spawned)
        (record : intakeOf ⟨t.role, t.past ++ [⟨s.world, op, answer⟩], next answer⟩ =
          ⟨(intakeOf t).passed, id :: (intakeOf t).spawned⟩) :
        ∃ i, SpawnedAt s' i trade groupId ∧ ∀ trade', ¬ SpawnedAt s i trade' groupId := by
      obtain ⟨trade', rfl, pair⟩ := Option.map_eq_some_iff.mp same
      cases pair
      obtain ⟨role, passed, fresh⟩ := allowed trade rfl
      refine ⟨j, ⟨_, here', role, by rw [record]; exact passed, by rw [record]; exact List.mem_cons_self⟩, ?_⟩
      rintro trade' ⟨t', there, _, _, spawned⟩
      obtain rfl := Option.some.inj (here.symm.trans there)
      exact fresh spawned
    cases op
    case spawnBuy | spawnExternalBuy =>
      cases forks
      exact spawns _ _ started allowed (Monitor.after_snoc ..)
    case spawnConfirm | spawnTokenInfo | spawnEntryPrice =>
      cases forks
      cases started
    all_goals cases forks

/-- The task at a place is a buy of the report for the group. -/
def StartedAt (s : State) (k : ℕ) (groupId : String) (trade : DetectedTrade) : Prop :=
  ∃ u, s.tasks[k]? = some u ∧ startedFor u.role = some (groupId, trade)

theorem startedAt_unique {s : State} {k : ℕ} {groupId groupId' : String} {trade trade' : DetectedTrade}
    (started : StartedAt s k groupId trade) (started' : StartedAt s k groupId' trade') :
    groupId = groupId' ∧ trade = trade' := by
  obtain ⟨u, here, role⟩ := started
  obtain ⟨v, here', role'⟩ := started'
  obtain rfl := Option.some.inj (here.symm.trans here')
  cases role.symm.trans role'
  exact ⟨rfl, rfl⟩

theorem startedAt_cases {s s' : State} {ok : State → Step → Prop} {step : Step} {k : ℕ} {groupId : String}
    (reach : (process setup).Reachable World.Starts ok s) (stepped : (process setup).Stepped s step s')
    (after : StartedAt s' k groupId trade) :
    (k < s.tasks.length ∧ StartedAt s k groupId trade) ∨
      (k = s.tasks.length ∧ ∃ i, SpawnedAt s' i trade groupId ∧ ∀ trade', ¬ SpawnedAt s i trade' groupId) := by
  obtain ⟨u, here, started⟩ := after
  rcases stepped.task here with ⟨role, rfl, last, begun⟩ | ⟨v, before, moved⟩
  · exact Or.inr ⟨last, startedFor_begun reach stepped begun started⟩
  · refine Or.inl ⟨(List.getElem?_eq_some_iff.mp before).1, v, before, ?_⟩
    cases moved <;> exact started

/-- Every buy of a report comes from a task that let the report through, and two buys for one group
come from two such tasks. -/
structure Stems (s : State) (origin : ℕ → ℕ) : Prop where
  spawned : ∀ k groupId trade, StartedAt s k groupId trade → SpawnedAt s (origin k) trade groupId
  own : ∀ k l groupId trade trade', StartedAt s k groupId trade → StartedAt s l groupId trade' →
    origin k = origin l → k = l

theorem stems_step {s s' : State} {ok : State → Step → Prop} {step : Step} {origin : ℕ → ℕ}
    (reach : (process setup).Reachable World.Starts ok s) (stems : Stems s origin)
    (stepped : (process setup).Stepped s step s') : ∃ origin', Stems s' origin' := by
  by_cases fresh : ∃ groupId trade, StartedAt s' s.tasks.length groupId trade
  · obtain ⟨groupId₀, trade₀, started₀⟩ := fresh
    obtain ⟨i, spawned₀, unspawned⟩ : ∃ i, SpawnedAt s' i trade₀ groupId₀ ∧
        ∀ trade', ¬ SpawnedAt s i trade' groupId₀ := by
      rcases startedAt_cases reach stepped started₀ with ⟨before, _⟩ | ⟨_, begun⟩
      · exact absurd before (lt_irrefl _)
      · exact begun
    -- the buy at the last place comes from `i`, the others from where they came before
    have kept {k : ℕ} (before : k < s.tasks.length) : Function.update origin s.tasks.length i k = origin k :=
      Function.update_of_ne before.ne _ _
    have apart {k : ℕ} {trade : DetectedTrade} (before : k < s.tasks.length)
        (started : StartedAt s k groupId₀ trade) : Function.update origin s.tasks.length i k ≠ i := by
      rw [kept before]
      rintro rfl
      exact unspawned _ (stems.spawned k groupId₀ trade started)
    refine ⟨Function.update origin s.tasks.length i, fun k groupId trade after => ?_,
      fun k l groupId trade trade' after after' same => ?_⟩
    · rcases startedAt_cases reach stepped after with ⟨before, started⟩ | ⟨rfl, _⟩
      · rw [kept before]
        exact spawnedAt_step stepped (stems.spawned k groupId trade started)
      · obtain ⟨rfl, rfl⟩ := startedAt_unique after started₀
        rw [Function.update_self]
        exact spawned₀
    · rcases startedAt_cases reach stepped after with ⟨before, started⟩ | ⟨rfl, _⟩ <;>
        rcases startedAt_cases reach stepped after' with ⟨before', started'⟩ | ⟨rfl, _⟩
      · rw [kept before, kept before'] at same
        exact stems.own k l groupId trade trade' started started' same
      · obtain ⟨rfl, _⟩ := startedAt_unique after' started₀
        rw [Function.update_self] at same
        exact absurd same (apart before started)
      · obtain ⟨rfl, _⟩ := startedAt_unique after started₀
        rw [Function.update_self] at same
        exact absurd same.symm (apart before' started')
      · rfl
  · have before {k : ℕ} {groupId : String} {trade : DetectedTrade} (after : StartedAt s' k groupId trade) :
        StartedAt s k groupId trade := by
      rcases startedAt_cases reach stepped after with ⟨_, started⟩ | ⟨rfl, _⟩
      · exact started
      · exact absurd ⟨_, _, after⟩ fresh
    exact ⟨origin, fun k groupId trade after => spawnedAt_step stepped (stems.spawned k groupId trade (before after)),
      fun k l groupId trade trade' after after' => stems.own k l groupId trade trade' (before after) (before after')⟩

theorem stems_of_reachable {s : State} {ok : State → Step → Prop}
    (reach : (process setup).Reachable World.Starts ok s) : ∃ origin, Stems s origin := by
  refine reach.invariant (I := fun s => ∃ origin, Stems s origin) (fun world _ => ⟨id, ?_, ?_⟩)
    fun _ _ _ reach stems _ stepped => stems_step reach stems.choose_spec stepped
  · rintro k groupId trade ⟨u, here, _⟩
    cases here
  · rintro k l groupId trade trade' ⟨u, here, _⟩
    cases here

/-! ### The buys of a signature -/

/-- The intakes at the two places let these reports through for the group, with the pause between them. -/
def ReportedApart (s : State) (groupId : String) (i j : ℕ) (trade trade' : DetectedTrade) : Prop :=
  ∃ τ τ', i ≠ j ∧ SpawnedAt s i trade groupId ∧ SpawnedAt s j trade' groupId ∧
    PassedAt s i trade τ ∧ PassedAt s j trade' τ' ∧ (τ + REPORT_PAUSE ≤ τ' ∨ τ' + REPORT_PAUSE ≤ τ)

theorem Stems.passed {s : State} {origin : ℕ → ℕ} (stems : Stems s origin) {k : ℕ} {groupId : String}
    (started : StartedAt s k groupId trade) : ∃ τ, PassedAt s (origin k) trade τ := by
  obtain ⟨t, here, role, passed, _⟩ := stems.spawned k groupId trade started
  obtain ⟨τ, time⟩ := Option.isSome_iff_exists.mp passed
  exact ⟨τ, t, here, role, time⟩

/-- Every buy of a report comes from an intake of its own that let the report through, and reports of
one kind of a signature pass apart. So two buys of one group for reports of one signature are for the
two kinds of report, or the reports that they come from passed with the pause between them; and of two
such buys that were sent for the same mint, one claimed it at least the cooldown after the other had
given it back. -/
theorem buys_of_signature {s : State} (reach : (process setup).Reachable World.Starts anyStep s) :
    ∃ origin, Stems s origin ∧ PassedApart s ∧
      ∀ k l groupId trade trade', k ≠ l → StartedAt s k groupId trade → StartedAt s l groupId trade' →
        trade.signature = trade'.signature →
        (trade.isPreExecution = trade'.isPreExecution →
          ReportedApart s groupId (origin k) (origin l) trade trade') ∧
        ∀ mint u v, (process setup).Reachable World.Starts (KeepsClaim ⟨groupId, mint⟩) s →
          s.tasks[k]? = some u → s.tasks[l]? = some v → u.role.buysFor = some ⟨groupId, mint⟩ →
          v.role.buysFor = some ⟨groupId, mint⟩ → (claimOf u).used = true → (claimOf v).used = true →
            Lease.Before CLAIM_PAUSE (claimOf u) (claimOf v) ∨ Lease.Before CLAIM_PAUSE (claimOf v) (claimOf u) := by
  obtain ⟨origin, stems⟩ := stems_of_reachable reach
  have apart := (reportsSound_of_reachable reach).apart
  refine ⟨origin, stems, apart, fun k l groupId trade trade' differs started started' sameSignature => ?_⟩
  constructor
  · intro sameKind
    have differ : origin k ≠ origin l := fun same => differs (stems.own k l _ _ _ started started' same)
    obtain ⟨τ, passed⟩ := stems.passed started
    obtain ⟨τ', passed'⟩ := stems.passed started'
    have pause := apart _ _ _ _ _ _ differ passed passed' sameSignature sameKind
    exact ⟨τ, τ', differ, stems.spawned k _ _ started, stems.spawned l _ _ started', passed, passed', pause⟩
  · intro mint u v keeps hereU hereV buysU buysV sentU sentV
    exact sent_buys_apart keeps differs hereU hereV buysU buysV sentU sentV

def sampleReports (isPreExecution : Bool) (between : List Step) : List Step :=
  sampleIntake 0 (sampleTrade "t1" true) ++ sampleBuy 1 1000 "b1" ++ between ++
    sampleIntake 3 (sampleTrade "t1" isPreExecution) ++ sampleBuy 4 700 "b2"

def sentFor (trade : DetectedTrade) (t : TaskState) : Bool :=
  startedFor t.role = some ("g1", trade) && t.role.buysFor = some ⟨"g1", 5⟩ && (claimOf t).used

theorem sentFor_iff {trade : DetectedTrade} {t : TaskState} : sentFor trade t = true ↔
    startedFor t.role = some ("g1", trade) ∧ t.role.buysFor = some ⟨"g1", 5⟩ ∧ (claimOf t).used = true := by
  simp [sentFor, and_assoc]

/-- The signature is forgotten after ten seconds, and its second early report is let through. -/
theorem buys_of_signature_sample : ∃ s u v origin,
    (process sampleSetup).Reachable World.Starts (KeepsClaim ⟨"g1", 5⟩) s ∧ s.tasks[1]? = some u ∧
    s.tasks[4]? = some v ∧ Stems s origin ∧
    ReportedApart s "g1" (origin 1) (origin 4) (sampleTrade "t1" true) (sampleTrade "t1" true) ∧
    (Lease.Before CLAIM_PAUSE (claimOf u) (claimOf v) ∨ Lease.Before CLAIM_PAUSE (claimOf v) (claimOf u)) := by
  obtain ⟨s, keeps, passes⟩ := reaches sampleSetup (KeepsClaim ⟨"g1", 5⟩) sampleGroups
    (sampleReports true [.disturb (.tick REPORT_PAUSE), .disturb .cleanupSignatures])
    (fun s => s.tasks[1]?.any (sentFor (sampleTrade "t1" true)) &&
      s.tasks[4]?.any (sentFor (sampleTrade "t1" true))) (by decide +kernel)
  rw [Bool.and_eq_true] at passes
  obtain ⟨u, hereU, sentU⟩ := (Option.any_eq_true ..).mp passes.1
  obtain ⟨v, hereV, sentV⟩ := (Option.any_eq_true ..).mp passes.2
  obtain ⟨startedU, buysU, usedU⟩ := sentFor_iff.mp sentU
  obtain ⟨startedV, buysV, usedV⟩ := sentFor_iff.mp sentV
  obtain ⟨origin, stems, -, apart⟩ := buys_of_signature (keeps.mono fun _ _ _ => trivial)
  obtain ⟨reported, claimed⟩ := apart 1 4 _ _ _ (by decide) ⟨u, hereU, startedU⟩ ⟨v, hereV, startedV⟩ rfl
  exact ⟨s, u, v, origin, keeps, hereU, hereV, stems, reported rfl,
    claimed 5 u v keeps hereU hereV buysU buysV usedU usedV⟩

/-- The landing is reported when the claim of the first buy is over. -/
theorem signature_bought_twice : ¬ ∀ s, (process sampleSetup).Reachable World.Starts anyStep s →
    ∀ (k l : ℕ) u v groupId trade trade', s.tasks[k]? = some u → s.tasks[l]? = some v →
      startedFor u.role = some (groupId, trade) → startedFor v.role = some (groupId, trade') →
      trade.signature = trade'.signature → (claimOf u).used = true → (claimOf v).used = true → k = l := by
  intro claim
  obtain ⟨s, reach, passes⟩ := reaches sampleSetup anyStep sampleGroups
    (sampleReports false [.disturb (.tick CLAIM_PAUSE)])
    (fun s => s.tasks[1]?.any (sentFor (sampleTrade "t1" true)) &&
      s.tasks[4]?.any (sentFor (sampleTrade "t1" false))) (by decide +kernel)
  rw [Bool.and_eq_true] at passes
  obtain ⟨u, hereU, sentU⟩ := (Option.any_eq_true ..).mp passes.1
  obtain ⟨v, hereV, sentV⟩ := (Option.any_eq_true ..).mp passes.2
  obtain ⟨startedU, _, usedU⟩ := sentFor_iff.mp sentU
  obtain ⟨startedV, _, usedV⟩ := sentFor_iff.mp sentV
  exact absurd (claim s reach 1 4 u v _ _ _ hereU hereV startedU startedV rfl usedU usedV) (by decide)

end CopyTrader.Main
