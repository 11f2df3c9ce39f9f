import CopyTrader.Tasks.Retention

/-!
# Whose position a confirm task writes

A confirm task and the tasks it starts know their position by its key only. What they write is the
position their own buy has stored, or one that a later buy of the same key has put in its place.
-/

namespace CopyTrader.Tx
open Lib AutoSell Main Tasks Program

/-- The position a step stores. -/
def storedBy (e : State × Step) : Option Position :=
  match performed e.1 e.2 with
  | some (.addPosition p) => some p
  | _ => none

/-- The positions that the buys of a history have stored, in this order. -/
def storedPositions (h : History) : List Position := h.filterMap storedBy

/-- The position an effect of a confirm task is applied to. -/
def effectOn : Op → Option PositionKey
  | .confirmSuccess key .. | .confirmFailed key _ | .updateEntryPrice key _ | .updateTokenInfo key .. => some key
  | _ => none

/-- The task at place `i` is the confirm task `c`, or one that `c` has started. -/
inductive ActsFor (h : History) (i : ℕ) (role : Role) (c : ConfirmTask) : Prop where
  | own (same : role = .confirm c)
  | started (s₁ : State) (j : ℕ) (choice : Choice) (u : TaskState) (op : Op) (next : Ans op → Prog Unit)
      (took : (s₁, .run j choice) ∈ h) (there : s₁.tasks[j]? = some u) (rest : u.rest = .perform op next)
      (confirms : u.role = .confirm c) (forks : forks op = some role) (place : s₁.tasks.length = i)

/-! ### The position under a key is the last one stored under it -/

variable {setup : Setup} {h : History} {s : State} {ok : State → Step → Prop} {key : PositionKey}

theorem storedPositions_snoc (h : History) (e : State × Step) :
    storedPositions (h ++ [e]) = storedPositions h ++ (storedBy e).toList := by
  rw [storedPositions, List.filterMap_append, ← storedPositions]
  cases found : storedBy e <;> simp [found]

/-- The position that was stored last under the key. -/
def latest (key : PositionKey) (h : History) : Option Position :=
  ((storedPositions h).filter (·.key = key)).getLast?

theorem latest_snoc_of_stored {e : State × Step} {q : Position} (stores : storedBy e = some q)
    (mine : q.key = key) : latest key (h ++ [e]) = some q := by
  rw [latest, storedPositions_snoc, stores]
  simp [mine]

theorem latest_snoc_of_not {e : State × Step} (other : ∀ q, storedBy e = some q → q.key ≠ key) :
    latest key (h ++ [e]) = latest key h := by
  rw [latest, storedPositions_snoc, List.filter_append]
  have none_mine : (storedBy e).toList.filter (·.key = key) = [] := by
    apply List.filter_eq_nil_iff.mpr
    intro q stores
    simpa using other q (Option.mem_toList.mp stores)
  rw [none_mine, List.append_nil]
  rfl

/-- A stored position has the signature of the position that was stored last under its key. -/
theorem latest_of_traced (traced : (process setup).Traced World.Starts ok h s) {p : Position}
    (stored : s.world.autoSell.getPosition key = some p) :
    ∃ q, latest key h = some q ∧ q.buySignature = p.buySignature := by
  revert p
  refine traced.invariant (I := fun h s => ∀ {p}, s.world.autoSell.getPosition key = some p →
    ∃ q, latest key h = some q ∧ q.buySignature = p.buySignature) ?_ ?_
  · intro w start p stored
    simp [AutoSellManager.getPosition, start.positions] at stored
  · intro h s step s' _ before _ stepped p' stored
    cases stepped with
    | started role opens =>
      rw [latest_snoc_of_not fun q stores => by cases stores]
      exact before stored
    | disturbed env world change =>
      rw [disturb_autoSell change] at stored
      rw [latest_snoc_of_not fun q stores => by cases stores]
      exact before stored
    | ran i choice role past op next here answer world reply =>
      have performs : performed s (.run i choice) = some op := by simp [performed, here]
      have stores (q : Position) : storedBy (s, .run i choice) = some q ↔ op = .addPosition q := by
        rw [storedBy, performs]
        cases op <;> simp
      rw [getPosition_after reply] at stored
      rcases positionAfter_cases stored with ⟨rfl, mine⟩ | ⟨p, old, rfl⟩
      · exact ⟨p', latest_snoc_of_stored ((stores p').mpr rfl) mine, rfl⟩
      · by_cases adds : ∃ q, op = .addPosition q ∧ q.key = key
        · obtain ⟨q, rfl, mine⟩ := adds
          rw [Op.positionAfter, if_pos mine, Option.some.injEq] at stored
          exact ⟨q, latest_snoc_of_stored ((stores q).mpr rfl) mine, congrArg (·.buySignature) stored⟩
        · rw [latest_snoc_of_not fun q stored mine => adds ⟨q, (stores q).mp stored, mine⟩,
            (rewrite_deal ..).buySignature]
          exact before old

/-! ### A confirm task follows a position that its buy has stored -/

/-- Follows the position a task has stored last; a confirm task is only started for that one. -/
def openingMonitor : Monitor World Op Ans (Option Position) where
  trusts _ := True
  allows held
    | .spawnConfirm c => ∃ q, held = some q ∧ q.key = c.positionKey ∧ q.buySignature = c.signature
    | _ => True
  next held e :=
    match e.op with
    | .addPosition p => some p
    | _ => held

def opensPosition : Op → Bool
  | .addPosition _ | .spawnConfirm _ => true
  | _ => false

theorem opening_quiet {op : Op} (other : opensPosition op = false) : openingMonitor.Quiet op := by
  cases op
  case addPosition | spawnConfirm => cases other
  all_goals exact ⟨fun _ => trivial, fun _ _ _ => rfl⟩

theorem sentPosition_signature {p : Position} (sig : Signature) (pending : p.state = .pending) :
    (sentPosition p sig).buySignature = sig := by
  simp [sentPosition, Position.markSubmitted, Position.markConfirming, pending]

theorem submitBuy_opens {p : Position} {userAta : Pubkey} {sol : ℚ} {estimatedTokensRaw : ℕ}
    (pending : p.state = .pending) (held : Option Position) :
    wp openingMonitor (fun _ _ => True) (submitBuy setup p userAta sol estimatedTokensRaw) held := by
  refine wp_quiet_bind (uses_call.mpr (opening_quiet rfl)) fun sent => ?_
  cases sent with
  | error err => exact wp_quiet_bind (uses_call.mpr (opening_quiet rfl)) fun _ => trivial
  | ok sig =>
    refine wp_quiet_bind (uses_call.mpr (opening_quiet rfl)) fun _ => ?_
    apply wp_ite
    · intro _
      refine wp_perform trivial fun _ _ _ => ?_
      exact wp_perform ⟨_, rfl, sentPosition_key p sig, sentPosition_signature sig pending⟩ fun _ _ _ => trivial
    · exact fun _ => trivial

section
variable {Q : Type} {m : Monitor World Op Ans Q} {q : Q}

theorem claimedBuy_wp {key : GroupMintKey} {wrapper : Bool} {buy : Prog Bool}
    (quiet : ∀ op, opensPosition op = false → m.Quiet op) (opens : wp m (fun _ _ => True) buy q) :
    wp m (fun _ _ => True) (claimedBuy key wrapper buy) q := by
  refine wp_quiet_bind (uses_call.mpr (quiet _ rfl)) fun permit => ?_
  refine wp_ite (fun _ => ?_) fun _ => trivial
  refine wp_quiet_bind (uses_call.mpr (quiet _ rfl)) fun started => ?_
  refine wp_ite (fun _ => ?_) fun _ => trivial
  exact wp_seq opens fun _ _ _ => wp_quiet (uses_call.mpr (quiet _ rfl)) fun _ => trivial

/-- A monitor that is deaf to all but the opening of positions need only follow the submission of a buy. -/
theorem code_wp_of_submitBuy (quiet : ∀ op, opensPosition op = false → m.Quiet op)
    (submits : ∀ p sol estimatedTokensRaw, p.state = .pending →
      wp m (fun _ _ => True) (submitBuy setup p (confirmAta setup p) sol estimatedTokensRaw) q) (role : Role) :
    wp m (fun _ _ => True) (role.code setup) q := by
  have other (silent : ∀ op, role.alphabet op = true → opensPosition op = false) :
      wp m (fun _ _ => True) (role.code setup) q :=
    wp_quiet (uses_mono (fun op member => quiet op (silent op member)) (code_within setup role)) fun _ => trivial
  have quotes (op : Op) (quoting : op.ofQuoting = true) : m.Quiet op := by
    cases op <;> first | exact quiet _ rfl | cases quoting
  cases role with
  | buy b cause =>
    exact claimedBuy_wp quiet (executeBuy_wp quotes trivial fun p sol raw pending _ => submits p sol raw pending)
  | externalBuy b cause =>
    exact claimedBuy_wp quiet
      (executeExternalBuy_wp quotes trivial fun p sol raw pending _ _ => submits p sol raw pending)
  | trade | trigger | confirm | tokenInfo | entryPrice | sell | partialSell | fallback | grpc | cleanup =>
    apply other
    intro op member
    cases op <;> first | rfl | cases member

end

theorem code_opens (role : Role) : wp openingMonitor (fun _ _ => True) (role.code setup) none :=
  code_wp_of_submitBuy (fun _ => opening_quiet) (fun _ _ _ pending => submitBuy_opens pending none) role

theorem added_of_held {past : List Moment} {q : Position} (held : openingMonitor.after none past = some q) :
    ∃ e ∈ past, e.op = .addPosition q := by
  induction past using List.reverseRecOn with
  | nil => cases held
  | append_singleton past e ih =>
    obtain ⟨w, op, answer⟩ := e
    rw [Monitor.after_snoc] at held
    by_cases adds : ∃ p, op = .addPosition p
    · obtain ⟨p, rfl⟩ := adds
      obtain rfl := Option.some.inj held
      exact ⟨_, List.mem_append_right _ (List.mem_singleton_self _), rfl⟩
    · have same : openingMonitor.next (openingMonitor.after none past) ⟨w, op, answer⟩ =
          openingMonitor.after none past := by
        cases op
        case addPosition p => exact absurd ⟨p, rfl⟩ adds
        all_goals rfl
      rw [same] at held
      obtain ⟨e, member, adds⟩ := ih held
      exact ⟨e, List.mem_append_left _ member, adds⟩

/-- The buy of `c` has stored a position under the key and with the signature of `c`. -/
def Opened (h : History) (c : ConfirmTask) : Prop :=
  ∃ q ∈ storedPositions h, q.key = c.positionKey ∧ q.buySignature = c.signature

theorem Opened.mono {h' : History} {c : ConfirmTask} (opened : Opened h c) : Opened (h ++ h') c := by
  obtain ⟨q, member, same⟩ := opened
  refine ⟨q, ?_, same⟩
  rw [storedPositions, List.filterMap_append]
  exact List.mem_append_left _ member

theorem opened_of_spawning (traced : (process setup).Traced World.Starts ok h s) {i : ℕ} {t : TaskState}
    {c : ConfirmTask} {next : Unit → Prog Unit} (here : s.tasks[i]? = some t)
    (rest : t.rest = .perform (.spawnConfirm c) next) : Opened h c := by
  have allowed : openingMonitor.allows (openingMonitor.after none t.past) (.spawnConfirm c) :=
    traced.reachable.allows_trusting openingMonitor none (fun _ => True) (fun _ => trivial)
      (fun role _ => code_opens role) here trivial rest
  obtain ⟨q, held, same⟩ := allowed
  obtain ⟨e, member, adds⟩ := added_of_held held
  obtain ⟨s₁, choice, u, next, took, _, there, performs⟩ := traced.performed here member
  refine ⟨q, List.mem_filterMap.mpr ⟨_, took, ?_⟩, same⟩
  obtain ⟨role, past, rest⟩ := u
  obtain rfl : rest = .perform e.op next := performs
  have steps : performed s₁ (.run i choice) = some (.addPosition q) := by simp [performed, there, adds]
  rw [storedBy, steps]

theorem opened_of_confirming (traced : (process setup).Traced World.Starts ok h s) {i : ℕ} {t : TaskState}
    {c : ConfirmTask} (here : s.tasks[i]? = some t) (confirms : t.role = .confirm c) : Opened h c := by
  obtain ⟨s₁, label, took, _, begun⟩ := traced.begun here
  obtain ⟨h₁, h₂, same, earlier⟩ := traced.before took
  rw [confirms] at begun
  rw [same]
  cases begun with
  | opened _ opens => cases opens
  | forked j choice u op next there rest _ started =>
    obtain rfl : op = .spawnConfirm c := by
      cases op <;> first | cases started; rfl | cases started
    exact (opened_of_spawning earlier there rest).mono

/-! ### The key of the effects -/

/-- The position that a confirm task, or a task it has started, knows. -/
def ownKey : Role → Option PositionKey
  | .confirm c => some c.positionKey
  | .tokenInfo key _ | .entryPrice key .. => some key
  | _ => none

/-- An operation that writes under one key only, and starts tasks that know this one. -/
structure StaysWith (own : PositionKey) (op : Op) : Prop where
  effect : ∀ key, effectOn op = some key → key = own
  fork : ∀ role, forks op = some role → ownKey role = some own

theorem staysWith_of_started_none {own : PositionKey} {op : Op} (starts : forks op = none)
    (effect : ∀ key, effectOn op = some key → key = own) : StaysWith own op := by
  refine ⟨effect, ?_⟩
  intro role fork
  rw [starts] at fork
  cases fork

theorem staysWith_of_silent {own : PositionKey} {op : Op} (writes : effectOn op = none)
    (starts : forks op = none) : StaysWith own op := by
  apply staysWith_of_started_none starts
  intro key effect
  rw [writes] at effect
  cases effect

theorem staysWith_of_write {own : PositionKey} {op : Op} (writes : effectOn op = some own)
    (starts : forks op = none) : StaysWith own op := by
  apply staysWith_of_started_none starts
  intro key effect
  exact (Option.some.inj (writes.symm.trans effect)).symm

theorem staysWith_of_fork {own : PositionKey} {op : Op} {role : Role} (writes : effectOn op = none)
    (starts : forks op = some role) (known : ownKey role = some own) : StaysWith own op := by
  constructor
  · intro key effect
    rw [writes] at effect
    cases effect
  · intro role' fork
    obtain rfl := Option.some.inj (starts.symm.trans fork)
    exact known

theorem staysWith_of_confirming {own : PositionKey} (op : Op) (confirming : op.ofConfirming own = true) :
    StaysWith own op := by
  cases op
  case confirmSuccess | confirmFailed =>
    obtain rfl := of_decide_eq_true confirming
    exact staysWith_of_write rfl rfl
  case spawnTokenInfo | spawnEntryPrice =>
    obtain rfl := of_decide_eq_true confirming
    exact staysWith_of_fork rfl rfl rfl
  all_goals first | exact staysWith_of_silent rfl rfl | cases confirming

theorem code_stays (setup : Setup) (role : Role) :
    Uses (fun op => ∀ own, ownKey role = some own → StaysWith own op) (role.code setup) := by
  have silent {own : PositionKey} {op : Op} (writes : effectOn op = none) (starts : forks op = none)
      (_ : ownKey role = some own) : StaysWith own op := staysWith_of_silent writes starts
  have written {own : PositionKey} {op : Op} (writes : effectOn op = ownKey role) (starts : forks op = none)
      (known : ownKey role = some own) : StaysWith own op := staysWith_of_write (writes.trans known) starts
  cases role with
  | confirm c =>
    refine uses_mono (fun op confirming own known => ?_) buyConfirm_confirming
    obtain rfl := Option.some.inj known
    exact staysWith_of_confirming op confirming
  | tokenInfo key mcap =>
    exact uses_bind (uses_call.mpr fun own => silent rfl rfl) fun name => uses_call.mpr fun own => written rfl rfl
  | entryPrice key signature tokens =>
    refine uses_bind (uses_call.mpr fun own => silent rfl rfl) fun spent => ?_
    cases spent with
    | none => trivial
    | some actualSol => exact uses_ite (uses_call.mpr fun own => written rfl rfl) trivial
  | trade | trigger | buy | externalBuy | sell | partialSell | fallback | grpc | cleanup =>
    refine uses_mono (fun op _ own known => ?_) (code_within setup _)
    cases known

theorem ActsFor.knows (traced : (process setup).Traced World.Starts ok h s) {i : ℕ} {role : Role}
    {c : ConfirmTask} (acts : ActsFor h i role c) : ownKey role = some c.positionKey := by
  cases acts with
  | own same =>
    rw [same]
    rfl
  | started s₁ j choice u op next took there rest confirms forks place =>
    obtain ⟨h₁, h₂, _, earlier⟩ := traced.before took
    have uses := earlier.reachable.uses (code_stays setup) there
    rw [rest, confirms] at uses
    exact (uses.1 c.positionKey rfl).fork role forks

theorem ActsFor.opened (traced : (process setup).Traced World.Starts ok h s) {i : ℕ} {t : TaskState}
    {c : ConfirmTask} (here : s.tasks[i]? = some t) (acts : ActsFor h i t.role c) : Opened h c := by
  cases acts with
  | own same => exact opened_of_confirming traced here same
  | started s₁ j choice u op next took there rest confirms forks place =>
    obtain ⟨h₁, h₂, same, earlier⟩ := traced.before took
    rw [same]
    exact (opened_of_confirming earlier there confirms).mono

/-- The tasks that correct the token info and the entry price of a position. -/
def corrects : Role → Bool
  | .tokenInfo .. | .entryPrice .. => true
  | _ => false

theorem acts_of_corrects (traced : (process setup).Traced World.Starts ok h s) {i : ℕ} {t : TaskState}
    (here : s.tasks[i]? = some t) (correction : corrects t.role = true) : ∃ c, ActsFor h i t.role c := by
  obtain ⟨s₁, label, took, place, begun⟩ := traced.begun here
  obtain ⟨h₁, h₂, _, earlier⟩ := traced.before took
  generalize t.role = role at begun correction ⊢
  cases begun with
  | opened _ opens =>
    cases role with
    | tokenInfo | entryPrice => cases opens
    | _ => cases correction
  | forked j choice u op next there rest _ started =>
    have member : u.role.alphabet op = true := performs_within earlier.reachable there rest
    have confirms : ∃ c, u.role = .confirm c := by
      obtain ⟨role', past, rest'⟩ := u
      cases op
      case spawnTokenInfo | spawnEntryPrice =>
        cases role'
        case confirm c => exact ⟨c, rfl⟩
        all_goals cases member
      all_goals cases started <;> cases correction
    obtain ⟨c, confirms⟩ := confirms
    exact ⟨c, .started s₁ j choice u op next took there rest confirms started place⟩

/-- Whatever corrects a position was started by a confirm task. What a confirm task or a task it has
started writes is a position of its own buy, unless another buy has stored its own position under the
key since. -/
theorem confirm_effects (traced : (process setup).Traced World.Starts ok h s) :
    (∀ (i : ℕ) t, s.tasks[i]? = some t → corrects t.role = true → ∃ c, ActsFor h i t.role c) ∧
    ∀ (i : ℕ) t c op next key p, s.tasks[i]? = some t → ActsFor h i t.role c → t.rest = .perform op next →
      effectOn op = some key → s.world.autoSell.getPosition key = some p →
        key = c.positionKey ∧ (p.buySignature = c.signature ∨
          ∃ q q', [q, q'].Sublist (storedPositions h) ∧ q.key = key ∧ q.buySignature = c.signature ∧
            q'.key = key ∧ q'.buySignature = p.buySignature) := by
  refine ⟨fun i t => acts_of_corrects traced, ?_⟩
  intro i t c op next key p here acts rest writes stored
  have under : key = c.positionKey := by
    have uses := traced.reachable.uses (code_stays setup) here
    rw [rest] at uses
    exact (uses.1 _ (acts.knows traced)).effect key writes
  refine ⟨under, ?_⟩
  obtain ⟨q, member, mine, signature⟩ := acts.opened traced here
  obtain ⟨q', last, signature'⟩ := latest_of_traced traced stored
  have mine : q.key = key := mine.trans under.symm
  have mine' : q'.key = key := by simpa using (List.mem_filter.mp (List.mem_of_getLast? last)).2
  have listed : q ∈ (storedPositions h).filter (·.key = key) := List.mem_filter.mpr ⟨member, by simpa using mine⟩
  rcases eq_or_before_getLast listed last with rfl | earlier
  · exact Or.inl (signature'.symm.trans signature)
  · exact Or.inr ⟨q, q', earlier.trans List.filter_sublist, mine, signature, mine', signature'⟩

/-- The second buy has stored its position when the first one turns out to have failed. -/
def sampleOvertaken : List Step :=
  sampleRebuy ++ runs 4 [.nothing] ++
    runs 2 [.nothing, .nothing, .nothing, .flag false, .status (.ok (some ⟨some "failed"⟩))]

/-- The same without a second buy. -/
def sampleAlone : List Step :=
  sampleIntake 0 (sampleTrade "t1" false) ++ sampleBuy 1 1000 "b1" ++
    runs 2 [.nothing, .nothing, .nothing, .flag false, .status (.ok (some ⟨some "failed"⟩))]

/-- The confirm task of the first buy is about to give up a position with the signature. -/
def sampleFails (signature : Signature) (s : State) : Bool :=
  (s.world.autoSell.getPosition ⟨"g1", 5⟩).any (·.buySignature = signature) && s.tasks[2]?.any fun t =>
    match t with
    | ⟨.confirm c, _, .perform (.confirmFailed key _) _⟩ => c.signature = "b1" && key = ⟨"g1", 5⟩
    | _ => false

theorem sampleFails_cases {signature : Signature} {s : State} (passes : sampleFails signature s = true) :
    ∃ p t c reason next,
    s.world.autoSell.getPosition ⟨"g1", 5⟩ = some p ∧ p.buySignature = signature ∧ s.tasks[2]? = some t ∧
      t.role = .confirm c ∧ c.signature = "b1" ∧ t.rest = .perform (.confirmFailed ⟨"g1", 5⟩ reason) next := by
  rw [sampleFails, Bool.and_eq_true] at passes
  obtain ⟨p, stored, second⟩ := (Option.any_eq_true ..).mp passes.1
  obtain ⟨t, here, fails⟩ := (Option.any_eq_true ..).mp passes.2
  split at fails
  · rename_i c past key reason next
    simp only [Bool.and_eq_true, decide_eq_true_eq] at fails
    obtain ⟨first, rfl⟩ := fails
    exact ⟨p, _, c, reason, next, stored, of_decide_eq_true second, here, rfl, first, rfl⟩
  · cases fails

/-- The confirm task of the first buy writes a position with the signature. -/
def SampleEffect (signature : Signature) : Prop :=
  ∃ h s p, ∃ c : ConfirmTask, (process sampleSetup).Traced World.Starts anyStep h s ∧
    s.world.autoSell.getPosition ⟨"g1", 5⟩ = some p ∧ p.buySignature = signature ∧ c.signature = "b1" ∧
      ⟨"g1", 5⟩ = c.positionKey ∧ (p.buySignature = c.signature ∨
        ∃ q q', [q, q'].Sublist (storedPositions h) ∧ q.key = ⟨"g1", 5⟩ ∧ q.buySignature = c.signature ∧
          q'.key = ⟨"g1", 5⟩ ∧ q'.buySignature = p.buySignature)

theorem confirm_effects_sample : SampleEffect "b1" ∧ SampleEffect "b2" := by
  have effect (signature : Signature) (s : State) (reach : (process sampleSetup).Reachable World.Starts anyStep s)
      (passes : sampleFails signature s = true) : SampleEffect signature := by
    obtain ⟨p, t, c, reason, next, stored, same, here, confirms, first, rest⟩ := sampleFails_cases passes
    obtain ⟨h, traced⟩ := reach.traced
    exact ⟨h, s, p, c, traced, stored, same, first,
      (confirm_effects traced).2 2 t c _ next _ p here (.own confirms) rest rfl stored⟩
  constructor
  · obtain ⟨s, reach, passes⟩ := reaches sampleSetup anyStep sampleGroups sampleAlone (sampleFails "b1") (by decide +kernel)
    exact effect "b1" s reach passes
  · obtain ⟨s, reach, passes⟩ := reaches sampleSetup anyStep sampleGroups sampleOvertaken (sampleFails "b2")
      (by decide +kernel)
    exact effect "b2" s reach passes

/-- The confirm task of the first buy marks the position of the second one as failed. -/
theorem confirm_fails_other : ¬ ∀ s, (process sampleSetup).Reachable World.Starts anyStep s →
    ∀ (i : ℕ) (t : TaskState) (c : ConfirmTask) op next key p, s.tasks[i]? = some t → t.role = .confirm c →
      t.rest = .perform op next →
      effectOn op = some key → s.world.autoSell.getPosition key = some p → p.buySignature = c.signature := by
  intro claim
  obtain ⟨s, reach, passes⟩ := reaches sampleSetup anyStep sampleGroups sampleOvertaken (sampleFails "b2")
    (by decide +kernel)
  obtain ⟨p, t, c, reason, next, stored, second, here, confirms, first, rest⟩ := sampleFails_cases passes
  have same := claim s reach 2 t c (.confirmFailed _ reason) next _ p here confirms rest rfl stored
  rw [second, first] at same
  exact absurd same (by decide)

end CopyTrader.Tx
