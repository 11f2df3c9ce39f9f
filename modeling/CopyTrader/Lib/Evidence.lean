import CopyTrader.Lib.Pool

/-!
# Evidence in the past

An observer that remembers everything judges each operation by what the task has performed before
it. So every operation in a past, and every task that an operation started, has its reasons in a past.
-/

namespace CopyTrader.Lib

namespace System

variable {σ Op : Type} {Ans : Op → Type} {Choice Role Env : Type}
variable (sys : System σ Op Ans Choice Role Env)

/-- The world answers so. -/
def Answers (e : Event σ Op Ans) : Prop :=
  ∃ choice world, sys.respond e.world e.op choice = some (e.answer, world)

/-- The observer whose state is the past. It trusts what the world answers. -/
def historian (allows : List (Event σ Op Ans) → Op → Prop) : Monitor σ Op Ans (List (Event σ Op Ans)) where
  trusts := sys.Answers
  allows := allows
  next past e := past ++ [e]

variable {sys} {allows : List (Event σ Op Ans) → Op → Prop}

/-- An operation with its reasons in any past that meets an invariant, which more events keep. -/
theorem historian_keeps {I : List (Event σ Op Ans) → Prop} {op : Op} (grows : ∀ past e, I past → I (past ++ [e]))
    (allowed : ∀ past, I past → allows past op) : (sys.historian allows).Keeps I op :=
  fun past holds => ⟨allowed past holds, fun _ _ _ => grows past _ holds⟩

variable {s : Pool σ Op Ans Role} {starts : σ → Prop} {ok : Pool σ Op Ans Role → Label Choice Role Env → Prop}

/-- Every event was answered by the world, and had its reasons in what came before it. -/
def Justified (sys : System σ Op Ans Choice Role Env) (allows : List (Event σ Op Ans) → Op → Prop)
    (past : List (Event σ Op Ans)) : Prop :=
  ∀ before e later, past = before ++ e :: later → allows before e.op ∧ sys.Answers e

theorem Justified.snoc {past : List (Event σ Op Ans)} {e : Event σ Op Ans} (justified : sys.Justified allows past)
    (allowed : allows past e.op) (answered : sys.Answers e) : sys.Justified allows (past ++ [e]) := by
  intro before e' later split
  obtain ⟨rfl, rfl, rfl⟩ | ⟨later', rfl, old⟩ := snoc_eq_append_cons split
  · exact ⟨allowed, answered⟩
  · exact justified before e' later' old

theorem Reachable.justified (allows : Role → List (Event σ Op Ans) → Op → Prop) (reach : sys.Reachable starts ok s)
    (code : ∀ role, (sys.code role).wp (sys.historian (allows role)) (fun _ _ => True) []) {i : ℕ}
    {t : Task σ Op Ans Role} (here : s.tasks[i]? = some t) : sys.Justified (allows t.role) t.past := by
  have kept := reach.tasks (P := fun t => t.rest.wp (sys.historian (allows t.role)) (fun _ _ => True) t.past ∧
    sys.Justified (allows t.role) t.past) (fun role => ⟨code role, fun before e later split => ?_⟩) ?_ i t here
  · exact kept.2
  · simp [begin] at split
  · rintro s i t choice op next answer world there ⟨obeyed, justified⟩ rest _ reply
    rw [rest] at obeyed
    have answered : sys.Answers ⟨s.world, op, answer⟩ := ⟨choice, world, reply⟩
    exact ⟨obeyed.2 s.world answer answered, justified.snoc obeyed.1 answered⟩

/-- A task that the environment did not open was started by an operation of another one. -/
theorem Reachable.forked (reach : sys.Reachable starts ok s) {k : ℕ} {u : Task σ Op Ans Role}
    (here : s.tasks[k]? = some u) (closed : sys.opens u.role = false) :
    ∃ (i : ℕ) (t : Task σ Op Ans Role) (e : Event σ Op Ans),
      s.tasks[i]? = some t ∧ e ∈ t.past ∧ sys.forks e.op = some u.role := by
  revert k u
  refine reach.invariant (I := fun s => ∀ {k : ℕ} {u : Task σ Op Ans Role}, s.tasks[k]? = some u →
    sys.opens u.role = false → ∃ (i : ℕ) (t : Task σ Op Ans Role) (e : Event σ Op Ans),
      s.tasks[i]? = some t ∧ e ∈ t.past ∧ sys.forks e.op = some u.role) ?_ ?_
  · intro world _ k u here
    cases here
  · intro s label s' _ ih _ stepped k u' here closed
    rcases stepped.task here with ⟨role, rfl, _, begun⟩ | ⟨u, before, moved⟩
    · cases begun with
      | opened _ opens => exact absurd (opens.symm.trans closed) (by decide)
      | forked j choice t op next there rest _ forks =>
        obtain ⟨answer, _, there'⟩ := stepped.performs there rest
        exact ⟨j, _, _, there', List.mem_concat_self, forks⟩
    · have same : u'.role = u.role := by cases moved <;> rfl
      obtain ⟨i, t, e, there, member, forks⟩ := ih before (same ▸ closed)
      obtain ⟨t', there', moved'⟩ := stepped.moved there
      refine ⟨i, t', e, there', ?_, same ▸ forks⟩
      cases moved' with
      | still => exact member
      | ran => exact List.mem_append_left _ member

/-- Some task has performed the operation. -/
def Performed (s : Pool σ Op Ans Role) (op : Op) : Prop :=
  ∃ (i : ℕ) (t : Task σ Op Ans Role) (e : Event σ Op Ans), s.tasks[i]? = some t ∧ e ∈ t.past ∧ e.op = op

variable {s' : Pool σ Op Ans Role} {label : Label Choice Role Env}

theorem Stepped.keeps_performed (stepped : sys.Stepped s label s') {op : Op} (done : Performed s op) :
    Performed s' op := by
  obtain ⟨i, t, e, here, member, same⟩ := done
  obtain ⟨t', here', moved⟩ := stepped.moved here
  refine ⟨i, t', e, here', ?_, same⟩
  cases moved with
  | still => exact member
  | ran => exact List.mem_append_left _ member

theorem Stepped.performed {i : ℕ} {choice : Choice} {t : Task σ Op Ans Role} {op : Op}
    {next : Ans op → Program Op Ans Unit} (stepped : sys.Stepped s (.run i choice) s') (here : s.tasks[i]? = some t)
    (rest : t.rest = .perform op next) : Performed s' op := by
  obtain ⟨answer, _, here'⟩ := stepped.performs here rest
  exact ⟨i, _, _, here', List.mem_concat_self, rfl⟩

theorem Reachable.performed_justified (allows : Role → List (Event σ Op Ans) → Op → Prop)
    (reach : sys.Reachable starts ok s)
    (code : ∀ role, (sys.code role).wp (sys.historian (allows role)) (fun _ _ => True) []) {op : Op}
    (done : Performed s op) :
    ∃ (i : ℕ) (t : Task σ Op Ans Role) (before : List (Event σ Op Ans)) (e : Event σ Op Ans),
      s.tasks[i]? = some t ∧ before ++ [e] <+: t.past ∧ e.op = op ∧ allows t.role before op := by
  obtain ⟨i, t, e, there, member, rfl⟩ := done
  obtain ⟨before, later, split⟩ := List.append_of_mem member
  have justified := reach.justified allows code there before e later split
  exact ⟨i, t, before, e, there, ⟨later, by rw [split, List.append_assoc, List.singleton_append]⟩, rfl, justified.1⟩

/-- The operation that started a task which the environment did not open, and its reasons. -/
theorem Reachable.fork_justified (allows : Role → List (Event σ Op Ans) → Op → Prop) (reach : sys.Reachable starts ok s)
    (code : ∀ role, (sys.code role).wp (sys.historian (allows role)) (fun _ _ => True) []) {k : ℕ}
    {u : Task σ Op Ans Role} (here : s.tasks[k]? = some u) (closed : sys.opens u.role = false) :
    ∃ (i : ℕ) (t : Task σ Op Ans Role) (before : List (Event σ Op Ans)) (e : Event σ Op Ans),
      s.tasks[i]? = some t ∧ before ++ [e] <+: t.past ∧ allows t.role before e.op ∧ sys.forks e.op = some u.role := by
  obtain ⟨i, t, e, there, member, forks⟩ := reach.forked here closed
  obtain ⟨j, t', before, e', there', past, same, allowed⟩ :=
    reach.performed_justified allows code ⟨i, t, e, there, member, rfl⟩
  rw [← same] at allowed forks
  exact ⟨j, t', before, e', there', past, allowed, forks⟩

/-- The tasks in roles that only operations start are as many as the operations that start them. -/
theorem Reachable.forks_counted {p : Role → Bool} (closed : ∀ role, p role = true → sys.opens role = false)
    (reach : sys.Reachable starts ok s) :
    s.tasks.countP (p ·.role) = count (fun e => (sys.forks e.op).any p) s := by
  refine reach.invariant (I := fun s => s.tasks.countP (p ·.role) = count (fun e => (sys.forks e.op).any p) s) ?_ ?_
  · intro world _
    rfl
  · intro s label s' _ ih _ stepped
    cases stepped with
    | disturbed env world change => exact ih
    | started role opens =>
      have unforked : p role = false := by
        by_contra counted
        rw [closed role (by simpa using counted)] at opens
        cases opens
      have same : count (fun e => (sys.forks e.op).any p) ⟨s.world, s.tasks ++ [sys.begin role]⟩ =
          count (fun e => (sys.forks e.op).any p) s := count_begin _ s.world s.tasks (some role)
      rw [same, ← ih, List.countP_append]
      simp [begin, unforked]
    | ran i choice role past op next here answer world reply =>
      have kept : (s.tasks.set i ⟨role, past ++ [⟨s.world, op, answer⟩], next answer⟩).countP (p ·.role) =
          s.tasks.countP (p ·.role) := by
        have roles : (s.tasks.set i ⟨role, past ++ [⟨s.world, op, answer⟩], next answer⟩).map (·.role) =
            s.tasks.map (·.role) := by
          apply List.ext_getElem?
          intro j
          rw [List.map_set, List.getElem?_set]
          split
          · rename_i same
            subst same
            obtain ⟨old, _⟩ := List.getElem?_eq_some_iff.mp here
            rw [List.getElem?_map, here, List.length_map, if_pos old]
            rfl
          · rfl
        have byRole (tasks : List (Task σ Op Ans Role)) : tasks.countP (p ·.role) = (tasks.map (·.role)).countP p :=
          List.countP_map.symm
        rw [byRole, roles, ← byRole]
      rw [count_begin, count_set here world rfl, ← ih, List.countP_append, kept]
      cases forked : sys.forks op with
      | none => simp
      | some role' => simp [begin]

/-- What the events that a monitor allows keep of a past and its record. -/
theorem Reachable.recorded {Q : Type} (m : Monitor σ Op Ans Q) (q₀ : Q) (roles : Role → Prop) {post : Q → Prop}
    (R : List (Event σ Op Ans) → Q → Prop) (trusting : ∀ e, m.trusts e) (reach : sys.Reachable starts ok s)
    (code : ∀ role, roles role → (sys.code role).wp m (fun _ => post) q₀) (start : R [] q₀)
    (kept : ∀ past q (e : Event σ Op Ans), m.allows q e.op → R past q → R (past ++ [e]) (m.next q e)) {i : ℕ}
    {t : Task σ Op Ans Role} (here : s.tasks[i]? = some t) (concerned : roles t.role) :
    R t.past (m.after q₀ t.past) := by
  have holds := reach.tasks (P := fun t => roles t.role →
    t.rest.wp m (fun _ => post) (m.after q₀ t.past) ∧ R t.past (m.after q₀ t.past)) ?_ ?_ i t here concerned
  · exact holds.2
  · exact fun role concerned => ⟨code role concerned, start⟩
  · intro s i t choice op next answer world there ih rest _ _ concerned
    obtain ⟨obeyed, recorded⟩ := ih concerned
    rw [rest] at obeyed
    dsimp only
    rw [Monitor.after_snoc]
    exact ⟨obeyed.2 s.world answer (trusting _), kept _ _ _ obeyed.1 recorded⟩

theorem Reachable.past_uses {p : Role → Op → Prop} (reach : sys.Reachable starts ok s)
    (code : ∀ role, (sys.code role).Uses (p role)) {i : ℕ} {t : Task σ Op Ans Role} (here : s.tasks[i]? = some t) :
    ∀ e ∈ t.past, p t.role e.op := by
  have kept := reach.tasks (P := fun t => t.rest.Uses (p t.role) ∧ ∀ e ∈ t.past, p t.role e.op)
    (fun role => ⟨code role, fun _ member => nomatch member⟩) ?_ i t here
  · exact kept.2
  · rintro s i t choice op next answer world there ⟨uses, past⟩ rest _ _
    rw [rest] at uses
    exact ⟨uses.2 answer, List.forall_mem_append.mpr ⟨past, List.forall_mem_singleton.mpr uses.1⟩⟩

/-- What every allowed step finds in the world holds of the worlds that the tasks have seen. -/
theorem Reachable.past_met {P : σ → Prop} (met : ∀ s label, ok s label → P s.world)
    (reach : sys.Reachable starts ok s) {i : ℕ} {t : Task σ Op Ans Role} (here : s.tasks[i]? = some t) :
    ∀ e ∈ t.past, P e.world := by
  refine reach.tasks (P := fun t => ∀ e ∈ t.past, P e.world) (fun _ _ member => nomatch member) ?_ i t here
  intro s i t choice op next answer world there before rest fine reply
  exact List.forall_mem_append.mpr ⟨before, List.forall_mem_singleton.mpr (met s _ fine)⟩

end System

end CopyTrader.Lib
