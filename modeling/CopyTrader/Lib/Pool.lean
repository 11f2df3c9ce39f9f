import CopyTrader.Lib.Lists
import CopyTrader.Lib.Program
import Mathlib.Logic.Function.Basic

/-!
# Pools of interleaved tasks

A pool is a shared world and the tasks that have been started over it. One step lets one task
perform its next operation, starts a task, or changes the world from outside. Every task keeps
its past: the operations it has performed, each with the world it was performed in.
-/

namespace CopyTrader.Lib

/-- A system: how the world answers an operation, given what the environment chooses, which code
the tasks run, which task an operation starts, which roles the environment may start, and how
the world changes by itself. -/
structure System (σ Op : Type) (Ans : Op → Type) (Choice Role Env : Type) where
  respond : σ → (op : Op) → Choice → Option (Ans op × σ)
  code : Role → Program Op Ans Unit
  forks : Op → Option Role
  opens : Role → Bool
  disturb : σ → Env → Option σ

structure Task (σ Op : Type) (Ans : Op → Type) (Role : Type) where
  role : Role
  past : List (Event σ Op Ans)
  rest : Program Op Ans Unit

structure Pool (σ Op : Type) (Ans : Op → Type) (Role : Type) where
  world : σ
  tasks : List (Task σ Op Ans Role)

inductive Label (Choice Role Env : Type) where
  | run (i : ℕ) (choice : Choice)
  | start (role : Role)
  | disturb (env : Env)

namespace System

variable {σ Op : Type} {Ans : Op → Type} {Choice Role Env Q : Type}
variable (sys : System σ Op Ans Choice Role Env)

def begin (role : Role) : Task σ Op Ans Role := ⟨role, [], sys.code role⟩

/-- One step, `none` when the label is not possible. -/
def step (s : Pool σ Op Ans Role) : Label Choice Role Env → Option (Pool σ Op Ans Role)
  | .run i choice =>
    match s.tasks[i]? with
    | some ⟨role, past, .perform op next⟩ =>
      match sys.respond s.world op choice with
      | some (answer, world) =>
        some ⟨world, s.tasks.set i ⟨role, past ++ [⟨s.world, op, answer⟩], next answer⟩ ++
          ((sys.forks op).map sys.begin).toList⟩
      | none => none
    | _ => none
  | .start role => if sys.opens role then some ⟨s.world, s.tasks ++ [sys.begin role]⟩ else none
  | .disturb env => (sys.disturb s.world env).map fun world => ⟨world, s.tasks⟩

theorem getElem?_ran {tasks : List (Task σ Op Ans Role)} {i : ℕ} {t : Task σ Op Ans Role}
    (here : tasks[i]? = some t) (t' : Task σ Op Ans Role) (more : List (Task σ Op Ans Role)) :
    (tasks.set i t' ++ more)[i]? = some t' := by
  have old : i < tasks.length := (List.getElem?_eq_some_iff.mp here).1
  rw [List.getElem?_append_left (by simpa using old), List.getElem?_set_self old]

inductive Stepped (s : Pool σ Op Ans Role) : Label Choice Role Env → Pool σ Op Ans Role → Prop where
  | ran (i : ℕ) (choice : Choice) (role : Role) (past : List (Event σ Op Ans)) (op : Op)
      (next : Ans op → Program Op Ans Unit) (here : s.tasks[i]? = some ⟨role, past, .perform op next⟩)
      (answer : Ans op) (world : σ) (reply : sys.respond s.world op choice = some (answer, world)) :
      Stepped s (.run i choice)
        ⟨world, s.tasks.set i ⟨role, past ++ [⟨s.world, op, answer⟩], next answer⟩ ++
          ((sys.forks op).map sys.begin).toList⟩
  | started (role : Role) (opens : sys.opens role = true) :
      Stepped s (.start role) ⟨s.world, s.tasks ++ [sys.begin role]⟩
  | disturbed (env : Env) (world : σ) (change : sys.disturb s.world env = some world) :
      Stepped s (.disturb env) ⟨world, s.tasks⟩

variable {sys} {s s' : Pool σ Op Ans Role} {label : Label Choice Role Env}

theorem step_cases (h : sys.step s label = some s') : sys.Stepped s label s' := by
  cases label with
  | run i choice =>
    unfold step at h
    dsimp only at h
    split at h
    · rename_i role past op next here
      cases reply : sys.respond s.world op choice with
      | none => simp [reply] at h
      | some result =>
        obtain ⟨answer, world⟩ := result
        simp only [reply, Option.some.injEq] at h
        exact h ▸ .ran i choice role past op next here answer world reply
    · cases h
  | start role =>
    unfold step at h
    dsimp only at h
    split at h
    · rename_i opens
      exact Option.some.inj h ▸ .started role opens
    · cases h
  | disturb env =>
    obtain ⟨world, change, rfl⟩ := Option.map_eq_some_iff.mp h
    exact .disturbed env world change

/-- The task `t` at place `i` over a step that leaves the world `world'`: it stays, or it is the
one that ran. -/
inductive Moved (sys : System σ Op Ans Choice Role Env) (s : Pool σ Op Ans Role)
    (label : Label Choice Role Env) (world' : σ) (i : ℕ) (t : Task σ Op Ans Role) :
    Task σ Op Ans Role → Prop where
  | still : Moved sys s label world' i t t
  | ran (choice : Choice) (runs : label = .run i choice) (op : Op) (next : Ans op → Program Op Ans Unit)
      (rest : t.rest = .perform op next) (answer : Ans op)
      (reply : sys.respond s.world op choice = some (answer, world')) :
      Moved sys s label world' i t ⟨t.role, t.past ++ [⟨s.world, op, answer⟩], next answer⟩

/-- A step starts a task in this role: one that the environment opens, or that an operation forks. -/
inductive Begun (sys : System σ Op Ans Choice Role Env) (s : Pool σ Op Ans Role) :
    Label Choice Role Env → Role → Prop where
  | opened (role : Role) (opens : sys.opens role = true) : Begun sys s (.start role) role
  | forked (j : ℕ) (choice : Choice) (t : Task σ Op Ans Role) (op : Op)
      (next : Ans op → Program Op Ans Unit) (here : s.tasks[j]? = some t) (rest : t.rest = .perform op next)
      (role : Role) (forks : sys.forks op = some role) : Begun sys s (.run j choice) role

/-- A task after a step is a new one at the end, or stood at the same place before. -/
theorem Stepped.task {i : ℕ} {t' : Task σ Op Ans Role} (h : sys.Stepped s label s')
    (here : s'.tasks[i]? = some t') :
    (∃ role, t' = sys.begin role ∧ i = s.tasks.length ∧ Begun sys s label role) ∨
      ∃ t, s.tasks[i]? = some t ∧ Moved sys s label s'.world i t t' := by
  cases h with
  | ran j choice role past op next there answer world reply =>
    dsimp only at here
    rcases Nat.lt_or_ge i s.tasks.length with old | new
    · rw [List.getElem?_append_left (by simpa using old)] at here
      by_cases same : j = i
      · subst same
        rw [List.getElem?_set_self (by simpa using old), Option.some.injEq] at here
        subst here
        exact Or.inr ⟨_, there, .ran choice rfl op next rfl answer reply⟩
      · rw [List.getElem?_set_ne same] at here
        exact Or.inr ⟨t', here, .still⟩
    · rw [List.getElem?_append_right (by simpa using new)] at here
      cases forked : sys.forks op with
      | none => simp [forked] at here
      | some role' =>
        simp only [forked, Option.map_some, Option.toList_some, List.length_set,
          List.getElem?_singleton] at here
        split at here
        · rename_i last
          exact Or.inl ⟨role', (Option.some.inj here).symm, by omega, .forked j choice _ op next there rfl role' forked⟩
        · cases here
  | started role opens =>
    dsimp only at here
    rcases Nat.lt_or_ge i s.tasks.length with old | new
    · rw [List.getElem?_append_left old] at here
      exact Or.inr ⟨t', here, .still⟩
    · rw [List.getElem?_append_right new, List.getElem?_singleton] at here
      split at here
      · exact Or.inl ⟨role, (Option.some.inj here).symm, by omega, .opened role opens⟩
      · cases here
  | disturbed env world change => exact Or.inr ⟨t', here, .still⟩

theorem Stepped.moved {i : ℕ} {t : Task σ Op Ans Role} (h : sys.Stepped s label s')
    (here : s.tasks[i]? = some t) : ∃ t', s'.tasks[i]? = some t' ∧ Moved sys s label s'.world i t t' := by
  have old : i < s.tasks.length := (List.getElem?_eq_some_iff.mp here).1
  cases h with
  | ran j choice role past op next there answer world reply =>
    by_cases same : j = i
    · subst same
      obtain rfl := Option.some.inj (here.symm.trans there)
      exact ⟨_, getElem?_ran here _ _, .ran choice rfl op next rfl answer reply⟩
    · refine ⟨t, ?_, .still⟩
      rw [List.getElem?_append_left (by simpa using old), List.getElem?_set_ne same, here]
  | started role opens => exact ⟨t, by rw [List.getElem?_append_left old, here], .still⟩
  | disturbed env world change => exact ⟨t, here, .still⟩

theorem Stepped.performs {i : ℕ} {choice : Choice} {t : Task σ Op Ans Role} {op : Op}
    {next : Ans op → Program Op Ans Unit} (h : sys.Stepped s (.run i choice) s') (here : s.tasks[i]? = some t)
    (rest : t.rest = .perform op next) :
    ∃ answer, sys.respond s.world op choice = some (answer, s'.world) ∧
      s'.tasks[i]? = some ⟨t.role, t.past ++ [⟨s.world, op, answer⟩], next answer⟩ := by
  cases h with
  | ran _ _ role past op' next' there answer world reply =>
    obtain rfl := Option.some.inj (here.symm.trans there)
    cases rest
    exact ⟨answer, reply, getElem?_ran here _ _⟩

/-! ### What is seen of each task -/

/-- What `f` shows of the task at each place, `d` where there is none. -/
def observe {α : Type} (f : Task σ Op Ans Role → α) (d : α) (s : Pool σ Op Ans Role) (i : ℕ) : α :=
  match s.tasks[i]? with
  | some t => f t
  | none => d

variable {α : Type} {f : Task σ Op Ans Role → α} {d : α}

theorem observe_at {i : ℕ} {t : Task σ Op Ans Role} (here : s.tasks[i]? = some t) :
    observe f d s i = f t := by
  simp [observe, here]

theorem observe_begin (fresh : ∀ role, f (sys.begin role) = d) (world : σ)
    (tasks : List (Task σ Op Ans Role)) (role : Option Role) :
    observe f d ⟨world, tasks ++ (role.map sys.begin).toList⟩ = observe f d ⟨world, tasks⟩ := by
  funext j
  unfold observe
  dsimp only
  rcases Nat.lt_or_ge j tasks.length with old | new
  · rw [List.getElem?_append_left old]
  · rw [List.getElem?_append_right new, List.getElem?_eq_none new]
    cases role with
    | none => simp
    | some role =>
      simp only [Option.map_some, Option.toList_some, List.getElem?_singleton]
      by_cases last : j - tasks.length = 0
      · simp [last, fresh]
      · simp [last]

theorem observe_set {i : ℕ} {t : Task σ Op Ans Role} (here : s.tasks[i]? = some t) (world : σ)
    (t' : Task σ Op Ans Role) :
    observe f d ⟨world, s.tasks.set i t'⟩ = Function.update (observe f d s) i (f t') := by
  have old : i < s.tasks.length := (List.getElem?_eq_some_iff.mp here).1
  funext j
  unfold observe
  dsimp only
  by_cases same : j = i
  · subst same
    rw [List.getElem?_set_self old, Function.update_self]
  · rw [List.getElem?_set_ne (Ne.symm same), Function.update_of_ne same]

/-! ### Counting events -/

/-- How many events of a kind the tasks have performed. -/
def count (p : Event σ Op Ans → Bool) (s : Pool σ Op Ans Role) : ℕ := (s.tasks.map (·.past.countP p)).sum

theorem count_begin (p : Event σ Op Ans → Bool) (world : σ) (tasks : List (Task σ Op Ans Role))
    (role : Option Role) : count p ⟨world, tasks ++ (role.map sys.begin).toList⟩ = count p ⟨world, tasks⟩ := by
  unfold count
  rw [List.map_append, List.sum_append]
  cases role <;> rfl

theorem count_set {p : Event σ Op Ans → Bool} {i : ℕ} {t t' : Task σ Op Ans Role} (here : s.tasks[i]? = some t)
    (world : σ) {e : Event σ Op Ans} (ran : t'.past = t.past ++ [e]) :
    count p ⟨world, s.tasks.set i t'⟩ = count p s + if p e then 1 else 0 := by
  have sum := sum_map_set (f := fun t : Task σ Op Ans Role => t.past.countP p) here t'
  simp only [ran, List.countP_append, List.countP_singleton] at sum
  unfold count
  dsimp only
  omega

/-- The sum of an amount over the events that the tasks have performed. -/
def total (f : Event σ Op Ans → ℕ) (s : Pool σ Op Ans Role) : ℕ := (s.tasks.map fun t => (t.past.map f).sum).sum

theorem total_begin (f : Event σ Op Ans → ℕ) (world : σ) (tasks : List (Task σ Op Ans Role))
    (role : Option Role) : total f ⟨world, tasks ++ (role.map sys.begin).toList⟩ = total f ⟨world, tasks⟩ := by
  unfold total
  rw [List.map_append, List.sum_append]
  cases role <;> rfl

theorem total_set {f : Event σ Op Ans → ℕ} {i : ℕ} {t t' : Task σ Op Ans Role} (here : s.tasks[i]? = some t)
    (world : σ) {e : Event σ Op Ans} (ran : t'.past = t.past ++ [e]) :
    total f ⟨world, s.tasks.set i t'⟩ = total f s + f e := by
  have sum := sum_map_set (f := fun t : Task σ Op Ans Role => (t.past.map f).sum) here t'
  rw [ran, List.map_append, List.sum_append, List.map_singleton, List.sum_singleton] at sum
  unfold total
  dsimp only
  omega

/-! ### Reachable pools -/

variable (sys) in
/-- The pools reached from a starting world through steps that all meet a condition. -/
inductive Reachable (starts : σ → Prop) (ok : Pool σ Op Ans Role → Label Choice Role Env → Prop) :
    Pool σ Op Ans Role → Prop where
  | init (world : σ) (start : starts world) : Reachable starts ok ⟨world, []⟩
  | step (s s' : Pool σ Op Ans Role) (label : Label Choice Role Env) (reach : Reachable starts ok s)
      (fine : ok s label) (taken : sys.step s label = some s') : Reachable starts ok s'

variable (sys) in
def run (ok : Pool σ Op Ans Role → Label Choice Role Env → Prop) [∀ s label, Decidable (ok s label)]
    (s : Pool σ Op Ans Role) : List (Label Choice Role Env) → Option (Pool σ Op Ans Role)
  | [] => some s
  | label :: rest =>
    if ok s label then
      match sys.step s label with
      | some s' => run ok s' rest
      | none => none
    else none

variable {starts : σ → Prop} {ok ok' : Pool σ Op Ans Role → Label Choice Role Env → Prop}

theorem Reachable.run [∀ s label, Decidable (ok s label)] {labels : List (Label Choice Role Env)}
    (reach : sys.Reachable starts ok s) (taken : sys.run ok s labels = some s') :
    sys.Reachable starts ok s' := by
  induction labels generalizing s with
  | nil => exact Option.some.inj taken ▸ reach
  | cons label rest ih =>
    unfold System.run at taken
    split at taken
    · rename_i fine
      cases next : sys.step s label with
      | none => simp [next] at taken
      | some mid =>
        rw [next] at taken
        exact ih (.step s mid label reach fine next) taken
    · cases taken

theorem Reachable.of_run [∀ s label, Decidable (ok s label)] {labels : List (Label Choice Role Env)}
    (p : Pool σ Op Ans Role → Bool) {world : σ} (start : starts world)
    (ran : (sys.run ok ⟨world, []⟩ labels).any p = true) : ∃ s, sys.Reachable starts ok s ∧ p s = true := by
  obtain ⟨s, taken, passes⟩ := (Option.any_eq_true ..).mp ran
  exact ⟨s, (Reachable.init world start).run taken, passes⟩

theorem Reachable.mono (imp : ∀ s label, ok s label → ok' s label) (reach : sys.Reachable starts ok s) :
    sys.Reachable starts ok' s := by
  induction reach with
  | init world start => exact .init world start
  | step s s' label _ fine taken ih => exact .step s s' label ih (imp s label fine) taken

theorem Reachable.of_starts {starts' : σ → Prop} (imp : ∀ w, starts w → starts' w)
    (reach : sys.Reachable starts ok s) : sys.Reachable starts' ok s := by
  induction reach with
  | init world start => exact .init world (imp world start)
  | step s s' label _ fine taken ih => exact .step s s' label ih fine taken

theorem Reachable.invariant {I : Pool σ Op Ans Role → Prop} (reach : sys.Reachable starts ok s)
    (init : ∀ world, starts world → I ⟨world, []⟩)
    (step : ∀ s label s', sys.Reachable starts ok s → I s → ok s label → sys.Stepped s label s' → I s') :
    I s := by
  induction reach with
  | init world start => exact init world start
  | step s s' label reach fine taken ih => exact step s label s' reach ih fine (step_cases taken)

/-- A measure of the world that moves with the events of a kind counts them. -/
theorem Reachable.measure_eq_count {f : σ → ℕ} {p : Event σ Op Ans → Bool}
    (reach : sys.Reachable starts ok s) (init : ∀ world, starts world → f world = 0)
    (respects : ∀ w op choice answer w', sys.respond w op choice = some (answer, w') →
      f w' = f w + if p ⟨w, op, answer⟩ then 1 else 0)
    (disturbs : ∀ w env w', sys.disturb w env = some w' → f w' = f w) : f s.world = count p s := by
  refine reach.invariant (I := fun s => f s.world = count p s) ?_ ?_
  · intro world start
    exact init world start
  · intro s label s' _ ih _ stepped
    cases stepped with
    | ran i choice role past op next here answer world reply =>
      rw [count_begin, count_set here world rfl, ← ih]
      exact respects _ _ _ _ _ reply
    | started role opens =>
      have same : count p ⟨s.world, s.tasks ++ [sys.begin role]⟩ = count p s :=
        count_begin p s.world s.tasks (some role)
      exact ih.trans same.symm
    | disturbed env world change => exact (disturbs _ _ _ change).trans ih

/-! ### Histories -/

variable (sys) in
/-- The pools reached from a starting world, with the steps that led there. -/
inductive Traced (starts : σ → Prop) (ok : Pool σ Op Ans Role → Label Choice Role Env → Prop) :
    List (Pool σ Op Ans Role × Label Choice Role Env) → Pool σ Op Ans Role → Prop where
  | init (world : σ) (start : starts world) : Traced starts ok [] ⟨world, []⟩
  | step (h : List (Pool σ Op Ans Role × Label Choice Role Env)) (s s' : Pool σ Op Ans Role)
      (label : Label Choice Role Env) (traced : Traced starts ok h s) (fine : ok s label)
      (taken : sys.step s label = some s') : Traced starts ok (h ++ [(s, label)]) s'

variable {h : List (Pool σ Op Ans Role × Label Choice Role Env)}

theorem Traced.reachable (traced : sys.Traced starts ok h s) : sys.Reachable starts ok s := by
  induction traced with
  | init world start => exact .init world start
  | step h s s' label _ fine taken ih => exact .step s s' label ih fine taken

theorem Reachable.traced (reach : sys.Reachable starts ok s) : ∃ h, sys.Traced starts ok h s := by
  induction reach with
  | init world start => exact ⟨[], .init world start⟩
  | step s s' label _ fine taken ih =>
    obtain ⟨h, traced⟩ := ih
    exact ⟨h ++ [(s, label)], .step h s s' label traced fine taken⟩

theorem Traced.invariant
    {I : List (Pool σ Op Ans Role × Label Choice Role Env) → Pool σ Op Ans Role → Prop}
    (traced : sys.Traced starts ok h s) (init : ∀ world, starts world → I [] ⟨world, []⟩)
    (step : ∀ h s label s', sys.Traced starts ok h s → I h s → ok s label → sys.Stepped s label s' →
      I (h ++ [(s, label)]) s') : I h s := by
  induction traced with
  | init world start => exact init world start
  | step h s s' label traced fine taken ih => exact step h s label s' traced ih fine (step_cases taken)

/-- The pool at any earlier step was reached by the steps before it. -/
theorem Traced.before {s₁ : Pool σ Op Ans Role} (traced : sys.Traced starts ok h s)
    (member : (s₁, label) ∈ h) :
    ∃ h₁ h₂, h = h₁ ++ (s₁, label) :: h₂ ∧ sys.Traced starts ok h₁ s₁ := by
  induction traced with
  | init world start => cases member
  | step h s s' label' traced fine taken ih =>
    rcases List.mem_append.mp member with old | new
    · obtain ⟨h₁, h₂, same, traced₁⟩ := ih old
      exact ⟨h₁, h₂ ++ [(s, label')], by simp [same], traced₁⟩
    · obtain ⟨rfl, rfl⟩ := Prod.mk.inj (List.mem_singleton.mp new)
      exact ⟨h, [], rfl, traced⟩

variable (sys) in
/-- The steps of a run with the pools they were taken in, and the pool it ends in. -/
def trace (s : Pool σ Op Ans Role) : List (Label Choice Role Env) →
    Option (List (Pool σ Op Ans Role × Label Choice Role Env) × Pool σ Op Ans Role)
  | [] => some ([], s)
  | label :: rest =>
    match sys.step s label with
    | some s' => (trace s' rest).map fun ran => ((s, label) :: ran.1, ran.2)
    | none => none

theorem trace_cons {labels : List (Label Choice Role Env)} {later : List (Pool σ Op Ans Role × Label Choice Role Env)}
    {last : Pool σ Op Ans Role} (ran : sys.trace s (label :: labels) = some (later, last)) :
    ∃ s' later', sys.step s label = some s' ∧ sys.trace s' labels = some (later', last) ∧
      later = (s, label) :: later' := by
  unfold trace at ran
  split at ran
  · rename_i s' taken
    obtain ⟨⟨later', last'⟩, rest, same⟩ := Option.map_eq_some_iff.mp ran
    obtain ⟨rfl, rfl⟩ := Prod.mk.inj same
    exact ⟨s', later', taken, rest, rfl⟩
  · cases ran

theorem Traced.of_trace {labels : List (Label Choice Role Env)}
    {later : List (Pool σ Op Ans Role × Label Choice Role Env)} (free : ∀ s label, ok s label)
    (traced : sys.Traced starts ok h s) (ran : sys.trace s labels = some (later, s')) :
    sys.Traced starts ok (h ++ later) s' := by
  induction labels generalizing h s later with
  | nil =>
    obtain ⟨rfl, rfl⟩ := Prod.mk.inj (Option.some.inj ran)
    rwa [List.append_nil]
  | cons label labels ih =>
    obtain ⟨mid, later', taken, rest, rfl⟩ := trace_cons ran
    rw [List.append_cons]
    exact ih (.step h s mid label traced (free s label) taken) rest

/-- What a task has performed is a step of the history. -/
theorem Traced.performed {i : ℕ} {t : Task σ Op Ans Role} {e : Event σ Op Ans}
    (traced : sys.Traced starts ok h s) (here : s.tasks[i]? = some t) (member : e ∈ t.past) :
    ∃ s₁ choice u next, (s₁, .run i choice) ∈ h ∧ s₁.world = e.world ∧ s₁.tasks[i]? = some u ∧
      u.rest = .perform e.op next := by
  revert i t
  refine traced.invariant (I := fun h s => ∀ {i : ℕ} {t}, s.tasks[i]? = some t → e ∈ t.past →
    ∃ s₁ choice u next, (s₁, .run i choice) ∈ h ∧ s₁.world = e.world ∧ s₁.tasks[i]? = some u ∧
      u.rest = .perform e.op next) ?_ ?_
  · intro world _ i t here
    cases here
  · intro h s label s' _ ih _ stepped i t' here member
    rcases stepped.task here with ⟨role, rfl, _⟩ | ⟨t, before, moved⟩
    · exact absurd member List.not_mem_nil
    · have earlier (old : e ∈ t.past) : ∃ s₁ choice u next, (s₁, .run i choice) ∈ h ++ [(s, label)] ∧
          s₁.world = e.world ∧ s₁.tasks[i]? = some u ∧ u.rest = .perform e.op next := by
        obtain ⟨s₁, choice, u, next, took, rest⟩ := ih before old
        exact ⟨s₁, choice, u, next, List.mem_append_left _ took, rest⟩
      cases moved with
      | still => exact earlier member
      | ran choice runs op next rest answer reply =>
        rcases List.mem_append.mp member with old | new
        · exact earlier old
        · obtain rfl := List.mem_singleton.mp new
          exact ⟨s, choice, t, next, by simp [runs], rfl, before, rest⟩

/-- Every task was started by a step of the history. -/
theorem Traced.begun {i : ℕ} {t : Task σ Op Ans Role} (traced : sys.Traced starts ok h s)
    (here : s.tasks[i]? = some t) :
    ∃ s₁ label, (s₁, label) ∈ h ∧ s₁.tasks.length = i ∧ Begun sys s₁ label t.role := by
  revert i t
  refine traced.invariant (I := fun h s => ∀ {i : ℕ} {t}, s.tasks[i]? = some t →
    ∃ s₁ label, (s₁, label) ∈ h ∧ s₁.tasks.length = i ∧ Begun sys s₁ label t.role) ?_ ?_
  · intro world _ i t here
    cases here
  · intro h s label s' _ ih _ stepped i t' here
    rcases stepped.task here with ⟨role, rfl, place, begun⟩ | ⟨t, before, moved⟩
    · exact ⟨s, label, by simp, place.symm, begun⟩
    · obtain ⟨s₁, label₁, took, place, begun⟩ := ih before
      have same : t'.role = t.role := by cases moved <;> rfl
      exact ⟨s₁, label₁, List.mem_append_left _ took, place, same ▸ begun⟩

/-- A property of each task by itself, of the fresh tasks and kept by the task that runs. -/
theorem Reachable.tasks {P : Task σ Op Ans Role → Prop} (reach : sys.Reachable starts ok s)
    (fresh : ∀ role, P (sys.begin role))
    (ran : ∀ (s : Pool σ Op Ans Role) (i : ℕ) (t : Task σ Op Ans Role) choice op next answer world,
      s.tasks[i]? = some t → P t → t.rest = .perform op next → ok s (.run i choice) →
      sys.respond s.world op choice = some (answer, world) →
      P ⟨t.role, t.past ++ [⟨s.world, op, answer⟩], next answer⟩) :
    ∀ (i : ℕ) (t : Task σ Op Ans Role), s.tasks[i]? = some t → P t := by
  refine reach.invariant (I := fun s => ∀ (i : ℕ) t, s.tasks[i]? = some t → P t) ?_ ?_
  · intro world _ i t here
    cases here
  · intro s label s' _ ih fine stepped i t' here
    rcases stepped.task here with ⟨role, rfl, _⟩ | ⟨t, before, moved⟩
    · exact fresh role
    · cases moved with
      | still => exact ih i t' before
      | ran choice runs op next rest answer reply =>
        subst runs
        exact ran s i t choice op next answer s'.world before (ih i t before) rest fine reply

theorem Reachable.uses {p : Role → Op → Prop} (reach : sys.Reachable starts ok s)
    (code : ∀ role, (sys.code role).Uses (p role)) {i : ℕ} {t : Task σ Op Ans Role}
    (here : s.tasks[i]? = some t) : t.rest.Uses (p t.role) := by
  refine reach.tasks (P := fun t => t.rest.Uses (p t.role)) (fun role => code role) ?_ i t here
  intro s i t choice op next answer world there uses rest fine reply
  rw [rest] at uses
  exact uses.2 answer

/-- Tasks of some roles whose code keeps to a monitor are at every moment where the monitor expects
them, with what the events that it allows keep. -/
theorem Reachable.follows (m : Role → Monitor σ Op Ans Q) (q₀ : Role → Q) (roles : Role → Prop)
    (post : Role → Q → Prop) (I : Role → Q → Prop) (reach : sys.Reachable starts ok s)
    (code : ∀ role, roles role → (sys.code role).wp (m role) (fun _ => post role) (q₀ role))
    (trusted : ∀ (s : Pool σ Op Ans Role) i t choice op next answer world, s.tasks[i]? = some t →
      t.rest = .perform op next → ok s (.run i choice) →
      sys.respond s.world op choice = some (answer, world) → (m t.role).trusts ⟨s.world, op, answer⟩)
    (start : ∀ role, I role (q₀ role))
    (kept : ∀ role q (e : Event σ Op Ans), (m role).trusts e → (m role).allows q e.op → I role q →
      I role ((m role).next q e))
    {i : ℕ} {t : Task σ Op Ans Role} (here : s.tasks[i]? = some t) (concerned : roles t.role) :
    t.rest.wp (m t.role) (fun _ => post t.role) ((m t.role).after (q₀ t.role) t.past) ∧
      I t.role ((m t.role).after (q₀ t.role) t.past) := by
  refine reach.tasks (P := fun t => roles t.role →
    t.rest.wp (m t.role) (fun _ => post t.role) ((m t.role).after (q₀ t.role) t.past) ∧
      I t.role ((m t.role).after (q₀ t.role) t.past)) ?_ ?_ i t here concerned
  · exact fun role concerned => ⟨code role concerned, start role⟩
  · intro s i t choice op next answer world there ih rest fine reply concerned
    have holds := ih concerned
    have trust := trusted s i t choice op next answer world there rest fine reply
    rw [rest] at holds
    dsimp only
    rw [Monitor.after_snoc]
    exact ⟨holds.1.2 s.world answer trust, kept _ _ _ trust holds.1.1 holds.2⟩

theorem Reachable.obeys (m : Role → Monitor σ Op Ans Q) (q₀ : Role → Q) (roles : Role → Prop)
    (post : Role → Q → Prop) (reach : sys.Reachable starts ok s)
    (code : ∀ role, roles role → (sys.code role).wp (m role) (fun _ => post role) (q₀ role))
    (trusted : ∀ (s : Pool σ Op Ans Role) i t choice op next answer world, s.tasks[i]? = some t →
      t.rest = .perform op next → ok s (.run i choice) →
      sys.respond s.world op choice = some (answer, world) → (m t.role).trusts ⟨s.world, op, answer⟩)
    {i : ℕ} {t : Task σ Op Ans Role} (here : s.tasks[i]? = some t) (concerned : roles t.role) :
    t.rest.wp (m t.role) (fun _ => post t.role) ((m t.role).after (q₀ t.role) t.past) :=
  (reach.follows m q₀ roles post (fun _ _ => True) code trusted (fun _ => trivial) (fun _ _ _ _ _ _ => trivial)
    here concerned).1

theorem Reachable.allows (m : Role → Monitor σ Op Ans Q) (q₀ : Role → Q) (roles : Role → Prop)
    (post : Role → Q → Prop) (reach : sys.Reachable starts ok s)
    (code : ∀ role, roles role → (sys.code role).wp (m role) (fun _ => post role) (q₀ role))
    (trusted : ∀ (s : Pool σ Op Ans Role) i t choice op next answer world, s.tasks[i]? = some t →
      t.rest = .perform op next → ok s (.run i choice) →
      sys.respond s.world op choice = some (answer, world) → (m t.role).trusts ⟨s.world, op, answer⟩)
    {i : ℕ} {t : Task σ Op Ans Role} {op : Op} {next : Ans op → Program Op Ans Unit}
    (here : s.tasks[i]? = some t) (concerned : roles t.role) (rest : t.rest = .perform op next) :
    (m t.role).allows ((m t.role).after (q₀ t.role) t.past) op := by
  have obeyed := reach.obeys m q₀ roles post code trusted here concerned
  rw [rest] at obeyed
  exact obeyed.1

/-! ### One monitor for several roles, which trusts every answer -/

theorem Reachable.follows_trusting (m : Monitor σ Op Ans Q) (q₀ : Q) (roles : Role → Prop) (I : Q → Prop)
    {post : Q → Prop} (trusting : ∀ e, m.trusts e) (reach : sys.Reachable starts ok s)
    (code : ∀ role, roles role → (sys.code role).wp m (fun _ => post) q₀) (start : I q₀)
    (kept : ∀ q (e : Event σ Op Ans), m.allows q e.op → I q → I (m.next q e)) {i : ℕ} {t : Task σ Op Ans Role}
    (here : s.tasks[i]? = some t) (concerned : roles t.role) :
    t.rest.wp m (fun _ => post) (m.after q₀ t.past) ∧ I (m.after q₀ t.past) :=
  reach.follows (fun _ => m) (fun _ => q₀) roles (fun _ => post) (fun _ => I) code
    (fun _ _ _ _ _ _ _ _ _ _ _ _ => trusting _) (fun _ => start) (fun _ q e _ => kept q e) here concerned

theorem Reachable.obeys_trusting (m : Monitor σ Op Ans Q) (q₀ : Q) (roles : Role → Prop) {post : Q → Prop}
    (trusting : ∀ e, m.trusts e) (reach : sys.Reachable starts ok s)
    (code : ∀ role, roles role → (sys.code role).wp m (fun _ => post) q₀) {i : ℕ} {t : Task σ Op Ans Role}
    (here : s.tasks[i]? = some t) (concerned : roles t.role) : t.rest.wp m (fun _ => post) (m.after q₀ t.past) :=
  (reach.follows_trusting m q₀ roles (fun _ => True) trusting code trivial (fun _ _ _ _ => trivial) here concerned).1

theorem Reachable.allows_trusting (m : Monitor σ Op Ans Q) (q₀ : Q) (roles : Role → Prop) {post : Q → Prop}
    (trusting : ∀ e, m.trusts e) (reach : sys.Reachable starts ok s)
    (code : ∀ role, roles role → (sys.code role).wp m (fun _ => post) q₀) {i : ℕ} {t : Task σ Op Ans Role} {op : Op}
    {next : Ans op → Program Op Ans Unit} (here : s.tasks[i]? = some t) (concerned : roles t.role)
    (rest : t.rest = .perform op next) : m.allows (m.after q₀ t.past) op := by
  have obeyed := reach.obeys_trusting m q₀ roles trusting code here concerned
  rw [rest] at obeyed
  exact obeyed.1

/-- The worlds that a task has seen lie before the present one, in the order it saw them, for any
preorder that every change of the world respects. -/
theorem Reachable.past_ordered {R : σ → σ → Prop} (reach : sys.Reachable starts ok s)
    (refl : ∀ w, R w w) (trans : ∀ u v w, R u v → R v w → R u w)
    (respects : ∀ w op choice answer w', sys.respond w op choice = some (answer, w') → R w w')
    (disturbs : ∀ w env w', sys.disturb w env = some w' → R w w')
    {i : ℕ} {t : Task σ Op Ans Role} (here : s.tasks[i]? = some t) :
    (∀ e ∈ t.past, R e.world s.world) ∧ t.past.Pairwise fun a b => R a.world b.world := by
  revert i t
  refine reach.invariant (I := fun s => ∀ {i : ℕ} {t}, s.tasks[i]? = some t →
    (∀ e ∈ t.past, R e.world s.world) ∧ t.past.Pairwise fun a b => R a.world b.world) ?_ ?_
  · intro world _ i t here
    cases here
  · intro s label s' _ ih _ stepped i t' here
    have onward : R s.world s'.world := by
      cases stepped with
      | ran j choice role past op next there answer world reply => exact respects _ _ _ _ _ reply
      | started role opens => exact refl _
      | disturbed env world change => exact disturbs _ _ _ change
    rcases stepped.task here with ⟨role, rfl, _⟩ | ⟨t, before, moved⟩
    · exact ⟨fun e member => (List.not_mem_nil member).elim, List.Pairwise.nil⟩
    · obtain ⟨behind, ordered⟩ := ih before
      cases moved with
      | still => exact ⟨fun e member => trans _ _ _ (behind e member) onward, ordered⟩
      | ran choice runs op next rest answer reply =>
        refine ⟨fun e member => ?_, ?_⟩
        · rcases List.mem_append.mp member with old | new
          · exact trans _ _ _ (behind e old) onward
          · rw [List.mem_singleton.mp new]
            exact onward
        · refine List.pairwise_append.mpr ⟨ordered, List.pairwise_singleton .., fun a member b new => ?_⟩
          rw [List.mem_singleton.mp new]
          exact behind a member

end System

end CopyTrader.Lib
