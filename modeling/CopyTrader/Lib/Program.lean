import Mathlib.Data.List.Induction

/-!
# Sequential tasks and monitors

A task performs one operation at a time and continues with the answer. A monitor follows a
task operation by operation; `Program.wp` says that the task keeps to what the monitor allows,
whatever the trusted answers are, and where it may end.
-/

namespace CopyTrader.Lib

/-- A task over the operations `Op`, which the operation `op` answers in `Ans op`. -/
inductive Program (Op : Type) (Ans : Op → Type) (α : Type) where
  | done (a : α)
  | perform (op : Op) (next : Ans op → Program Op Ans α)

namespace Program

variable {Op : Type} {Ans : Op → Type} {α β : Type}

protected def bind : Program Op Ans α → (α → Program Op Ans β) → Program Op Ans β
  | done a, f => f a
  | perform op next, f => perform op fun answer => (next answer).bind f

instance : Monad (Program Op Ans) where
  pure := done
  bind := Program.bind

def call (op : Op) : Program Op Ans (Ans op) := perform op done

def isDone : Program Op Ans α → Bool
  | done _ => true
  | perform .. => false

def Uses (p : Op → Prop) : Program Op Ans α → Prop
  | done _ => True
  | perform op next => p op ∧ ∀ answer, (next answer).Uses p

variable {p q : Op → Prop}

@[simp] theorem uses_call {op : Op} : Uses p (call op : Program Op Ans (Ans op)) ↔ p op :=
  ⟨fun uses => uses.1, fun passes => ⟨passes, fun _ => trivial⟩⟩

theorem uses_bind {x : Program Op Ans α} {f : α → Program Op Ans β} (first : Uses p x)
    (rest : ∀ a, Uses p (f a)) : Uses p (x >>= f) := by
  induction x with
  | done a => exact rest a
  | perform op next ih => exact ⟨first.1, fun answer => ih answer (first.2 answer)⟩

theorem uses_ite {c : Prop} [Decidable c] {x y : Program Op Ans α} (yes : Uses p x) (no : Uses p y) :
    Uses p (if c then x else y) := by
  split
  · exact yes
  · exact no

theorem uses_mono {x : Program Op Ans α} (imp : ∀ op, p op → q op) (uses : Uses p x) : Uses q x := by
  induction x with
  | done a => trivial
  | perform op next ih => exact ⟨imp op uses.1, fun answer => ih answer (uses.2 answer)⟩

end Program

structure Event (σ Op : Type) (Ans : Op → Type) where
  world : σ
  op : Op
  answer : Ans op

/-- An observer with states `Q`: the events it trusts the environment to produce, the operations
it allows next, and how it moves on. -/
structure Monitor (σ Op : Type) (Ans : Op → Type) (Q : Type) where
  trusts : Event σ Op Ans → Prop
  allows : Q → Op → Prop
  next : Q → Event σ Op Ans → Q

variable {σ Op : Type} {Ans : Op → Type} {Q α β : Type} (m : Monitor σ Op Ans Q)

/-- From the observer state `q` the task only performs allowed operations, and if it ends then
with `post`. -/
def Program.wp (post : α → Q → Prop) : Program Op Ans α → Q → Prop
  | .done a, q => post a q
  | .perform op next, q => m.allows q op ∧
      ∀ world answer, m.trusts ⟨world, op, answer⟩ → wp post (next answer) (m.next q ⟨world, op, answer⟩)

/-- An operation that the observer always allows and does not react to. -/
def Monitor.Quiet (op : Op) : Prop :=
  (∀ q, m.allows q op) ∧ ∀ q world answer, m.next q ⟨world, op, answer⟩ = q

/-- An operation that the observer allows and follows within an invariant. -/
def Monitor.Keeps (I : Q → Prop) (op : Op) : Prop :=
  ∀ q, I q → m.allows q op ∧ ∀ world answer, m.trusts ⟨world, op, answer⟩ → I (m.next q ⟨world, op, answer⟩)

namespace Program

variable {m} {post post' : α → Q → Prop}

@[simp] theorem wp_pure (a : α) (q : Q) : wp m post (pure a : Program Op Ans α) q ↔ post a q := Iff.rfl

theorem wp_mono {x : Program Op Ans α} {q : Q} (imp : ∀ a q, post a q → post' a q)
    (holds : wp m post x q) : wp m post' x q := by
  induction x generalizing q with
  | done a => exact imp a q holds
  | perform op next ih =>
    exact ⟨holds.1, fun world answer trusted => ih answer (holds.2 world answer trusted)⟩

@[simp] theorem wp_bind {x : Program Op Ans α} {f : α → Program Op Ans β} {q : Q} {post : β → Q → Prop} :
    wp m post (x >>= f) q ↔ wp m (fun a q => wp m post (f a) q) x q := by
  induction x generalizing q with
  | done a => exact Iff.rfl
  | perform op next ih =>
    exact and_congr_right fun _ => forall_congr' fun world => forall_congr' fun answer =>
      imp_congr_right fun _ => ih answer

theorem wp_perform {op : Op} {f : Ans op → Program Op Ans α} {q : Q} (allowed : m.allows q op)
    (rest : ∀ world answer, m.trusts ⟨world, op, answer⟩ →
      wp m post (f answer) (m.next q ⟨world, op, answer⟩)) : wp m post (call op >>= f) q :=
  ⟨allowed, rest⟩

theorem wp_ite {c : Prop} [Decidable c] {x y : Program Op Ans α} {q : Q} (yes : c → wp m post x q)
    (no : ¬ c → wp m post y q) : wp m post (if c then x else y) q := by
  split
  · rename_i holds
    exact yes holds
  · rename_i fails
    exact no fails

/-- The rule for a part of a task that is known to meet a postcondition. -/
theorem wp_seq {x : Program Op Ans α} {f : α → Program Op Ans β} {q : Q} {mid : α → Q → Prop}
    {post : β → Q → Prop} (first : wp m mid x q) (rest : ∀ a q, mid a q → wp m post (f a) q) :
    wp m post (x >>= f) q :=
  wp_bind.mpr (wp_mono rest first)

/-- What holds however the observer has moved, if it never objects. -/
theorem wp_free {x : Program Op Ans α} {q : Q} (free : ∀ q op, m.allows q op) (always : ∀ a q, post a q) :
    wp m post x q := by
  induction x generalizing q with
  | done a => exact always a q
  | perform op next ih => exact ⟨free q op, fun world answer _ => ih answer⟩

theorem wp_quiet {x : Program Op Ans α} {q : Q} (uses : Uses m.Quiet x) (rest : ∀ a, post a q) :
    wp m post x q := by
  induction x with
  | done a => exact rest a
  | perform op next ih =>
    refine ⟨uses.1.1 q, fun world answer _ => ?_⟩
    rw [uses.1.2]
    exact ih answer (uses.2 answer)

theorem wp_quiet_bind {x : Program Op Ans α} {f : α → Program Op Ans β} {q : Q} {post : β → Q → Prop}
    (uses : Uses m.Quiet x) (rest : ∀ a, wp m post (f a) q) : wp m post (x >>= f) q :=
  wp_bind.mpr (wp_quiet uses rest)

theorem wp_keeps {I : Q → Prop} {x : Program Op Ans α} {q : Q} (uses : Uses (m.Keeps I) x)
    (start : I q) : wp m (fun _ => I) x q := by
  induction x generalizing q with
  | done a => exact start
  | perform op next ih =>
    obtain ⟨allowed, kept⟩ := uses.1 q start
    exact ⟨allowed, fun world answer trusted => ih answer (uses.2 answer) (kept world answer trusted)⟩

end Program

namespace Monitor

def after (q : Q) (past : List (Event σ Op Ans)) : Q := past.foldl m.next q

@[simp] theorem after_nil (q : Q) : m.after q [] = q := rfl

theorem after_snoc (q : Q) (past : List (Event σ Op Ans)) (e : Event σ Op Ans) :
    m.after q (past ++ [e]) = m.next (m.after q past) e := by
  simp [after]

end Monitor

end CopyTrader.Lib
