import CopyTrader.Lib.Program

/-!
# Tasks with given answers

What a task does when each operation has one answer, and when it runs by itself over a world that
answers.
-/

namespace CopyTrader.Lib.Program

variable {Op : Type} {Ans : Op → Type} {α β : Type} (answers : (op : Op) → Ans op)

def eval : Program Op Ans α → α
  | done a => a
  | perform op next => (next (answers op)).eval

/-- The operations, in order. -/
def transcript : Program Op Ans α → List Op
  | done _ => []
  | perform op next => op :: (next (answers op)).transcript

variable {answers} {p : Op → Prop}

theorem eval_bind (x : Program Op Ans α) (f : α → Program Op Ans β) :
    (x >>= f).eval answers = (f (x.eval answers)).eval answers := by
  induction x with
  | done a => rfl
  | perform op next ih => exact ih (answers op)

theorem transcript_bind (x : Program Op Ans α) (f : α → Program Op Ans β) :
    (x >>= f).transcript answers = x.transcript answers ++ (f (x.eval answers)).transcript answers := by
  induction x with
  | done a => rfl
  | perform op next ih => exact congrArg (op :: ·) (ih (answers op))

theorem transcript_uses {x : Program Op Ans α} (uses : Uses p x) : ∀ op ∈ x.transcript answers, p op := by
  induction x with
  | done a => exact fun op member => nomatch member
  | perform op next ih =>
    intro op' member
    obtain rfl | later := List.mem_cons.mp member
    · exact uses.1
    · exact ih (answers op) (uses.2 (answers op)) op' later

variable (answers)

/-- The first operation of a kind. -/
def first (kind : Op → Bool) (x : Program Op Ans α) : Option Op := (x.transcript answers).find? kind

variable {answers} {kind : Op → Bool}

theorem first_bind (x : Program Op Ans α) (f : α → Program Op Ans β) :
    (x >>= f).first answers kind = (x.first answers kind).or ((f (x.eval answers)).first answers kind) := by
  unfold first
  rw [transcript_bind, List.find?_append]

theorem first_none {x : Program Op Ans α} (uses : Uses (kind · = false) x) : x.first answers kind = none := by
  refine List.find?_eq_none.mpr fun op member => ?_
  rw [transcript_uses uses op member]
  exact Bool.false_ne_true

/-- Operations of other kinds come first. -/
theorem first_after {x : Program Op Ans α} {f : α → Program Op Ans β} (uses : Uses (kind · = false) x) :
    (x >>= f).first answers kind = (f (x.eval answers)).first answers kind := by
  rw [first_bind, first_none uses, Option.none_or]

/-- Operations of other kinds come last. -/
theorem first_before {x : Program Op Ans α} {f : α → Program Op Ans β} (uses : ∀ a, Uses (kind · = false) (f a)) :
    (x >>= f).first answers kind = x.first answers kind := by
  rw [first_bind, first_none (uses _), Option.or_none]

/-! ### Over a world -/

variable {σ : Type} (respond : σ → (op : Op) → Option (Ans op × σ))

/-- The result and the world at the end, `none` where the world does not answer. -/
def exec : Program Op Ans α → σ → Option (α × σ)
  | done a, s => some (a, s)
  | perform op next, s => (respond s op).bind fun reply => (next reply.1).exec reply.2

variable {respond} {s s' : σ}

theorem exec_bind (x : Program Op Ans α) (f : α → Program Op Ans β) :
    (x >>= f).exec respond s = (x.exec respond s).bind fun reply => (f reply.1).exec respond reply.2 := by
  induction x generalizing s with
  | done a => rfl
  | perform op next ih =>
    show (respond s op).bind _ = ((respond s op).bind _).bind _
    rw [Option.bind_assoc]
    exact congrArg (Option.bind (respond s op)) (funext fun reply => ih reply.1)

theorem exec_call {op : Op} {answer : Ans op} (reply : respond s op = some (answer, s'))
    (f : Ans op → Program Op Ans α) : (call op >>= f).exec respond s = (f answer).exec respond s' := by
  show (respond s op).bind _ = _
  rw [reply]
  rfl

/-- A task whose operations are all answered, each without changing `f`, ends without changing it. -/
theorem exec_keeps {f : σ → β} (answered : ∀ op, p op → ∀ s, ∃ answer s', respond s op = some (answer, s') ∧ f s' = f s)
    {x : Program Op Ans α} (uses : Uses p x) (s : σ) : ∃ a s', x.exec respond s = some (a, s') ∧ f s' = f s := by
  induction x generalizing s with
  | done a => exact ⟨a, s, rfl, rfl⟩
  | perform op next ih =>
    obtain ⟨answer, t, reply, first⟩ := answered op uses.1 s
    obtain ⟨a, s', ends, later⟩ := ih answer (uses.2 answer) t
    refine ⟨a, s', ?_, later.trans first⟩
    show (respond s op).bind _ = _
    rw [reply]
    exact ends

end CopyTrader.Lib.Program
