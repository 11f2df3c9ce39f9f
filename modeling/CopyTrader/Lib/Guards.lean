import CopyTrader.Lib.DashMap
import CopyTrader.Lib.Program

/-!
# Stores behind locks

A task works on a keyed store through its locks. A write guard keeps the lock of its entry until it
is released, every other access takes a lock and gives it back at once; a walk over the entries
takes all of them. The locks are not re-entrant: a task that asks for one while it has a guard may
wait for itself.
-/

namespace CopyTrader.Lib

inductive StoreOp (K V : Type) where
  | getMut (k : K)
  | put (v : V)
  | release
  | get (k : K)
  | iter
  | insert (k : K) (v : V)
  | retain (keep : K → V → Bool)

namespace StoreOp

variable {K V : Type}

abbrev Ans : StoreOp K V → Type
  | .getMut _ | .get _ => Option V
  | .iter => List (K × V)
  | .put _ | .release | .insert .. | .retain _ => Unit

/-- Everything but the use of a guard asks for a lock. -/
def locks : StoreOp K V → Bool
  | .put _ | .release => false
  | _ => true

variable [DecidableEq K]

def answer (m : DashMap K V) : (op : StoreOp K V) → op.Ans
  | .getMut k | .get k => m.get k
  | .iter => m.entries
  | .put _ | .release | .insert .. | .retain _ => ()

/-- The store after an operation of a task that holds the guard of the entry `held`. -/
def after (m : DashMap K V) (held : Option K) : StoreOp K V → DashMap K V
  | .put v =>
    match held with
    | some k => m.modify k fun _ => v
    | none => m
  | .insert k v => m.insert k v
  | .retain keep => m.retain keep
  | _ => m

/-- The entry whose guard the task holds then. -/
def heldAfter (held : Option K) : (op : StoreOp K V) → op.Ans → Option K
  | .getMut k, answer => if answer.isSome then some k else held
  | .release, _ => none
  | _, _ => held

end StoreOp

/-- A task over a store with keys `K` and values `V`. -/
abbrev StoreProg (K V α : Type) : Type := Program (StoreOp K V) StoreOp.Ans α

namespace StoreProg

variable {K V α β : Type} [DecidableEq K]

def ask (op : StoreOp K V) : StoreProg K V op.Ans := Program.call op

/-- Write an entry through its guard, if it is there, and release it. -/
def update (k : K) (f : V → V × β) : StoreProg K V (Option β) := do
  match ← ask (.getMut k) with
  | some v =>
    ask (.put (f v).1)
    ask .release
    return some (f v).2
  | none => return none

/-- Run a task alone; `none` when it asks for a lock while it holds a guard. -/
def exec : StoreProg K V α → DashMap K V → Option K → Option (α × DashMap K V × Option K)
  | .done a, m, held => some (a, m, held)
  | .perform op next, m, held =>
    if op.locks && held.isSome then none
    else exec (next (op.answer m)) (op.after m held) (op.heldAfter held (op.answer m))

theorem exec_bind (x : StoreProg K V α) (f : α → StoreProg K V β) (m : DashMap K V) (held : Option K) :
    exec (x >>= f) m held = (exec x m held).bind fun r => exec (f r.1) r.2.1 r.2.2 := by
  induction x generalizing m held with
  | done a => rfl
  | perform op next ih =>
    show (if _ then none else exec (next (op.answer m) >>= f) _ _) = (if _ then none else _).bind _
    split
    · rfl
    · exact ih ..

theorem exec_unguarded {op : StoreOp K V} (f : op.Ans → StoreProg K V β) (m : DashMap K V) :
    exec (ask op >>= f) m none = exec (f (op.answer m)) (op.after m none) (op.heldAfter none (op.answer m)) := by
  show (if _ then none else _) = _
  rw [Option.isSome_none, Bool.and_false]
  rfl

/-- Follows the guard that a task holds. The answers are those of a store with some content out of
`stores`: other tasks may change it whenever this one asks for a lock. -/
def guardMonitor (stores : Set (DashMap K V)) : Monitor (DashMap K V) (StoreOp K V) StoreOp.Ans (Option K) where
  trusts e := e.op.locks = true → e.world ∈ stores ∧ e.answer = e.op.answer e.world
  allows held op := op.locks = true → held = none
  next held e := e.op.heldAfter held e.answer

/-- The task asks for no lock while it holds a guard, and keeps none. -/
def Completes (stores : Set (DashMap K V)) (x : StoreProg K V α) : Prop :=
  x.wp (guardMonitor stores) (fun _ held => held = none) none

/-- A task that completes whatever the others do also runs through when it is alone. -/
theorem exec_of_wp {x : StoreProg K V α} {m : DashMap K V} {held : Option K}
    (holds : x.wp (guardMonitor Set.univ) (fun _ held => held = none) held) :
    ∃ a m', exec x m held = some (a, m', none) := by
  induction x generalizing m held with
  | done a =>
    obtain rfl : held = none := holds
    exact ⟨a, m, rfl⟩
  | perform op next ih =>
    have unlocked : (op.locks && held.isSome) = false := by
      cases asks : op.locks with
      | false => rfl
      | true => simp [holds.1 asks]
    obtain ⟨a, m', ran⟩ := ih _ (holds.2 m (op.answer m) fun _ => ⟨trivial, rfl⟩)
    refine ⟨a, m', ?_⟩
    show (if _ then none else _) = _
    rw [unlocked]
    exact ran

theorem Completes.exec {x : StoreProg K V α} (completes : Completes Set.univ x) (m : DashMap K V) :
    ∃ a m', exec x m none = some (a, m', none) := exec_of_wp completes

variable {stores : Set (DashMap K V)}

theorem completes_pure (a : α) : Completes stores (pure a : StoreProg K V α) := rfl

theorem completes_bind {x : StoreProg K V α} {f : α → StoreProg K V β} (first : Completes stores x)
    (rest : ∀ a, Completes stores (f a)) : Completes stores (x >>= f) := by
  refine Program.wp_seq first fun a held released => ?_
  rw [released]
  exact rest a

theorem completes_ite {c : Prop} [Decidable c] {x y : StoreProg K V α} (yes : Completes stores x)
    (no : Completes stores y) : Completes stores (if c then x else y) :=
  Program.wp_ite (fun _ => yes) fun _ => no

theorem completes_ask {op : StoreOp K V} (unguarded : ∀ answer, op.heldAfter none answer = none) :
    Completes stores (ask op) :=
  ⟨fun _ => rfl, fun _ answer _ => unguarded answer⟩

theorem completes_update (k : K) (f : V → V × β) : Completes stores (update k f) := by
  refine Program.wp_perform (fun _ => rfl) fun m found _ => ?_
  cases found with
  | none => exact rfl
  | some v => exact ⟨nofun, fun _ _ _ => ⟨nofun, fun _ _ _ => rfl⟩⟩

theorem exec_update (k : K) (f : V → V × β) (m : DashMap K V) :
    exec (update k f) m none = some ((m.get k).map fun v => (f v).2, m.modify k fun v => (f v).1, none) := by
  unfold update
  rw [exec_unguarded]
  cases read : m.get k with
  | none =>
    have same : (m.modify k fun v => (f v).1) = m :=
      DashMap.modify_eq_self fun v stored => by simp [read] at stored
    rw [StoreOp.answer, read, same]
    rfl
  | some v =>
    have same : (m.modify k fun _ => (f v).1) = m.modify k fun v => (f v).1 := by
      apply DashMap.modify_congr
      intro v' stored
      rw [read, Option.some.injEq] at stored
      rw [stored]
    rw [StoreOp.answer, read, ← same]
    rfl

end StoreProg

end CopyTrader.Lib
