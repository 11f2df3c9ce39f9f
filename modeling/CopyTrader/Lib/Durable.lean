import CopyTrader.Lib.Machine

/-!
# Memory and disk

A program that keeps its state in memory and rewrites a file after each update. A write may fail, or be cut
short and leave nothing that can be read. A restart begins with what the file holds. Here both are given by
the updates that they account for.
-/

namespace CopyTrader.Lib

inductive Write where
  | done | failed | torn
  deriving DecidableEq, Repr

/-- What the disk holds after a write of `now` over `before`. -/
def Write.over {δ : Type} (now before nothing : δ) : Write → δ
  | done => now
  | failed => before
  | torn => nothing

inductive Durable (ι : Type) where
  | update (i : ι) (write : Write)
  | restart

/-- The updates that memory and disk account for. -/
structure Accounted (ι : Type) where
  memory : List ι
  disk : List ι

namespace Durable

variable {ι : Type}

def account : Machine (Accounted ι) (Durable ι) Unit
  | kept, update i write => (⟨kept.memory ++ [i], write.over (kept.memory ++ [i]) kept.disk []⟩, ())
  | kept, restart => (⟨kept.disk, kept.disk⟩, ())

def updateOf : Durable ι → Option ι
  | update i _ => some i
  | restart => none

/-- The updates of a history, in order. -/
def updates (history : List (Durable ι)) : List ι := history.filterMap updateOf

theorem updates_snoc (history : List (Durable ι)) (event : Durable ι) :
    updates (history ++ [event]) = updates history ++ event.updateOf.toList := by
  rw [updates, List.filterMap_append]
  cases event <;> rfl

/-- Every write of the history is done. -/
def AllDone (history : List (Durable ι)) : Prop := ∀ i write, update i write ∈ history → write = .done

def accounted (history : List (Durable ι)) : Accounted ι := Machine.after account ⟨[], []⟩ history

theorem accounted_snoc (history : List (Durable ι)) (event : Durable ι) :
    accounted (history ++ [event]) = (account (accounted history) event).1 := Machine.after_snoc ..

/-- Nothing is accounted for that was not an update, and nothing twice or out of order. -/
theorem accounted_sublist (history : List (Durable ι)) :
    (accounted history).memory.Sublist (updates history) ∧ (accounted history).disk.Sublist (updates history) := by
  induction history using List.reverseRecOn with
  | nil => exact ⟨.slnil, .slnil⟩
  | append_singleton history event ih =>
    obtain ⟨memory, disk⟩ := ih
    rw [accounted_snoc, updates_snoc]
    cases event with
    | restart =>
      have kept := disk.trans (List.sublist_append_left _ [])
      exact ⟨kept, kept⟩
    | update i write =>
      have next : ((accounted history).memory ++ [i]).Sublist (updates history ++ [i]) := memory.append (.refl _)
      refine ⟨next, ?_⟩
      cases write with
      | done => exact next
      | failed => exact disk.trans (List.sublist_append_left ..)
      | torn => exact List.nil_sublist _

/-- While every write is done, memory and disk account for every update, whatever restarts there are. -/
theorem accounted_of_done {history : List (Durable ι)} (done : AllDone history) :
    accounted history = ⟨updates history, updates history⟩ := by
  induction history using List.reverseRecOn with
  | nil => rfl
  | append_singleton history event ih =>
    have before := ih fun i write member => done i write (List.mem_append_left _ member)
    rw [accounted_snoc, before, updates_snoc]
    cases event with
    | restart => simp only [account, updateOf, Option.toList_none, List.append_nil]
    | update i write =>
      obtain rfl := done i write (List.mem_append_right _ (List.mem_singleton_self _))
      rfl

end Durable

end CopyTrader.Lib
