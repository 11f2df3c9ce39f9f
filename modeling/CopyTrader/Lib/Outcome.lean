/-!
# Successful outcomes

Taking apart a computation that may fail and has not.
-/

namespace CopyTrader.Lib

variable {ε α β : Type}

theorem map_ok {f : α → β} {x : Except ε α} {y : β} (mapped : x.map f = .ok y) : ∃ v, x = .ok v ∧ f v = y := by
  cases x with
  | error => cases mapped
  | ok v => exact ⟨v, rfl, Except.ok.inj mapped⟩

theorem bind_ok {f : α → Except ε β} {x : Except ε α} {y : β} (bound : x >>= f = .ok y) :
    ∃ v, x = .ok v ∧ f v = .ok y := by
  cases x with
  | error => cases bound
  | ok v => exact ⟨v, rfl, bound⟩

end CopyTrader.Lib
