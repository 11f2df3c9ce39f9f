import Mathlib.Data.List.Induction

/-!
# Deterministic machines

A machine takes a state and an input to the next state and an output. A history is the list
of inputs so far; facts about histories are proved by adding one input at the end.
-/

namespace CopyTrader.Lib

/-- One step of a machine with states `σ`, inputs `ι` and outputs `ο`. -/
abbrev Machine (σ ι ο : Type) := σ → ι → σ × ο

namespace Machine

variable {σ ι ο : Type} (m : Machine σ ι ο)

def after (s : σ) : List ι → σ
  | [] => s
  | i :: rest => after (m s i).1 rest

def outputs (s : σ) : List ι → List ο
  | [] => []
  | i :: rest => (m s i).2 :: outputs (m s i).1 rest

@[simp] theorem after_nil (s : σ) : after m s [] = s := rfl

theorem after_append (s : σ) (h h' : List ι) : after m s (h ++ h') = after m (after m s h) h' := by
  induction h generalizing s with
  | nil => rfl
  | cons i rest ih => exact ih (m s i).1

theorem after_snoc (s : σ) (h : List ι) (i : ι) : after m s (h ++ [i]) = (m (after m s h) i).1 := by
  rw [after_append]
  rfl

theorem outputs_append (s : σ) (h h' : List ι) :
    outputs m s (h ++ h') = outputs m s h ++ outputs m (after m s h) h' := by
  induction h generalizing s with
  | nil => rfl
  | cons i rest ih => exact congrArg ((m s i).2 :: ·) (ih (m s i).1)

theorem outputs_snoc (s : σ) (h : List ι) (i : ι) :
    outputs m s (h ++ [i]) = outputs m s h ++ [(m (after m s h) i).2] := by
  rw [outputs_append]
  rfl

/-- Two states related by a relation that each input keeps show the same outputs, as far as `f`
looks at them. -/
theorem outputs_of_simulation {α : Type} {R : σ → σ → Prop} {f : ο → Option α} {h : List ι}
    (step : ∀ s s', ∀ i ∈ h, R s s' → f (m s i).2 = f (m s' i).2 ∧ R (m s i).1 (m s' i).1)
    {s s' : σ} (start : R s s') :
    (outputs m s h).filterMap f = (outputs m s' h).filterMap f := by
  induction h generalizing s s' with
  | nil => rfl
  | cons i rest ih =>
    obtain ⟨same, kept⟩ := step s s' i List.mem_cons_self start
    have later := ih (fun t t' j member => step t t' j (List.mem_cons_of_mem _ member)) kept
    simp only [outputs, List.filterMap_cons, same, later]

/-- A relation between histories and states that holds at the start and that each input keeps
holds after every history. -/
theorem history_invariant {s : σ} {P : List ι → σ → Prop} (start : P [] s)
    (step : ∀ h i, P h (after m s h) → P (h ++ [i]) (m (after m s h) i).1) (h : List ι) :
    P h (after m s h) := by
  induction h using List.reverseRecOn with
  | nil => exact start
  | append_singleton h i ih =>
    rw [after_snoc]
    exact step h i ih

/-- What is kept exactly by the fine inputs holds all along a history if and only if every input in
it is fine. -/
theorem always_iff {P : σ → Prop} {fine : σ → ι → Prop} {s : σ}
    (step : ∀ t i, P t → (P (m t i).1 ↔ fine t i)) (start : P s) (h : List ι) :
    (∀ g, g <+: h → P (after m s g)) ↔ ∀ g i, g ++ [i] <+: h → fine (after m s g) i := by
  constructor
  · intro holds g i before
    have next := holds (g ++ [i]) before
    rw [after_snoc] at next
    exact (step _ i (holds g ((List.prefix_append g [i]).trans before))).mp next
  · intro all g
    induction g using List.reverseRecOn with
    | nil => exact fun _ => start
    | append_singleton g i ih =>
      intro before
      rw [after_snoc]
      exact (step _ i (ih ((List.prefix_append g [i]).trans before))).mpr (all g i before)

/-- What is good stays good until it is gone, from any point of a history on, if and only if every input in it
keeps it good or makes it gone. -/
theorem stays_iff {good gone : σ → Prop} (present : ∀ t, good t → ¬ gone t) {s : σ} (h : List ι) :
    (∀ g₁ g₂, g₁ ++ g₂ <+: h → good (after m s g₁) → (∀ g, g <+: g₂ → ¬ gone (after m s (g₁ ++ g))) →
      good (after m s (g₁ ++ g₂))) ↔
    ∀ g i, g ++ [i] <+: h → good (after m s g) → ¬ gone (m (after m s g) i).1 → good (m (after m s g) i).1 := by
  constructor
  · intro stays g i before now there
    have next := stays g [i] before now
    rw [after_snoc] at next
    refine next fun g' short => ?_
    rcases List.prefix_cons_iff.mp short with rfl | ⟨rest, rfl, nothing⟩
    · rw [List.append_nil]
      exact present _ now
    · rwa [List.prefix_nil.mp nothing, after_snoc]
  · intro each g₁ g₂
    induction g₂ using List.reverseRecOn with
    | nil =>
      intro _ now _
      rwa [List.append_nil]
    | append_singleton g₂ i ih =>
      intro before now there
      rw [← List.append_assoc] at before ⊢
      have shorter : g₁ ++ g₂ <+: h := (List.prefix_append (g₁ ++ g₂) [i]).trans before
      rw [after_snoc]
      refine each (g₁ ++ g₂) i before (ih shorter now fun g short => ?_) ?_
      · exact there g (short.trans (List.prefix_append g₂ [i]))
      · have last := there (g₂ ++ [i]) List.prefix_rfl
        rwa [← List.append_assoc, after_snoc] at last

theorem invariant {P : σ → Prop} {h : List ι} (step : ∀ s, ∀ i ∈ h, P s → P (m s i).1) {s : σ}
    (start : P s) : P (after m s h) := by
  induction h generalizing s with
  | nil => exact start
  | cons i rest ih =>
    exact ih (fun s' j member => step s' j (List.mem_cons_of_mem _ member))
      (step s i List.mem_cons_self start)

end Machine

end CopyTrader.Lib
