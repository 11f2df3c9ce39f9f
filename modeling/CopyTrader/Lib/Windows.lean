import Mathlib.Data.List.Basic

/-!
# Views of a changing table

A table is read part by part while it changes. What is put together is not the table of any one point of
the history, but it is bounded by what the table held in the window of the reading, and it is exact when nothing
changed in the window.
-/

namespace CopyTrader.Lib

/-- A stretch of a history, given by the points at its ends. -/
structure Window (ι : Type) where
  start : List ι
  stop : List ι
  forwards : start <+: stop

namespace Window

variable {ι κ α : Type}

def Covers (window : Window ι) (point : List ι) : Prop := window.start <+: point ∧ point <+: window.stop

/-- Neither end of the window lies after that of the other one. -/
structure Precedes (window later : Window ι) : Prop where
  start : window.start <+: later.start
  stop : window.stop <+: later.stop

def instant (point : List ι) : Window ι := ⟨point, point, List.prefix_rfl⟩

def extend (window : Window ι) (point : List ι) (later : window.stop <+: point) : Window ι :=
  ⟨window.start, point, window.forwards.trans later⟩

theorem covers_stop (window : Window ι) : window.Covers window.stop := ⟨window.forwards, List.prefix_rfl⟩

theorem Precedes.refl (window : Window ι) : window.Precedes window := ⟨List.prefix_rfl, List.prefix_rfl⟩

theorem Precedes.trans {window window' later : Window ι} (first : window.Precedes window')
    (second : window'.Precedes later) : window.Precedes later :=
  ⟨first.start.trans second.start, first.stop.trans second.stop⟩

theorem precedes_instant {window : Window ι} {point : List ι} (before : window.stop <+: point) :
    window.Precedes (instant point) := ⟨window.forwards.trans before, before⟩

theorem precedes_extend (window : Window ι) {point : List ι} (later : window.stop <+: point) :
    window.Precedes (window.extend point later) := ⟨List.prefix_rfl, later⟩

/-- What is shown was held by a cell at some point of the window; what a cell of the part held all along
is shown. -/
structure Views (holds : List ι → κ → α → Prop) (part : κ → Prop) (window : Window ι) (view : α → Prop) : Prop where
  held : ∀ a, view a → ∃ point cell, window.Covers point ∧ holds point cell a
  shown : ∀ a cell, part cell → (∀ point, window.Covers point → holds point cell a) → view a

namespace Views

variable {holds : List ι → κ → α → Prop} {part part' : κ → Prop} {window : Window ι} {view view' : α → Prop}

theorem nothing (window : Window ι) (unread : ∀ cell, ¬ part cell) (empty : ∀ a, ¬ view a) :
    Views holds part window view :=
  ⟨fun a shown => absurd shown (empty a), fun _ cell read => absurd read (unread cell)⟩

theorem all_at (point : List ι) (reads : ∀ a, view a ↔ ∃ cell, holds point cell a) :
    Views holds part (instant point) view := by
  constructor
  case held =>
    intro a shown
    obtain ⟨cell, held⟩ := (reads a).mp shown
    exact ⟨point, cell, covers_stop (instant point), held⟩
  case shown => exact fun a cell _ always => (reads a).mpr ⟨cell, always point (covers_stop (instant point))⟩

/-- Some more cells are read at a later point. -/
theorem read (views : Views holds part window view) {point : List ι} (later : window.stop <+: point)
    (more : ∀ cell, part' cell → ¬ part cell → ∀ a, holds point cell a → view' a)
    (kept : ∀ a, view a → view' a) (only : ∀ a, view' a → view a ∨ ∃ cell, holds point cell a) :
    Views holds part' (window.extend point later) view' := by
  constructor
  case held =>
    intro a shown
    rcases only a shown with before | ⟨cell, held⟩
    · obtain ⟨point', cell, covered, held⟩ := views.held a before
      exact ⟨point', cell, ⟨covered.1, covered.2.trans later⟩, held⟩
    · exact ⟨point, cell, covers_stop (window.extend point later), held⟩
  case shown =>
    intro a cell read always
    by_cases before : part cell
    · refine kept a (views.shown a cell before fun point' covered => ?_)
      exact always point' ⟨covered.1, covered.2.trans later⟩
    · exact more cell read before a (always point (covers_stop (window.extend point later)))

theorem congr (views : Views holds part window view) (reads : ∀ cell, part' cell → part cell)
    (same : ∀ a, view a ↔ view' a) : Views holds part' window view' where
  held a shown := views.held a ((same a).mpr shown)
  shown a cell read always := (same a).mp (views.shown a cell (reads cell read) always)

/-- The view of all cells over a window in which they stay the same. -/
theorem exact_of_quiet (views : Views holds part window view) (whole : ∀ cell, part cell) {now : κ → α → Prop}
    (quiet : ∀ point, window.Covers point → holds point = now) (a : α) : view a ↔ ∃ cell, now cell a := by
  constructor
  · intro shown
    obtain ⟨point, cell, covered, held⟩ := views.held a shown
    rw [quiet point covered] at held
    exact ⟨cell, held⟩
  · rintro ⟨cell, held⟩
    refine views.shown a cell (whole cell) fun point covered => ?_
    rw [quiet point covered]
    exact held

end Views

end Window

end CopyTrader.Lib
