import CopyTrader.Lib.F64

/-!
# Structured text

A file as a tree of values, and the readers of a record's fields: a field given twice is refused, an
unknown one is passed over. A decimal that is no finite number is written as `null`.
-/

namespace CopyTrader.Lib

inductive Json where
  | null
  | bool (b : Bool)
  | int (n : ℤ)
  | float (x : ℚ)
  | str (s : String)
  | arr (items : List Json)
  | obj (fields : List (String × Json))

namespace Json

def ofF64 : F64 → Json
  | .finite x => .float x
  | .infinite _ | .nan => .null

def asUnsigned (bits : ℕ) : Json → Option ℕ
  | .int n => if 0 ≤ n ∧ n < 2 ^ bits then some n.toNat else none
  | _ => none

/-- A decimal. A number is read back as the one that was written: the rounding of the parser is left out. -/
def asF64 : Json → Option F64
  | .int n => some (.finite n)
  | .float x => some (.finite x)
  | _ => none

/-- A decimal that is a number. -/
def asFinite (json : Json) : Option ℚ :=
  match asF64 json with
  | some (.finite x) => some x
  | _ => none

def asBool : Json → Option Bool
  | .bool b => some b
  | _ => none

def asStr : Json → Option String
  | .str s => some s
  | _ => none

def asArr {α : Type} (item : Json → Option α) : Json → Option (List α)
  | .arr items => items.mapM item
  | _ => none

def asOption {α : Type} (value : Json → Option α) : Json → Option (Option α)
  | .null => some none
  | json => (value json).map some

/-- The values given to a field. -/
def given (fields : List (String × Json)) (name : String) : List Json :=
  (fields.filter (·.1 = name)).map Prod.snd

def required {α : Type} (fields : List (String × Json)) (name : String) (value : Json → Option α) : Option α :=
  match given fields name with
  | [json] => value json
  | _ => none

def defaulted {α : Type} (fields : List (String × Json)) (name : String) (value : Json → Option α) (default : α) :
    Option α :=
  match given fields name with
  | [] => some default
  | [json] => value json
  | _ => none

/-! ### Reading what was written -/

@[simp] theorem asUnsigned_int {bits n : ℕ} (fits : n < 2 ^ bits) : asUnsigned bits (.int n) = some n := by
  have bounded : (0 : ℤ) ≤ n ∧ (n : ℤ) < 2 ^ bits := ⟨Int.natCast_nonneg n, by exact_mod_cast fits⟩
  rw [asUnsigned, if_pos bounded, Int.toNat_natCast]

@[simp] theorem asFinite_float (x : ℚ) : asFinite (.float x) = some x := rfl

theorem asF64_ofF64 (x : F64) : asF64 (ofF64 x) = if x.isFinite then some x else none := by
  cases x <;> rfl

/-! ### What a reader lets through -/

theorem given_required {α : Type} {fields : List (String × Json)} {name : String} {value : Json → Option α} {x : α}
    (read : required fields name value = some x) : ∃ json, value json = some x := by
  unfold required at read
  split at read
  · exact ⟨_, read⟩
  · cases read

theorem given_defaulted {α : Type} {fields : List (String × Json)} {name : String} {value : Json → Option α}
    {default x : α} (read : defaulted fields name value default = some x) : x = default ∨ ∃ json, value json = some x := by
  unfold defaulted at read
  split at read
  · exact Or.inl (Option.some.inj read).symm
  · exact Or.inr ⟨_, read⟩
  · cases read

theorem asUnsigned_lt {bits n : ℕ} {json : Json} (read : asUnsigned bits json = some n) : n < 2 ^ bits := by
  cases json with
  | int m =>
    dsimp only [asUnsigned] at read
    split at read
    · rename_i bounded
      obtain rfl := Option.some.inj read
      exact (Int.toNat_lt bounded.1).mpr (by exact_mod_cast bounded.2)
    · cases read
  | _ => cases read

theorem asF64_isFinite {x : F64} {json : Json} (read : asF64 json = some x) : x.isFinite = true := by
  cases json with
  | int | float => 
    obtain rfl := Option.some.inj read
    rfl
  | _ => cases read

theorem asOption_lt {bits other : ℕ} {value : Option ℕ} {json : Json}
    (read : asOption (asUnsigned bits) json = some value) (fits : other < 2 ^ bits) : value.getD other < 2 ^ bits := by
  unfold asOption at read
  split at read
  · rw [← Option.some.inj read]
    exact fits
  · obtain ⟨n, value, rfl⟩ := Option.map_eq_some_iff.mp read
    exact asUnsigned_lt value

theorem required_lt {bits n : ℕ} {fields : List (String × Json)} {name : String}
    (read : required fields name (asUnsigned bits) = some n) : n < 2 ^ bits := by
  obtain ⟨json, value⟩ := given_required read
  exact asUnsigned_lt value

theorem required_finite {x : F64} {fields : List (String × Json)} {name : String}
    (read : required fields name asF64 = some x) : x.isFinite = true := by
  obtain ⟨json, value⟩ := given_required read
  exact asF64_isFinite value

/-! ### Sequences -/

theorem mapM_eq_some {α β : Type} {f : α → β} {g : β → Option α} {items : List α}
    (back : ∀ item ∈ items, g (f item) = some item) : (items.map f).mapM g = some items := by
  induction items with
  | nil => rfl
  | cons item items ih =>
    rw [List.map_cons, List.mapM_cons, back item (List.mem_cons_self ..),
      ih fun later member => back later (List.mem_cons_of_mem item member)]
    rfl

theorem mapM_eq_none {β γ : Type} {g : β → Option γ} {items : List β} {item : β} (member : item ∈ items)
    (fails : g item = none) : items.mapM g = none := by
  induction items with
  | nil => cases member
  | cons first items ih =>
    rw [List.mapM_cons]
    rcases List.mem_cons.mp member with rfl | later
    · rw [fails]
      rfl
    · rw [ih later]
      cases g first <;> rfl

theorem mem_asArr {α : Type} {value : Json → Option α} {json : Json} {items : List α} {item : α}
    (read : asArr value json = some items) (member : item ∈ items) : ∃ json, value json = some item := by
  cases json with
  | arr jsons =>
    change jsons.mapM value = some items at read
    induction jsons generalizing items with
    | nil =>
      obtain rfl : [] = items := Option.some.inj read
      cases member
    | cons json jsons ih =>
      rw [List.mapM_cons] at read
      obtain ⟨first, one, read⟩ := Option.bind_eq_some_iff.mp read
      obtain ⟨rest, others, read⟩ := Option.bind_eq_some_iff.mp read
      obtain rfl : first :: rest = items := Option.some.inj read
      rcases List.mem_cons.mp member with rfl | later
      · exact ⟨json, one⟩
      · exact ih later others
  | _ => cases read

theorem asArr_asStr (texts : List String) : asArr asStr (.arr (texts.map .str)) = some texts :=
  mapM_eq_some fun _ _ => rfl

end Json

end CopyTrader.Lib
