import Mathlib.Algebra.Ring.Nat
import Mathlib.Data.List.DropRight

/-!
# Text

What a string slice offers to a reader of commands: blanks cut off, words, lower case, unsigned
decimal numbers with the error of the first character that fails.
-/

namespace CopyTrader.Lib.Text

/-- The Unicode property White_Space. -/
def isWhitespace (c : Char) : Bool :=
  let n := c.toNat
  (9 ≤ n && n ≤ 13) || n = 0x20 || n = 0x85 || n = 0xA0 || n = 0x1680 || (0x2000 ≤ n && n ≤ 0x200A) ||
    n = 0x2028 || n = 0x2029 || n = 0x202F || n = 0x205F || n = 0x3000

def trim (s : String) : String :=
  String.ofList ((s.toList.dropWhile isWhitespace).rdropWhile isWhitespace)

def trimEndMatches (s : String) (c : Char) : String := String.ofList (s.toList.rdropWhile (· = c))

def splitWhitespace (s : String) : List String :=
  ((s.toList.splitOnP isWhitespace).filter (· ≠ [])).map String.ofList

/-- The pieces between the separators, empty ones too. -/
def split (s : String) (separator : Char) : List String :=
  (s.toList.splitOnP (· = separator)).map String.ofList

/-- The fields of a record in one line. -/
def join (separator : Char) : List String → String
  | [] => ""
  | [field] => field
  | field :: rest => field ++ separator.toString ++ join separator rest

def toAsciiLowercase (s : String) : String := String.ofList (s.toList.map Char.toLower)

inductive ParseIntError where
  | empty | invalidDigit | posOverflow
  deriving DecidableEq, Repr

namespace ParseIntError

def toText : ParseIntError → String
  | .empty => "cannot parse integer from empty string"
  | .invalidDigit => "invalid digit found in string"
  | .posOverflow => "number too large to fit in target type"

end ParseIntError

/-- Digits read after the value `acc`, below `bound` all the way. -/
def readDigits (bound : ℕ) : ℕ → List Char → Except ParseIntError ℕ
  | acc, [] => .ok acc
  | acc, c :: cs =>
    if c.isDigit then
      let next := 10 * acc + (c.toNat - '0'.toNat)
      if next < bound then readDigits bound next cs else .error .posOverflow
    else .error .invalidDigit

/-- An unsigned number of the given width; one leading plus sign is allowed. -/
def parseUnsigned (bits : ℕ) (s : String) : Except ParseIntError ℕ :=
  match s.toList with
  | [] => .error .empty
  | ['+'] => .error .invalidDigit
  | '+' :: digits => readDigits (2 ^ bits) 0 digits
  | digits => readDigits (2 ^ bits) 0 digits

theorem utf8ByteSize_ofList {chars : List Char} (ascii : ∀ c ∈ chars, c.utf8Size = 1) :
    (String.ofList chars).utf8ByteSize = chars.length := by
  induction chars with
  | nil => rfl
  | cons c rest ih =>
    have one : c.utf8Size = 1 := ascii c List.mem_cons_self
    have apart : String.ofList (c :: rest) = c.toString ++ String.ofList rest := by simp
    rw [apart, String.utf8ByteSize_append, ih fun c member => ascii c (List.mem_cons_of_mem _ member)]
    simp [one, Nat.add_comm]

/-- A line is as long as its fields with a separator after each, less the last one. -/
theorem utf8ByteSize_join {separator : Char} {fields : List String} (nonempty : fields ≠ []) :
    (join separator fields).utf8ByteSize + separator.utf8Size =
      (fields.map fun field => field.utf8ByteSize + separator.utf8Size).sum := by
  induction fields with
  | nil => exact absurd rfl nonempty
  | cons field rest ih =>
    cases rest with
    | nil => rw [List.map_singleton, List.sum_singleton, join]
    | cons next rest =>
      have others := ih (List.cons_ne_nil next rest)
      rw [join, List.map_cons, List.sum_cons, ← others]
      simp only [String.utf8ByteSize_append, Char.toString_eq_singleton, String.utf8ByteSize_singleton]
      · omega
      · exact List.cons_ne_nil next rest

theorem split_single {separator : Char} {s : String} (clean : separator ∉ s.toList) : split s separator = [s] := by
  unfold split
  rw [List.splitOnP_eq_singleton]
  · simp
  · intro c member
    exact decide_eq_false fun same => clean (same ▸ member)

theorem split_first {separator : Char} {s : String} (clean : separator ∉ s.toList) (rest : String) :
    split (s ++ separator.toString ++ rest) separator = s :: split rest separator := by
  have chars : (s ++ separator.toString ++ rest).toList = s.toList ++ separator :: rest.toList := by simp
  unfold split
  rw [chars, List.splitOnP_append_cons_of_forall_mem]
  · simp
  · intro c member
    exact decide_eq_false fun same => clean (same ▸ member)
  · exact decide_eq_true rfl

/-- Fields without the separator are read back. -/
theorem split_join {separator : Char} {fields : List String} (nonempty : fields ≠ [])
    (clean : ∀ field ∈ fields, separator ∉ field.toList) : split (join separator fields) separator = fields := by
  induction fields with
  | nil => exact absurd rfl nonempty
  | cons field rest ih =>
    cases rest with
    | nil => exact split_single (clean field List.mem_cons_self)
    | cons next rest =>
      have others : split (join separator (next :: rest)) separator = next :: rest :=
        ih nofun fun field member => clean field (List.mem_cons_of_mem _ member)
      rw [join, split_first (clean field List.mem_cons_self), others]
      exact nofun

theorem le_ofDigitChars (cs : List Char) (acc : ℕ) : acc ≤ Nat.ofDigitChars 10 cs acc := by
  rw [Nat.ofDigitChars_eq_ofDigitChars_zero]
  exact (Nat.le_mul_of_pos_left acc (Nat.pow_pos (by decide))).trans (Nat.le_add_right ..)

theorem readDigits_eq {bound acc : ℕ} {cs : List Char} (digits : ∀ c ∈ cs, c.isDigit = true)
    (fits : Nat.ofDigitChars 10 cs acc < bound) :
    readDigits bound acc cs = .ok (Nat.ofDigitChars 10 cs acc) := by
  induction cs generalizing acc with
  | nil => rfl
  | cons c cs ih =>
    rw [Nat.ofDigitChars_cons] at fits ⊢
    have small := (le_ofDigitChars cs _).trans_lt fits
    rw [readDigits, if_pos (digits c (List.mem_cons_self ..)), if_pos small]
    exact ih (fun c' later => digits c' (List.mem_cons_of_mem c later)) fits

theorem readDigits_lt {bound acc n : ℕ} {cs : List Char} (fits : acc < bound)
    (read : readDigits bound acc cs = .ok n) : n < bound := by
  induction cs generalizing acc with
  | nil =>
    obtain rfl : acc = n := Except.ok.inj read
    exact fits
  | cons c cs ih =>
    rw [readDigits] at read
    split at read
    · dsimp only at read
      split at read
      · rename_i small
        exact ih small read
      · cases read
    · cases read

theorem parseUnsigned_lt {bits n : ℕ} {s : String} (read : parseUnsigned bits s = .ok n) : n < 2 ^ bits := by
  unfold parseUnsigned at read
  split at read
  · cases read
  · cases read
  · exact readDigits_lt (Nat.two_pow_pos bits) read
  · exact readDigits_lt (Nat.two_pow_pos bits) read

theorem parseUnsigned_toString {bits n : ℕ} (fits : n < 2 ^ bits) : parseUnsigned bits (toString n) = .ok n := by
  have text : (toString n).toList = Nat.toDigits 10 n := by
    rw [Nat.toString_eq_ofList_toDigits, String.toList_ofList]
  have digits : ∀ c ∈ Nat.toDigits 10 n, c.isDigit = true :=
    fun c member => Nat.isDigit_of_mem_toDigits (by decide) (by decide) member
  have read : readDigits (2 ^ bits) 0 (Nat.toDigits 10 n) = .ok n := by
    rw [readDigits_eq digits (by rwa [Nat.ofDigitChars_ten_toDigits]), Nat.ofDigitChars_ten_toDigits]
  have noSign : ∀ cs, Nat.toDigits 10 n ≠ '+' :: cs := by
    intro cs same
    exact absurd (digits '+' (same ▸ List.mem_cons_self ..)) (by decide)
  unfold parseUnsigned
  rw [text]
  split
  · rename_i nothing
    exact absurd nothing Nat.toDigits_ne_nil
  · rename_i sign
    exact absurd sign (noSign _)
  · rename_i sign
    exact absurd sign (noSign _)
  · exact read

end CopyTrader.Lib.Text
