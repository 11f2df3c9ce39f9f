import CopyTrader.Lib.Text
import Mathlib.Data.Nat.Digits.Lemmas

/-!
# Base 58

A word of `width` bytes as text: one `1` for each leading zero byte, then the digits of its value
in base 58. Reading back accepts any text that stands for exactly `width` bytes.
-/

namespace CopyTrader.Lib.Base58

def alphabet : List Char := "123456789ABCDEFGHJKLMNPQRSTUVWXYZabcdefghijkmnopqrstuvwxyz".toList

def digitChar (digit : ℕ) : Char := alphabet.getD digit '1'

def digitValue (c : Char) : Option ℕ := alphabet.idxOf? c

def encode (width value : ℕ) : String :=
  String.ofList (List.replicate (width - (Nat.digits 256 value).length) '1' ++
    (Nat.digits 58 value).reverse.map digitChar)

def decode (width : ℕ) (text : String) : Option ℕ := do
  let digits ← (text.toList.dropWhile (· = '1')).mapM digitValue
  let value := Nat.ofDigits 58 digits.reverse
  if (text.toList.takeWhile (· = '1')).length + (Nat.digits 256 value).length = width then some value else none

theorem digitValue_digitChar : ∀ digit < 58, digitValue (digitChar digit) = some digit := by decide

theorem digitChar_ne_one : ∀ digit < 58, digit ≠ 0 → digitChar digit ≠ '1' := by decide

theorem mapM_digitValue {digits : List ℕ} (small : ∀ digit ∈ digits, digit < 58) :
    (digits.map digitChar).mapM digitValue = some digits := by
  induction digits with
  | nil => rfl
  | cons digit digits ih =>
    rw [List.map_cons, List.mapM_cons, digitValue_digitChar digit (small digit (List.mem_cons_self ..)),
      ih fun later member => small later (List.mem_cons_of_mem digit member)]
    rfl

/-- The digits of a value do not begin with the character for zero. -/
theorem head_digits {value : ℕ} {c : Char} {cs : List Char}
    (begins : (Nat.digits 58 value).reverse.map digitChar = c :: cs) : c ≠ '1' := by
  obtain ⟨digit, rest, digits, rfl, -⟩ := List.map_eq_cons_iff.mp begins
  have nonempty : Nat.digits 58 value ≠ [] := by
    intro none
    rw [none] at digits
    cases digits
  have last : (Nat.digits 58 value).getLast nonempty = digit := by
    have reversed := congrArg List.reverse digits
    rw [List.reverse_reverse, List.reverse_cons] at reversed
    simp only [reversed, List.getLast_append_singleton]
  apply digitChar_ne_one digit
  · exact Nat.digits_lt_base (by decide) (last ▸ List.getLast_mem nonempty)
  · intro zero
    exact Nat.getLast_digit_ne_zero 58 (Nat.digits_ne_nil_iff_ne_zero.mp nonempty) (last.trans zero)

theorem takeWhile_zeros (zeros : ℕ) (cs : List Char) (head : ∀ c rest, cs = c :: rest → c ≠ '1') :
    (List.replicate zeros '1' ++ cs).takeWhile (· = '1') = List.replicate zeros '1' ∧
      (List.replicate zeros '1' ++ cs).dropWhile (· = '1') = cs := by
  induction zeros with
  | zero =>
    cases cs with
    | nil => exact ⟨rfl, rfl⟩
    | cons c rest => simp [head c rest rfl]
  | succ zeros ih =>
    rw [List.replicate_succ, List.cons_append]
    simpa using ih

theorem decode_encode {width value : ℕ} (fits : value < 256 ^ width) : decode width (encode width value) = some value := by
  have short : (Nat.digits 256 value).length ≤ width := (Nat.digits_length_le_iff (by decide) value).mpr fits
  obtain ⟨zeros, rest⟩ := takeWhile_zeros (width - (Nat.digits 256 value).length)
    ((Nat.digits 58 value).reverse.map digitChar) fun c cs begins => head_digits begins
  have digits : ((Nat.digits 58 value).reverse.map digitChar).mapM digitValue = some (Nat.digits 58 value).reverse := by
    apply mapM_digitValue
    intro digit member
    exact Nat.digits_lt_base (by decide) (List.mem_reverse.mp member)
  simp only [decode, encode, String.toList_ofList, zeros, rest, digits, Option.bind_eq_bind, Option.bind_some,
    List.reverse_reverse, Nat.ofDigits_digits, List.length_replicate]
  rw [if_pos (by omega)]

/-! ### The text of 32 bytes -/

theorem digitChar_ascii : ∀ digit < 58, (digitChar digit).utf8Size = 1 ∧ digitChar digit ≠ ':' := by decide

theorem encode_chars (width value : ℕ) : ∀ c ∈ (encode width value).toList, c.utf8Size = 1 ∧ c ≠ ':' := by
  intro c member
  rw [encode, String.toList_ofList, List.mem_append] at member
  rcases member with zero | digit
  · rw [List.eq_of_mem_replicate zero]
    decide
  · obtain ⟨d, among, rfl⟩ := List.mem_map.mp digit
    exact digitChar_ascii d (Nat.digits_lt_base (by decide) (List.mem_reverse.mp among))

theorem pow_256_le : ∀ n ≤ 32, 256 ^ n ≤ 58 ^ (n + 12) := by decide

/-- A digit to the base 58 holds almost six bits: 32 bytes take at most 44 of them. -/
theorem encode_size {value : ℕ} (fits : value < 256 ^ 32) : (encode 32 value).utf8ByteSize ≤ 44 := by
  have short : (Nat.digits 256 value).length ≤ 32 := (Nat.digits_length_le_iff (by decide) value).mpr fits
  have below : value < 58 ^ ((Nat.digits 256 value).length + 12) :=
    Nat.lt_of_lt_of_le (Nat.lt_base_pow_length_digits (by decide)) (pow_256_le _ short)
  have digits : (Nat.digits 58 value).length ≤ (Nat.digits 256 value).length + 12 :=
    (Nat.digits_length_le_iff (by decide) value).mpr below
  have ascii : ∀ c ∈ (encode 32 value).toList, c.utf8Size = 1 := fun c member => (encode_chars 32 value c member).1
  unfold encode at ascii ⊢
  rw [String.toList_ofList] at ascii
  rw [Text.utf8ByteSize_ofList ascii]
  simp only [List.length_append, List.length_replicate, List.length_map, List.length_reverse]
  omega

end CopyTrader.Lib.Base58
