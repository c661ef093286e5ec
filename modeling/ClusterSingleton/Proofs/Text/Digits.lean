import Mathlib.Algebra.Ring.Nat
import ClusterSingleton.Text.Decimal
import ClusterSingleton.Text.Hex

/-!
# Digits and their values

The digits that are written for a number are read as that number, in decimal with or without leading
zeros, and in hexadecimal with a fixed number of places.
-/

namespace ClusterSingleton.Text

/-! ## Decimal -/

theorem isDigit_iff {c : Char} : isDigit c = true ↔ 48 ≤ c.toNat ∧ c.toNat ≤ 57 := by
  simp [isDigit, Char.le_def, UInt32.le_iff_toNat_le]

theorem toList_toString (n : Nat) : (toString n).toList = Nat.toDigits 10 n := by
  rw [Nat.toString_eq_ofList_toDigits, String.toList_ofList]

theorem isDigit_of_mem {n : Nat} {c : Char} (mem : c ∈ (toString n).toList) :
    isDigit c = true := by
  rw [toList_toString] at mem
  have digit := Nat.isDigit_of_mem_toDigits (by decide) (by decide) mem
  simpa [Char.isDigit, isDigit, Char.le_def] using digit

theorem decimalValue_append (cs ds : List Char) :
    decimalValue (cs ++ ds) = ds.foldl (fun n c => 10 * n + digitValue c) (decimalValue cs) :=
  List.foldl_append

theorem decimalValue_toString (n : Nat) : decimalValue (toString n).toList = n := by
  rw [toList_toString]
  exact Nat.ofDigitChars_ten_toDigits

/-- Leading zeros count for nothing. -/
theorem decimalValue_zeros (k : Nat) (ds : List Char) :
    decimalValue (List.replicate k '0' ++ ds) = decimalValue ds := by
  have zeros : decimalValue (List.replicate k '0') = 0 := Nat.ofDigitChars_replicate_zero
  rw [decimalValue_append, zeros]
  rfl

theorem length_toString_le {n k : Nat} (pos : 0 < k) :
    (toString n).toList.length ≤ k ↔ n < 10 ^ k := by
  rw [toList_toString]
  exact Nat.length_toDigits_le_iff (by decide) pos

/-! ## Hexadecimal -/

@[simp] theorem hexValue?_hexDigit {n : Nat} (small : n < 16) :
    hexValue? (hexDigit n) = some n := by
  have each : ∀ n < 16, hexValue? (hexDigit n) = some n := by decide
  exact each n small

@[simp] theorem length_hexDigits (width n : Nat) : (hexDigits width n).length = width := by
  induction width generalizing n with
  | zero => rfl
  | succ width ih => simp [hexDigits, ih]

/-- A hexadecimal digit is none of the characters with a meaning of their own. -/
theorem hexDigit_plain {n : Nat} (small : n < 16) :
    hexDigit n ≠ '-' ∧ hexDigit n ≠ '{' ∧ (hexDigit n).toLower ≠ 'u' := by
  have each : ∀ n < 16, hexDigit n ≠ '-' ∧ hexDigit n ≠ '{' ∧ (hexDigit n).toLower ≠ 'u' := by
    decide
  exact each n small

theorem mem_hexDigits {width n : Nat} {c : Char} (mem : c ∈ hexDigits width n) :
    ∃ d < 16, c = hexDigit d := by
  induction width generalizing n with
  | zero => cases mem
  | succ width ih =>
      rcases List.mem_append.mp mem with before | last
      · exact ih before
      · exact ⟨n % 16, Nat.mod_lt n (by decide), List.mem_singleton.mp last⟩

theorem ascii_of_hexValue? {c : Char} {d : Nat} (value : hexValue? c = some d) : c.toNat < 128 := by
  unfold hexValue? at value
  split at value
  next range => exact Nat.lt_of_le_of_lt (UInt32.le_iff_toNat_le.mp range.2) (by decide)
  split at value
  next range => exact Nat.lt_of_le_of_lt (UInt32.le_iff_toNat_le.mp range.2) (by decide)
  split at value
  next range => exact Nat.lt_of_le_of_lt (UInt32.le_iff_toNat_le.mp range.2) (by decide)
  next => cases value

theorem hexNumber?_snoc (ds : List Char) (x : Char) :
    hexNumber? (ds ++ [x]) =
      (hexNumber? ds).bind fun v => (hexValue? x).map (16 * v + ·) := by
  simp [hexNumber?]

/-- As many places as there are hold the number up to their range. -/
theorem hexNumber?_hexDigits (width n : Nat) :
    hexNumber? (hexDigits width n) = some (n % 16 ^ width) := by
  induction width generalizing n with
  | zero => simp [hexDigits, hexNumber?, Nat.mod_one]
  | succ width ih =>
      have last : n % 16 < 16 := Nat.mod_lt n (by decide)
      rw [hexDigits, hexNumber?_snoc, ih, Option.bind_some, hexValue?_hexDigit last,
        Option.map_some, Nat.pow_succ, Nat.mul_comm (16 ^ width) 16, Nat.mod_mul,
        Nat.add_comm (n % 16)]

end ClusterSingleton.Text
