import ClusterSingleton.Proofs.Text.Digits
import ClusterSingleton.Timestamp

/-!
# Timestamps are read back

Each part of a written timestamp is read up to its end, because what comes next is no digit, and the
text of the whole is read as the same point in time: in years of any length, with any number of
decimals, and in a leap second.
-/

namespace ClusterSingleton.Timestamp

open Text (isDigit isBlank decimalValue)

/-! ## Numbers -/

theorem isDigit_of_mem_padded {width n : Nat} {c : Char} (mem : c ∈ padded width n) :
    isDigit c = true := by
  rcases List.mem_append.mp mem with zero | digit
  · rw [List.eq_of_mem_replicate zero]
    rfl
  · exact Text.isDigit_of_mem digit

theorem padded_ne_nil (width n : Nat) : padded width n ≠ [] := by
  have digits : (toString n).toList ≠ [] := by
    rw [Text.toList_toString]
    exact Nat.toDigits_ne_nil
  exact List.append_ne_nil_of_right_ne_nil _ digits

theorem length_padded {width n : Nat} (pos : 0 < width) (small : n < 10 ^ width) :
    (padded width n).length = width := by
  have fits := (Text.length_toString_le pos).mpr small
  simp only [padded, List.length_append, List.length_replicate]
  omega

theorem decimalValue_padded (width n : Nat) : decimalValue (padded width n) = n := by
  rw [padded, Text.decimalValue_zeros, Text.decimalValue_toString]

/-- A text that does not begin with a digit. -/
def Apart (rest : List Char) : Prop := rest.takeWhile isDigit = []

theorem Apart.cons {c : Char} (other : isDigit c = false) (rest : List Char) :
    Apart (c :: rest) := by
  rw [Apart, List.takeWhile_cons_of_neg (by simp [other])]

theorem takeWhile_padded {width n : Nat} {rest : List Char} (apart : Apart rest) :
    (padded width n ++ rest).takeWhile isDigit = padded width n := by
  rw [List.takeWhile_append_of_pos (fun c mem => isDigit_of_mem_padded mem), apart,
    List.append_nil]

theorem number?_padded {limit width n : Nat} {rest : List Char} (apart : Apart rest)
    (fits : (padded width n).length ≤ limit) :
    number? limit (padded width n ++ rest) = some (n, rest) := by
  have whole : ((padded width n ++ rest).takeWhile isDigit).take limit = padded width n := by
    rw [takeWhile_padded apart, List.take_of_length_le fits]
  have nonempty : (padded width n).isEmpty = false := by
    rw [List.isEmpty_eq_false_iff]
    exact padded_ne_nil width n
  simp only [number?, whole, nonempty, decimalValue_padded, List.drop_left, Bool.false_eq_true,
    if_false]

/-! ## Blanks -/

theorem skipBlanks_cons {c : Char} (other : isBlank c = false) (cs : List Char) :
    skipBlanks (c :: cs) = c :: cs := by
  rw [skipBlanks, List.dropWhile_cons_of_neg (by simp [other])]

/-- A digit is no blank, and no sign either. -/
theorem digit_plain {c : Char} (digit : isDigit c = true) :
    isBlank c = false ∧ c ≠ '-' ∧ c ≠ '+' := by
  have bounds := Text.isDigit_iff.mp digit
  refine ⟨?_, ?_, ?_⟩
  · simp only [isBlank, Bool.or_eq_false_iff, decide_eq_false_iff_not, beq_eq_false_iff_ne]
    omega
  · rintro rfl
    exact absurd digit (by decide)
  · rintro rfl
    exact absurd digit (by decide)

/-- A number begins with a digit. -/
theorem padded_eq_cons (width n : Nat) :
    ∃ c cs, padded width n = c :: cs ∧ isDigit c = true := by
  obtain ⟨c, cs, same⟩ := List.exists_cons_of_ne_nil (padded_ne_nil width n)
  exact ⟨c, cs, same, isDigit_of_mem_padded (same ▸ List.mem_cons_self ..)⟩

theorem skipBlanks_padded (width n : Nat) (rest : List Char) :
    skipBlanks (padded width n ++ rest) = padded width n ++ rest := by
  obtain ⟨c, cs, same, digit⟩ := padded_eq_cons width n
  rw [same, List.cons_append, skipBlanks_cons (digit_plain digit).1]

/-! ## Fields -/

theorem number?_two {n : Nat} (small : n < 100) {rest : List Char} (apart : Apart rest) :
    number? 2 (skipBlanks (padded 2 n ++ rest)) = some (n, rest) := by
  rw [skipBlanks_padded]
  exact number?_padded apart (Nat.le_of_eq (length_padded (by decide) small))

theorem field?_padded {separator : Char} (other : isBlank separator = false) {n : Nat}
    (small : n < 100) {rest : List Char} (apart : Apart rest) :
    field? separator (separator :: (padded 2 n ++ rest)) = some (n, rest) := by
  simp only [field?, skipBlanks_cons other, if_true, number?_two small apart]

/-- **A year is read back, with and without a sign.** -/
theorem year?_yearChars (y : Int) {rest : List Char} (apart : Apart rest) :
    year? (yearChars y ++ rest) = some (y, rest) := by
  have signed : number? (padded 4 y.natAbs ++ rest).length (padded 4 y.natAbs ++ rest) =
      some (y.natAbs, rest) :=
    number?_padded apart (by simp)
  unfold yearChars
  split
  next plain =>
    have short : (padded 4 y.toNat).length = 4 := length_padded (by decide) (by omega)
    obtain ⟨c, cs, same, digit⟩ := padded_eq_cons 4 y.toNat
    obtain ⟨-, minus, plus⟩ := digit_plain digit
    have read := number?_padded apart (Nat.le_of_eq short)
    rw [same, List.cons_append] at read ⊢
    have unsigned : year? (c :: (cs ++ rest)) =
        (number? 4 (c :: (cs ++ rest))).map (fun p => ((p.1 : Int), p.2)) := by
      unfold year?
      split
      next same => exact absurd (List.cons.inj same).1 minus
      next same => exact absurd (List.cons.inj same).1 plus
      next => rfl
    rw [unsigned, read, Option.map_some, Int.toNat_of_nonneg plain.1]
  next long =>
    by_cases negative : y < 0
    · have value : -(y.natAbs : Int) = y := by omega
      rw [if_pos negative, List.cons_append, year?, signed, Option.map_some, value]
    · have value : (y.natAbs : Int) = y := by omega
      rw [if_neg negative, List.cons_append, year?, signed, Option.map_some, value]

/-! ## Decimals -/

theorem decimalValue_append_zeros (ds : List Char) (k : Nat) :
    decimalValue (ds ++ List.replicate k '0') = decimalValue ds * 10 ^ k := by
  induction k with
  | zero => simp
  | succ k ih =>
      rw [List.replicate_succ', ← List.append_assoc, Text.decimalValue_append, ih]
      show 10 * (decimalValue ds * 10 ^ k) + 0 = decimalValue ds * 10 ^ (k + 1)
      rw [Nat.add_zero, Nat.pow_succ, Nat.mul_comm 10, Nat.mul_assoc]

theorem fraction?_padded {k n : Nat} (pos : 0 < k) (most : k ≤ 9) (small : n < 10 ^ k)
    {rest : List Char} (apart : Apart rest) :
    fraction? ('.' :: (padded k n ++ rest)) = some (n * 10 ^ (9 - k), rest) := by
  have long := length_padded pos small
  have nonempty : (padded k n).isEmpty = false := by
    rw [List.isEmpty_eq_false_iff]
    exact padded_ne_nil k n
  have nine : (padded k n ++ List.replicate 9 '0').take 9 =
      padded k n ++ List.replicate (9 - k) '0' := by
    rw [List.take_append, List.take_of_length_le (by omega), List.take_replicate, long]
    congr 2
    omega
  simp only [fraction?, takeWhile_padded apart, nonempty, nine, decimalValue_append_zeros,
    decimalValue_padded, List.drop_left, Bool.false_eq_true, if_false]

/-- No decimals are written, or `k` of them, and those that are left out are zeros. -/
theorem fractionChars_cases {nano : Nat} (small : nano < 1000000000) :
    nano = 0 ∧ fractionChars nano = [] ∨
      ∃ k n, 0 < k ∧ k ≤ 9 ∧ n < 10 ^ k ∧ n * 10 ^ (9 - k) = nano ∧
        fractionChars nano = '.' :: padded k n := by
  unfold fractionChars
  split
  next zero => exact Or.inl ⟨zero, rfl⟩
  next =>
    refine Or.inr ?_
    split
    next => exact ⟨3, nano / 1000000, by decide, by decide, by omega, by omega, rfl⟩
    next =>
      split
      next => exact ⟨6, nano / 1000, by decide, by decide, by omega, by omega, rfl⟩
      next => exact ⟨9, nano, by decide, by decide, by omega, by omega, rfl⟩

theorem apart_fractionChars {nano : Nat} (small : nano < 1000000000) (rest : List Char) :
    Apart (fractionChars nano ++ 'Z' :: rest) := by
  rcases fractionChars_cases small with ⟨-, absent⟩ | ⟨k, n, -, -, -, -, written⟩
  · rw [absent]
    exact Apart.cons (by decide) _
  · rw [written]
    exact Apart.cons (by decide) _

theorem fraction?_fractionChars {nano : Nat} (small : nano < 1000000000) (rest : List Char) :
    fraction? (fractionChars nano ++ 'Z' :: rest) = some (nano, 'Z' :: rest) := by
  rcases fractionChars_cases small with ⟨zero, absent⟩ | ⟨k, n, pos, most, fits, value, written⟩
  · rw [absent, zero]
    rfl
  · rw [written, List.cons_append, fraction?_padded pos most fits (Apart.cons (by decide) rest),
      value]

/-! ## Points in time -/

theorem create?_self (t : Timestamp) : create? t.date t.time = some t := by
  rw [create?, dif_pos t.date_exists, dif_pos t.time_exists]

/-- At no offset from UTC, the local date and time are those of the timestamp. -/
theorem ofLocal?_zero (t : Timestamp) : ofLocal? t.date t.time 0 = some t := by
  obtain ⟨hours, minutes, -, -⟩ := t.time_exists
  have within : ¬ ((t.time.hour * 60 + t.time.minute : Int) - 0 < 0) := by omega
  have today : (t.time.hour * 60 + t.time.minute : Int) - 0 < 1440 := by omega
  have ofDay : (((t.time.hour * 60 + t.time.minute : Int) - 0) % 1440).toNat =
      t.time.hour * 60 + t.time.minute := by
    omega
  have hour : (t.time.hour * 60 + t.time.minute) / 60 = t.time.hour := by omega
  have minute : (t.time.hour * 60 + t.time.minute) % 60 = t.time.minute := by omega
  simp only [ofLocal?, if_pos t.date_exists, if_neg within, if_pos today, ofDay, hour, minute]
  exact create?_self t

theorem skipBlanks_yearChars (y : Int) (rest : List Char) :
    skipBlanks (yearChars y ++ rest) = yearChars y ++ rest := by
  unfold yearChars
  split
  next => exact skipBlanks_padded 4 y.toNat rest
  next =>
    split
    next => exact skipBlanks_cons (by decide) _
    next => exact skipBlanks_cons (by decide) _

theorem daysIn_le (year : Int) (month : Nat) : Date.daysIn year month ≤ 31 := by
  unfold Date.daysIn
  repeat' split
  all_goals omega

/-- **A timestamp is read back.** -/
theorem parse?_chars (t : Timestamp) : parse? t.chars = some t := by
  obtain ⟨-, -, -, month, -, day⟩ := t.date_exists
  obtain ⟨hour, minute, second, nano⟩ := t.time_exists
  have most := daysIn_le t.date.year t.date.month
  have shape : t.chars = yearChars t.date.year ++ '-' :: (padded 2 t.date.month ++
      '-' :: (padded 2 t.date.day ++ 'T' :: (padded 2 t.time.hour ++
      ':' :: (padded 2 t.time.minute ++ ':' :: (padded 2 t.time.second ++
      (fractionChars t.time.nano ++ ['Z'])))))) := by
    simp [chars]
  -- Part by part from the left; what follows a number never begins with a digit.
  rw [shape, parse?, skipBlanks_yearChars, year?_yearChars _ (Apart.cons (by decide) _)]
  simp only [Option.bind_eq_bind, Option.bind_some]
  rw [field?_padded (by decide) (by omega) (Apart.cons (by decide) _)]
  simp only [Option.bind_some]
  rw [field?_padded (by decide) (by omega) (Apart.cons (by decide) _)]
  simp only [Option.bind_some, true_or, or_true, if_true]
  rw [number?_two (by omega) (Apart.cons (by decide) _)]
  simp only [Option.bind_some]
  rw [field?_padded (by decide) (by omega) (Apart.cons (by decide) _)]
  simp only [Option.bind_some]
  rw [field?_padded (by decide) (by omega) (apart_fractionChars nano _)]
  simp only [Option.bind_some]
  rw [fraction?_fractionChars nano]
  have utc : zone? (skipBlanks ['Z']) = some (0, []) := rfl
  simp only [Option.bind_some, utc]
  rw [if_pos ⟨t.time_exists, rfl⟩]
  exact ofLocal?_zero t

end ClusterSingleton.Timestamp
