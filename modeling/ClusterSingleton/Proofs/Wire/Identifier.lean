import ClusterSingleton.Proofs.Text.Digits
import ClusterSingleton.Uuid

/-!
# Identifiers are read back

An identifier is written in one form and read in several; the written form is among them.
-/

namespace ClusterSingleton.Uuid

/-- The hyphens between groups of the right lengths are found again. -/
theorem dropHyphens?_groups {a b c d e : List Char} (ha : a.length = 8) (hb : b.length = 4)
    (hc : c.length = 4) (hd : d.length = 4) (he : e.length = 12) :
    dropHyphens? (a ++ '-' :: b ++ '-' :: c ++ '-' :: d ++ '-' :: e) =
      some (a ++ b ++ c ++ d ++ e) := by
  simp (disch := omega) [dropHyphens?, List.getElem?_append, List.drop_append,
    List.drop_eq_nil_of_le, List.getElem?_cons_zero, ha, hb, hc, hd, he]

theorem take_drop_append (ds : List Char) (n k : Nat) :
    (ds.drop n).take k ++ ds.drop (n + k) = ds.drop n := by
  rw [← List.drop_drop, List.take_append_drop]

theorem dropHyphens?_hyphenate {ds : List Char} (full : ds.length = 32) :
    dropHyphens? (hyphenate ds) = some ds := by
  have groups : ds.take 8 ++ (ds.drop 8).take 4 ++ (ds.drop 12).take 4 ++ (ds.drop 16).take 4 ++
      ds.drop 20 = ds := by
    rw [List.append_assoc, take_drop_append ds 16 4, List.append_assoc, take_drop_append ds 12 4,
      List.append_assoc, take_drop_append ds 8 4, List.take_append_drop]
  rw [hyphenate, dropHyphens?_groups (by simp [full]) (by simp [full]) (by simp [full])
    (by simp [full]) (by simp [full]), groups]

/-- Digits are neither in braces nor behind a prefix. -/
theorem unwrap_of_plain {c : Char} {cs : List Char} (brace : c ≠ '{') (letter : c.toLower ≠ 'u') :
    unwrap (c :: cs) = c :: cs := by
  have bare : ¬ ((c :: cs).take 9).map Char.toLower = "urn:uuid:".toList := by
    rw [List.take_succ_cons, List.map_cons]
    exact fun same => letter (List.cons.inj same).1
  unfold unwrap
  rw [if_neg bare]
  split
  next rest same => exact absurd (List.cons.inj same).1 brace
  next => rfl

/-- **An identifier is read back.** -/
theorem parse?_chars (u : Uuid) : parse? u.chars = some u := by
  have full : (Text.hexDigits 32 u.bits.toNat).length = 32 := Text.length_hexDigits 32 _
  have long : u.chars.length ≠ 32 := by simp [chars, hyphenate, full]
  have bare : unwrap u.chars = u.chars := by
    cases digits : Text.hexDigits 32 u.bits.toNat with
    | nil => simp [digits] at full
    | cons c cs =>
        obtain ⟨d, small, rfl⟩ := Text.mem_hexDigits (digits ▸ List.mem_cons_self ..)
        obtain ⟨-, brace, letter⟩ := Text.hexDigit_plain small
        rw [chars, digits]
        exact unwrap_of_plain brace letter
  have value : Text.hexNumber? (Text.hexDigits 32 u.bits.toNat) = some u.bits.toNat := by
    rw [Text.hexNumber?_hexDigits, Nat.mod_eq_of_lt]
    exact u.bits.isLt
  have digits : dropHyphens? u.chars = some (Text.hexDigits 32 u.bits.toNat) :=
    dropHyphens?_hyphenate full
  simp only [parse?, if_neg long, bare, digits, Option.bind_some, value, Option.map_some, ofNat,
    BitVec.ofNat_toNat, BitVec.setWidth_eq]

end ClusterSingleton.Uuid
