import ClusterSingleton.Settings

/-!
# How many retries are allowed

The limit of a hand-over is derived from the removal margin so that the margin is over first
(`outlasts`); a take-over gives up a few retries earlier. Both are cut at the largest number there is.
Only the limit of a hand-over can come up to it, and `handOver_eq_bound_iff` says when it does.
-/

namespace ClusterSingleton.RetryLimits

/-- Below the largest limit the number of a retry has a next one. -/
theorem toNat_succ {n : UInt32} (small : n.toNat < bound) : (n + 1).toNat = n.toNat + 1 := by
  have fits : n.toNat + 1 < 2 ^ 32 := by
    simp only [bound] at small
    omega
  exact (UInt32.toNat_add n 1).trans (Nat.mod_eq_of_lt fits)

/-- The margin is so long, or the minimum so large, that the limit is the largest number. -/
def AtBound (margin interval : Nat) (minimum : UInt32) : Prop :=
  bound ≤ margin / interval + Defaults.handOverHeadroom.toNat ∨ minimum.toNat = bound

section Create

variable {margin interval : Nat} {minimum : UInt32} {limits : RetryLimits}

theorem of_create (limited : create margin interval minimum = .ok limits) :
    0 < interval ∧ limits = derive margin interval minimum := by
  unfold create at limited
  split at limited
  · cases limited
  · split at limited
    · cases limited
    next positive => exact ⟨Nat.pos_of_ne_zero positive, (Except.ok.inj limited).symm⟩

theorem handOver_toNat (limited : create margin interval minimum = .ok limits) :
    limits.handOver.toNat = max minimum.toNat
      (min (margin / interval + Defaults.handOverHeadroom.toNat) bound) := by
  obtain ⟨-, rfl⟩ := of_create limited
  have small := minimum.toNat_lt
  have three : (3 : UInt32).toNat = 3 := rfl
  simp only [derive, bound, UInt32.toNat_ofNat', Defaults.handOverHeadroom, three]
  omega

theorem takeOver_toNat (limited : create margin interval minimum = .ok limits) :
    limits.takeOver.toNat = max (limits.handOver.toNat - Defaults.handOverHeadroom.toNat) 1 := by
  obtain ⟨-, rfl⟩ := of_create limited
  have small := minimum.toNat_lt
  have three : (3 : UInt32).toNat = 3 := rfl
  simp only [derive, bound, UInt32.toNat_ofNat', Defaults.handOverHeadroom, three]
  omega

/-- The retries that the limit allows take longer than the margin and three intervals more. -/
theorem outlasts (limited : create margin interval minimum = .ok limits)
    (bounded : limits.handOver.toNat < bound) :
    margin + 3 * interval < (limits.handOver.toNat + 1) * interval := by
  have positive := (of_create limited).1
  -- the limit is below the bound, so the cut at the bound has not taken effect
  have covers : margin / interval + 3 ≤ limits.handOver.toNat := by
    have three : Defaults.handOverHeadroom.toNat = 3 := rfl
    rw [handOver_toNat limited, three] at bounded ⊢
    omega
  have rest : margin < (margin / interval + 1) * interval := by
    rw [Nat.mul_comm]
    exact Nat.lt_mul_div_succ margin positive
  calc margin + 3 * interval
      < (margin / interval + 1) * interval + 3 * interval := Nat.add_lt_add_right rest _
    _ = (margin / interval + 1 + 3) * interval := (Nat.add_mul ..).symm
    _ ≤ (limits.handOver.toNat + 1) * interval := Nat.mul_le_mul_right _ (by omega)

/-- A take-over gives up below the largest number. -/
theorem takeOver_lt (limited : create margin interval minimum = .ok limits) :
    limits.takeOver.toNat < bound := by
  have small := limits.handOver.toNat_lt
  have three : Defaults.handOverHeadroom.toNat = 3 := rfl
  rw [takeOver_toNat limited, three]
  simp only [bound]
  omega

/-- **When a hand-over is allowed as many retries as there are numbers.** -/
theorem handOver_eq_bound_iff (limited : create margin interval minimum = .ok limits) :
    limits.handOver.toNat = bound ↔ AtBound margin interval minimum := by
  have small := minimum.toNat_lt
  rw [handOver_toNat limited, AtBound]
  simp only [bound]
  omega

end Create

end ClusterSingleton.RetryLimits
