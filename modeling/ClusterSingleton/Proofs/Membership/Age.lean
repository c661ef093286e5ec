import Mathlib.Data.List.Nodup
import Mathlib.Data.List.Perm.Basic
import ClusterSingleton.Member

/-!
# Lists in the order of age

Members are listed oldest first. A list that names each address once is determined by its elements
once it is sorted by age (`Ranked.ext`), so that two nodes that know the same members list them
alike.
-/

namespace ClusterSingleton.Member

variable {a b : Member} {ms ns : List Member} {p : Member → Bool}

/-! ## The order -/

instance : Std.TransCmp ageOrder :=
  inferInstanceAs (Std.TransCmp (compareLex (compareOn upNumber) (compareOn fun m => m.address.text)))

theorem ageOrder_swap : b.ageOrder a = (a.ageOrder b).swap := Std.OrientedCmp.eq_swap

/-- Only members with the same number and the same address are of one age. -/
theorem ageOrder_eq_iff : a.ageOrder b = .eq ↔ a.upNumber = b.upNumber ∧ a.address = b.address := by
  have texts : a.address.text = b.address.text ↔ a.address = b.address :=
    ⟨fun h => congrArg Address.mk h, congrArg Address.text⟩
  simp only [ageOrder, Address.order, Ordering.then_eq_eq, Std.LawfulEqCmp.compare_eq_iff_eq, texts]

/-! ## Each address once -/

/-- The list without an address. -/
def without (ms : List Member) (a : Address) : List Member := ms.filter fun m => m.address ≠ a

theorem mem_without {x : Address} : a ∈ without ms x ↔ a ∈ ms ∧ a.address ≠ x := by
  simp [without]

/-- No two members have the same address. -/
def Distinct (ms : List Member) : Prop := (ms.map address).Nodup

namespace Distinct

theorem eq (h : Distinct ms) (ha : a ∈ ms) (hb : b ∈ ms) (same : a.address = b.address) : a = b :=
  List.inj_on_of_nodup_map h ha hb same

theorem filter (h : Distinct ms) (p : Member → Bool) : Distinct (ms.filter p) :=
  h.sublist (List.filter_sublist.map address)

theorem perm (h : Distinct ms) (same : ms.Perm ns) : Distinct ns :=
  (same.map address).nodup h

/-- A member can be added in place of the one that had its address. -/
theorem replace (h : Distinct ms) (x : Member) : Distinct (without ms x.address ++ [x]) := by
  unfold Distinct
  rw [List.map_append, List.nodup_append]
  refine ⟨h.filter _, List.nodup_singleton _, ?_⟩
  intro a ha b hb
  obtain ⟨y, hy, rfl⟩ := List.mem_map.mp ha
  obtain rfl := List.mem_singleton.mp hb
  exact (mem_without.mp hy).2

end Distinct

/-! ## Sorted lists -/

theorem mem_sortByAge : a ∈ sortByAge ms ↔ a ∈ ms := (List.mergeSort_perm ..).mem_iff

theorem sortByAge_sorted (ms : List Member) :
    (sortByAge ms).Pairwise fun a b => (a.ageOrder b).isLE = true := by
  refine List.pairwise_mergeSort (fun a b c => Std.TransCmp.isLE_trans) ?_ ms
  intro a b
  rw [ageOrder_swap (a := a)]
  cases a.ageOrder b <;> rfl

/-- Sorted by age, with each address once. -/
structure Ranked (ms : List Member) : Prop where
  sorted : ms.Pairwise fun a b => (a.ageOrder b).isLE = true
  distinct : Distinct ms

theorem ranked_sortByAge (h : Distinct ms) : Ranked (sortByAge ms) :=
  ⟨sortByAge_sorted ms, h.perm (List.mergeSort_perm ..).symm⟩

namespace Ranked

theorem filter (h : Ranked ms) (p : Member → Bool) : Ranked (ms.filter p) :=
  ⟨h.sorted.filter p, h.distinct.filter p⟩

/-- Whoever is listed first is older. -/
theorem older (h : Ranked ms) : ms.Pairwise fun a b => a.isOlderThan b = true := by
  have apart : ms.Pairwise fun a b => a.address ≠ b.address := List.pairwise_map.mp h.distinct
  refine (h.sorted.and apart).imp ?_
  rintro a b ⟨le, other⟩
  have ne : a.ageOrder b ≠ .eq := fun same => other (ageOrder_eq_iff.mp same).2
  unfold isOlderThan
  cases order : a.ageOrder b <;> simp_all

/-- **Two sorted lists of the same members are the same list.** -/
theorem ext (h : Ranked ms) (k : Ranked ns) (same : ∀ x, x ∈ ms ↔ x ∈ ns) : ms = ns := by
  have perm : ms.Perm ns :=
    (List.perm_ext_iff_of_nodup (List.Nodup.of_map _ h.distinct)
      (List.Nodup.of_map _ k.distinct)).mpr same
  refine perm.eq_of_pairwise ?_ h.sorted k.sorted
  intro a b ha hb ab ba
  have age : a.ageOrder b = .eq := Std.OrientedCmp.isLE_antisymm ab ba
  exact k.distinct.eq ((same a).mp ha) hb (ageOrder_eq_iff.mp age).2

end Ranked

end ClusterSingleton.Member
