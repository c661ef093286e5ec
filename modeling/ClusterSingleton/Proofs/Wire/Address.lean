import ClusterSingleton.Address
import ClusterSingleton.Proofs.Text.Digits

/-!
# Canonical addresses

The cuts at the first at sign and at the last colon find the parts of an address wherever it has
any: neither a system with an at sign nor a port with a colon is there to be cut differently. So the
addresses that are accepted are those of a grammar, and what is put together from parts is one.
-/

namespace ClusterSingleton

/-! ## Numbers -/

namespace Text

/-- A number of at most `max`: one or more digits, any number of zeros among the first of them,
behind a plus sign or behind none. -/
def IsDecimal (max : Nat) (cs : List Char) : Prop :=
  ∃ digits, (cs = digits ∨ cs = '+' :: digits) ∧ digits ≠ [] ∧
    (∀ c ∈ digits, '0' ≤ c ∧ c ≤ '9') ∧ decimalValue digits ≤ max

theorem dropPlus_digits {digits : List Char} (each : ∀ c ∈ digits, '0' ≤ c ∧ c ≤ '9') :
    dropPlus digits = digits := by
  unfold dropPlus
  split
  next rest =>
    have sign := (each '+' (List.mem_cons_self ..)).1
    exact absurd sign (by decide)
  next => rfl

/-- What is read is a number behind its sign. -/
theorem eq_or_eq_dropPlus (cs : List Char) : cs = dropPlus cs ∨ cs = '+' :: dropPlus cs := by
  unfold dropPlus
  split
  next => exact Or.inr rfl
  next => exact Or.inl rfl

/-- **The numbers that are read.** -/
theorem isSome_parseDecimal?_iff {max : Nat} {cs : List Char} :
    (parseDecimal? max cs).isSome = true ↔ IsDecimal max cs := by
  have digit (ds : List Char) : ds.all isDigit = true ↔ ∀ c ∈ ds, '0' ≤ c ∧ c ≤ '9' := by
    simp [isDigit]
  have accepted : (parseDecimal? max cs).isSome = true ↔
      dropPlus cs ≠ [] ∧ (∀ c ∈ dropPlus cs, '0' ≤ c ∧ c ≤ '9') ∧
        decimalValue (dropPlus cs) ≤ max := by
    rw [← digit, parseDecimal?]
    split <;> simp_all
  rw [accepted]
  constructor
  · rintro ⟨nonempty, each, small⟩
    exact ⟨dropPlus cs, eq_or_eq_dropPlus cs, nonempty, each, small⟩
  · rintro ⟨digits, sign, nonempty, each, small⟩
    have same : dropPlus cs = digits := by
      rcases sign with rfl | rfl
      · exact dropPlus_digits each
      · rfl
    rw [same]
    exact ⟨nonempty, each, small⟩

theorem IsDecimal.not_mem_colon {max : Nat} {cs : List Char} (h : IsDecimal max cs) : ':' ∉ cs := by
  obtain ⟨digits, sign, -, each, -⟩ := h
  have other : ':' ∉ digits := fun mem => absurd (each ':' mem).2 (by decide)
  rcases sign with rfl | rfl
  · exact other
  · simpa using other

theorem isDecimal_toString {max n : Nat} (small : n ≤ max) :
    IsDecimal max (toString n).toList := by
  refine ⟨_, Or.inl rfl, ?_, ?_, ?_⟩
  · rw [toList_toString]
    exact Nat.toDigits_ne_nil
  · intro c mem
    simpa [isDigit] using isDigit_of_mem mem
  · rw [decimalValue_toString]
    exact small

end Text

/-! ## Addresses -/

namespace Address

open Text (IsDecimal)

theorem isAuthority_iff {cs : List Char} :
    isAuthority cs = true ↔
      ∃ host port, cs = host ++ ':' :: port ∧ host ≠ [] ∧ IsDecimal maxPort port := by
  unfold isAuthority
  constructor
  · intro accepted
    split at accepted
    next host port cut =>
      rw [Bool.and_eq_true, Text.isSome_parseDecimal?_iff] at accepted
      exact ⟨host, port, (Text.cutLast_eq_some_iff.mp cut).1, by simpa using accepted.1,
        accepted.2⟩
    next => cases accepted
  · rintro ⟨host, port, rfl, nonempty, number⟩
    have cut : Text.cutLast ':' (host ++ ':' :: port) = some (host, port) :=
      Text.cutLast_eq_some_iff.mpr ⟨rfl, number.not_mem_colon⟩
    rw [cut]
    simpa [nonempty] using Text.isSome_parseDecimal?_iff.mpr number

theorem isValid_iff {a : Address} :
    a.isValid = true ↔
      ∃ system host port, a.text.toList = scheme ++ (system ++ '@' :: (host ++ ':' :: port)) ∧
        system ≠ [] ∧ '@' ∉ system ∧ host ≠ [] ∧ IsDecimal maxPort port := by
  unfold isValid
  constructor
  · intro accepted
    split at accepted
    next => cases accepted
    next rest start =>
      split at accepted
      next system authority cut =>
        rw [Bool.and_eq_true, isAuthority_iff] at accepted
        obtain ⟨named, host, port, rfl, hosted, number⟩ := accepted
        obtain ⟨rfl, alone⟩ := Text.cutFirst_eq_some_iff.mp cut
        exact ⟨system, host, port, Text.dropStart_eq_some_iff.mp start, by simpa using named, alone,
          hosted, number⟩
      next => cases accepted
  · rintro ⟨system, host, port, text, named, alone, hosted, number⟩
    have start := Text.dropStart_eq_some_iff.mpr text
    have cut : Text.cutFirst '@' (system ++ '@' :: (host ++ ':' :: port)) =
        some (system, host ++ ':' :: port) :=
      Text.cutFirst_eq_some_iff.mpr ⟨rfl, alone⟩
    simp only [start, cut]
    simpa [named] using isAuthority_iff.mpr ⟨host, port, rfl, hosted, number⟩

/-- A text that is put together from parts, one character after the other. -/
theorem toList_parts (system host port : String) :
    ("baton://" ++ system ++ "@" ++ host ++ ":" ++ port).toList =
      scheme ++ (system.toList ++ '@' :: (host.toList ++ ':' :: port.toList)) := by
  have joined (a b c d e f : String) : (a ++ b ++ c ++ d ++ e ++ f).toList =
      a.toList ++ (b.toList ++ (c.toList ++ (d.toList ++ (e.toList ++ f.toList)))) := by
    simp only [String.toList_append, List.append_assoc]
  exact joined "baton://" system "@" host ":" port

/-- The port of an address can be read off it. -/
theorem port_of_parts {system host host' : String} {port port' : UInt16}
    (same : ofParts system host port = ofParts system host' port') : port = port' := by
  have texts := congrArg (fun a : Address => a.text.toList) same
  simp only [ofParts, toList_parts] at texts
  have behind := List.cons.inj (List.append_cancel_left (List.append_cancel_left texts))
  have cut (h : String) (p : UInt16) :
      Text.cutLast ':' (h.toList ++ ':' :: (toString p.toNat).toList) =
        some (h.toList, (toString p.toNat).toList) :=
    Text.cutLast_eq_some_iff.mpr ⟨rfl, (Text.isDecimal_toString (Nat.le_refl _)).not_mem_colon⟩
  have digits : (toString port.toNat).toList = (toString port'.toNat).toList := by
    have cuts := (cut host port).symm.trans ((congrArg _ behind.2).trans (cut host' port'))
    exact (Prod.mk.inj (Option.some.inj cuts)).2
  have numbers := congrArg Text.decimalValue digits
  rw [Text.decimalValue_toString, Text.decimalValue_toString] at numbers
  exact UInt16.toNat_inj.mp numbers

/-- **An address is canonical exactly when it has the parts of one**: a system without an at sign, a
host of any characters, neither of them empty, and a port; and an address that is made of such parts
is canonical at every port. -/
theorem canonical_iff_parts :
    (∀ text : String, isValid ⟨text⟩ = true ↔
      ∃ system host port : String,
        text = "baton://" ++ system ++ "@" ++ host ++ ":" ++ port ∧
          system ≠ "" ∧ '@' ∉ system.toList ∧ host ≠ "" ∧ IsDecimal 65535 port.toList) ∧
    ∀ (system host : String) (port : UInt16), system ≠ "" → '@' ∉ system.toList → host ≠ "" →
      (ofParts system host port).isValid = true := by
  have grammar (text : String) : isValid ⟨text⟩ = true ↔
      ∃ system host port : String,
        text = "baton://" ++ system ++ "@" ++ host ++ ":" ++ port ∧
          system ≠ "" ∧ '@' ∉ system.toList ∧ host ≠ "" ∧ IsDecimal 65535 port.toList := by
    rw [isValid_iff]
    constructor
    · rintro ⟨system, host, port, same, named, alone, hosted, number⟩
      refine ⟨.ofList system, .ofList host, .ofList port, ?_, by simpa using named,
        by simpa using alone, by simpa using hosted, ?_⟩
      · rw [← String.toList_inj, toList_parts, same]
        simp only [String.toList_ofList]
      · rw [String.toList_ofList]
        exact number
    · rintro ⟨system, host, port, rfl, named, alone, hosted, number⟩
      exact ⟨system.toList, host.toList, port.toList, toList_parts system host port,
        by simpa using named, alone, by simpa using hosted, number⟩
  refine ⟨grammar, ?_⟩
  intro system host port named alone hosted
  have small : port.toNat ≤ 65535 := Nat.le_of_lt_succ port.toNat_lt
  exact (grammar _).mpr ⟨system, host, toString port.toNat, rfl, named, alone, hosted,
    Text.isDecimal_toString small⟩

/-- A host with separators of both kinds, behind which stands a port with a sign and zeros. -/
theorem canonical_iff_parts_separators :
    isValid ⟨"baton://sys@h@[::1]:+0065535"⟩ = true ∧
      (ofParts "sys" "h@[::1]" 65535).isValid = true := by
  have port : IsDecimal 65535 "+0065535".toList :=
    ⟨"0065535".toList, Or.inr rfl, by decide, by simp, by decide⟩
  exact ⟨(canonical_iff_parts.1 _).mpr ⟨"sys", "h@[::1]", "+0065535", by decide, by decide,
      by decide, by decide, port⟩,
    canonical_iff_parts.2 "sys" "h@[::1]" 65535 (by decide) (by decide) (by decide)⟩

end Address

end ClusterSingleton
