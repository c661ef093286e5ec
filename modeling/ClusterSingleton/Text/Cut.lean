/-!
# Cutting text at a separator

`cutFirst` and `cutLast` part a text at the first and at the last separator, `splitAll` at every one.
The separator itself is dropped; the lemmas say that nothing else is, and which part is free of it.
-/

namespace ClusterSingleton.Text

/-- The parts before and after the first separator. -/
def cutFirst (sep : Char) : List Char → Option (List Char × List Char)
  | [] => none
  | c :: cs =>
      if c = sep then some ([], cs)
      else (cutFirst sep cs).map (fun p => (c :: p.1, p.2))

/-- The parts before and after the last separator. -/
def cutLast (sep : Char) : List Char → Option (List Char × List Char)
  | [] => none
  | c :: cs =>
      match cutLast sep cs with
      | some p => some (c :: p.1, p.2)
      | none => if c = sep then some ([], cs) else none

/-- All parts between separators: one more than there are separators. -/
def splitAll (sep : Char) : List Char → List (List Char)
  | [] => [[]]
  | c :: cs =>
      if c = sep then [] :: splitAll sep cs
      else
        match splitAll sep cs with
        | [] => [[c]]
        | part :: parts => (c :: part) :: parts

/-- What follows `pre`, if the text begins with it. -/
def dropStart : List Char → List Char → Option (List Char)
  | [], cs => some cs
  | _ :: _, [] => none
  | p :: ps, c :: cs => if p = c then dropStart ps cs else none

theorem dropStart_eq_some_iff {pre s rest : List Char} :
    dropStart pre s = some rest ↔ s = pre ++ rest := by
  induction pre generalizing s with
  | nil => simp [dropStart, eq_comm]
  | cons p ps ih =>
    cases s with
    | nil => simp [dropStart]
    | cons c cs =>
      by_cases h : p = c
      · simp [dropStart, h, ih]
      · simp [dropStart, h, Ne.symm h]

theorem cutFirst_eq_some_iff {sep : Char} {s a b : List Char} :
    cutFirst sep s = some (a, b) ↔ s = a ++ sep :: b ∧ sep ∉ a := by
  induction s generalizing a with
  | nil => simp [cutFirst]
  | cons c cs ih =>
    by_cases h : c = sep
    · subst h
      cases a with
      | nil => simp [cutFirst, eq_comm]
      | cons x xs => simp [cutFirst]; intro hx _; simp [hx]
    · cases a with
      | nil => simp [cutFirst, h]
      | cons x xs =>
        simp only [cutFirst, h, if_false, Option.map_eq_some_iff, Prod.mk.injEq, List.cons.injEq,
          List.cons_append, List.mem_cons, not_or]
        constructor
        · rintro ⟨⟨a', b'⟩, hp, ⟨rfl, rfl⟩, rfl⟩
          obtain ⟨hs, hn⟩ := ih.1 hp
          exact ⟨⟨rfl, hs⟩, Ne.symm h, hn⟩
        · rintro ⟨⟨rfl, hs⟩, _, hn⟩
          exact ⟨(xs, b), ih.2 ⟨hs, hn⟩, ⟨rfl, rfl⟩, rfl⟩

theorem cutLast_eq_none_iff {sep : Char} {s : List Char} : cutLast sep s = none ↔ sep ∉ s := by
  induction s with
  | nil => simp [cutLast]
  | cons c cs ih =>
    rw [List.mem_cons, not_or, ← ih]
    cases hc : cutLast sep cs with
    | none => by_cases h : c = sep <;> simp [cutLast, hc, h, @eq_comm _ sep c]
    | some p => simp [cutLast, hc]

theorem cutLast_eq_some_iff {sep : Char} {s a b : List Char} :
    cutLast sep s = some (a, b) ↔ s = a ++ sep :: b ∧ sep ∉ b := by
  induction s generalizing a b with
  | nil => simp [cutLast]
  | cons c cs ih =>
    cases hc : cutLast sep cs with
    | none =>
      have hn := cutLast_eq_none_iff.1 hc
      cases a with
      | nil =>
        by_cases h : c = sep
        · subst h
          simp only [cutLast, hc, if_true, Option.some.injEq, Prod.mk.injEq, true_and,
            List.nil_append, List.cons.injEq]
          constructor
          · rintro rfl
            exact ⟨rfl, hn⟩
          · exact fun h => h.1
        · simp [cutLast, hc, h]
      | cons x xs =>
        have : ∀ t : List Char, cs ≠ xs ++ sep :: t := by
          rintro t rfl
          simp at hn
        by_cases h : c = sep <;> simp [cutLast, hc, h, this]
    | some p =>
      obtain ⟨a', b'⟩ := p
      cases a with
      | nil =>
        have hs := (ih.1 hc).1
        simp only [cutLast, hc, Option.some.injEq, Prod.mk.injEq, reduceCtorEq, false_and,
          List.nil_append, List.cons.injEq, false_iff, not_and, and_imp]
        rintro - rfl
        simp [hs]
      | cons x xs =>
        simp only [cutLast, hc, Option.some.injEq, Prod.mk.injEq, List.cons.injEq,
          List.cons_append, and_assoc, and_congr_right_iff]
        rintro rfl
        rw [← ih, hc]
        simp

end ClusterSingleton.Text
