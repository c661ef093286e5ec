import Mathlib.Data.List.Perm.Basic
import ClusterSingleton.Json.Read

/-!
# Records in any order

A record takes its fields from the members of an object by their names. So neither the order of the
members nor members of other names make a difference, and a field that is missing or stands there
twice is noticed whatever else there is.
-/

namespace ClusterSingleton.Json.Value

/-- Data that is read item by item. -/
theorem mapM_map_eq_some {α β γ : Type} {f : α → β} {g : β → Option γ} {h : α → γ} {l : List α}
    (each : ∀ x ∈ l, g (f x) = some (h x)) : (l.map f).mapM g = some (l.map h) := by
  induction l with
  | nil => rfl
  | cons x l ih =>
      obtain ⟨here, rest⟩ := List.forall_mem_cons.mp each
      rw [List.map_cons, List.mapM_cons, here, ih rest]
      rfl

theorem mapM_eq_none {α β : Type} {g : α → Option β} {l : List α} {x : α} (mem : x ∈ l)
    (fails : g x = none) : l.mapM g = none := by
  induction l with
  | nil => cases mem
  | cons y l ih =>
      rw [List.mapM_cons]
      rcases List.mem_cons.mp mem with rfl | later
      · rw [fails]
        rfl
      · rw [ih later]
        cases g y <;> rfl

/-! ## Fields -/

section Fields

variable {members : List (Option String × Value)} {known others fields : List (String × Value)}
variable {f : String × Value} {name : String}

/-- The members of an object whose keys are texts. -/
def named (fields : List (String × Value)) : List (Option String × Value) :=
  fields.map fun f => (some f.1, f.2)

theorem filter_named :
    (named fields).filter (fun m => m.1 == some name) =
      named (fields.filter fun f => f.1 == name) := by
  rw [named, List.filter_map]
  rfl

/-- The only field of its name. -/
theorem filter_eq_singleton (once : (known.map Prod.fst).Nodup) (mem : f ∈ known) :
    known.filter (fun g => g.1 == f.1) = [f] := by
  induction known with
  | nil => cases mem
  | cons g gs ih =>
      obtain ⟨fresh, rest⟩ := List.nodup_cons.mp once
      rcases List.mem_cons.mp mem with rfl | later
      · have absent : gs.filter (fun g => g.1 == f.1) = [] := by
          rw [List.filter_eq_nil_iff]
          intro g member same
          exact fresh (eq_of_beq same ▸ List.mem_map_of_mem member)
        rw [List.filter_cons_of_pos (by simp), absent]
      · have other : g.1 ≠ f.1 := fun same => fresh (same ▸ List.mem_map_of_mem later)
        rw [List.filter_cons_of_neg (by simpa using other), ih rest later]

/-- **A field is found wherever it stands.** -/
theorem field?_of_perm (once : (known.map Prod.fst).Nodup)
    (unknown : ∀ o ∈ others, o.1 ∉ known.map Prod.fst) (perm : fields.Perm (known ++ others))
    (mem : f ∈ known) : field? (named fields) f.1 = some f.2 := by
  have skipped : others.filter (fun g => g.1 == f.1) = [] := by
    rw [List.filter_eq_nil_iff]
    intro o member same
    exact unknown o member (eq_of_beq same ▸ List.mem_map_of_mem mem)
  have only : (fields.filter fun g => g.1 == f.1).Perm [f] := by
    have filtered := perm.filter fun g => g.1 == f.1
    rwa [List.filter_append, filter_eq_singleton once mem, skipped, List.append_nil] at filtered
  rw [field?, filter_named, List.perm_singleton.mp only]
  rfl

/-- A field that is missing, or stands there more than once, is none. -/
theorem field?_eq_none (count : members.countP (fun m => m.1 == some name) ≠ 1) :
    field? members name = none := by
  unfold field?
  split
  next m only =>
    rw [List.countP_eq_length_filter, only] at count
    exact absurd rfl count
  next => rfl

end Fields

/-! ## Records -/

section Records

variable {members : List (Option String × Value)} {known others fields : List (String × Value)}
variable {names : List String} {name : String}

/-- **A record is read from its fields in any order**, whatever other members there are. -/
theorem record?_of_perm (once : (known.map Prod.fst).Nodup)
    (unknown : ∀ o ∈ others, o.1 ∉ known.map Prod.fst) (perm : fields.Perm (known ++ others)) :
    (ofFields fields).record? (known.map Prod.fst) = some (known.map Prod.snd) := by
  have texts : (named fields).all (fun m => m.1.isSome) = true := by simp [named]
  rw [ofFields, record?]
  exact (if_pos texts).trans
    (mapM_map_eq_some fun f mem => field?_of_perm once unknown perm mem)

/-- **A record is read from the object written for it.** -/
theorem record?_ofFields (once : (fields.map Prod.fst).Nodup) :
    (ofFields fields).record? (fields.map Prod.fst) = some (fields.map Prod.snd) := by
  have alone : fields.Perm (fields ++ []) := by rw [List.append_nil]
  exact record?_of_perm once (List.forall_mem_nil _) alone

/-- **Each field is needed once.** -/
theorem record?_eq_none (mem : name ∈ names)
    (count : members.countP (fun m => m.1 == some name) ≠ 1) :
    (object members).record? names = none := by
  rw [record?]
  split
  next => exact mapM_eq_none mem (field?_eq_none count)
  next => rfl

/-- The field of a record that has no other. -/
theorem single?_ofFields (name : String) (v : Value) :
    (ofFields [(name, v)]).single? name = some v := by
  have once : ([(name, v)].map Prod.fst).Nodup := List.pairwise_singleton ..
  have read : (ofFields [(name, v)]).record? [name] = some [v] := record?_ofFields once
  rw [single?, read]

end Records

/-! ## Data of one word -/

theorem text?_ofString (s : String) : (ofString s).text? = some s := rfl

theorem choice?_ofFields (name : String) (v : Value) :
    (ofFields [(name, v)]).choice? = some (name, some v) := rfl

end ClusterSingleton.Json.Value
