import ClusterSingleton.Json.Printer
import ClusterSingleton.Json.Token
import ClusterSingleton.Proofs.Text.Digits

/-!
# The grammar of JSON

A value has many spellings: there may be white space around every token, a character may stand for
itself or be escaped, and a number that is no plain natural one may have any sign, fraction and
exponent. `Spelt v cs` says that the text `cs` is one of the spellings of `v`. The text that is
written for a value is another, as `spelt_chars` says.
-/

namespace ClusterSingleton.Json

/-! ## White space -/

def blanks : List Char := [' ', '\n', '\r', '\t']

def IsSpace (cs : List Char) : Prop := ∀ c ∈ cs, c ∈ blanks

instance (cs : List Char) : Decidable (IsSpace cs) :=
  List.decidableBAll (fun c => c ∈ blanks) cs

theorem isSpace_nil : IsSpace [] := List.forall_mem_nil _

/-! ## Numbers -/

/-- One or more digits. -/
def IsDigits (ds : List Char) : Prop := ds ≠ [] ∧ ∀ d ∈ ds, Text.isDigit d = true

/-- A whole number, without leading zeros. -/
inductive IsWhole : List Char → Prop where
  | zero : IsWhole ['0']
  | digits {d : Char} {ds : List Char} (nonzero : d ≠ '0') (digits : IsDigits (d :: ds)) :
      IsWhole (d :: ds)

/-- A whole number with or without a sign. -/
inductive SpellsInteger : Option Nat → List Char → Prop where
  | natural {ds : List Char} (whole : IsWhole ds) :
      SpellsInteger (some (Text.decimalValue ds)) ds
  | negative {ds : List Char} (whole : IsWhole ds) : SpellsInteger none ('-' :: ds)

inductive IsFraction : List Char → Prop where
  | absent : IsFraction []
  | digits {ds : List Char} (digits : IsDigits ds) : IsFraction ('.' :: ds)

inductive IsExponent : List Char → Prop where
  | absent : IsExponent []
  | digits {c : Char} {sign ds : List Char} (mark : c = 'e' ∨ c = 'E')
      (signed : sign = [] ∨ sign = ['+'] ∨ sign = ['-']) (digits : IsDigits ds) :
      IsExponent (c :: sign ++ ds)

inductive SpellsNumber : Option Nat → List Char → Prop where
  | integer {n : Option Nat} {cs : List Char} (integer : SpellsInteger n cs) : SpellsNumber n cs
  | real {n : Option Nat} {cs fs es : List Char} (integer : SpellsInteger n cs)
      (fraction : IsFraction fs) (exponent : IsExponent es) (more : fs ≠ [] ∨ es ≠ []) :
      SpellsNumber none (cs ++ fs ++ es)

/-! ## Texts -/

/-- What stands between quotes: a character, or an escaped code unit, which may be one half of a
character. -/
inductive TextPart : Type where
  | char (c : Char)
  | unit (u : Nat)
deriving DecidableEq, Repr

/-- The characters with an escape of one letter. -/
def letters : List (Char × Char) :=
  [('"', '"'), ('\\', '\\'), ('/', '/'), ('b', Char.ofNat 0x08), ('f', Char.ofNat 0x0C),
    ('n', '\n'), ('r', '\r'), ('t', '\t')]

inductive TextPart.Spells : TextPart → List Char → Prop where
  | plain {c : Char} (quote : c ≠ '"') (backslash : c ≠ '\\') (visible : 0x20 ≤ c.toNat) :
      Spells (.char c) [c]
  | letter {x c : Char} (letter : (x, c) ∈ letters) : Spells (.char c) ['\\', x]
  | unit {u : Nat} {ds : List Char} (four : ds.length = 4) (value : Text.hexNumber? ds = some u) :
      Spells (.unit u) ('\\' :: 'u' :: ds)

inductive SpellsParts : List TextPart → List Char → Prop where
  | nil : SpellsParts [] []
  | cons {p : TextPart} {ps : List TextPart} {cs ds : List Char} (first : p.Spells cs)
      (rest : SpellsParts ps ds) : SpellsParts (p :: ps) (cs ++ ds)

open TextState (isLeading isTrailing) in
/-- The characters that the parts stand for, if every surrogate has its partner. -/
def textOf? : List TextPart → Option (List Char)
  | [] => some []
  | .char c :: ps => (textOf? ps).map (c :: ·)
  | .unit u :: ps =>
      if isLeading u then
        match ps with
        | .unit t :: ps =>
            if isTrailing t then
              (textOf? ps).map (Char.ofNat (0x10000 + (u - 0xD800) * 0x400 + (t - 0xDC00)) :: ·)
            else none
        | _ => none
      else if isTrailing u then none
      else (textOf? ps).map (Char.ofNat u :: ·)

inductive SpellsText : Option String → List Char → Prop where
  | quoted {ps : List TextPart} {cs : List Char} (parts : SpellsParts ps cs) :
      SpellsText ((textOf? ps).map String.ofList) ('"' :: cs ++ ['"'])

section Units

open TextState (isLeading isTrailing)

variable {u t : Nat} {ps : List TextPart}

/-- No code unit is both halves. -/
theorem isLeading_of_isTrailing (trails : isTrailing t = true) : isLeading t = false := by
  have range := of_decide_eq_true trails
  exact decide_eq_false (by omega)

/-- A code unit that is no half of a character stands for one by itself. -/
theorem textOf?_unit (leads : isLeading u = false) (trails : isTrailing u = false) :
    textOf? (.unit u :: ps) = (textOf? ps).map (Char.ofNat u :: ·) := by
  cases ps with
  | nil => simp [textOf?, leads, trails]
  | cons p ps => cases p <;> simp [textOf?, leads, trails]

theorem textOf?_pair (leads : isLeading u = true) (trails : isTrailing t = true) :
    textOf? (.unit u :: .unit t :: ps) =
      (textOf? ps).map (Char.ofNat (0x10000 + (u - 0xD800) * 0x400 + (t - 0xDC00)) :: ·) := by
  simp [textOf?, leads, trails]

/-- One half of a character without the other. -/
theorem textOf?_leading (leads : isLeading u = true)
    (lone : ∀ t qs, ps = .unit t :: qs → isTrailing t = false) :
    textOf? (.unit u :: ps) = none := by
  cases ps with
  | nil => simp [textOf?, leads]
  | cons p qs =>
      cases p with
      | char c => simp [textOf?, leads]
      | unit t => simp [textOf?, leads, lone t qs rfl]

theorem textOf?_trailing (trails : isTrailing t = true) : textOf? (.unit t :: ps) = none := by
  have leads := isLeading_of_isTrailing trails
  cases ps with
  | nil => simp [textOf?, leads, trails]
  | cons p qs => cases p <;> simp [textOf?, leads, trails]

end Units

/-! ## Values -/

/-- What a stretch of a text stands for: a value, a member of an object, or what follows the first
item of an array or the first member of an object, up to its end. -/
inductive Phrase : Type where
  | value (v : Value)
  | items (vs : List Value)
  | member (key : Option String) (v : Value)
  | members (ms : List (Option String × Value))

inductive Spells : Phrase → List Char → Prop where
  | null : Spells (.value .null) "null".toList
  | bool (b : Bool) : Spells (.value (.bool b)) (if b then "true".toList else "false".toList)
  | number {n : Option Nat} {cs : List Char} (number : SpellsNumber n cs) :
      Spells (.value (.number n)) cs
  | text {s : Option String} {cs : List Char} (text : SpellsText s cs) :
      Spells (.value (.text s)) cs
  | emptyArray {sp : List Char} (space : IsSpace sp) :
      Spells (.value (.array [])) ('[' :: sp ++ [']'])
  | array {v : Value} {vs : List Value} {sp cs ds : List Char} (space : IsSpace sp)
      (first : Spells (.value v) cs) (rest : Spells (.items vs) ds) :
      Spells (.value (.array (v :: vs))) ('[' :: sp ++ cs ++ ds)
  | noItem {sp : List Char} (space : IsSpace sp) : Spells (.items []) (sp ++ [']'])
  | item {v : Value} {vs : List Value} {sp tp cs ds : List Char} (before : IsSpace sp)
      (after : IsSpace tp) (next : Spells (.value v) cs) (rest : Spells (.items vs) ds) :
      Spells (.items (v :: vs)) (sp ++ ',' :: tp ++ cs ++ ds)
  | emptyObject {sp : List Char} (space : IsSpace sp) :
      Spells (.value (.object [])) ('{' :: sp ++ ['}'])
  | object {k : Option String} {v : Value} {ms : List (Option String × Value)}
      {sp cs ds : List Char} (space : IsSpace sp) (first : Spells (.member k v) cs)
      (rest : Spells (.members ms) ds) :
      Spells (.value (.object ((k, v) :: ms))) ('{' :: sp ++ cs ++ ds)
  | member {k : Option String} {v : Value} {ks sp tp cs : List Char} (key : SpellsText k ks)
      (before : IsSpace sp) (after : IsSpace tp) (value : Spells (.value v) cs) :
      Spells (.member k v) (ks ++ sp ++ ':' :: tp ++ cs)
  | noMember {sp : List Char} (space : IsSpace sp) : Spells (.members []) (sp ++ ['}'])
  | nextMember {k : Option String} {v : Value} {ms : List (Option String × Value)}
      {sp tp cs ds : List Char} (before : IsSpace sp) (after : IsSpace tp)
      (next : Spells (.member k v) cs) (rest : Spells (.members ms) ds) :
      Spells (.members ((k, v) :: ms)) (sp ++ ',' :: tp ++ cs ++ ds)

/-- The text is a spelling of the value, with white space around it. -/
inductive Spelt (v : Value) : List Char → Prop where
  | text {sp cs tp : List Char} (before : IsSpace sp) (value : Spells (.value v) cs)
      (after : IsSpace tp) : Spelt v (sp ++ cs ++ tp)

/-! ## What is written is a spelling -/

theorem isDigits_toString (n : Nat) : IsDigits (toString n).toList := by
  refine ⟨?_, fun d mem => Text.isDigit_of_mem mem⟩
  rw [Text.toList_toString]
  exact Nat.toDigits_ne_nil

/-- No number but zero is written with a leading zero. -/
theorem toDigits_eq_cons {n : Nat} (pos : 0 < n) :
    ∃ d ds, Nat.toDigits 10 n = d :: ds ∧ d ≠ '0' := by
  have nonzero : ∀ d < 10, 0 < d → d.digitChar ≠ '0' := by decide
  induction n using Nat.strongRecOn with
  | ind n ih =>
      rcases Nat.lt_or_ge n 10 with small | large
      · exact ⟨n.digitChar, [], Nat.toDigits_of_lt_base small, nonzero n small pos⟩
      · obtain ⟨d, ds, higher, first⟩ := ih (n / 10) (by omega) (by omega)
        refine ⟨d, ds ++ [(n % 10).digitChar], ?_, first⟩
        rw [Nat.toDigits_of_base_le (by decide) large, higher, List.cons_append]

theorem isWhole_toString (n : Nat) : IsWhole (toString n).toList := by
  rcases Nat.eq_zero_or_pos n with rfl | pos
  · exact .zero
  · have digits := isDigits_toString n
    rw [Text.toList_toString] at digits ⊢
    obtain ⟨d, ds, written, nonzero⟩ := toDigits_eq_cons pos
    rw [written] at digits ⊢
    exact .digits nonzero digits

theorem spells_numberChars (n : Option Nat) : SpellsNumber n (numberChars n) := by
  cases n with
  | none => exact .integer (.negative .zero)
  | some n =>
      have natural := SpellsInteger.natural (isWhole_toString n)
      rw [Text.decimalValue_toString] at natural
      exact .integer natural

/-- A character is written as itself, or as an escape that stands for it. -/
theorem spells_escapeChar (c : Char) :
    ∃ p : TextPart, p.Spells (escapeChar c) ∧
      ∀ ps, textOf? (p :: ps) = (textOf? ps).map (c :: ·) := by
  have letter {x : Char} (mem : (x, c) ∈ letters) : ∃ p : TextPart, p.Spells ['\\', x] ∧
      ∀ ps, textOf? (p :: ps) = (textOf? ps).map (c :: ·) :=
    ⟨.char c, .letter mem, fun ps => rfl⟩
  have code {n : Nat} (same : c.toNat = n) : c = Char.ofNat n := by
    rw [← same, Char.ofNat_toNat]
  unfold escapeChar
  split
  next quote => subst quote; exact letter (by decide)
  split
  next backslash => subst backslash; exact letter (by decide)
  split
  next newline => subst newline; exact letter (by decide)
  split
  next carriage => subst carriage; exact letter (by decide)
  split
  next tab => subst tab; exact letter (by decide)
  split
  next back => rw [code back] at letter ⊢; exact letter (by decide)
  split
  next feed => rw [code feed] at letter ⊢; exact letter (by decide)
  split
  next control =>
    have value : Text.hexNumber? (Text.hexDigits 4 c.toNat) = some c.toNat := by
      rw [Text.hexNumber?_hexDigits, Nat.mod_eq_of_lt (by omega)]
    refine ⟨.unit c.toNat, .unit (Text.length_hexDigits 4 _) value, fun ps => ?_⟩
    rw [textOf?_unit (decide_eq_false (by omega)) (decide_eq_false (by omega)), Char.ofNat_toNat]
  next quote backslash _ _ _ _ _ visible =>
    exact ⟨.char c, .plain quote backslash (Nat.not_lt.mp visible), fun ps => rfl⟩

theorem spells_escapeChars (cs : List Char) :
    ∃ ps, SpellsParts ps (cs.flatMap escapeChar) ∧ textOf? ps = some cs := by
  induction cs with
  | nil => exact ⟨[], .nil, rfl⟩
  | cons c cs ih =>
      obtain ⟨p, first, stands⟩ := spells_escapeChar c
      obtain ⟨ps, rest, text⟩ := ih
      exact ⟨p :: ps, .cons first rest, by rw [stands, text]; rfl⟩

theorem spells_textChars (s : Option String) : SpellsText s (textChars s) := by
  cases s with
  | none =>
      have half : TextPart.Spells (.unit 0xD800) ['\\', 'u', 'd', '8', '0', '0'] :=
        .unit rfl rfl
      exact .quoted (.cons half .nil)
  | some s =>
      obtain ⟨ps, parts, text⟩ := spells_escapeChars s.toList
      have quoted := SpellsText.quoted parts
      rw [text, Option.map_some, String.ofList_toList] at quoted
      exact quoted

mutual

/-- **What is written for a value is a spelling of it.** -/
theorem spells_chars (v : Value) : Spells (.value v) v.chars := by
  match v with
  | .null => exact .null
  | .bool b => exact .bool b
  | .number n => exact .number (spells_numberChars n)
  | .text s => exact .text (spells_textChars s)
  | .array [] => exact .emptyArray isSpace_nil
  | .array (v :: vs) =>
      exact .array isSpace_nil (spells_chars v) (spells_itemChars vs)
  | .object [] => exact .emptyObject isSpace_nil
  | .object ((k, v) :: ms) =>
      have written : Value.chars (.object ((k, v) :: ms)) =
          '{' :: [] ++ (textChars k ++ ':' :: v.chars) ++ Value.memberChars ms := by
        simp [Value.chars]
      rw [written]
      exact .object isSpace_nil (spells_member k v) (spells_memberChars ms)

theorem spells_member (k : Option String) (v : Value) :
    Spells (.member k v) (textChars k ++ ':' :: v.chars) := by
  have member := Spells.member (spells_textChars k) isSpace_nil isSpace_nil (spells_chars v)
  rwa [List.append_nil, List.append_assoc, List.singleton_append] at member

theorem spells_itemChars (vs : List Value) : Spells (.items vs) (Value.itemChars vs) := by
  match vs with
  | [] => exact .noItem isSpace_nil
  | v :: vs => exact .item isSpace_nil isSpace_nil (spells_chars v) (spells_itemChars vs)

theorem spells_memberChars (ms : List (Option String × Value)) :
    Spells (.members ms) (Value.memberChars ms) := by
  match ms with
  | [] => exact .noMember isSpace_nil
  | (k, v) :: ms =>
      have written : Value.memberChars ((k, v) :: ms) =
          [] ++ ',' :: [] ++ (textChars k ++ ':' :: v.chars) ++ Value.memberChars ms := by
        simp [Value.memberChars]
      rw [written]
      exact .nextMember isSpace_nil isSpace_nil (spells_member k v) (spells_memberChars ms)

end

theorem spelt_chars (v : Value) : Spelt v v.chars := by
  have written := Spelt.text isSpace_nil (spells_chars v) isSpace_nil
  rwa [List.nil_append, List.append_nil] at written

end ClusterSingleton.Json
