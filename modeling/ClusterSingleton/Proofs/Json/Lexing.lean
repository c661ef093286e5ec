import Mathlib.Data.List.Induction
import Mathlib.Tactic.IntervalCases
import ClusterSingleton.Proofs.Json.Grammar

/-!
# Reading a spelling, token by token

The bytes of a spelling are cut into the tokens of its value. A number is no token before something
else follows, so that what was read is said of a lexer up to the number that it may still be in;
everything else is put together from `feed_append`, one constructor of the grammar at a time.
-/

namespace ClusterSingleton

/-- The bytes of some characters in UTF-8. -/
def utf8 (cs : List Char) : List UInt8 := cs.flatMap String.utf8EncodeChar

theorem utf8_append (cs ds : List Char) : utf8 (cs ++ ds) = utf8 cs ++ utf8 ds :=
  List.flatMap_append

theorem toUTF8_ofList (cs : List Char) : (String.ofList cs).toUTF8.data.toList = utf8 cs := by
  simp [String.toUTF8, List.utf8Encode, utf8]

/-- What was written in UTF-8 is read back. -/
theorem fromUTF8?_utf8 (cs : List Char) :
    String.fromUTF8? ⟨(utf8 cs).toArray⟩ = some (String.ofList cs) := by
  have same : (⟨(utf8 cs).toArray⟩ : ByteArray) = cs.utf8Encode := by
    ext1
    simp [List.utf8Encode, utf8]
  rw [same, String.fromUTF8?, dif_pos ⟨cs, rfl⟩]
  rfl

/-- An ASCII character is one byte, and no other character has a byte below 128. -/
theorem utf8_cases (c : Char) :
    c.toNat < 128 ∧ String.utf8EncodeChar c = [UInt8.ofNat c.toNat] ∨
      128 ≤ c.toNat ∧ ∀ b ∈ String.utf8EncodeChar c, 128 ≤ b.toNat := by
  by_cases ascii : c.toNat < 128
  · refine Or.inl ⟨ascii, ?_⟩
    have small : c.val.toNat ≤ 127 := Nat.le_of_lt_succ ascii
    simp only [String.utf8EncodeChar, if_pos small]
    rfl
  · refine Or.inr ⟨Nat.not_lt.mp ascii, ?_⟩
    have large : ¬ c.val.toNat ≤ 127 := fun h => ascii (Nat.lt_succ_of_le h)
    intro b mem
    simp only [String.utf8EncodeChar, large, if_false] at mem
    have bound (k : Nat) : k < 256 → (UInt8.ofNat k).toNat = k := fun h => by
      simp [Nat.mod_eq_of_lt h]
    split at mem
    · simp only [List.mem_cons, List.not_mem_nil, or_false] at mem
      rcases mem with rfl | rfl <;> rw [bound _ (by omega)] <;> omega
    · split at mem
      · simp only [List.mem_cons, List.not_mem_nil, or_false] at mem
        rcases mem with rfl | rfl | rfl <;> rw [bound _ (by omega)] <;> omega
      · simp only [List.mem_cons, List.not_mem_nil, or_false] at mem
        rcases mem with rfl | rfl | rfl | rfl <;> rw [bound _ (by omega)] <;> omega

namespace Json

namespace Lexer

/-- The state after the bytes of some characters. -/
def feed (l : Lexer) (cs : List Char) : Lexer := (utf8 cs).foldl step l

theorem feed_append (l : Lexer) (cs ds : List Char) :
    l.feed (cs ++ ds) = (l.feed cs).feed ds := by
  rw [feed, utf8_append, List.foldl_append]
  rfl

theorem feed_cons (l : Lexer) (c : Char) (cs : List Char) :
    l.feed (c :: cs) = (l.feed [c]).feed cs :=
  feed_append l [c] cs

@[simp] theorem feed_nil (l : Lexer) : l.feed [] = l := rfl

theorem toChar_ascii {c : Char} (ascii : c.toNat < 128) :
    Char.ofNat (UInt8.ofNat c.toNat).toNat = c := by
  rw [UInt8.toNat_ofNat', Nat.mod_eq_of_lt (by omega), Char.ofNat_toNat]

theorem feed_ascii (l : Lexer) {c : Char} (ascii : c.toNat < 128) :
    l.feed [c] = l.step (UInt8.ofNat c.toNat) := by
  rcases utf8_cases c with ⟨-, bytes⟩ | ⟨large, -⟩
  · rw [feed, utf8, List.flatMap_singleton, bytes]
    rfl
  · exact absurd ascii (Nat.not_lt.mpr large)

theorem feed_between (done : List Token) {c : Char} (ascii : c.toNat < 128) :
    feed ⟨.between, done⟩ [c] = start done c := by
  rw [feed_ascii _ ascii]
  simp only [step, toChar_ascii ascii]

end Lexer

/-! ## Texts -/

namespace TextState

/-- What was read of a text, with one more part. -/
def add (t : TextState) : TextPart → TextState
  | .char c => t.push (String.utf8EncodeChar c)
  | .unit u => t.pushUnit u

theorem push_cons (t : TextState) (b : UInt8) (bs : List UInt8) :
    (t.push [b]).push bs = t.push (b :: bs) := by
  simp [push]

theorem add_outside (t : TextState) (p : TextPart) : (t.add p).escape = .outside := by
  cases p with
  | char c => rfl
  | unit u =>
      simp only [add, pushUnit]
      repeat' split
      all_goals rfl

/-- What was read of a text is the characters `cs`, then perhaps a leading surrogate; before them,
all surrogates have their partners if `paired` is true. -/
def holding (cs : List Char) (leading : Option Nat) (paired : Bool) : TextState :=
  ⟨(utf8 cs).reverse, leading, paired, .outside⟩

theorem push_holding (cs : List Char) (leading : Option Nat) (paired : Bool) (c : Char) :
    (holding cs leading paired).push (String.utf8EncodeChar c) =
      holding (cs ++ [c]) none (paired && leading.isNone) := by
  simp [push, holding, utf8]

/-- A code unit behind nothing but whole characters. -/
theorem pushUnit_none (cs : List Char) (paired : Bool) (u : Nat) :
    (holding cs none paired).pushUnit u =
      if isLeading u then holding cs (some u) paired
      else if isTrailing u then holding cs none false
      else holding (cs ++ [Char.ofNat u]) none paired := by
  have whole := push_holding cs none paired (Char.ofNat u)
  rw [Option.isNone_none, Bool.and_true] at whole
  rw [← whole]
  rfl

/-- A code unit behind one half of a character. -/
theorem pushUnit_some (cs : List Char) (h : Nat) (paired : Bool) (u : Nat) :
    (holding cs (some h) paired).pushUnit u =
      if isTrailing u then
        holding (cs ++ [Char.ofNat (0x10000 + (h - 0xD800) * 0x400 + (u - 0xDC00))]) none paired
      else holding cs (if isLeading u then some u else none) false := by
  simp [pushUnit, holding, utf8]

theorem leads_none : ∀ h ∈ (none : Option Nat), isLeading h = true := by
  rintro h ⟨⟩

theorem leads_some {u : Nat} (leads : isLeading u = true) :
    ∀ h ∈ some u, isLeading h = true := by
  rintro h ⟨⟩
  exact leads

/-- **What is read is what the parts stand for**, behind the characters that were read before. -/
theorem finish_add (ps : List TextPart) (cs : List Char) (paired : Bool) {leading : Option Nat}
    (half : ∀ h ∈ leading, isLeading h = true) :
    (ps.foldl add (holding cs leading paired)).finish =
      if paired then
        (textOf? (leading.toList.map .unit ++ ps)).map fun ds => String.ofList (cs ++ ds)
      else none := by
  induction ps generalizing cs leading paired with
  | nil =>
      cases leading with
      | none =>
          cases paired with
          | false => rfl
          | true =>
              have text := fromUTF8?_utf8 cs
              simpa [finish, holding, textOf?] using text
      | some h => cases paired <;> simp [finish, holding, textOf?, half h rfl]
  | cons p ps ih =>
      have unpaired (ds : List Char) {leading : Option Nat}
          (half : ∀ h ∈ leading, isLeading h = true) :
          (ps.foldl add (holding ds leading false)).finish = none := ih ds false half
      rw [List.foldl_cons]
      cases p with
      | char c =>
          rw [add, push_holding]
          cases leading with
          | none =>
              rw [ih _ _ leads_none]
              cases paired <;> simp [textOf?, Function.comp_def]
          | some h =>
              have lone : textOf? (.unit h :: .char c :: ps) = none :=
                textOf?_leading (half h rfl) fun _ _ same => by cases same
              rw [Option.isNone_some, Bool.and_false, unpaired _ leads_none]
              simp [lone]
      | unit u =>
          cases trails : isTrailing u with
          | true =>
              cases leading with
              | none =>
                  have lone : textOf? (.unit u :: ps) = none := textOf?_trailing trails
                  rw [add, pushUnit_none]
                  simpa [isLeading_of_isTrailing trails, trails, lone] using
                    unpaired cs leads_none
              | some h =>
                  have whole := ih
                    (cs ++ [Char.ofNat (0x10000 + (h - 0xD800) * 0x400 + (u - 0xDC00))])
                    paired leads_none
                  rw [add, pushUnit_some]
                  simpa [trails, textOf?_pair (half h rfl) trails, Function.comp_def] using whole
          | false =>
              cases leading with
              | none =>
                  rw [add, pushUnit_none]
                  cases leads : isLeading u with
                  | true => exact ih cs paired (leads_some leads)
                  | false =>
                      have whole := ih (cs ++ [Char.ofNat u]) paired leads_none
                      simpa [trails, textOf?_unit leads trails, Function.comp_def] using whole
              | some h =>
                  have lone : textOf? (.unit h :: .unit u :: ps) = none := by
                    refine textOf?_leading (half h rfl) fun t qs same => ?_
                    cases same
                    exact trails
                  have next : ∀ h ∈ (if isLeading u then some u else none), isLeading h = true := by
                    split
                    next again => exact leads_some again
                    next => exact leads_none
                  rw [add, pushUnit_some]
                  simpa [trails, lone] using unpaired cs next

end TextState

namespace Lexer

section Texts

variable {t : TextState} {done : List Token}

/-- Whether a byte stands for itself between quotes. -/
def IsPlain (b : UInt8) : Prop :=
  0x20 ≤ b.toNat ∧ Char.ofNat b.toNat ≠ '"' ∧ Char.ofNat b.toNat ≠ '\\'

theorem step_plain {b : UInt8} (plain : IsPlain b) (outside : t.escape = .outside) :
    step ⟨.text t, done⟩ b = ⟨.text (t.push [b]), done⟩ := by
  obtain ⟨visible, quote, backslash⟩ := plain
  have above : ¬ b < 0x20 := by
    rw [UInt8.lt_iff_toNat_lt]
    exact Nat.not_lt.mpr visible
  simp [step, TextState.next?, outside, quote, backslash, above]

/-- Plain bytes one after the other. -/
theorem steps_plain {bs : List UInt8} (plain : ∀ b ∈ bs, IsPlain b) (nonempty : bs ≠ [])
    (outside : t.escape = .outside) :
    bs.foldl step ⟨.text t, done⟩ = ⟨.text (t.push bs), done⟩ := by
  induction bs generalizing t with
  | nil => exact absurd rfl nonempty
  | cons b bs ih =>
      rw [List.forall_mem_cons] at plain
      rw [List.foldl_cons, step_plain plain.1 outside]
      cases bs with
      | nil => rfl
      | cons c bs => rw [ih plain.2 (by simp) rfl, TextState.push_cons]

/-- A character that is written as it is. -/
theorem plain_utf8 {c : Char} (quote : c ≠ '"') (backslash : c ≠ '\\')
    (visible : 0x20 ≤ c.toNat) : ∀ b ∈ String.utf8EncodeChar c, IsPlain b := by
  rcases utf8_cases c with ⟨ascii, bytes⟩ | ⟨-, large⟩
  · rw [bytes, List.forall_mem_singleton, IsPlain, toChar_ascii ascii]
    refine ⟨?_, quote, backslash⟩
    rw [UInt8.toNat_ofNat', Nat.mod_eq_of_lt (by omega)]
    exact visible
  · intro b mem
    have high := large b mem
    have other (d : Char) (ascii : d.toNat < 128) : Char.ofNat b.toNat ≠ d := by
      rintro rfl
      have valid : b.toNat.isValidChar := Or.inl (Nat.lt_trans b.toNat_lt (by decide))
      have value : (Char.ofNat b.toNat).toNat = b.toNat := by
        rw [Char.ofNat, dif_pos valid]
        rfl
      omega
    exact ⟨by omega, other '"' (by decide), other '\\' (by decide)⟩

theorem step_backslash (outside : t.escape = .outside) :
    feed ⟨.text t, done⟩ ['\\'] = ⟨.text { t with escape := .backslash }, done⟩ := by
  rw [feed_ascii _ (by decide)]
  simp [step, TextState.next?, outside]

/-- An escape of one letter. -/
theorem feed_letter (outside : t.escape = .outside) {x : Char} {b : UInt8} (ascii : x.toNat < 128)
    (letter : TextState.escaped? x = some b) :
    feed ⟨.text t, done⟩ ['\\', x] = ⟨.text (t.push [b]), done⟩ := by
  have other : x ≠ 'u' := by
    rintro rfl
    cases letter
  rw [feed_cons, step_backslash outside, feed_ascii _ ascii]
  simp only [step, TextState.next?, toChar_ascii ascii]
  simp [other, letter, TextState.push]

/-- The first digits of a code unit. -/
theorem feed_unitDigits {ds : List Char} {u : Nat} (short : ds.length ≤ 3)
    (value : Text.hexNumber? ds = some u) :
    feed ⟨.text { t with escape := .unit 0 0 }, done⟩ ds =
      ⟨.text { t with escape := .unit ds.length u }, done⟩ := by
  induction ds using List.reverseRecOn generalizing u with
  | nil =>
      cases value
      rfl
  | append_singleton ds x ih =>
      rw [List.length_append, List.length_singleton] at short
      rw [Text.hexNumber?_snoc] at value
      obtain ⟨v, before, value⟩ := Option.bind_eq_some_iff.mp value
      obtain ⟨d, digit, rfl⟩ := Option.map_eq_some_iff.mp value
      have early : ds.length ≠ 3 := by omega
      have ascii := Text.ascii_of_hexValue? digit
      rw [feed_append, ih (by omega) before, feed_ascii _ ascii]
      simp only [step, TextState.next?, toChar_ascii ascii, digit]
      simp [early]

/-- An escaped code unit. -/
theorem feed_unit (outside : t.escape = .outside) {ds : List Char} {u : Nat}
    (four : ds.length = 4) (value : Text.hexNumber? ds = some u) :
    feed ⟨.text t, done⟩ ('\\' :: 'u' :: ds) = ⟨.text (t.pushUnit u), done⟩ := by
  have begun : feed ⟨.text t, done⟩ ['\\', 'u'] =
      ⟨.text { t with escape := .unit 0 0 }, done⟩ := by
    rw [feed_cons, step_backslash outside, feed_ascii _ (by decide)]
    simp [step, TextState.next?]
  obtain ⟨first, x, rfl⟩ : ∃ first x, ds = first ++ [x] := by
    have nonempty : ds ≠ [] := by
      rintro rfl
      cases four
    exact ⟨_, _, (List.dropLast_concat_getLast nonempty).symm⟩
  have three : first.length = 3 := by simpa using four
  rw [Text.hexNumber?_snoc] at value
  obtain ⟨v, before, value⟩ := Option.bind_eq_some_iff.mp value
  obtain ⟨d, digit, rfl⟩ := Option.map_eq_some_iff.mp value
  have ascii := Text.ascii_of_hexValue? digit
  rw [show '\\' :: 'u' :: (first ++ [x]) = ['\\', 'u'] ++ first ++ [x] from rfl, feed_append,
    feed_append, begun, feed_unitDigits (by omega) before, feed_ascii _ ascii]
  simp only [step, TextState.next?, toChar_ascii ascii, digit]
  simp [three, TextState.pushUnit, TextState.push]

/-- **Each part of a text is read**, however it is spelt. -/
theorem feed_part {p : TextPart} {cs : List Char} (spelt : p.Spells cs)
    (outside : t.escape = .outside) : feed ⟨.text t, done⟩ cs = ⟨.text (t.add p), done⟩ := by
  cases spelt with
  | @plain c quote backslash visible =>
      have plain := plain_utf8 quote backslash visible
      rw [feed, utf8, List.flatMap_singleton]
      exact steps_plain plain String.utf8EncodeChar_ne_nil outside
  | @letter x c mem =>
      have each : ∀ l ∈ letters, l.1.toNat < 128 ∧
          (TextState.escaped? l.1).map (fun b => [b]) = some (String.utf8EncodeChar l.2) := by
        decide
      obtain ⟨ascii, letter⟩ := each (x, c) mem
      obtain ⟨b, letter, bytes⟩ := Option.map_eq_some_iff.mp letter
      rw [feed_letter outside ascii letter, bytes]
      rfl
  | unit four value => exact feed_unit outside four value

theorem feed_parts {ps : List TextPart} {cs : List Char} (spelt : SpellsParts ps cs)
    (outside : t.escape = .outside) :
    feed ⟨.text t, done⟩ cs = ⟨.text (ps.foldl TextState.add t), done⟩ := by
  induction spelt generalizing t with
  | nil => rfl
  | @cons p ps cs ds first rest ih =>
      rw [feed_append, feed_part first outside, ih (t.add_outside p)]
      rfl

theorem add_parts_outside (ps : List TextPart) (outside : t.escape = .outside) :
    (ps.foldl TextState.add t).escape = .outside := by
  induction ps generalizing t with
  | nil => exact outside
  | cons p ps ih => exact ih (t.add_outside p)

/-- **A text is read**, and so is that it was none. -/
theorem feed_text {s : Option String} {cs : List Char} (spelt : SpellsText s cs)
    (done : List Token) : feed ⟨.between, done⟩ cs = ⟨.between, .text s :: done⟩ := by
  cases spelt with
  | @quoted ps cs parts =>
      have opened : feed ⟨.between, done⟩ ['"'] = ⟨.text (.holding [] none true), done⟩ :=
        feed_between done (by decide)
      have outside : (ps.foldl TextState.add (.holding [] none true)).escape = .outside :=
        add_parts_outside ps rfl
      have read := TextState.finish_add ps [] true TextState.leads_none
      have closed : feed ⟨.text (ps.foldl TextState.add (.holding [] none true)), done⟩ ['"'] =
          ⟨.between, .text ((textOf? ps).map String.ofList) :: done⟩ := by
        rw [feed_ascii _ (by decide)]
        simpa [step, outside, emit] using read
      rw [List.cons_append, feed_cons, opened, feed_append, feed_parts parts rfl, closed]

end Texts

/-! ## White space -/

section Spaces

variable {done : List Token}

/-- All that was read is `done`; the last of it may be a number that could go on. -/
inductive Reads (done : List Token) : Lexer → Prop where
  | between : Reads done ⟨.between, done⟩
  | number {s : NumberState} {rest : List Token} (complete : s.isComplete = true)
      (last : done = .atom (.number s.value) :: rest) : Reads done ⟨.number s, rest⟩

/-- The characters that follow values and keys. -/
def delimiters : List Char := blanks ++ [',', ':', ']', '}']

theorem delimiter_ascii {c : Char} (delimits : c ∈ delimiters) : c.toNat < 128 := by
  have each : delimiters.all (fun c => decide (c.toNat < 128)) = true := by decide
  exact of_decide_eq_true (List.all_eq_true.mp each c delimits)

theorem next?_delimiter (s : NumberState) {c : Char} (delimits : c ∈ delimiters) :
    s.next? c = none := by
  obtain ⟨part, value⟩ := s
  simp only [delimiters, blanks, List.cons_append, List.nil_append, List.mem_cons,
    List.not_mem_nil, or_false] at delimits
  rcases delimits with rfl | rfl | rfl | rfl | rfl | rfl | rfl | rfl <;> cases part <;> rfl

theorem Reads.delimit {l : Lexer} (h : Reads done l) {c : Char} (delimits : c ∈ delimiters) :
    l.feed [c] = start done c := by
  have ascii := delimiter_ascii delimits
  cases h with
  | between => exact feed_between done ascii
  | @number s rest complete last =>
      rw [feed_ascii _ ascii, last]
      simp only [step, toChar_ascii ascii, next?_delimiter s delimits, complete, if_true]

theorem Reads.finish {l : Lexer} (h : Reads done l) : l.finish? = some done.reverse := by
  cases h with
  | between => rfl
  | number complete last => simp only [finish?, complete, if_true, last]

theorem start_blank {c : Char} (blank : c ∈ blanks) : start done c = ⟨.between, done⟩ := by
  simp only [blanks, List.mem_cons, List.not_mem_nil, or_false] at blank
  rcases blank with rfl | rfl | rfl | rfl <;> rfl

/-- **White space between tokens is nothing.** -/
theorem feed_space {sp : List Char} (space : IsSpace sp) :
    feed ⟨.between, done⟩ sp = ⟨.between, done⟩ := by
  induction sp with
  | nil => rfl
  | cons c sp ih =>
      obtain ⟨blank, rest⟩ := List.forall_mem_cons.mp space
      have delimits : c ∈ delimiters := List.mem_append_left _ blank
      rw [feed_cons, feed_between done (delimiter_ascii delimits), start_blank blank, ih rest]

theorem Reads.space {l : Lexer} (h : Reads done l) {sp : List Char} (space : IsSpace sp) :
    Reads done (l.feed sp) := by
  cases sp with
  | nil => exact h
  | cons c sp =>
      obtain ⟨blank, rest⟩ := List.forall_mem_cons.mp space
      rw [feed_cons, h.delimit (List.mem_append_left _ blank), start_blank blank, feed_space rest]
      exact .between

end Spaces

/-! ## Numbers -/

section Numbers

variable {done : List Token}

theorem digit_ascii {c : Char} (digit : Text.isDigit c = true) : c.toNat < 128 := by
  have range := Text.isDigit_iff.mp digit
  omega

theorem start_digit {c : Char} (digit : Text.isDigit c = true) :
    start done c =
      ⟨.number ⟨if c = '0' then .zero else .whole, some (Text.digitValue c)⟩, done⟩ := by
  obtain ⟨low, high⟩ := Text.isDigit_iff.mp digit
  rw [← Char.ofNat_toNat c]
  generalize c.toNat = n at low high
  interval_cases n <;> rfl

theorem feed_next {s t : NumberState} {c : Char} (ascii : c.toNat < 128)
    (next : s.next? c = some t) : feed ⟨.number s, done⟩ [c] = ⟨.number t, done⟩ := by
  rw [feed_ascii _ ascii]
  simp only [step, toChar_ascii ascii, next]

/-- Digits whose values are not counted. -/
theorem feed_digits {s t : NumberState} {ds : List Char} (digits : IsDigits ds)
    (first : ∀ d, Text.isDigit d = true → s.next? d = some t)
    (again : ∀ d, Text.isDigit d = true → t.next? d = some t) :
    feed ⟨.number s, done⟩ ds = ⟨.number t, done⟩ := by
  obtain ⟨nonempty, digits⟩ := digits
  induction ds generalizing s with
  | nil => exact absurd rfl nonempty
  | cons d ds ih =>
      obtain ⟨digit, rest⟩ := List.forall_mem_cons.mp digits
      rw [feed_cons, feed_next (digit_ascii digit) (first d digit)]
      cases ds with
      | nil => rfl
      | cons e ds => exact ih again (List.cons_ne_nil e ds) rest

/-- The digits of a whole number after its first. -/
theorem feed_wholeDigits {ds : List Char} (digits : ∀ d ∈ ds, Text.isDigit d = true)
    (value : Option Nat) :
    feed ⟨.number ⟨.whole, value⟩, done⟩ ds =
      ⟨.number ⟨.whole, value.map fun n => ds.foldl (fun n c => 10 * n + Text.digitValue c) n⟩,
        done⟩ := by
  induction ds generalizing value with
  | nil => cases value <;> rfl
  | cons d ds ih =>
      obtain ⟨digit, rest⟩ := List.forall_mem_cons.mp digits
      have next : NumberState.next? ⟨.whole, value⟩ d =
          some ⟨.whole, value.map fun n => 10 * n + Text.digitValue d⟩ := by
        simp only [NumberState.next?, digit, if_true]
      rw [feed_cons, feed_next (digit_ascii digit) next, ih rest, Option.map_map]
      rfl

/-- The parts of a number that a whole number may end with. -/
def wholeParts : List NumberPart := [.zero, .whole]

/-- A whole number, alone or behind a sign. -/
theorem feed_whole {ds : List Char} (whole : IsWhole ds) (done : List Token) :
    ∃ part ∈ wholeParts,
      feed ⟨.between, done⟩ ds = ⟨.number ⟨part, some (Text.decimalValue ds)⟩, done⟩ ∧
        feed ⟨.number ⟨.minus, none⟩, done⟩ ds = ⟨.number ⟨part, none⟩, done⟩ := by
  cases whole with
  | zero => exact ⟨.zero, by decide, rfl, rfl⟩
  | @digits d ds nonzero digits =>
      obtain ⟨digit, rest⟩ := List.forall_mem_cons.mp digits.2
      have ascii := digit_ascii digit
      have signed : NumberState.next? ⟨.minus, none⟩ d = some ⟨.whole, none⟩ := by
        simp only [NumberState.next?, nonzero, digit, if_true, if_false]
      have value : Text.decimalValue (d :: ds) =
          ds.foldl (fun n c => 10 * n + Text.digitValue c) (Text.digitValue d) := by
        rw [Text.decimalValue, List.foldl_cons, Nat.mul_zero, Nat.zero_add]
      refine ⟨.whole, by decide, ?_, ?_⟩
      · rw [feed_cons, feed_between done ascii, start_digit digit, if_neg nonzero,
          feed_wholeDigits rest, value]
        rfl
      · rw [feed_cons, feed_next ascii signed, feed_wholeDigits rest]
        rfl

theorem feed_integer {n : Option Nat} {cs : List Char} (integer : SpellsInteger n cs)
    (done : List Token) :
    ∃ part ∈ wholeParts, feed ⟨.between, done⟩ cs = ⟨.number ⟨part, n⟩, done⟩ := by
  cases integer with
  | natural whole =>
      obtain ⟨part, mem, alone, -⟩ := feed_whole whole done
      exact ⟨part, mem, alone⟩
  | @negative ds whole =>
      obtain ⟨part, mem, -, signed⟩ := feed_whole whole done
      have sign : feed ⟨.between, done⟩ ['-'] = ⟨.number ⟨.minus, none⟩, done⟩ := rfl
      refine ⟨part, mem, ?_⟩
      rw [feed_cons, sign, signed]

theorem feed_fraction {fs : List Char} (fraction : IsFraction fs) {part : NumberPart}
    (whole : part ∈ wholeParts) (n : Option Nat) (done : List Token) :
    ∃ p ∈ .fraction :: wholeParts,
      feed ⟨.number ⟨part, n⟩, done⟩ fs =
        ⟨.number ⟨p, if fs = [] then n else none⟩, done⟩ := by
  cases fraction with
  | absent => exact ⟨part, List.mem_cons_of_mem _ whole, rfl⟩
  | @digits ds digits =>
      have point : NumberState.next? ⟨part, n⟩ '.' = some ⟨.point, none⟩ := by
        simp only [wholeParts, List.mem_cons, List.not_mem_nil, or_false] at whole
        rcases whole with rfl | rfl <;> rfl
      have digit (d : Char) (digit : Text.isDigit d = true) :
          NumberState.next? ⟨.point, none⟩ d = some ⟨.fraction, none⟩ ∧
            NumberState.next? ⟨.fraction, none⟩ d = some ⟨.fraction, none⟩ := by
        simp only [NumberState.next?, digit, if_true, and_self]
      refine ⟨.fraction, List.mem_cons_self, ?_⟩
      rw [feed_cons, feed_next (by decide) point,
        feed_digits digits (fun d is => (digit d is).1) fun d is => (digit d is).2]
      rfl

theorem feed_exponent {es : List Char} (exponent : IsExponent es) {part : NumberPart}
    (ended : part ∈ .fraction :: wholeParts) (n : Option Nat) (done : List Token) :
    ∃ p ∈ .exponent :: .fraction :: wholeParts,
      feed ⟨.number ⟨part, n⟩, done⟩ es =
        ⟨.number ⟨p, if es = [] then n else none⟩, done⟩ := by
  cases exponent with
  | absent => exact ⟨part, List.mem_cons_of_mem _ ended, rfl⟩
  | @digits c sign ds mark signed digits =>
      have ascii : c.toNat < 128 := by rcases mark with rfl | rfl <;> decide
      have marked : NumberState.next? ⟨part, n⟩ c = some ⟨.mark, none⟩ := by
        simp only [wholeParts, List.mem_cons, List.not_mem_nil, or_false] at ended
        rcases mark with rfl | rfl <;> rcases ended with rfl | rfl | rfl <;> rfl
      have digit (d : Char) (digit : Text.isDigit d = true) :
          NumberState.next? ⟨.mark, none⟩ d = some ⟨.exponent, none⟩ ∧
            NumberState.next? ⟨.markSign, none⟩ d = some ⟨.exponent, none⟩ ∧
              NumberState.next? ⟨.exponent, none⟩ d = some ⟨.exponent, none⟩ := by
        simp only [NumberState.next?, digit, if_true, and_self]
      have again (d : Char) (is : Text.isDigit d = true) := (digit d is).2.2
      refine ⟨.exponent, List.mem_cons_self, ?_⟩
      rw [List.cons_append, feed_cons, feed_next ascii marked, feed_append]
      rcases signed with rfl | rfl | rfl
      · rw [feed_nil, feed_digits digits (fun d is => (digit d is).1) again]
        rfl
      all_goals
        rw [feed_next (t := ⟨.markSign, none⟩) (by decide) rfl,
          feed_digits digits (fun d is => (digit d is).2.1) again]
        rfl

/-- **A number is read**, and so is that it is no plain one. -/
theorem feed_number {n : Option Nat} {cs : List Char} (number : SpellsNumber n cs)
    (done : List Token) :
    Reads (.atom (.number n) :: done) (feed ⟨.between, done⟩ cs) := by
  have complete {part : NumberPart} (ended : part ∈ .exponent :: .fraction :: wholeParts)
      (value : Option Nat) : NumberState.isComplete ⟨part, value⟩ = true := by
    simp only [wholeParts, List.mem_cons, List.not_mem_nil, or_false] at ended
    rcases ended with rfl | rfl | rfl | rfl <;> rfl
  cases number with
  | integer integer =>
      obtain ⟨part, whole, read⟩ := feed_integer integer done
      have ended := List.mem_cons_of_mem NumberPart.fraction whole
      rw [read]
      exact .number (complete (List.mem_cons_of_mem _ ended) n) rfl
  | @real m cs fs es integer fraction exponent more =>
      obtain ⟨part, whole, first⟩ := feed_integer integer done
      obtain ⟨p, ended, second⟩ := feed_fraction fraction whole m done
      obtain ⟨q, last, third⟩ := feed_exponent exponent ended
        (if fs = [] then m else none) done
      have value : (if es = [] then (if fs = [] then m else none) else none) = none := by
        rcases more with long | long <;> simp [long]
      rw [feed_append, feed_append, first, second, third, value]
      exact .number (complete last none) rfl

end Numbers

end Lexer

/-! ## Values -/

namespace Value

mutual

/-- The tokens of a value. -/
def tokens : Value → List Token
  | .null => [.atom .null]
  | .bool b => [.atom (.bool b)]
  | .number n => [.atom (.number n)]
  | .text s => [.text s]
  | .array [] => [.openBracket, .closeBracket]
  | .array (v :: vs) => .openBracket :: tokens v ++ itemTokens vs
  | .object [] => [.openBrace, .closeBrace]
  | .object ((k, v) :: ms) => .openBrace :: .text k :: .colon :: tokens v ++ memberTokens ms

/-- The tokens of the items after the first, and of the end of the array. -/
def itemTokens : List Value → List Token
  | [] => [.closeBracket]
  | v :: vs => .comma :: tokens v ++ itemTokens vs

/-- The tokens of the members after the first, and of the end of the object. -/
def memberTokens : List (Option String × Value) → List Token
  | [] => [.closeBrace]
  | (k, v) :: ms => .comma :: .text k :: .colon :: tokens v ++ memberTokens ms

end

end Value

namespace Phrase

def tokens : Phrase → List Token
  | value v => v.tokens
  | items vs => Value.itemTokens vs
  | member key v => .text key :: .colon :: v.tokens
  | members ms => Value.memberTokens ms

/-- Where a phrase is read: a value or a member begins anew, all others follow what may be a number
that could go on. -/
def Follows (done : List Token) (l : Lexer) : Phrase → Prop
  | value _ | member _ _ => l = ⟨.between, done⟩
  | items _ | members _ => Lexer.Reads done l

end Phrase

namespace Lexer

/-- **Every spelling is cut into the tokens of what it stands for.** -/
theorem feed_spells {p : Phrase} {cs : List Char} (spelt : Spells p cs) (done : List Token)
    {l : Lexer} (follows : p.Follows done l) :
    Reads (p.tokens.reverse ++ done) (l.feed cs) := by
  have mark (before : List Token) : feed ⟨.between, before⟩ ['['] =
        ⟨.between, .openBracket :: before⟩ ∧
      feed ⟨.between, before⟩ ['{'] = ⟨.between, .openBrace :: before⟩ := ⟨rfl, rfl⟩
  induction spelt generalizing done l with
  | null =>
      cases follows
      exact .between
  | bool b =>
      cases follows
      cases b <;> exact .between
  | number number =>
      cases follows
      exact feed_number number done
  | text text =>
      cases follows
      rw [feed_text text]
      exact .between
  | @emptyArray sp space =>
      cases follows
      rw [List.cons_append, feed_cons, (mark done).1, feed_append, feed_space space]
      exact .between
  | @array v vs sp cs ds space first rest value items =>
      cases follows
      have read := items _ (value (.openBracket :: done) rfl)
      rw [List.cons_append, List.cons_append, feed_cons, (mark done).1, feed_append, feed_append,
        feed_space space]
      simpa [Phrase.tokens, Value.tokens] using read
  | noItem space =>
      rw [feed_append, (Reads.space follows space).delimit (by decide)]
      exact .between
  | @item v vs sp tp cs ds before after next rest value items =>
      have comma : (l.feed sp).feed [','] = ⟨.between, .comma :: done⟩ :=
        (Reads.space follows before).delimit (by decide)
      have read := items _ (value (.comma :: done) rfl)
      rw [feed_append, feed_append, feed_append, feed_cons, comma, feed_space after]
      simpa [Phrase.tokens, Value.itemTokens] using read
  | @emptyObject sp space =>
      cases follows
      rw [List.cons_append, feed_cons, (mark done).2, feed_append, feed_space space]
      exact .between
  | @object k v ms sp cs ds space first rest member members =>
      cases follows
      have read := members _ (member (.openBrace :: done) rfl)
      rw [List.cons_append, List.cons_append, feed_cons, (mark done).2, feed_append, feed_append,
        feed_space space]
      simpa [Phrase.tokens, Value.tokens] using read
  | @member k v ks sp tp cs key before after value ih =>
      cases follows
      have colon : feed ⟨.between, .text k :: done⟩ [':'] =
          ⟨.between, .colon :: .text k :: done⟩ := rfl
      have read := ih (.colon :: .text k :: done) rfl
      rw [feed_append, feed_append, feed_append, feed_text key, feed_space before, feed_cons,
        colon, feed_space after]
      simpa [Phrase.tokens] using read
  | noMember space =>
      rw [feed_append, (Reads.space follows space).delimit (by decide)]
      exact .between
  | @nextMember k v ms sp tp cs ds before after next rest member members =>
      have comma : (l.feed sp).feed [','] = ⟨.between, .comma :: done⟩ :=
        (Reads.space follows before).delimit (by decide)
      have read := members _ (member (.comma :: done) rfl)
      rw [feed_append, feed_append, feed_append, feed_cons, comma, feed_space after]
      simpa [Phrase.tokens, Value.memberTokens] using read

end Lexer

theorem tokens?_spelt {v : Value} {cs : List Char} (spelt : Spelt v cs) :
    tokens? (utf8 cs) = some v.tokens := by
  cases spelt with
  | @text sp cs tp before value after =>
      have begun : Lexer.empty.feed sp = ⟨.between, []⟩ := Lexer.feed_space before
      have finished := ((Lexer.feed_spells value [] begun).space after).finish
      rw [← Lexer.feed_append, ← Lexer.feed_append, ← List.append_assoc, List.append_nil,
        List.reverse_reverse] at finished
      exact finished

end Json

end ClusterSingleton
