import ClusterSingleton.Json.Parser
import ClusterSingleton.Proofs.Json.Lexing

/-!
# Values are read from their spellings

The tokens of a value are put together to that value, whatever is still open around it; with the
tokens of a spelling, `parse?_spelt` says that every spelling of a value is read as that value. One
of them is what was written for it.
-/

namespace ClusterSingleton.Json

namespace Parser

/-- The state after some tokens. -/
def take (p : Parser) (ts : List Token) : Parser := ts.foldl step p

theorem take_append (p : Parser) (ts us : List Token) : p.take (ts ++ us) = (p.take ts).take us :=
  List.foldl_append

theorem take_cons (p : Parser) (t : Token) (ts : List Token) :
    p.take (t :: ts) = (p.step t).take ts :=
  rfl

/-- No value begins like the end of an array. -/
theorem take_firstItem (v : Value) (stack : List Frame) :
    take ⟨stack, .firstItem⟩ v.tokens = take ⟨.array [] :: stack, .value⟩ v.tokens := by
  match v with
  | .null | .bool _ | .number _ | .text _ => rfl
  | .array [] | .array (_ :: _) => rfl
  | .object [] | .object (_ :: _) => rfl

mutual

/-- **The tokens of a value are put together to that value.** -/
theorem take_tokens (v : Value) (stack : List Frame) :
    take ⟨stack, .value⟩ v.tokens = deliver stack v := by
  match v with
  | .null | .bool _ | .number _ | .text _ => rfl
  | .array [] => rfl
  | .array (v :: vs) =>
      have first : take ⟨stack, .firstItem⟩ v.tokens = ⟨stack, .itemEnd [v]⟩ := by
        rw [take_firstItem, take_tokens v]
        rfl
      rw [Value.tokens, List.cons_append, take_cons, take_append]
      show (take ⟨stack, .firstItem⟩ v.tokens).take (Value.itemTokens vs) = _
      rw [first, take_itemTokens vs]
      rfl
  | .object [] => rfl
  | .object ((k, v) :: ms) =>
      have first : take ⟨.object [] k :: stack, .value⟩ v.tokens =
          ⟨stack, .memberEnd [(k, v)]⟩ := by
        rw [take_tokens v]
        rfl
      rw [Value.tokens, List.cons_append, List.cons_append, List.cons_append, take_cons, take_cons,
        take_cons, take_append]
      show (take ⟨.object [] k :: stack, .value⟩ v.tokens).take (Value.memberTokens ms) = _
      rw [first, take_memberTokens ms]
      rfl

theorem take_itemTokens (vs : List Value) (done : List Value) (stack : List Frame) :
    take ⟨stack, .itemEnd done⟩ (Value.itemTokens vs) =
      deliver stack (.array (done.reverse ++ vs)) := by
  match vs with
  | [] =>
      rw [List.append_nil]
      rfl
  | v :: vs =>
      have item : take ⟨.array done :: stack, .value⟩ v.tokens = ⟨stack, .itemEnd (v :: done)⟩ := by
        rw [take_tokens v]
        rfl
      rw [Value.itemTokens, List.cons_append, take_cons, take_append]
      show (take ⟨.array done :: stack, .value⟩ v.tokens).take (Value.itemTokens vs) = _
      rw [item, take_itemTokens vs]
      simp

theorem take_memberTokens (ms : List (Option String × Value))
    (done : List (Option String × Value)) (stack : List Frame) :
    take ⟨stack, .memberEnd done⟩ (Value.memberTokens ms) =
      deliver stack (.object (done.reverse ++ ms)) := by
  match ms with
  | [] =>
      rw [List.append_nil]
      rfl
  | (k, v) :: ms =>
      have member : take ⟨.object done k :: stack, .value⟩ v.tokens =
          ⟨stack, .memberEnd ((k, v) :: done)⟩ := by
        rw [take_tokens v]
        rfl
      rw [Value.memberTokens, List.cons_append, List.cons_append, List.cons_append, take_cons,
        take_cons, take_cons, take_append]
      show (take ⟨.object done k :: stack, .value⟩ v.tokens).take (Value.memberTokens ms) = _
      rw [member, take_memberTokens ms]
      simp

end

end Parser

theorem ofTokens?_tokens (v : Value) : ofTokens? v.tokens = some v := by
  have read : Parser.take Parser.empty v.tokens = ⟨[], .finished v⟩ := Parser.take_tokens v []
  show (Parser.take Parser.empty v.tokens).finish? = some v
  rw [read]
  rfl

/-- **A value is read from each of its spellings.** -/
theorem parse?_spelt {v : Value} {cs : List Char} (spelt : Spelt v cs) :
    parse? (utf8 cs) = some v := by
  rw [parse?, tokens?_spelt spelt, Option.bind_some, ofTokens?_tokens]

/-- **Whatever is written is read back.** -/
theorem ofText?_render (v : Value) : ofText? v.render = some v := by
  rw [ofText?, Value.render, toUTF8_ofList, parse?_spelt (spelt_chars v)]

end ClusterSingleton.Json
