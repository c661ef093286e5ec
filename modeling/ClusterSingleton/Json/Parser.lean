import ClusterSingleton.Json.Token

/-!
# Reading JSON

`parse?` builds a value from tokens, one at a time. The arrays and objects that are still open lie
on a stack, so that values may be nested to any depth.
-/

namespace ClusterSingleton.Json

/-- An array or object that waits for a value; what it has so far, last first. -/
inductive Frame : Type where
  | array (done : List Value)
  | object (done : List (Option String × Value)) (key : Option String)
deriving Repr

/-- What may come next. -/
inductive Expect : Type where
  | value
  /-- The first item of an array, or its end. -/
  | firstItem
  /-- A comma or the end of an array. -/
  | itemEnd (done : List Value)
  /-- The first key of an object, or its end. -/
  | firstKey
  | key (done : List (Option String × Value))
  | colon (done : List (Option String × Value)) (key : Option String)
  /-- A comma or the end of an object. -/
  | memberEnd (done : List (Option String × Value))
  /-- Nothing: the value is complete. -/
  | finished (v : Value)
  | failed
deriving Repr

structure Parser : Type where
  stack : List Frame
  expect : Expect
deriving Repr

namespace Parser

def empty : Parser := ⟨[], .value⟩

/-- A value is complete, and goes where it was waited for. -/
def deliver (stack : List Frame) (v : Value) : Parser :=
  match stack with
  | [] => ⟨[], .finished v⟩
  | .array done :: rest => ⟨rest, .itemEnd (v :: done)⟩
  | .object done key :: rest => ⟨rest, .memberEnd ((key, v) :: done)⟩

/-- Begins a value. -/
def begin (stack : List Frame) (t : Token) : Parser :=
  match t with
  | .openBrace => ⟨stack, .firstKey⟩
  | .openBracket => ⟨stack, .firstItem⟩
  | .text s => deliver stack (.text s)
  | .atom v => deliver stack v
  | _ => ⟨stack, .failed⟩

/-- The state after one more token. -/
def step (p : Parser) (t : Token) : Parser :=
  match p.expect, t with
  | .value, t => begin p.stack t
  | .firstItem, .closeBracket => deliver p.stack (.array [])
  | .firstItem, t => begin (.array [] :: p.stack) t
  | .itemEnd done, .comma => ⟨.array done :: p.stack, .value⟩
  | .itemEnd done, .closeBracket => deliver p.stack (.array done.reverse)
  | .firstKey, .closeBrace => deliver p.stack (.object [])
  | .firstKey, .text key => ⟨p.stack, .colon [] key⟩
  | .key done, .text key => ⟨p.stack, .colon done key⟩
  | .colon done key, .colon => ⟨.object done key :: p.stack, .value⟩
  | .memberEnd done, .comma => ⟨p.stack, .key done⟩
  | .memberEnd done, .closeBrace => deliver p.stack (.object done.reverse)
  | _, _ => ⟨p.stack, .failed⟩

def finish? (p : Parser) : Option Value :=
  match p.expect with
  | .finished v => some v
  | _ => none

end Parser

/-- The value of a sequence of tokens. -/
def ofTokens? (ts : List Token) : Option Value := (ts.foldl Parser.step Parser.empty).finish?

/-- The value that bytes in UTF-8 stand for. -/
def parse? (bytes : List UInt8) : Option Value := (tokens? bytes).bind ofTokens?

/-- The value that a text stands for. -/
def ofText? (text : String) : Option Value := parse? text.toUTF8.data.toList

end ClusterSingleton.Json
