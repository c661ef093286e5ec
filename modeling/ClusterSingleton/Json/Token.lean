import ClusterSingleton.Json.Value
import ClusterSingleton.Text.Decimal
import ClusterSingleton.Text.Hex

/-!
# JSON tokens

`tokens?` cuts bytes into tokens. It looks at one byte at a time and keeps what it has seen of an
unfinished token, so that what it makes of a text is put together from what it makes of its parts.
-/

namespace ClusterSingleton.Json

inductive Token : Type where
  | openBrace
  | closeBrace
  | openBracket
  | closeBracket
  | comma
  | colon
  | text (s : Option String)
  /-- `null`, a truth value or a number. -/
  | atom (v : Value)
deriving Repr

/-! ## Numbers -/

/-- What has been read of a number, by its last character. -/
inductive NumberPart : Type where
  | minus
  | zero
  | whole
  | point
  | fraction
  | mark
  | markSign
  | exponent
deriving DecidableEq, Repr

/-- An unfinished number with its value as long as it is a plain natural one. -/
structure NumberState : Type where
  part : NumberPart
  value : Option Nat
deriving DecidableEq, Repr

namespace NumberState

/-- A number that begins with `c`. -/
def begin? (c : Char) : Option NumberState :=
  if c = '-' then some ⟨.minus, none⟩
  else if c = '0' then some ⟨.zero, some 0⟩
  else if Text.isDigit c then some ⟨.whole, some (Text.digitValue c)⟩
  else none

/-- The exponent or fraction that may begin after a whole number. -/
def extend? (c : Char) : Option NumberState :=
  if c = '.' then some ⟨.point, none⟩
  else if c = 'e' ∨ c = 'E' then some ⟨.mark, none⟩
  else none

/-- The number with one more character; `none` if the character is no part of it. -/
def next? (s : NumberState) (c : Char) : Option NumberState :=
  match s.part with
  | .minus =>
      if c = '0' then some ⟨.zero, none⟩
      else if Text.isDigit c then some ⟨.whole, none⟩ else none
  | .zero => extend? c
  | .whole =>
      if Text.isDigit c then some ⟨.whole, s.value.map (fun n => 10 * n + Text.digitValue c)⟩
      else extend? c
  | .point => if Text.isDigit c then some ⟨.fraction, none⟩ else none
  | .fraction =>
      if Text.isDigit c then some ⟨.fraction, none⟩
      else if c = 'e' ∨ c = 'E' then some ⟨.mark, none⟩ else none
  | .mark =>
      if Text.isDigit c then some ⟨.exponent, none⟩
      else if c = '+' ∨ c = '-' then some ⟨.markSign, none⟩ else none
  | .markSign => if Text.isDigit c then some ⟨.exponent, none⟩ else none
  | .exponent => if Text.isDigit c then some ⟨.exponent, none⟩ else none

/-- Whether the number may end here. -/
def isComplete (s : NumberState) : Bool :=
  match s.part with
  | .zero => true
  | .whole => true
  | .fraction => true
  | .exponent => true
  | _ => false

end NumberState

/-! ## Texts -/

/-- What has been read of an escape. -/
inductive Escape : Type where
  | outside
  | backslash
  /-- The digits so far of a code unit, and their value. -/
  | unit (count value : Nat)
deriving DecidableEq, Repr

structure TextState : Type where
  /-- The bytes of the text so far, last first. -/
  bytes : List UInt8
  /-- A leading surrogate whose partner must follow. -/
  leading : Option Nat
  /-- Whether all surrogates so far have their partners. -/
  paired : Bool
  escape : Escape
deriving DecidableEq, Repr

namespace TextState

def empty : TextState := ⟨[], none, true, .outside⟩

/-- Adds bytes; a leading surrogate before them stays alone. -/
def push (t : TextState) (bs : List UInt8) : TextState :=
  ⟨bs.reverse ++ t.bytes, none, t.paired && t.leading.isNone, .outside⟩

def isLeading (u : Nat) : Bool := decide (0xD800 ≤ u ∧ u < 0xDC00)

def isTrailing (u : Nat) : Bool := decide (0xDC00 ≤ u ∧ u < 0xE000)

/-- Adds a code unit: a character, or one half of one. -/
def pushUnit (t : TextState) (u : Nat) : TextState :=
  match t.leading with
  | some h =>
      if isTrailing u then
        let c := Char.ofNat (0x10000 + (h - 0xD800) * 0x400 + (u - 0xDC00))
        ⟨(String.utf8EncodeChar c).reverse ++ t.bytes, none, t.paired, .outside⟩
      else ⟨t.bytes, if isLeading u then some u else none, false, .outside⟩
  | none =>
      if isLeading u then ⟨t.bytes, some u, t.paired, .outside⟩
      else if isTrailing u then ⟨t.bytes, none, false, .outside⟩
      else t.push (String.utf8EncodeChar (Char.ofNat u))

/-- The byte that a one-letter escape stands for. -/
def escaped? (c : Char) : Option UInt8 :=
  match c with
  | '"' => some 0x22
  | '\\' => some 0x5C
  | '/' => some 0x2F
  | 'b' => some 0x08
  | 'f' => some 0x0C
  | 'n' => some 0x0A
  | 'r' => some 0x0D
  | 't' => some 0x09
  | _ => none

/-- The text that was read, if it is one. -/
def finish (t : TextState) : Option String :=
  if t.paired && t.leading.isNone then String.fromUTF8? ⟨t.bytes.reverse.toArray⟩ else none

/-- The text with one more byte, which is not its closing quote; `none` refuses it. -/
def next? (t : TextState) (b : UInt8) : Option TextState :=
  let c := Char.ofNat b.toNat
  match t.escape with
  | .outside =>
      if c = '\\' then some { t with escape := .backslash }
      else if b < 0x20 then none
      else some (t.push [b])
  | .backslash =>
      if c = 'u' then some { t with escape := .unit 0 0 }
      else (escaped? c).map (fun e => t.push [e])
  | .unit count value =>
      match Text.hexValue? c with
      | none => none
      | some d =>
          if count = 3 then some (t.pushUnit (16 * value + d))
          else some { t with escape := .unit (count + 1) (16 * value + d) }

end TextState

/-! ## Cutting -/

/-- What the last token is as long as it is unfinished. -/
inductive Mode : Type where
  | between
  /-- The rest of a word, and its value. -/
  | word (rest : List Char) (v : Value)
  | number (s : NumberState)
  | text (t : TextState)
  | failed
deriving Repr

structure Lexer : Type where
  mode : Mode
  /-- The finished tokens, last first. -/
  done : List Token
deriving Repr

namespace Lexer

def empty : Lexer := ⟨.between, []⟩

def emit (done : List Token) (t : Token) : Lexer := ⟨.between, t :: done⟩

/-- Begins a token after others. -/
def start (done : List Token) (c : Char) : Lexer :=
  match c with
  | ' ' => ⟨.between, done⟩
  | '\n' => ⟨.between, done⟩
  | '\t' => ⟨.between, done⟩
  | '\r' => ⟨.between, done⟩
  | '{' => emit done .openBrace
  | '}' => emit done .closeBrace
  | '[' => emit done .openBracket
  | ']' => emit done .closeBracket
  | ',' => emit done .comma
  | ':' => emit done .colon
  | '"' => ⟨.text .empty, done⟩
  | 'n' => ⟨.word ['u', 'l', 'l'] .null, done⟩
  | 't' => ⟨.word ['r', 'u', 'e'] (.bool true), done⟩
  | 'f' => ⟨.word ['a', 'l', 's', 'e'] (.bool false), done⟩
  | c =>
      match NumberState.begin? c with
      | some s => ⟨.number s, done⟩
      | none => ⟨.failed, done⟩

/-- The state after one more byte. -/
def step (l : Lexer) (b : UInt8) : Lexer :=
  let c := Char.ofNat b.toNat
  match l.mode with
  | .between => start l.done c
  | .word [] _ => ⟨.failed, l.done⟩
  | .word [x] v => if c = x then emit l.done (.atom v) else ⟨.failed, l.done⟩
  | .word (x :: rest) v => if c = x then ⟨.word rest v, l.done⟩ else ⟨.failed, l.done⟩
  | .number s =>
      match s.next? c with
      | some s => ⟨.number s, l.done⟩
      | none =>
          if s.isComplete then start (.atom (.number s.value) :: l.done) c
          else ⟨.failed, l.done⟩
  | .text t =>
      if t.escape = .outside ∧ c = '"' then emit l.done (.text t.finish)
      else
        match t.next? b with
        | some t => ⟨.text t, l.done⟩
        | none => ⟨.failed, l.done⟩
  | .failed => l

/-- The tokens, if the last one is finished. -/
def finish? (l : Lexer) : Option (List Token) :=
  match l.mode with
  | .between => some l.done.reverse
  | .number s =>
      if s.isComplete then some (Token.atom (.number s.value) :: l.done).reverse else none
  | _ => none

end Lexer

/-- The tokens of a text. -/
def tokens? (bytes : List UInt8) : Option (List Token) :=
  (bytes.foldl Lexer.step Lexer.empty).finish?

end ClusterSingleton.Json
