import ClusterSingleton.Json.Value
import ClusterSingleton.Text.Hex

/-!
# Writing JSON

Values are written without blanks, and members in their order. Texts escape the quote, the backslash
and the characters below the space, and hold all others as they are.
-/

namespace ClusterSingleton.Json

/-- A character between quotes. -/
def escapeChar (c : Char) : List Char :=
  if c = '"' then ['\\', '"']
  else if c = '\\' then ['\\', '\\']
  else if c = '\n' then ['\\', 'n']
  else if c = '\r' then ['\\', 'r']
  else if c = '\t' then ['\\', 't']
  else if c.toNat = 0x08 then ['\\', 'b']
  else if c.toNat = 0x0C then ['\\', 'f']
  else if c.toNat < 0x20 then '\\' :: 'u' :: Text.hexDigits 4 c.toNat
  else [c]

def escape (cs : List Char) : List Char := '"' :: cs.flatMap escapeChar ++ ['"']

/-- A text that is none is written as a lone surrogate. -/
def textChars (s : Option String) : List Char :=
  match s with
  | some s => escape s.toList
  | none => "\"\\ud800\"".toList

/-- A number that is no plain natural one is written as a negative zero. -/
def numberChars (n : Option Nat) : List Char :=
  match n with
  | some n => (toString n).toList
  | none => "-0".toList

namespace Value

mutual

def chars : Value → List Char
  | .null => "null".toList
  | .bool b => if b then "true".toList else "false".toList
  | .number n => numberChars n
  | .text s => textChars s
  | .array [] => "[]".toList
  | .array (v :: vs) => '[' :: chars v ++ itemChars vs
  | .object [] => ['{', '}']
  | .object ((k, v) :: ms) => '{' :: textChars k ++ ':' :: chars v ++ memberChars ms

/-- The items after the first, and the end of the array. -/
def itemChars : List Value → List Char
  | [] => [']']
  | v :: vs => ',' :: chars v ++ itemChars vs

/-- The members after the first, and the end of the object. -/
def memberChars : List (Option String × Value) → List Char
  | [] => ['}']
  | (k, v) :: ms => ',' :: textChars k ++ ':' :: chars v ++ memberChars ms

end

def render (v : Value) : String := String.ofList v.chars

end Value

end ClusterSingleton.Json
