import ClusterSingleton.Text.CharClass
import ClusterSingleton.Text.Hex

/-!
# Quoted text

Text between double quotes in which quotes, backslashes and the common control characters are
escaped, and characters that have no form of their own are written as their code points.
-/

namespace ClusterSingleton.Text

/-- The hexadecimal digits of a number, without leading zeros. -/
def hexText (n : Nat) : List Char :=
  match (hexDigits 6 n).dropWhile (· == '0') with
  | [] => ['0']
  | ds => ds

/-- Whether a character stands for itself between quotes. -/
def isPlain (c : Char) : Bool :=
  if c.toNat < 0x7F then decide (0x20 ≤ c.toNat)
  else !inRanges graphemeExtend c.toNat && !inRanges unprintable c.toNat

def quoteChar (c : Char) : List Char :=
  if c.toNat = 0 then ['\\', '0']
  else if c = '\t' then ['\\', 't']
  else if c = '\r' then ['\\', 'r']
  else if c = '\n' then ['\\', 'n']
  else if c = '\\' then ['\\', '\\']
  else if c = '"' then ['\\', '"']
  else if isPlain c then [c]
  else '\\' :: 'u' :: '{' :: hexText c.toNat ++ ['}']

def quoted (s : String) : String :=
  String.ofList ('"' :: s.toList.flatMap quoteChar ++ ['"'])

/-- A list of quoted texts in brackets. -/
def quotedList (ss : List String) : String :=
  "[" ++ ", ".intercalate (ss.map quoted) ++ "]"

end ClusterSingleton.Text
