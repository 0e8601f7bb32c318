/-!
# Quoted text

Text between double quotes. A quote and a backslash are written after a backslash, a control
character by a letter of its own or by its code in four hexadecimal digits, and every other
character as it is. Which control characters have a letter is a choice of the format.
-/

namespace TypeGuard.Text

/-- The digit `n` of the hexadecimal notation. -/
def hexDigit (n : Nat) : Char :=
  if n < 10 then Char.ofNat (48 + n) else Char.ofNat (87 + n)

/-- The written form of a character, where `letter` names the control characters that have one. -/
def escape (letter : Char → Option Char) (c : Char) : List Char :=
  if c = '"' then ['\\', '"']
  else if c = '\\' then ['\\', '\\']
  else if c.toNat < 0x20 then
    match letter c with
    | some l => ['\\', l]
    | none => ['\\', 'u', '0', '0', hexDigit (c.toNat / 16), hexDigit (c.toNat % 16)]
  else [c]

/-- The text between quotes. -/
def quoteWith (letter : Char → Option Char) (s : String) : String :=
  String.ofList ('"' :: s.toList.flatMap (escape letter) ++ ['"'])

/-- The letters of string literals: line feed, carriage return and tab. -/
def literalLetter : Char → Option Char
  | '\n' => some 'n'
  | '\r' => some 'r'
  | '\t' => some 't'
  | _ => none

/-- The text as a string literal. -/
def quote (s : String) : String := quoteWith literalLetter s

end TypeGuard.Text
