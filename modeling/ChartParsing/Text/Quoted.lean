import ChartParsing.Text.CombiningMark
import ChartParsing.Text.Unprintable

/-!
# Quoted texts

A text is shown between double quotes on one line of its own characters.  What
would break the line, end the quote or not be seen is written as an escape: a
letter after a backslash where there is one, else the code point in lower-case
hexadecimal digits.
-/

namespace ChartParsing.Text

/-- The letter that stands for a character after a backslash. -/
def escapeLetter? : Char → Option Char
  | '\x00' => some '0'
  | '\t' => some 't'
  | '\r' => some 'r'
  | '\n' => some 'n'
  | '\\' => some '\\'
  | '"' => some '"'
  | _ => none

/-- The code point of a character as an escape. -/
def escapeCodePoint (c : Char) : List Char :=
  ['\\', 'u', '\x7b'] ++ Nat.toDigits 16 c.toNat ++ ['\x7d']

/-- How a character is written between the quotes. -/
def escape (c : Char) : List Char :=
  match escapeLetter? c with
  | some letter => ['\\', letter]
  | none => if isCombiningMark c || isUnprintable c then escapeCodePoint c else [c]

/-- The text between double quotes, with escapes. -/
def quote (text : String) : String :=
  String.ofList ('"' :: text.toList.flatMap escape ++ ['"'])

end ChartParsing.Text
