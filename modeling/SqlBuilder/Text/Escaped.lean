import SqlBuilder.Text.Visible

/-!
# Escaped text

Diagnostics and log events show a text between double quotes on one line. The quote, the backslash
and four controls have a short escape; every other character that could not be seen, or could not be
told apart from its neighbours, is shown by its code point in lower-case hexadecimal.
-/

namespace SqlBuilder.Text

/-- The character has a visible form of its own. Below 127 this is decided without the tables. -/
def isVisible (c : Char) : Bool :=
  if c.toNat < 127 then 32 ≤ c.toNat else !isUnprintable c && !isGraphemeExtend c

/-- The code point between braces, in lower-case hexadecimal without padding. -/
def codePoint (c : Char) : List Char :=
  "\\u\x7b".toList ++ Nat.toDigits 16 c.toNat ++ "\x7d".toList

/-- One character of an escaped text. -/
def escapedChar (c : Char) : List Char :=
  match c with
  | '\x00' => ['\\', '0']
  | '\t' => ['\\', 't']
  | '\r' => ['\\', 'r']
  | '\n' => ['\\', 'n']
  | '"' => ['\\', '"']
  | '\\' => ['\\', '\\']
  | c => if isVisible c then [c] else codePoint c

/-- The text between double quotes, on one line. -/
def escaped (s : String) : String :=
  String.ofList ('"' :: (s.toList.flatMap escapedChar ++ ['"']))

end SqlBuilder.Text
