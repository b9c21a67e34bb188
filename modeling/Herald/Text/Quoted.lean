import Herald.Text.Hidden

/-!
# Quoted texts

A text between double quotes, on one line whatever it holds. A quote and a backslash get a
backslash in front, a line feed, a tab, a carriage return and the null character have letters of
their own, and any other character that does not show on its own is spelled out by its code point.
-/

namespace Herald.Text

/-- The code point of a character, for one that does not show on its own. -/
def codePoint (c : Char) : List Char :=
  ['\\', 'u', '\x7b'] ++ Nat.toDigits 16 c.toNat ++ ['\x7d']

/-- How a character is written inside quotes. -/
def escape : Char → List Char
  | '"' => ['\\', '"']
  | '\\' => ['\\', '\\']
  | '\n' => ['\\', 'n']
  | '\t' => ['\\', 't']
  | '\r' => ['\\', 'r']
  | '\x00' => ['\\', '0']
  | c => if isHidden c then codePoint c else [c]

/-- A text between quotes. -/
def quoted (text : String) : String :=
  String.ofList ('"' :: text.toList.flatMap escape ++ ['"'])

end Herald.Text
