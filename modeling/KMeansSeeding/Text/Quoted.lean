import KMeansSeeding.Text.Visible

/-!
# Quoted text in diagnostics

A diagnostic shows a piece of text in quotes. Whatever could be mistaken or not be seen is escaped:
quotes, backslashes, line ends and tabs by a letter, other hidden characters by their code point.
-/

namespace KMeansSeeding.Quoted

/-- A character by its code point. -/
def codePoint (c : Char) : List Char :=
  "\\u\x7b".toList ++ Nat.toDigits 16 c.toNat ++ ['\x7d']

/-- A character inside quotes. -/
def escape (c : Char) : List Char :=
  if c = '\x00' then ['\\', '0']
  else if c = '\t' then ['\\', 't']
  else if c = '\n' then ['\\', 'n']
  else if c = '\r' then ['\\', 'r']
  else if c = '"' then ['\\', '"']
  else if c = '\\' then ['\\', '\\']
  else if Visible.isVisible c then [c]
  else codePoint c

/-- A text in quotes. -/
def quote (text : String) : String :=
  String.ofList ('"' :: (text.toList.flatMap escape ++ ['"']))

end KMeansSeeding.Quoted
