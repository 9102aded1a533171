/-
# SymbolLexicon.Text.Quoted — text between quotation marks, as messages and log records show it.

A quoted text stands between two MARKS, a single quoted code point between two apostrophes.
Inside, NUL, tab, line feed and carriage return have a short escape, a backslash and the mark
itself are preceded by a backslash, and every unprintable code point is written as `\u` with its
lower-case hexadecimal value between braces. All else stands for itself, so the result is always a
valid `String`, surrogates or not.
-/
import SymbolLexicon.Text.Unprintable

namespace SymbolLexicon

/-! ## One code point -/

namespace CodePoint

/-- The characters that stand for `c` between two `mark`s. -/
def escaped (mark : Char) (c : CodePoint) : List Char :=
  if c = '\x00' then ['\\', '0']
  else if c = '\t' then ['\\', 't']
  else if c = '\n' then ['\\', 'n']
  else if c = '\r' then ['\\', 'r']
  else if c = '\\' then ['\\', '\\']
  else if c = mark then ['\\', mark]
  else if c.isPrintable then [Char.ofNat c.value]
  else '\\' :: 'u' :: '\x7b' :: Nat.toDigits 16 c.value ++ ['\x7d']

/-- A code point between apostrophes. -/
def quoted (c : CodePoint) : String :=
  String.ofList ('\x27' :: c.escaped '\x27' ++ ['\x27'])

end CodePoint

/-! ## Whole texts and lists -/

/-- A text between double quotation marks. -/
def Text.quoted (t : Text) : String :=
  String.ofList ('\x22' :: t.flatMap (CodePoint.escaped '\x22') ++ ['\x22'])

/-- A string between double quotation marks, by the rule for texts. -/
def quotedString (s : String) : String := Text.quoted (Text.ofString s)

/-- The items between square brackets, separated by a comma and a space. -/
def bracketed (items : List String) : String := "[" ++ ", ".intercalate items ++ "]"

/-- A list of strings, each of them quoted. -/
def quotedStrings (ss : List String) : String := bracketed (ss.map quotedString)

end SymbolLexicon
