import BenchLog.Text.DefaultIgnorable
import BenchLog.Text.GraphemeExtend
import BenchLog.Text.Unprintable

/-!
# Quoted texts

A text inside a message stands between double quotes and shows every character: quotes, backslashes and
the usual controls behind a backslash, and what cannot be seen alone by its code point in hexadecimal
digits.
-/

namespace BenchLog.Text

/-- A code point between braces, in lower-case hexadecimal digits without padding. -/
def codePoint (c : Char) : List Char :=
  ['\\', 'u', '\x7b'] ++ Nat.toDigits 16 c.toNat ++ ['\x7d']

/-- The halfwidth sound marks. They extend the grapheme before them, but stand in a cell of their own. -/
def isHalfwidthSoundMark (c : Char) : Bool :=
  c = '\uff9e' || c = '\uff9f'

/-- Whether a character cannot be seen alone: it has no form, a display may leave it out, or it joins the
    character before it. -/
def isHidden (c : Char) : Bool :=
  isUnprintable c || isDefaultIgnorable c || (isGraphemeExtend c && !isHalfwidthSoundMark c)

/-- How a character stands inside a quoted text. -/
def escape (c : Char) : List Char :=
  match c with
  | '\x00' => ['\\', '0']
  | '\t' => ['\\', 't']
  | '\n' => ['\\', 'n']
  | '\r' => ['\\', 'r']
  | '"' => ['\\', '"']
  | '\\' => ['\\', '\\']
  | c => if isHidden c then codePoint c else [c]

/-- A text between double quotes, all of it visible. -/
def quote (text : String) : String :=
  String.ofList ('"' :: text.toList.flatMap escape ++ ['"'])

end BenchLog.Text
