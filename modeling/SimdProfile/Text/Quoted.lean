import SimdProfile.Text.Digits
import SimdProfile.Text.Unseen

/-!
# Quoted text

Text between double quotes, in one line that shows every character: quotes, backslashes and the common
controls are escaped by a backslash, all other characters that cannot be seen by their code point.
-/

namespace SimdProfile.Text

/-- A character between quotes. -/
def quoteChar (c : Char) : List Char :=
  match c with
  | '\x00' => ['\\', '0']
  | '\t' => ['\\', 't']
  | '\n' => ['\\', 'n']
  | '\r' => ['\\', 'r']
  | '"' => ['\\', '"']
  | '\\' => ['\\', '\\']
  | c => if isUnseen c then '\\' :: 'u' :: '\x7b' :: natDigits 16 c.toNat ++ ['\x7d'] else [c]

/-- The text between quotes. -/
def quoted (s : String) : String :=
  String.ofList ('"' :: s.toList.flatMap quoteChar ++ ['"'])

end SimdProfile.Text
