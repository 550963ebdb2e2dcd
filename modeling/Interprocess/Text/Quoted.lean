import Interprocess.Text.Hex
import Interprocess.Text.Shown

/-!
# Quoted text

A text between double quotes with escapes for what could be misread: the quote and the backslash,
the five characters with short escapes, and every character that is not shown as it is, which is
written as its code point between braces.
-/

namespace Interprocess

/-- One character inside quotes. -/
def escaped (c : Char) : String :=
  match c with
  | '\x00' => "\\0"
  | '\t' => "\\t"
  | '\n' => "\\n"
  | '\r' => "\\r"
  | '\\' => "\\\\"
  | '"' => "\\\""
  | c => if isShown c then c.toString else "\\u\x7b" ++ hexDigits c.toNat ++ "\x7d"

/-- A text between double quotes, with escapes. -/
def quoted (s : String) : String :=
  "\"" ++ String.join (s.toList.map escaped) ++ "\""

end Interprocess
