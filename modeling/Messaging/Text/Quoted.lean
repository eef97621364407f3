import Messaging.Text.Hex
import Messaging.Text.Printable

/-!
Texts between double quotes, as diagnostics show them: what a reader could not see or would take
for the end of the text is written as an escape.
-/
namespace Messaging.Text.Quoted

/-- How one character is shown between quotes. -/
def escape (c : Char) : List Char :=
  match c with
  | '\x00' => ['\\', '0']
  | '\t' => ['\\', 't']
  | '\r' => ['\\', 'r']
  | '\n' => ['\\', 'n']
  | '"' => ['\\', '"']
  | '\\' => ['\\', '\\']
  | c =>
    if Printable.isShown c then [c]
    else ['\\', 'u', '\x7b'] ++ Nat.toDigits 16 c.toNat ++ ['\x7d']

def quote (s : String) : String :=
  String.ofList (['"'] ++ s.toList.flatMap escape ++ ['"'])

end Messaging.Text.Quoted
