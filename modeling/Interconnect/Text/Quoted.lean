import Interconnect.Text.Visible
/-!
# Quoted text
-/
namespace Interconnect.Text

/-- A character in quotes. Invisible characters are given by their code points. -/
def quotedChar (c : Char) : String :=
  match c with
  | '\x00' => "\\0"
  | '\t' => "\\t"
  | '\r' => "\\r"
  | '\n' => "\\n"
  | '\\' => "\\\\"
  | '"' => "\\\""
  | c =>
    if isVisible c then String.singleton c
    else "\\u\x7b" ++ String.ofList (Nat.toDigits 16 c.toNat) ++ "\x7d"

def quoted (s : String) : String := "\"" ++ String.join (s.toList.map quotedChar) ++ "\""

end Interconnect.Text
