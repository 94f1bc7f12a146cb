/-!
# JSON text
-/
namespace Interconnect.Text

inductive JsonScalar where
  | text (s : String)
  | number (i : Int)
  | boolean (b : Bool)
  deriving DecidableEq, Repr

/-- A character of a JSON string. Controls other than the usual ones are given by four digits. -/
def jsonChar (c : Char) : String :=
  match c with
  | '"' => "\\\""
  | '\\' => "\\\\"
  | '\x08' => "\\b"
  | '\x0c' => "\\f"
  | '\n' => "\\n"
  | '\r' => "\\r"
  | '\t' => "\\t"
  | c =>
    if c.toNat < 32 then
      "\\u00" ++ String.ofList [Nat.digitChar (c.toNat / 16), Nat.digitChar (c.toNat % 16)]
    else String.singleton c

def jsonString (s : String) : String := "\"" ++ String.join (s.toList.map jsonChar) ++ "\""

def JsonScalar.render : JsonScalar → String
  | text s => jsonString s
  | number i => toString i
  | boolean b => if b then "true" else "false"

/-- A JSON object, a field a line. -/
def jsonObject (fields : List (String × JsonScalar)) : String :=
  let lines := fields.map fun (name, value) => s!"  {jsonString name}: {value.render}"
  "\x7b\n" ++ ",\n".intercalate lines ++ "\n\x7d"

end Interconnect.Text
