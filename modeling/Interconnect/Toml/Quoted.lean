import Interconnect.Text.Number
import Interconnect.Toml.Space
/-!
# TOML strings

Basic strings stand in quotes and know escapes, literal strings stand in apostrophes and know none.
Three of the delimiter in a row begin a string of several lines.
-/
namespace Interconnect.Toml.Quoted

/-- What follows a backslash and stands for one character. -/
def escape? : Char → Option Char
  | 'b' => some '\x08'
  | 't' => some '\t'
  | 'n' => some '\n'
  | 'f' => some '\x0c'
  | 'r' => some '\r'
  | '"' => some '"'
  | '\\' => some '\\'
  | _ => none

/-- The character of a code point in hexadecimal digits. -/
def scalar? (digits : List Char) : Option Char := do
  let n ← digits.foldlM (fun n c => return 16 * n + (← Text.digitIn? 16 c)) 0
  if n.isValidChar then some (Char.ofNat n) else none

def push (c : Char) : Option (List Char × List Char) → Option (List Char × List Char) :=
  Option.map fun (text, rest) => (c :: text, rest)

/-- The rest of a basic string behind its opening quote. -/
def basic : Reader (List Char)
  | '"' :: rest => some ([], rest)
  | '\\' :: 'u' :: a :: b :: c :: d :: rest => do push (← scalar? [a, b, c, d]) (basic rest)
  | '\\' :: 'U' :: a :: b :: c :: d :: e :: f :: g :: h :: rest => do
    push (← scalar? [a, b, c, d, e, f, g, h]) (basic rest)
  | '\\' :: c :: rest => do push (← escape? c) (basic rest)
  | c :: rest => if isPlain c ∧ c ≠ '\\' then push c (basic rest) else none
  | [] => none

def literal : Reader (List Char)
  | '\x27' :: rest => some ([], rest)
  | c :: rest => if isPlain c then push c (literal rest) else none
  | [] => none

/-- The rest of a basic string of several lines. Behind a backslash at the end of a line, blanks and
line ends are left out up to the next character. -/
def basicLines (trimming : Bool) : Reader (List Char)
  | '"' :: '"' :: '"' :: '"' :: '"' :: rest => some (['"', '"'], rest)
  | '"' :: '"' :: '"' :: '"' :: rest => some (['"'], rest)
  | '"' :: '"' :: '"' :: rest => some ([], rest)
  | '\n' :: rest => if trimming then basicLines true rest else push '\n' (basicLines false rest)
  | '\r' :: '\n' :: rest =>
    if trimming then basicLines true rest else push '\n' (basicLines false rest)
  | '\\' :: 'u' :: a :: b :: c :: d :: rest => do
    push (← scalar? [a, b, c, d]) (basicLines false rest)
  | '\\' :: 'U' :: a :: b :: c :: d :: e :: f :: g :: h :: rest => do
    push (← scalar? [a, b, c, d, e, f, g, h]) (basicLines false rest)
  | '\\' :: c :: rest =>
    if (newline? (skipBlanks (c :: rest))).isSome then basicLines true (c :: rest)
    else do push (← escape? c) (basicLines false rest)
  | c :: rest =>
    if trimming && isBlank c then basicLines true rest
    else if isPlain c ∧ c ≠ '\\' then push c (basicLines false rest)
    else none
  | [] => none

/-- The rest of a literal string of several lines. -/
def literalLines : Reader (List Char)
  | '\x27' :: '\x27' :: '\x27' :: '\x27' :: '\x27' :: rest => some (['\x27', '\x27'], rest)
  | '\x27' :: '\x27' :: '\x27' :: '\x27' :: rest => some (['\x27'], rest)
  | '\x27' :: '\x27' :: '\x27' :: rest => some ([], rest)
  | '\n' :: rest => push '\n' (literalLines rest)
  | '\r' :: '\n' :: rest => push '\n' (literalLines rest)
  | c :: rest => if isPlain c then push c (literalLines rest) else none
  | [] => none

/-- A text without a line end at its front. -/
def skipNewline (cs : List Char) : List Char := (newline? cs).getD cs

def ofLine : Reader String := fun cs =>
  (match cs with
  | '"' :: rest => basic rest
  | '\x27' :: rest => literal rest
  | _ => none).map fun (text, rest) => (String.ofList text, rest)

/-- Any string. A line end right behind the opening of one with several lines does not count. -/
def read : Reader String := fun cs =>
  match cs with
  | '"' :: '"' :: '"' :: rest =>
    (basicLines false (skipNewline rest)).map fun (text, rest) => (String.ofList text, rest)
  | '\x27' :: '\x27' :: '\x27' :: rest =>
    (literalLines (skipNewline rest)).map fun (text, rest) => (String.ofList text, rest)
  | cs => ofLine cs

end Interconnect.Toml.Quoted
