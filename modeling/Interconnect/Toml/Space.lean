/-!
# Blanks, line ends and comments
-/
namespace Interconnect.Toml

/-- Reads something from the front of a text and gives it with the rest. -/
abbrev Reader (α : Type) := List Char → Option (α × List Char)

def isBlank (c : Char) : Bool := c == ' ' || c == '\t'

def skipBlanks (cs : List Char) : List Char := cs.dropWhile isBlank

/-- Characters other than controls. A tab is none. -/
def isPlain (c : Char) : Bool := c == '\t' || (32 ≤ c.toNat && c.toNat ≠ 127)

def newline? : List Char → Option (List Char)
  | '\n' :: rest => some rest
  | '\r' :: '\n' :: rest => some rest
  | _ => none

def skipComment : List Char → List Char
  | '#' :: rest => rest.dropWhile isPlain
  | cs => cs

/-- The rest behind blanks, a comment, and the end of the line or the text. -/
def lineEnd? (cs : List Char) : Option (List Char) :=
  match skipComment (skipBlanks cs) with
  | [] => some []
  | cs => newline? cs

/-- The rest behind blanks, line ends and comments. A comment needs a line end behind it. -/
def skipGap? (inComment : Bool) : List Char → Option (List Char)
  | [] => if inComment then none else some []
  | '\n' :: rest => skipGap? false rest
  | '\r' :: '\n' :: rest => skipGap? false rest
  | c :: rest =>
    if inComment then if isPlain c then skipGap? true rest else none
    else if isBlank c then skipGap? false rest
    else if c = '#' then skipGap? true rest
    else if c = '\r' then none
    else some (c :: rest)

end Interconnect.Toml
