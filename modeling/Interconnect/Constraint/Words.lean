/-!
# Words of a constraint line

Words are separated by spaces and tabs. Brackets may hold a word together: a bracketed group then
ends the word that it stands in, whatever it contains.
-/
namespace Interconnect.Constraint

/-- The words behind an unfinished one, which counts as long as it is not empty. -/
def finishWord (word : List Char) (rest : List (List Char)) : List (List Char) :=
  if word.isEmpty then rest else word.reverse :: rest

/-- The words of a text behind an unfinished word, given in reverse, at a depth of open brackets.
`none` if the brackets that close do not match those that open in number. -/
def scanWords? (group : Bool) (depth : Int) (word : List Char) :
    List Char → Option (List (List Char))
  | [] => if depth = 0 then some (finishWord word []) else none
  | c :: cs =>
    if group && c == ']' then
      if depth = 1 then (scanWords? group 0 [] cs).map ((c :: word).reverse :: ·)
      else scanWords? group (depth - 1) (c :: word) cs
    else if group && c == '[' then scanWords? group (depth + 1) (c :: word) cs
    else if (c == ' ' || c == '\t') && depth == 0 then
      (scanWords? group 0 [] cs).map (finishWord word)
    else scanWords? group depth (c :: word) cs

/-- The words of a text, with brackets that group or without. -/
def words? (group : Bool) (cs : List Char) : Option (List (List Char)) := scanWords? group 0 [] cs

def stripLast? (c : Char) (cs : List Char) : Option (List Char) :=
  if cs.getLast? = some c then some cs.dropLast else none

/-- A text without one pair of quotes or braces around it; `none` if a pair is not closed. -/
def unquote? : List Char → Option (List Char)
  | '"' :: cs => stripLast? '"' cs
  | '\x7b' :: cs => stripLast? '\x7d' cs
  | cs => some cs

end Interconnect.Constraint
