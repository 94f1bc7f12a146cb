/-!
# Prefix codes

A canonical code is given by the lengths of its words. Among words of one length the code counts up
in the order of the symbols, and longer words continue where shorter ones ended.
-/
namespace Interconnect

/-- A code as a tree: a word is the way to its symbol. -/
inductive CodeTree where
  | empty
  | leaf (symbol : Nat)
  | node (zero one : CodeTree)
  deriving Repr

namespace CodeTree

/-- A code with one word more. -/
def insert (symbol : Nat) : List Bool → CodeTree → CodeTree
  | [], _ => leaf symbol
  | false :: word, node a b => node (insert symbol word a) b
  | true :: word, node a b => node a (insert symbol word b)
  | false :: word, _ => node (insert symbol word empty) empty
  | true :: word, _ => node empty (insert symbol word empty)

def next? : CodeTree → List Bool → Option (Nat × List Bool)
  | empty, _ => none
  | leaf symbol, bits => some (symbol, bits)
  | node .., [] => none
  | node a b, bit :: bits => if bit then b.next? bits else a.next? bits

def word : Nat → Nat → List Bool
  | 0, _ => []
  | n + 1, v => v.testBit n :: word n v

/-- The words of one length, counting up from a number; also the number behind the last. -/
def addLength (lengths : List Nat) (length : Nat) (tree : CodeTree) (first : Nat) :
    CodeTree × Nat :=
  lengths.zipIdx.foldl (fun (tree, code) (l, symbol) =>
    if l = length then (tree.insert symbol (word length code), code + 1) else (tree, code))
    (tree, first)

/-- Whether words of these lengths use up the code space. A code without words and one with a lone
word of one bit need not. -/
def isFull (lengths : List Nat) : Bool :=
  let used := lengths.filter (0 < ·)
  decide (used = [] ∨ used = [1] ∨ used.foldl (fun n l => n + 1 <<< (15 - l)) 0 = 1 <<< 15)

/-- The canonical code with words of the given lengths, at most 15; zero stands for no word. -/
def ofLengths? (lengths : List Nat) : Option CodeTree :=
  if isFull lengths then
    some ((List.range 15).foldl (fun (tree, code) l =>
      addLength lengths (l + 1) tree (2 * code)) (empty, 0)).1
  else none

end CodeTree
end Interconnect
