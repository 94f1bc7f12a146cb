/-!
# Columns of text
-/
namespace Interconnect.Text

def spaces (n : Nat) : String := String.ofList (List.replicate n ' ')

/-- A text moved to the right end of a column. A longer text stays as it is. -/
def alignRight (width : Nat) (s : String) : String := spaces (width - s.length) ++ s

def alignLeft (width : Nat) (s : String) : String := s ++ spaces (width - s.length)

end Interconnect.Text
