/-!
# Delays

Delays are whole picoseconds. They come from and go to nanoseconds in binary64.
-/
namespace Interconnect

/-- Picoseconds. -/
abbrev Delay := Int

namespace Delay

/-- The nearest picosecond, a half away from zero, kept in 32 bits; zero for what is no number. -/
def ofNanoseconds (ns : Float) : Delay := (ns * 1000.0).round.toInt32.toInt

def toNanoseconds (d : Delay) : Float := Float.ofInt d / 1000.0

/-- A delay in nanoseconds, with three decimals. -/
def nanosecondText (d : Delay) : String :=
  let n := d.natAbs
  let digits := toString (n % 1000)
  (if d < 0 then "-" else "") ++ toString (n / 1000) ++ "." ++
    String.ofList (List.replicate (3 - digits.length) '0') ++ digits

end Delay
end Interconnect
