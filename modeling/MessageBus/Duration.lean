namespace MessageBus

/-!
# Time that passes

The bus measures time in whole milliseconds.  In text a duration is given in
the largest of the units second, millisecond and nanosecond that makes its
number at least one; a part of a second follows as a decimal fraction without
trailing zeros.  In a report it is a number of seconds.
-/

/-- An amount of time, or a moment as the time since a common start. -/
abbrev Milliseconds := Nat

namespace Milliseconds

/-- The decimal digits of a number of thousandths, without trailing zeros. -/
def fractionDigits (thousandths : Nat) : List Char :=
  let digits := [thousandths / 100, thousandths / 10, thousandths].map fun number =>
    Nat.digitChar (number % 10)
  (digits.reverse.dropWhile (· = '0')).reverse

def text (duration : Milliseconds) : String :=
  if duration = 0 then "0ns"
  else if duration < 1000 then s!"{duration}ms"
  else
    let whole := toString (duration / 1000)
    if duration % 1000 = 0 then whole ++ "s"
    else whole ++ "." ++ String.ofList (fractionDigits (duration % 1000)) ++ "s"

/-- The bits of the number of seconds: the whole seconds and the nanoseconds of
the rest are converted separately and then added. -/
def secondsBits (duration : Milliseconds) : UInt64 :=
  (Float.ofNat (duration / 1000) +
    Float.ofNat (duration % 1000 * 1000000) / 1000000000.0).toBits

end Milliseconds

end MessageBus
