namespace MessageBus
namespace Text

/-!
# Numerals

Reading unsigned numbers in bases up to sixteen.  A numeral is a run of digits;
what a run of digits may look like, how long it may be and what may follow it
is for the format that it occurs in to say.
-/

/-- The value of a digit, in either case. -/
def digitValue? (base : Nat) (character : Char) : Option Nat :=
  let value? :=
    if character.isDigit then some (character.toNat - '0'.toNat)
    else if 'a' <= character ∧ character <= 'f' then some (character.toNat - 'a'.toNat + 10)
    else if 'A' <= character ∧ character <= 'F' then some (character.toNat - 'A'.toNat + 10)
    else none
  value?.filter (· < base)

/-- Whether a character is a digit of a base. -/
def isDigitOf (base : Nat) (character : Char) : Bool :=
  (digitValue? base character).isSome

/-- The number that a run of digits stands for; other characters count as zero. -/
def numeralValue (base : Nat) (digits : List Char) : Nat :=
  digits.foldl (fun value digit => base * value + (digitValue? base digit).getD 0) 0

/-- The digits at the front of a text and what follows them. -/
def spanDigits (base : Nat) (text : List Char) : List Char × List Char :=
  (text.takeWhile (isDigitOf base), text.dropWhile (isDigitOf base))

/-- A number in the given base, in lower-case digits. -/
def numeral (base : Nat) (number : Nat) : String :=
  String.ofList (Nat.toDigits base number)

end Text
end MessageBus
