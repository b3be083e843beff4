import MessageBus.Text.Numeral
import MessageBus.Toml.Value

namespace MessageBus
namespace Toml

open Text (digitValue? numeralValue isDigitOf)

/-!
# Numbers, truth values and moments in TOML

Every value that is neither a string nor put together from others is one run of
letters, digits and a few marks, and what it is can be told from the run alone.
Integers have 64 bits.  A fraction may be too small to be told from zero, but one
that is too large for a floating-point number is refused.
-/

/-- Whether a character can occur in such a run. -/
def isScalarChar (character : Char) : Bool :=
  character.isAlphanum || "+-_.:".toList.contains character

/-- A text cut at every occurrence of a mark. -/
def cutAt (mark : Char) : List Char -> List (List Char)
  | [] => [[]]
  | character :: rest =>
      if character = mark then [] :: cutAt mark rest
      else match cutAt mark rest with
        | [] => [[character]]
        | part :: parts => (character :: part) :: parts

/-- The digits of a numeral, in which single underscores may stand between two
digits. -/
def digits? (base : Nat) (text : List Char) : Option (List Char) :=
  let parts := cutAt '_' text
  if parts.all fun part => !part.isEmpty && part.all (isDigitOf base) then some parts.flatten
  else none

/-- Decimal digits, of which the first is a zero only if it is the only one. -/
def wholeDigits? (text : List Char) : Option (List Char) :=
  (digits? 10 text).filter fun digits => digits.length = 1 || digits.head? != some '0'

/-- Whether a minus stands in front, and the text behind the sign. -/
def splitSign : List Char -> Bool × List Char
  | '-' :: rest => (true, rest)
  | '+' :: rest => (false, rest)
  | text => (false, text)

/-! ## Integers -/

def integer? (run : List Char) : Option Int :=
  let value? : Option Int := match run with
    | '0' :: 'x' :: rest => (digits? 16 rest).map fun digits => numeralValue 16 digits
    | '0' :: 'o' :: rest => (digits? 8 rest).map fun digits => numeralValue 8 digits
    | '0' :: 'b' :: rest => (digits? 2 rest).map fun digits => numeralValue 2 digits
    | _ =>
        let (negative, rest) := splitSign run
        (wholeDigits? rest).map fun digits =>
          if negative then -(numeralValue 10 digits : Int) else numeralValue 10 digits
  value?.filter fun value =>
    Int64.minValue.toInt <= value ∧ value <= Int64.maxValue.toInt

/-! ## Fractions -/

/-- Whether a decimal number with the given digits and exponent is too large for
a floating-point number: half a step above the largest or more. -/
def overflows (digits : List Char) (exponent : Int) : Bool :=
  let value := numeralValue 10 digits
  let magnitude := exponent + (Nat.toDigits 10 value).length
  if value = 0 || magnitude < 309 then false
  else if 310 < magnitude then true
  else
    let bound := 1 <<< 1024 - 1 <<< 970
    if 0 <= exponent then bound <= value * Nat.pow 10 exponent.toNat
    else bound * Nat.pow 10 (-exponent).toNat <= value

/-- An exponent, in which zeros in front are allowed. -/
def exponent? (text : List Char) : Option Int :=
  let (negative, rest) := splitSign text
  (digits? 10 rest).map fun digits =>
    if negative then -(numeralValue 10 digits : Int) else numeralValue 10 digits

/-- Whether a run is a number with a fraction or an exponent, or one of the names
for what is no ordinary number. -/
def isFloat (run : List Char) : Bool :=
  let (negative, rest) := splitSign run
  if rest = "inf".toList || rest = "nan".toList then true
  else
    let mantissa := rest.takeWhile fun character => character != 'e' && character != 'E'
    let exponentText := (rest.drop mantissa.length).drop 1
    let hasExponent := mantissa.length != rest.length
    let fits (digits : List Char) (exponent : Int) := negative || !overflows digits exponent
    match cutAt '.' mantissa, hasExponent with
    | [whole], true =>
        match wholeDigits? whole, exponent? exponentText with
        | some digits, some exponent => fits digits exponent
        | _, _ => false
    | [whole, fraction], _ =>
        match wholeDigits? whole, digits? 10 fraction,
            (if hasExponent then exponent? exponentText else some 0) with
        | some digits, some places, some exponent =>
            fits (digits ++ places) (exponent - places.length)
        | _, _, _ => false
    | _, _ => false

/-! ## Moments -/

/-- A number of exactly `width` digits within bounds. -/
def fixedNumber? (width least largest : Nat) (text : List Char) : Option Nat :=
  let value := numeralValue 10 text
  if text.length = width && text.all (isDigitOf 10) && least <= value && value <= largest then
    some value
  else none

/-- The number of days of a month. -/
def daysOfMonth (year month : Nat) : Nat :=
  if month = 2 then
    if year % 4 = 0 ∧ (year % 100 ≠ 0 ∨ year % 400 = 0) then 29 else 28
  else if [4, 6, 9, 11].contains month then 30
  else 31

/-- Whether a text is a day of the calendar. -/
def isDate (text : List Char) : Bool :=
  match cutAt '-' text with
  | [yearText, monthText, dayText] =>
      match fixedNumber? 4 0 9999 yearText, fixedNumber? 2 1 12 monthText with
      | some year, some month => (fixedNumber? 2 1 (daysOfMonth year month) dayText).isSome
      | _, _ => false
  | _ => false

/-- Whether a text is a time of the day; a minute may have a leap second. -/
def isTime (text : List Char) : Bool :=
  match cutAt ':' text with
  | [hour, minute, second] =>
      (fixedNumber? 2 0 23 hour).isSome && (fixedNumber? 2 0 59 minute).isSome &&
        match cutAt '.' second with
        | [whole] => (fixedNumber? 2 0 60 whole).isSome
        | [whole, fraction] =>
            (fixedNumber? 2 0 60 whole).isSome && !fraction.isEmpty &&
              fraction.all (isDigitOf 10)
        | _ => false
  | _ => false

/-- Whether a text is a distance from UTC. -/
def isOffset (text : List Char) : Bool :=
  match text with
  | ['Z'] | ['z'] => true
  | sign :: rest =>
      (sign = '+' || sign = '-') &&
        match cutAt ':' rest with
        | [hour, minute] =>
            (fixedNumber? 2 0 23 hour).isSome && (fixedNumber? 2 0 59 minute).isSome
        | _ => false
  | [] => false

/-- Whether a text is a time of the day, with or without an offset. -/
def isOffsetTime (text : List Char) : Bool :=
  let time := text.takeWhile fun character =>
    isDigitOf 10 character || character = ':' || character = '.'
  isTime time && (time.length = text.length || isOffset (text.drop time.length))

/-- Whether a text is a date with a time behind it. -/
def isDateTime (text : List Char) : Bool :=
  isDate (text.take 10) &&
    match text.drop 10 with
    | mark :: time => (mark = 'T' || mark = 't') && isOffsetTime time
    | [] => false

/-! ## All of them -/

/-- What a run is. -/
def ofRun? (run : List Char) : Option Value :=
  if run = "true".toList then some (.boolean true)
  else if run = "false".toList then some (.boolean false)
  else if isDate run || isTime run || isDateTime run then some .moment
  else match integer? run with
    | some number => some (.integer number)
    | none => if isFloat run then some .float else none

/-- A value that is one run, and the text behind it.  A date and a time may also
be two runs with a space between them. -/
def scalar? (text : List Char) : Option (Value × List Char) :=
  let run := text.takeWhile isScalarChar
  let rest := text.drop run.length
  let time := (rest.drop 1).takeWhile isScalarChar
  if isDate run && rest.head? = some ' ' && (time.head?.map Char.isDigit).getD false then
    if isOffsetTime time then some (.moment, (rest.drop 1).drop time.length) else none
  else (ofRun? run).map fun value => (value, rest)

end Toml
end MessageBus
