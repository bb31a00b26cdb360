/-!
# Numbers in arguments

A number is an optional sign and decimal digits.  It is read from the left, and the first fault
decides what is wrong with it: a character that is no digit, or a value that leaves the range.
-/

namespace MessageServer.CommandLine

/-- Why an argument is not a number. -/
inductive IntegerError where
  | empty | invalidDigit | tooLarge | tooSmall
  deriving DecidableEq, Repr

namespace IntegerError

def message : IntegerError → String
  | empty => "cannot parse integer from empty string"
  | invalidDigit => "invalid digit found in string"
  | tooLarge => "number too large to fit in target type"
  | tooSmall => "number too small to fit in target type"

end IntegerError

/-- The digits of a number behind `value`, which what is read so far stands for.  A value beyond
`limit` is `overflow`. -/
def digits (limit : Nat) (overflow : IntegerError) (value : Nat) :
    List Char → Except IntegerError Nat
  | [] => .ok value
  | c :: cs =>
    if !c.isDigit then .error .invalidDigit
    else
      let value := 10 * value + (c.toNat - '0'.toNat)
      if limit < value then .error overflow else digits limit overflow value cs

/-- A number from 0 to `limit`. -/
def unsigned (limit : Nat) (s : String) : Except IntegerError Nat :=
  match s.toList with
  | [] => .error .empty
  | ['+'] => .error .invalidDigit
  | '+' :: cs => digits limit .tooLarge 0 cs
  | cs => digits limit .tooLarge 0 cs

/-- A number from `-limit - 1` to `limit`. -/
def signed (limit : Nat) (s : String) : Except IntegerError Int :=
  match s.toList with
  | ['-'] => .error .invalidDigit
  | '-' :: cs => (digits (limit + 1) .tooSmall 0 cs).map fun n => -(n : Int)
  | _ => (unsigned limit s).map Int.ofNat

end MessageServer.CommandLine
