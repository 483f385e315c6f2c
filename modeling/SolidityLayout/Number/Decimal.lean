/-!
# Decimal text of integers

An integer is written in decimal digits with a minus sign in front of the negative ones.  Text and
number are only exchanged up to a limit on the number of digits: a longer literal is not read, and
an integer beyond the limit has no text that could be shown.
-/

namespace SolidityLayout.Number

/-- The number of decimal digits up to which a literal is read and an integer is shown. -/
def digitLimit : Nat := 4300

/-- Whether an integer can be shown, that is, needs no more digits than the limit. -/
def isShowable (n : Int) : Bool :=
  n.natAbs < Nat.pow 10 digitLimit

/-- The decimal digits of a natural number, without leading zeros. -/
def decimalNat (n : Nat) : List Char :=
  Nat.toDigits 10 n

/-- The decimal text of an integer. -/
def decimal : Int → List Char
  | .ofNat n => decimalNat n
  | .negSucc n => '-' :: decimalNat (n + 1)

/-- The lower-case hexadecimal digits of a natural number, without leading zeros. -/
def hexadecimalNat (n : Nat) : List Char :=
  Nat.toDigits 16 n

/-- The number that a list of digits denotes, most significant first. -/
def ofDigits (base : Nat) (digits : List Nat) : Nat :=
  digits.foldl (fun n d => base * n + d) 0

end SolidityLayout.Number
