/-!
Numbers as they are typed: ASCII digits only, with a sign where a sign is allowed, and of a size
that fits a machine word.
-/

namespace MenuShell

namespace Number

def digitsValue (digits : List Char) : Nat :=
  digits.foldl (fun value digit => 10 * value + (digit.toNat - '0'.toNat)) 0

def isDigits (text : List Char) : Bool :=
  !text.isEmpty && text.all Char.isDigit

def natural? (text : List Char) : Option Nat :=
  if isDigits text then some (digitsValue text) else none

def integer? : List Char → Option Int
  | '+' :: digits => (natural? digits).map Int.ofNat
  | '-' :: digits => (natural? digits).map fun value => -Int.ofNat value
  | digits => (natural? digits).map Int.ofNat

def word? (text : String) : Option Int :=
  (integer? text.toList).filter fun value =>
    -9223372036854775808 ≤ value && value < 9223372036854775808

def countLimit : Nat := 1 <<< 32

end Number

end MenuShell
