import Mathlib.Data.Int.Log
import Mathlib.Data.Rat.Floor
import NebulaId.Config.Algorithm

/-!
# Floating-point numbers in texts

`f64::from_str` and `f32::from_str` read a sign, a decimal number with an optional exponent, or the
words `inf`, `infinity` and `nan` in any case. An `f64` is taken as the number that is written, an
`f32` as the number next to it that has 24 bits: a tie goes to the even one.
-/

namespace NebulaId

namespace F64

def neg : F64 → F64
  | nan => nan
  | negInf => posInf
  | finite q => finite (-q)
  | posInf => negInf

/-- The number that decimal digits write. -/
def ofDigits (digits : List Char) : ℕ :=
  digits.foldl (fun n c => n * 10 + (c.toNat - '0'.toNat)) 0

/-- What stands behind the `e`: an integer with a sign or without. -/
def readExponent (cs : List Char) : Option ℤ :=
  let (negative, digits) := match cs with
    | '-' :: cs => (true, cs)
    | '+' :: cs => (false, cs)
    | cs => (false, cs)
  if digits.isEmpty || !digits.all Char.isDigit then none
  else some (if negative then -(ofDigits digits : ℤ) else ofDigits digits)

/-- Digits, a point among them or not, and an exponent or not. -/
def readNumber (cs : List Char) : Option ℚ :=
  let whole := cs.takeWhile Char.isDigit
  let rest := cs.dropWhile Char.isDigit
  let (fraction, rest) := match rest with
    | '.' :: rest => (rest.takeWhile Char.isDigit, rest.dropWhile Char.isDigit)
    | rest => ([], rest)
  if whole.isEmpty && fraction.isEmpty then none
  else
    let exponent : Option ℤ := match rest with
      | [] => some 0
      | c :: rest => if c = 'e' ∨ c = 'E' then readExponent rest else none
    exponent.map fun e : ℤ =>
      (ofDigits (whole ++ fraction) : ℚ) * (10 : ℚ) ^ (e - (fraction.length : ℤ))

example : readNumber "1.5e1".toList = some 15 ∧ readNumber ".5".toList = some (1 / 2) ∧
    readNumber ".".toList = none ∧ readNumber "1e".toList = none := by decide +kernel

def readUnsigned (cs : List Char) : Option F64 :=
  match readNumber cs with
  | some q => some (finite q)
  | none =>
    let word := String.ofList (cs.map Char.toLower)
    if word = "inf" ∨ word = "infinity" then some posInf
    else if word = "nan" then some nan
    else none

/-- `f64::from_str`, without the rounding. -/
def fromStr : List Char → Option F64
  | '-' :: cs => (readUnsigned cs).map neg
  | '+' :: cs => readUnsigned cs
  | cs => readUnsigned cs

end F64

/-- The values of an `f32` are among those of an `f64`. -/
abbrev F32 := F64

namespace F32

/-- The nearest integer; a tie goes to the even one. -/
def roundEven (x : ℚ) : ℤ :=
  let k := ⌊x⌋
  if x - k < 1 / 2 then k else if 1 / 2 < x - k then k + 1 else k + k % 2

/-- The exponent of the last of 24 bits; the subnormal numbers share the least one. -/
def lastBit (q : ℚ) : ℤ := max (Int.log 2 |q| - 23) (-149)

def round (q : ℚ) : F32 :=
  let rounded := (roundEven (q / 2 ^ lastBit q) : ℚ) * 2 ^ lastBit q
  if 2 ^ 128 ≤ rounded then .posInf
  else if rounded ≤ -2 ^ 128 then .negInf
  else .finite rounded

/-- `f32::from_str` -/
def fromStr (cs : List Char) : Option F32 :=
  (F64.fromStr cs).map fun x => match x with
    | .finite q => round q
    | x => x

end F32

end NebulaId
