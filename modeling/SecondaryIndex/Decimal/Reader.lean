/-
**Reading a decimal text as the nearest floating-point number.**

* `Numeral.ofText?` accepts an optional sign, digits with an optional point on either side, an
  optional exponent, and the words `inf`, `infinity` and `nan` in any case;
* `Numeral.toFloat` and `Numeral.toFloat32` round to the nearest number, ties to even.
-/

namespace SecondaryIndex.Decimal

/-- What a decimal text says. -/
inductive Numeral where
  | undefined
  | infinite (negative : Bool)
  /-- `digits * 10 ^ exponent`. -/
  | finite (negative : Bool) (digits : Nat) (exponent : Int)
deriving DecidableEq

namespace Numeral

/-- The power of ten that an exponent part adds, where nothing may follow it. -/
def exponentPart : List Char → Option Int
  | [] => some 0
  | mark :: rest =>
    if mark = 'e' ∨ mark = 'E' then
      let (negative, digits) :=
        match rest with
        | '-' :: digits => (true, digits)
        | '+' :: digits => (false, digits)
        | digits => (false, digits)
      if digits.isEmpty || !digits.all Char.isDigit then none
      else
        let size := Nat.ofDigitChars 10 digits 0
        some (if negative then -(size : Int) else size)
    else none

/-- A text without its sign. -/
def unsigned (negative : Bool) (text : List Char) : Option Numeral :=
  let word := text.map Char.toLower
  if word = "nan".toList then some .undefined
  else if word = "inf".toList ∨ word = "infinity".toList then some (.infinite negative)
  else
    let whole := text.takeWhile Char.isDigit
    let rest := text.dropWhile Char.isDigit
    let (fraction, rest) :=
      match rest with
      | '.' :: rest => (rest.takeWhile Char.isDigit, rest.dropWhile Char.isDigit)
      | rest => ([], rest)
    if whole.isEmpty && fraction.isEmpty then none
    else (exponentPart rest).map fun exponent =>
      .finite negative (Nat.ofDigitChars 10 (whole ++ fraction) 0) (exponent - fraction.length)

/-- The numeral that a text spells. -/
def ofText? (text : String) : Option Numeral :=
  match text.toList with
  | '-' :: rest => unsigned true rest
  | '+' :: rest => unsigned false rest
  | rest => unsigned false rest

/-- The sizes beyond which every finite number of either width is infinite or zero. -/
def sizeLimit : Int := 400

/-- The nearest double. -/
def toFloat : Numeral → Float
  | .undefined => 0.0 / 0.0
  | .infinite negative => if negative then -1.0 / 0.0 else 1.0 / 0.0
  | .finite negative digits exponent =>
    let size := exponent + (Nat.repr digits).length
    let magnitude :=
      if digits = 0 ∨ size < -sizeLimit then 0.0
      else if sizeLimit < size then 1.0 / 0.0
      else Float.ofScientific digits (exponent < 0) exponent.natAbs
    if negative then -magnitude else magnitude

/-- The nearest single, rounded from the decimal itself. -/
def toFloat32 : Numeral → Float32
  | .undefined => 0.0 / 0.0
  | .infinite negative => if negative then -1.0 / 0.0 else 1.0 / 0.0
  | .finite negative digits exponent =>
    let size := exponent + (Nat.repr digits).length
    let magnitude :=
      if digits = 0 ∨ size < -sizeLimit then 0.0
      else if sizeLimit < size then 1.0 / 0.0
      else Float32.ofScientific digits (exponent < 0) exponent.natAbs
    if negative then -magnitude else magnitude

end Numeral

/-- The double that a text spells. -/
def float? (text : String) : Option Float :=
  (Numeral.ofText? text).map Numeral.toFloat

/-- The single that a text spells. -/
def float32? (text : String) : Option Float32 :=
  (Numeral.ofText? text).map Numeral.toFloat32

end SecondaryIndex.Decimal
