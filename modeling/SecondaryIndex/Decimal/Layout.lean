/-
**Where the digits of a number go.**

* `Layout` holds a format's decisions: which numbers are written without an exponent, whether whole
  numbers end in `.0`, whether a positive exponent has a sign, and how ties are broken;
* `Layout.float` and `Layout.float32` write a number in a layout, with the fewest digits that read
  back as the same number.
-/

import SecondaryIndex.Decimal.Shortest

namespace SecondaryIndex.Decimal

/-- The decisions of a number format. -/
structure Layout where
  /-- The least and the greatest number of digits before the point that are written without an
  exponent; `none` writes none with one. -/
  positional : Option (Int × Int)
  /-- What a whole number ends in. -/
  wholeEnd : String
  /-- What comes before a positive exponent. -/
  exponentSign : String
  /-- The choice between two equally near decimals. -/
  tie : Tie

/-- A run of zeros. -/
def zeros (count : Nat) : String :=
  String.ofList (List.replicate count '0')

/-- Digits with a point after the first `point` of them, zeros filling up on either side. -/
def positionalText (wholeEnd : String) (digits : String) (point : Int) : String :=
  if point ≤ 0 then "0." ++ zeros (-point).toNat ++ digits
  else if digits.length ≤ point.toNat then
    digits ++ zeros (point.toNat - digits.length) ++ wholeEnd
  else
    String.ofList (digits.toList.take point.toNat) ++ "." ++
      String.ofList (digits.toList.drop point.toNat)

/-- Digits with a point after the first one, and an exponent. -/
def scientificText (exponentSign : String) (digits : String) (point : Int) : String :=
  let fraction := digits.toList.drop 1
  let exponent := point - 1
  String.ofList (digits.toList.take 1) ++
    (if fraction.isEmpty then "" else "." ++ String.ofList fraction) ++
    "e" ++ (if exponent < 0 then "" else exponentSign) ++ toString exponent

namespace Layout

/-- The text of a decimal that is not zero. -/
def decimal (layout : Layout) (number : ShortDecimal) : String :=
  let digits := Nat.repr number.digits
  let point := digits.length + number.exponent
  match layout.positional with
  | none => positionalText layout.wholeEnd digits point
  | some (least, greatest) =>
    if least ≤ point ∧ point ≤ greatest then positionalText layout.wholeEnd digits point
    else scientificText layout.exponentSign digits point

/-- The sign of a negative number. -/
def sign (negative : Bool) : String :=
  if negative then "-" else ""

/-- The text of a number by its parts. -/
def decoded (layout : Layout) : Decoded → String
  | .undefined => "NaN"
  | .infinite negative => sign negative ++ "inf"
  | .finite negative significand exponent narrowBelow =>
    sign negative ++
      (if significand = 0 then "0" ++ layout.wholeEnd
        else layout.decimal (shortest layout.tie significand exponent narrowBelow))

/-- The text of a double. -/
def float (layout : Layout) (number : Float) : String :=
  layout.decoded (.ofFloat number)

/-- The text of a single. -/
def float32 (layout : Layout) (number : Float32) : String :=
  layout.decoded (.ofFloat32 number)

end Layout

end SecondaryIndex.Decimal
