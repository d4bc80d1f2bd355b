import TableQuery.Number.Shortest

/-!
# Number/Layout — where the point and the exponent of a decimal stand

The digits of a number are laid out positionally or with a power of ten.  Which of the two, and how
the power is written, differs between the places where numbers are written: each place has its
`Layout`.
-/

namespace TableQuery.Number

open TableQuery.Text

/-- How a number is written. -/
structure Layout where
  /-- The powers of ten of the first digit that are written positionally; none stands for all. -/
  positional : Option (Int × Int)
  /-- Whether a whole number keeps a point and a zero. -/
  keepsPoint : Bool
  /-- Whether a plus sign marks a power of ten that is not negative. -/
  signsExponent : Bool
  /-- Which of two equally near decimals is written. -/
  tie : Tie

namespace Layout

/-- Positional at any size, whole numbers without a point: `1.5`, `10`, `0.0000001`. -/
def plain : Layout := ⟨none, false, false, .up⟩

/-- Positional from `0.0001` to below `10 ^ 16`, whole numbers with a point: `10.0`, `1e16`. -/
def pointed : Layout := ⟨some (-4, 15), true, false, .up⟩

/-- The form of numbers in JSON text: `100.0`, `1.8446744073709552e+19`. -/
def json : Layout := ⟨some (-5, 15), true, true, .even⟩

/-- Digits with the point among them, or zeros filled in up to it. -/
def positionalText (l : Layout) (d : Digits) : List Char :=
  if d.point ≤ 0 then '0' :: '.' :: List.replicate (-d.point).toNat '0' ++ d.digits
  else
    let n := d.point.toNat
    if d.digits.length ≤ n then
      d.digits ++ List.replicate (n - d.digits.length) '0' ++
        if l.keepsPoint then ['.', '0'] else []
    else d.digits.take n ++ '.' :: d.digits.drop n

/-- One digit in front of the point, the others behind it, and the power of ten. -/
def scientificText (l : Layout) (d : Digits) : List Char :=
  let e := d.point - 1
  let mantissa := match d.digits with
    | c :: c' :: cs => c :: '.' :: c' :: cs
    | cs => cs
  let sign := if e < 0 then ['-'] else if l.signsExponent then ['+'] else []
  mantissa ++ 'e' :: sign ++ decimal e.natAbs

/-- The digits in the notation that their size asks for. -/
def digitsText (l : Layout) (d : Digits) : List Char :=
  match l.positional with
  | none => l.positionalText d
  | some (lo, hi) =>
    if lo ≤ d.point - 1 ∧ d.point - 1 ≤ hi then l.positionalText d else l.scientificText d

/-- The text of a number. -/
def text (l : Layout) (x : Binary64) : String :=
  if x.isNaN then "NaN"
  else
    let body := if x.isInfinite then ['i', 'n', 'f'] else l.digitsText (x.shortest l.tie)
    String.ofList (if x.negative then '-' :: body else body)

end Layout

end TableQuery.Number
