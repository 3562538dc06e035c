import Adventure.Number.Binary64

/-!
# The shortest decimal of a floating-point number

* `Binary64.shortest`: the fewest digits that read back as the number, and their exponent;
* `Binary64.toText`: the text of a number: positional if its leading digit stands between the
  fourth place after the point and the sixteenth before it, with an exponent otherwise.
-/

namespace Adventure.Number.Binary64

/-! ## 1. Digits -/

/-- The three fractions that bound what reads back as a magnitude, all over one denominator: the
    lower end, the value and the upper end; and whether the ends themselves read back. -/
structure Interval where
  low : Nat
  value : Nat
  high : Nat
  den : Nat
  closed : Bool
deriving DecidableEq, Repr

/-- The numbers that round to a positive finite magnitude. -/
def interval (magnitude : Nat) : Interval :=
  let (m, q) := significand magnitude
  let low := if magnitude % binade = 0 ∧ binade < magnitude then 4 * m - 1 else 4 * m - 2
  let up : Nat := Nat.pow 2 (q - 2).toNat
  { low := low * up, value := 4 * m * up, high := (4 * m + 2) * up,
    den := Nat.pow 2 (2 - q).toNat, closed := m % 2 = 0 }

/-- A fraction `num / den` that reads back. -/
def Interval.contains (i : Interval) (num den : Nat) : Bool :=
  if i.closed then i.low * den ≤ num * i.den && num * i.den ≤ i.high * den
  else i.low * den < num * i.den && num * i.den < i.high * den

/-- The power of ten `10 ^ e` as a fraction. -/
def powerOfTen (e : Int) : Nat × Nat := (Nat.pow 10 e.toNat, Nat.pow 10 (-e).toNat)

/-- The exponent of the greatest power of ten that is at most `num / den`, from a guess that is
    too small by at most `fuel`. -/
def decimalExponent (num den : Nat) : Nat → Int → Int
  | 0, e => e
  | fuel + 1, e =>
    let (p, r) := powerOfTen (e + 1)
    if p * den ≤ num * r then decimalExponent num den fuel (e + 1) else e

/-- The better of the two neighbours of the value on the grid of `10 ^ e`, if one reads back. -/
def onGrid? (i : Interval) (e : Int) : Option Nat :=
  let (p, r) := powerOfTen e
  let down := (i.value * r) / (i.den * p)
  let rest := (i.value * r) % (i.den * p)
  let up := down + 1
  match i.contains (down * p) r, i.contains (up * p) r with
  | false, false => none
  | true, false => some down
  | false, true => some up
  | true, true =>
    if 2 * rest < i.den * p then some down
    else if i.den * p < 2 * rest then some up
    else some (down + down % 2)

/-- The shortest digits for a value whose leading digit is that of `10 ^ lead`, with at least
    `count` and at most `count + fuel` digits. -/
def shortestFrom (i : Interval) (lead : Int) : Nat → Nat → Nat × Int
  | 0, count => ((onGrid? i (lead - count + 1)).getD 0, lead - count + 1)
  | fuel + 1, count =>
    match onGrid? i (lead - count + 1) with
    | some n => (n, lead - count + 1)
    | none => shortestFrom i lead fuel (count + 1)

/-- **The fewest digits that read back as a positive finite magnitude**, as a whole number and
    the power of ten it is a multiple of. -/
def shortest (magnitude : Nat) : Nat × Int :=
  let i := interval magnitude
  let bits : Int := (i.value.log2 : Int) - i.den.log2
  let lead := decimalExponent i.value i.den 6 (bits * 1233 / 4096 - 3)
  shortestFrom i lead 16 1

/-! ## 2. Text -/

/-- The digits of a number without the zeros at its end. -/
def trimZeros (digits : List Char) : List Char :=
  (digits.reverse.dropWhile (· = '0')).reverse

/-- An exponent: a sign and at least two digits. -/
def exponentText (e : Int) : List Char :=
  let digits := (toString e.natAbs).toList
  ['e', if e < 0 then '-' else '+'] ++ (if digits.length < 2 then '0' :: digits else digits)

/-- Digits `d₁d₂…` whose first one has the weight `10 ^ lead`. -/
def layOut (digits : List Char) (lead : Int) : List Char :=
  if -4 ≤ lead ∧ lead < 0 then
    ['0', '.'] ++ List.replicate (-lead - 1).toNat '0' ++ digits
  else if 0 ≤ lead ∧ lead < 16 then
    let n := lead.toNat + 1
    let whole := digits.take n
    let part := digits.drop n
    let zeros := List.replicate (n - whole.length) '0'
    whole ++ zeros ++ ['.'] ++ (if part.isEmpty then ['0'] else part)
  else
    let rest := digits.drop 1
    digits.take 1 ++ (if rest.isEmpty then [] else '.' :: rest) ++ exponentText lead

/-- **The text of a number.** -/
def toText (x : Binary64) : String :=
  if infinite < x.magnitude then "nan"
  else
    let sign := if x.negative then "-" else ""
    if x.magnitude = infinite then sign ++ "inf"
    else if x.magnitude = 0 then sign ++ "0.0"
    else
      let (n, e) := shortest x.magnitude
      let digits := (toString n).toList
      sign ++ String.ofList (layOut (trimZeros digits) (e + digits.length - 1))

example : (ofDecimal false 25 (-1)).toText = "2.5" := by decide +kernel
example : (ofDecimal true 1 (-7)).toText = "-1e-07" := by decide +kernel
example : (ofDecimal false 1 16).toText = "1e+16" := by decide +kernel
example : (ofDecimal false 3 (-1)).toText = "0.3" := by decide +kernel
example : (⟨false, 1⟩ : Binary64).toText = "5e-324" := by decide +kernel

end Adventure.Number.Binary64
