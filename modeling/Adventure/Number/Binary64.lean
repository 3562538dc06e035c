import Adventure.Text.Digit

/-!
# Binary floating-point numbers of 64 bits

* `Binary64`: a sign and a magnitude; the magnitude is the word without its sign bit, so that
  magnitudes are ordered as the numbers are;
* `Binary64.significand`: the two numbers `m` and `q` with `m · 2 ^ q` the value of a magnitude;
* `nearest`: the magnitude nearest to a fraction, a tie going to the even one;
* `Binary64.ofDecimal`, `Binary64.ofInt`, `Binary64.read?`: the number nearest to a decimal;
* `Binary64.whole?`, `Binary64.truncate?`, `Binary64.isZero`: what a number is as a whole number.

All of it is exact arithmetic on natural numbers.
-/

namespace Adventure.Number

/-- A number of 64 bits. The magnitudes from `infinite` on stand for infinity and, above it, for
    no number at all. -/
structure Binary64 where
  negative : Bool
  magnitude : Nat
deriving DecidableEq, Repr

namespace Binary64

/-! ## 1. The value of a magnitude -/

/-- One step of the exponent field. -/
def binade : Nat := Nat.pow 2 52

/-- The magnitude of infinity. -/
def infinite : Nat := 2047 * binade

/-- Infinity with a sign. -/
def infinity (negative : Bool) : Binary64 := ⟨negative, infinite⟩

/-- What stands in the place of a number that there is not. -/
def nan : Binary64 := ⟨false, infinite + binade / 2⟩

def isFinite (x : Binary64) : Bool := x.magnitude < infinite

def isZero (x : Binary64) : Bool := x.magnitude == 0

/-- What stands in the place of a number is no number at all. -/
def isNaN (x : Binary64) : Bool := infinite < x.magnitude

/-- The significand and the exponent of a finite magnitude. -/
def significand (magnitude : Nat) : Nat × Int :=
  let e := magnitude / binade
  let f := magnitude % binade
  if e = 0 then (f, -1074) else (binade + f, (e : Int) - 1075)

/-! ## 2. The nearest magnitude -/

/-- The quotient rounded to the nearest number, a tie to the even one. -/
def roundQuotient (num den : Nat) : Nat :=
  let down := num / den
  let rest := num % den
  if 2 * rest < den then down
  else if den < 2 * rest then down + 1
  else down + down % 2

/-- `num / den` scaled by `2 ^ (-q)`. -/
def scale (num den : Nat) (q : Int) : Nat × Nat :=
  if 0 ≤ q then (num, den * Nat.pow 2 q.toNat) else (num * Nat.pow 2 (-q).toNat, den)

/-- The exponent of the greatest power of two that is at most `num / den`. -/
def binaryExponent (num den : Nat) : Int :=
  let k : Int := (num.log2 : Int) - den.log2
  let (n, d) := scale num den k
  if d ≤ n then k else k - 1

/-- **The magnitude nearest to a fraction.** -/
def nearest (num den : Nat) : Nat :=
  if num = 0 then 0
  else
    let q := max (binaryExponent num den - 52) (-1074)
    let (n, d) := scale num den q
    min ((q + 1074).toNat * binade + roundQuotient n d) infinite

/-- The number nearest to `digits · 10 ^ exponent`. -/
def ofDecimal (negative : Bool) (digits : Nat) (exponent : Int) : Binary64 :=
  let size : Int := (Nat.toDigits 10 digits).length
  if digits = 0 ∨ exponent + size < -400 then ⟨negative, 0⟩
  else if 400 < exponent + size then ⟨negative, infinite⟩
  else if 0 ≤ exponent then ⟨negative, nearest (digits * Nat.pow 10 exponent.toNat) 1⟩
  else ⟨negative, nearest digits (Nat.pow 10 (-exponent).toNat)⟩

/-- The number nearest to a whole number. -/
def ofInt (n : Int) : Binary64 := ⟨n < 0, nearest n.natAbs 1⟩

/-- The finite magnitude of a number as a fraction. -/
def fraction (x : Binary64) : Nat × Nat :=
  let (m, q) := significand x.magnitude
  (m * Nat.pow 2 q.toNat, Nat.pow 2 (-q).toNat)

/-- The number nearest to a multiple of a number; what is not finite stays what it is. -/
def scaled (x : Binary64) (factor : Nat) : Binary64 :=
  if x.isFinite then
    let (num, den) := x.fraction
    { x with magnitude := nearest (factor * num) den }
  else x

/-! ## 3. Reading decimals -/

/-- The digits at the head of a text: their number, how many there are, and the rest. -/
def takeDigits (s : List Char) : Nat × Nat × List Char :=
  let ds := s.takeWhile (fun c => (Text.plainDigitValue? c).isSome)
  (ds.foldl (fun n c => 10 * n + (Text.plainDigitValue? c).getD 0) 0, ds.length,
    s.dropWhile (fun c => (Text.plainDigitValue? c).isSome))

/-- An exponent: a sign and at least one digit up to the end of the text. -/
def readExponent? (s : List Char) : Option Int :=
  let (negative, digits) := Text.splitSign s
  match takeDigits digits with
  | (n, k + 1, []) => let _ := k; some (if negative then -(n : Int) else n)
  | _ => none

/-- A decimal without its sign: digits with a point somewhere, and perhaps an exponent. -/
def readUnsigned? (negative : Bool) (s : List Char) : Option Binary64 :=
  let (whole, wholeCount, s) := takeDigits s
  let (part, partCount, s) := match s with
    | '.' :: cs => takeDigits cs
    | s => (0, 0, s)
  if wholeCount + partCount = 0 then none
  else
    let digits := whole * Nat.pow 10 partCount + part
    match s with
    | [] => some (ofDecimal negative digits (-(partCount : Int)))
    | c :: cs =>
      if c = 'e' ∨ c = 'E' then
        (readExponent? cs).map (fun e => ofDecimal negative digits (e - partCount))
      else none

/-- **A number from its decimal text**; the words for infinity and for no number count too. -/
def read? (s : List Char) : Option Binary64 :=
  let (negative, digits) := Text.splitSign s
  let word := digits.map Char.toLower
  if word = "inf".toList ∨ word = "infinity".toList then some (infinity negative)
  else if word = "nan".toList then some { nan with negative }
  else readUnsigned? negative digits

/-! ## 4. Whole numbers -/

/-- The number without its fraction; `none` if it is not finite. -/
def truncate? (x : Binary64) : Option Int :=
  if x.isFinite then
    let (m, q) := significand x.magnitude
    let n := if 0 ≤ q then m * Nat.pow 2 q.toNat else m / Nat.pow 2 (-q).toNat
    some (if x.negative then -(n : Int) else n)
  else none

/-- A whole multiple of the magnitude, without its fraction. -/
def times (k : Nat) (x : Binary64) : Nat :=
  let (m, q) := significand x.magnitude
  if 0 ≤ q then k * m * Nat.pow 2 q.toNat else k * m / Nat.pow 2 (-q).toNat

/-- The whole number that the number is; `none` if it is none. -/
def whole? (x : Binary64) : Option Int :=
  let (m, q) := significand x.magnitude
  if q < 0 ∧ m % Nat.pow 2 (-q).toNat ≠ 0 then none else x.truncate?

/-- The two are the same number: both zeros are one, and what is no number equals nothing. -/
def same (x y : Binary64) : Bool :=
  (x.isZero && y.isZero) || (x == y && x.magnitude ≤ infinite)

/-- The number is at most zero. -/
def isAtMostZero (x : Binary64) : Bool :=
  x.isZero || (x.negative && x.magnitude ≤ infinite)

example : read? "2.5".toList = some ⟨false, 0x4004000000000000⟩ := by decide +kernel
example : (read? "1e3".toList).bind whole? = some 1000 := by decide +kernel

end Binary64

end Adventure.Number
