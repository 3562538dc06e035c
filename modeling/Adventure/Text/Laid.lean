import Adventure.Number.Shortest
import Adventure.Text.Layout

/-!
# Values in their layout

* `layText`: a text laid out;
* `Numeral`: a number as digits before the point and the rest, in the way that the kind of a layout
  asks for: `Numeral.ofWhole`, `Numeral.ofFloat`;
* `layWhole`, `layFloat`: a number laid out;
* `Misfit`: why a value has no place in a layout.

Numbers with a point are rounded exactly, a tie going to the even digit.
-/

namespace Adventure.Text

open Number (Binary64)

/-- Why a value has no place in a layout. -/
inductive Misfit where
  /-- The layout asks for something that the value does not have. -/
  | atOdds
  /-- The value is beyond what the kind of the layout can show. -/
  | tooLarge
  /-- The layout is wider than there is room for. -/
  | tooWide
deriving DecidableEq, Repr

/-! ## 1. Filling up -/

/-- The width that there is room for. -/
def room : Nat := Nat.pow 2 35

/-- Fills a text up to a width; the part `head` stays in front of a fill between sign and digits. -/
def fillUp (side : Side) (fill : Char) (width : Nat) (head body : List Char) : List Char :=
  let missing := width - (head.length + body.length)
  match side with
  | .left => head ++ body ++ List.replicate missing fill
  | .right => List.replicate missing fill ++ head ++ body
  | .centre =>
    List.replicate (missing / 2) fill ++ head ++ body ++ List.replicate (missing - missing / 2) fill
  | .afterSign => head ++ List.replicate missing fill ++ body

/-- A text in a layout: it stands on the left, and a precision cuts it. -/
def layText (l : Layout) (s : List Char) : Except Misfit (List Char) :=
  if l.sign.isSome || l.plainZero || l.alternate || l.grouping.isSome ||
      l.side == some .afterSign || !(l.kind.isNone || l.kind == some 's') then .error .atOdds
  else
    let s := match l.precision with
      | some n => s.take n
      | none => s
    if room < l.width then .error .tooWide
    else .ok (fillUp (l.side.getD .left) l.filler l.width [] s)

/-! ## 2. Digits -/

/-- The digits of a number before the point and what comes after them, with the mark of the base
    in front, and the size of the groups. -/
structure Numeral where
  mark : List Char := []
  digits : List Char
  rest : List Char := []
  size : Nat := 3

/-- A whole number to a base. -/
def inBase (base : Nat) (mark : List Char) (size : Nat) (n : Nat) : Numeral where
  mark := mark
  digits := Nat.toDigits base n
  size := size

/-- The part after the point; without one, the point stands only if it is asked for. -/
def pointAnd (alternate : Bool) (part : List Char) : List Char :=
  if part = [] ∧ alternate = false then [] else '.' :: part

/-- The digits of a number, at least `count` of them. -/
def paddedDigits (count n : Nat) : List Char :=
  let digits := Nat.toDigits 10 n
  List.replicate (count - digits.length) '0' ++ digits

/-- The places after which a float has only zeros, and more digits than matter in any. -/
def enough : Nat := 1100

/-- A fraction with a fixed count of places. -/
def fixed (alternate : Bool) (part : List Char → List Char) (places num den : Nat) : Numeral :=
  let exact := min places enough
  let digits := paddedDigits (exact + 1) (Binary64.roundQuotient (num * Nat.pow 10 exact) den)
  let decimals := digits.drop (digits.length - exact) ++ List.replicate (places - exact) '0'
  { digits := digits.take (digits.length - exact)
    rest := pointAnd alternate (part decimals) }

/-- The exponent of the leading digit of a fraction; that of zero is zero. -/
def leadingExponent (num den : Nat) : Int :=
  if num = 0 then 0
  else
    let size : Nat → Int := fun n => (Nat.toDigits 10 n).length
    Binary64.decimalExponent num den 1 (size num - size den - 1)

/-- The first `count + 1` digits of a fraction, rounded, and the exponent of the first of them. -/
def leadingDigits (count num den : Nat) : List Char × Int :=
  let exact := min count enough
  let lead := leadingExponent num den
  let (p, r) := Binary64.powerOfTen (exact - lead)
  let digits := paddedDigits (exact + 1) (Binary64.roundQuotient (num * p) (den * r))
  (digits.take (exact + 1) ++ List.replicate (count - exact) '0',
    lead + (digits.length - (exact + 1) : Nat))

/-- An exponent: a sign and at least two digits. -/
def exponentText (e : Char) (exponent : Int) : List Char :=
  e :: (if exponent < 0 then '-' else '+') :: paddedDigits 2 exponent.natAbs

/-- A fraction with one digit before the point and an exponent. -/
def scientific (alternate : Bool) (e : Char) (part : List Char → List Char)
    (places num den : Nat) : Numeral :=
  let (digits, exponent) := leadingDigits places num den
  { digits := digits.take 1
    rest := pointAnd alternate (part (digits.drop 1)) ++ exponentText e exponent }

/-- The digits without the zeros at their end. -/
def dropZeros (digits : List Char) : List Char := (digits.reverse.dropWhile (· = '0')).reverse

/-- A fraction with a count of digits that matter, with an exponent from `10 ^ bound` on and below
    the fourth place after the point. -/
def general (alternate : Bool) (e : Char) (part : List Char → List Char) (count : Nat) (bound : Int)
    (num den : Nat) : Numeral :=
  let count := if alternate then count else min count enough
  let (_, exponent) := leadingDigits (count - 1) num den
  if -4 ≤ exponent ∧ exponent < bound then
    fixed alternate part (count - 1 - exponent).toNat num den
  else scientific alternate e part (count - 1) num den

/-! ## 3. Numerals -/

/-- A float as its shortest text, without its sign. -/
def shortestNumeral (alternate : Bool) (x : Binary64) : Numeral :=
  let text := ({ x with negative := false } : Binary64).toText.toList
  let digits := text.takeWhile (fun c => (plainDigitValue? c).isSome)
  let rest := text.drop digits.length
  { digits, rest := if alternate ∧ digits ≠ [] ∧ rest.head? ≠ some '.' then '.' :: rest else rest }

/-- A float that is not finite, in small or capital letters. -/
def wordNumeral (x : Binary64) (capitals : Bool) (after : List Char) : Numeral :=
  let word := ({ x with negative := false } : Binary64).toText.toList
  { digits := [], rest := (if capitals then word.map Char.toUpper else word) ++ after }

/-- The kinds that show a number with a point. -/
def pointedKinds : List Char := ['e', 'E', 'f', 'F', 'g', 'G', 'n', '%']

/-- The greatest precision of a number with a point. -/
def finest : Nat := Nat.pow 2 31 - 1

/-- A finite float in a kind with a point. -/
def pointed (l : Layout) (kind : Char) (x : Binary64) : Numeral :=
  let (num, den) := x.fraction
  let places := l.precision.getD 6
  let trim := if l.alternate then id else dropZeros
  if kind = 'e' ∨ kind = 'E' then scientific l.alternate kind id places num den
  else if kind = 'g' ∨ kind = 'n' then
    general l.alternate 'e' trim (max places 1) (max places 1 : Nat) num den
  else if kind = 'G' then
    general l.alternate 'E' trim (max places 1) (max places 1 : Nat) num den
  else
    let numeral := fixed l.alternate id places num den
    if kind = '%' then { numeral with rest := numeral.rest ++ ['%'] } else numeral

/-- A float in the kind of a layout. Without a kind it is shown as it is, or with the digits that
    a precision asks for, of which at least one stands after the point. -/
def Numeral.ofFloat (l : Layout) (x : Binary64) : Except Misfit Numeral :=
  if l.precision.any (finest < ·) then .error .atOdds
  else match l.kind with
  | none =>
    if !x.isFinite then .ok (wordNumeral x false [])
    else match l.precision with
      | none => .ok (shortestNumeral l.alternate x)
      | some n =>
        let (num, den) := x.fraction
        let count := max n 1
        let trim := if l.alternate then id else dropZeros
        let plain := general l.alternate 'e' trim count (count - 1 : Nat) num den
        .ok (if plain.rest = [] then { plain with rest := ['.', '0'] } else plain)
  | some kind =>
    let x := if kind = '%' then x.scaled 100 else x
    if !pointedKinds.contains kind then .error .atOdds
    else if x.isFinite then .ok (pointed l kind x)
    else .ok (wordNumeral x kind.isUpper (if kind = '%' then ['%'] else []))

/-- The character with a number. -/
def characterOf? (n : Int) : Option Char :=
  if h : 0 ≤ n ∧ n.toNat.isValidChar then some (Char.ofNatAux n.toNat h.2) else none

/-- A whole number in the kind of a layout. -/
def Numeral.ofWhole (l : Layout) (n : Int) : Except Misfit Numeral :=
  match l.kind with
  | none => .ok (inBase 10 [] 3 n.natAbs)
  | some 'd' => .ok (inBase 10 [] 3 n.natAbs)
  | some 'n' => .ok (inBase 10 [] 3 n.natAbs)
  | some 'b' => .ok (inBase 2 ['0', 'b'] 4 n.natAbs)
  | some 'o' => .ok (inBase 8 ['0', 'o'] 4 n.natAbs)
  | some 'x' => .ok (inBase 16 ['0', 'x'] 4 n.natAbs)
  | some 'X' =>
    let numeral := inBase 16 ['0', 'X'] 4 n.natAbs
    .ok { numeral with digits := numeral.digits.map Char.toUpper }
  | some 'c' =>
    match characterOf? n with
    | some c => .ok { digits := [], rest := [c] }
    | none => .error .tooLarge
  | some kind =>
    if !pointedKinds.contains kind then .error .atOdds
    else if (Binary64.ofInt n).isFinite then ofFloat l (.ofInt n)
    else .error .tooLarge

/-! ## 4. Numbers in their layout -/

/-- Whether a layout asks for something that its kind does not have: whole numbers have no
    precision, and only some kinds can be grouped. -/
def isAtOdds (l : Layout) : Bool :=
  let kind := l.kind.getD 'd'
  let whole := ['d', 'n', 'b', 'o', 'x', 'X', 'c'].contains kind
  (whole && (l.precision.isSome || l.plainZero)) ||
    (l.grouping == some ',' && ['b', 'o', 'x', 'X'].contains kind) ||
    (l.grouping.isSome && ['n', 'c'].contains kind) ||
    (kind == 'c' && (l.sign.isSome || l.alternate))

/-- Digits in groups, counted from the right. -/
def groupDigits (mark : Char) (size : Nat) (digits : List Char) : List Char :=
  (digits.reverse.zipIdx.flatMap
    (fun (c, i) => if i ≠ 0 ∧ i % size = 0 then [mark, c] else [c])).reverse

/-- Digits in groups, with zeros in front so that they are at least `width` wide. -/
def groupWide (mark : Char) (size width : Nat) (digits : List Char) : List Char :=
  let whole := width / (size + 1) * size + width % (size + 1)
  let needed := if width % (size + 1) = 0 then whole + 1 else whole
  groupDigits mark size
    (List.replicate (if width = 0 then 0 else needed - digits.length) '0' ++ digits)

/-- The sign of a number; one that is not negative has one if the layout asks for it. -/
def signOf (l : Layout) (negative : Bool) : List Char :=
  if negative then ['-']
  else match l.sign with
    | some '+' => ['+']
    | some ' ' => [' ']
    | _ => []

/-- A numeral with its sign in a layout: it stands on the right. What has no digits has no
    groups. -/
def layNumeral (l : Layout) (negative : Bool) (numeral : Numeral) : Except Misfit (List Char) :=
  let side := l.side.getD (if l.zeroWidth then .afterSign else .right)
  let head := signOf l negative ++ (if l.alternate then numeral.mark else [])
  let width :=
    if l.filler = '0' ∧ side = .afterSign then l.width - (head.length + numeral.rest.length)
    else 0
  if room < l.width then .error .tooWide
  else
    let digits := match l.grouping, numeral.digits with
      | some mark, d :: ds => groupWide mark numeral.size width (d :: ds)
      | _, digits => digits
    .ok (fillUp side l.filler l.width head (digits ++ numeral.rest))

/-- **A whole number in a layout.** -/
def layWhole (l : Layout) (n : Int) : Except Misfit (List Char) :=
  if isAtOdds l then .error .atOdds
  else Numeral.ofWhole l n >>= layNumeral l (n < 0)

/-- The numeral shows nothing but zeros. -/
def Numeral.isZero (numeral : Numeral) : Bool :=
  (numeral.digits ++ numeral.rest.takeWhile (fun c => c ≠ 'e' ∧ c ≠ 'E')).all
    (fun c => c = '0' ∨ c = '.' ∨ c = '%')

/-- **A float in a layout.** What is no number has no sign, and the sign of a zero goes if the
    layout asks for that. -/
def layFloat (l : Layout) (x : Binary64) : Except Misfit (List Char) :=
  if l.grouping.isSome && l.kind == some 'n' then .error .atOdds
  else do
    let numeral ← Numeral.ofFloat l x
    layNumeral l (x.negative && !x.isNaN && !(l.plainZero && numeral.isZero)) numeral

end Adventure.Text
