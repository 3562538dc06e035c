import Adventure.Text.Digit

/-!
# The layout of a value in a message

* `Layout`: fill, side, sign, width, precision and kind, as a field of a message may ask for them;
* `Layout.read?`: a layout from its written form, the parts in this order, each of which may be
  left out: fill and side, sign, `z`, `#`, `0`, width, grouping, point and precision, kind.
-/

namespace Adventure.Text

/-- Where a value stands in a wider field. -/
inductive Side where
  | left
  | right
  | centre
  /-- Between the sign of a number and its digits. -/
  | afterSign
deriving DecidableEq, Repr

/-- How a value is to be laid out. -/
structure Layout where
  /-- The character that fills the field up, a blank unless the layout says otherwise. -/
  fill : Option Char := none
  side : Option Side := none
  sign : Option Char := none
  /-- Zero has no sign. Only numbers with a point may ask for it. -/
  plainZero : Bool := false
  /-- Numbers to other bases show their base, and numbers with a point always show it. -/
  alternate : Bool := false
  /-- The width was written with a leading zero. -/
  zeroWidth : Bool := false
  width : Nat := 0
  grouping : Option Char := none
  precision : Option Nat := none
  kind : Option Char := none
deriving DecidableEq, Repr

def Side.ofChar? : Char → Option Side
  | '<' => some .left
  | '>' => some .right
  | '^' => some .centre
  | '=' => some .afterSign
  | _ => none

/-- Fill and side: two characters if the second one names a side, else one or none. -/
def Layout.readSide (l : Layout) : List Char → Layout × List Char
  | f :: s :: cs =>
    match Side.ofChar? s with
    | some side => ({ l with fill := some f, side := some side }, cs)
    | none =>
      match Side.ofChar? f with
      | some side => ({ l with side := some side }, s :: cs)
      | none => (l, f :: s :: cs)
  | [s] =>
    match Side.ofChar? s with
    | some side => ({ l with side := some side }, [])
    | none => (l, [s])
  | [] => (l, [])

def Layout.readSign (l : Layout) : List Char → Layout × List Char
  | c :: cs => if c = '+' ∨ c = '-' ∨ c = ' ' then ({ l with sign := some c }, cs) else (l, c :: cs)
  | [] => (l, [])

def Layout.readPlainZero (l : Layout) : List Char → Layout × List Char
  | 'z' :: cs => ({ l with plainZero := true }, cs)
  | cs => (l, cs)

def Layout.readAlternate (l : Layout) : List Char → Layout × List Char
  | '#' :: cs => ({ l with alternate := true }, cs)
  | cs => (l, cs)

/-- A leading zero fills with zeros unless the layout names a fill of its own. -/
def Layout.readZero (l : Layout) : List Char → Layout × List Char
  | '0' :: cs => ({ l with zeroWidth := true, fill := some (l.fill.getD '0') }, cs)
  | cs => (l, cs)

/-- The character that a layout fills up with. -/
def Layout.filler (l : Layout) : Char := l.fill.getD ' '

/-- The number at the head of the text, in digits of any script; zero if there is none. -/
def leadingNumber (s : List Char) : Nat × List Char :=
  ((s.takeWhile (digitValue? · |>.isSome)).foldl
      (fun n c => 10 * n + (digitValue? c).getD 0) 0,
    s.dropWhile (digitValue? · |>.isSome))

def Layout.readGrouping (l : Layout) : List Char → Layout × List Char
  | c :: cs => if c = ',' ∨ c = '_' then ({ l with grouping := some c }, cs) else (l, c :: cs)
  | [] => (l, [])

/-- The greatest width and precision that a layout may ask for. -/
def widest : Nat := Nat.pow 2 63 - 1

/-- A precision is a point and at least one digit. -/
def Layout.readPrecision? (l : Layout) : List Char → Option (Layout × List Char)
  | '.' :: cs =>
    match cs with
    | d :: _ =>
      if (digitValue? d).isSome then
        let (n, rest) := leadingNumber cs
        if widest < n then none else some ({ l with precision := some n }, rest)
      else none
    | [] => none
  | cs => some (l, cs)

/-- **A layout from its written form.** -/
def Layout.read? (s : List Char) : Option Layout :=
  let (l, s) := Layout.readSide {} s
  let (l, s) := l.readSign s
  let (l, s) := l.readPlainZero s
  let (l, s) := l.readAlternate s
  let (l, s) := l.readZero s
  let (width, s) := leadingNumber s
  let (l, s) := ({ l with width := width } : Layout).readGrouping s
  if widest < width then none
  else match l.readPrecision? s with
    | none => none
    | some (l, []) => some l
    | some (l, [k]) => some { l with kind := some k }
    | some (_, _) => none

end Adventure.Text
