import Adventure.Text.Blank

/-!
# Whole numbers in text

* `digitValue?`: the value of a decimal digit of any script;
* `readDigits?`: digits, with single underscores between them;
* `readInt?`: a whole number as a player or a command line gives it: white space around it, a sign,
  digits of any script, at most 4300 of them.
-/

namespace Adventure.Text

/-! ## 1. Digits -/

/-- The zeros of all scripts; the digits one to nine follow each of them. -/
def zeros : List Nat := [
  0x30, 0x660, 0x6F0, 0x7C0, 0x966, 0x9E6, 0xA66, 0xAE6, 0xB66, 0xBE6, 0xC66, 0xCE6, 0xD66, 0xDE6,
  0xE50, 0xED0, 0xF20, 0x1040, 0x1090, 0x17E0, 0x1810, 0x1946, 0x19D0, 0x1A80, 0x1A90, 0x1B50,
  0x1BB0, 0x1C40, 0x1C50, 0xA620, 0xA8D0, 0xA900, 0xA9D0, 0xA9F0, 0xAA50, 0xABF0, 0xFF10, 0x104A0,
  0x10D30, 0x11066, 0x110F0, 0x11136, 0x111D0, 0x112F0, 0x11450, 0x114D0, 0x11650, 0x116C0,
  0x11730, 0x118E0, 0x11950, 0x11C50, 0x11D50, 0x11DA0, 0x16A60, 0x16AC0, 0x16B50, 0x1D7CE,
  0x1D7D8, 0x1D7E2, 0x1D7EC, 0x1D7F6, 0x1E140, 0x1E2F0, 0x1E950, 0x1FBF0]

/-- The value of a decimal digit of any script. -/
def digitValue? (c : Char) : Option Nat :=
  (zeros.find? (fun z => z ≤ c.toNat && c.toNat ≤ z + 9)).map (c.toNat - ·)

/-- The value of one of the ten digits `0` to `9`. -/
def plainDigitValue? (c : Char) : Option Nat :=
  if '0' ≤ c ∧ c ≤ '9' then some (c.toNat - 48) else none

/-! ## 2. Runs of digits -/

/-- Reads on after a digit: `value` is the number so far and `count` how many digits it has. An
    underscore counts for nothing and has a digit on both sides. -/
def digitsAfter (digit? : Char → Option Nat) (value count : Nat) :
    List Char → Option (Nat × Nat)
  | [] => some (value, count)
  | ['_'] => none
  | '_' :: c :: cs =>
    match digit? c with
    | some d => digitsAfter digit? (10 * value + d) (count + 1) cs
    | none => none
  | c :: cs =>
    match digit? c with
    | some d => digitsAfter digit? (10 * value + d) (count + 1) cs
    | none => none

/-- A number of at least one digit, and how many digits it has. -/
def readDigits? (digit? : Char → Option Nat) : List Char → Option (Nat × Nat)
  | [] => none
  | c :: cs =>
    match digit? c with
    | some d => digitsAfter digit? d 1 cs
    | none => none

/-- A sign, if there is one, and the rest: `true` stands for a minus. -/
def splitSign : List Char → Bool × List Char
  | '-' :: cs => (true, cs)
  | '+' :: cs => (false, cs)
  | cs => (false, cs)

/-! ## 3. Whole numbers -/

/-- The longest number that is read, in digits. -/
def digitLimit : Nat := 4300

/-- **A whole number** with white space around it, a sign, and digits of any script with single
    underscores between them. -/
def readInt? (s : List Char) : Option Int :=
  let (negative, digits) := splitSign (trim isWhite s)
  match readDigits? digitValue? digits with
  | some (n, count) =>
    if digitLimit < count then none else some (if negative then -(n : Int) else n)
  | none => none

example : readInt? " -1_0 ".toList = some (-10) := by decide +kernel
example : readInt? "٣".toList = some 3 := by decide +kernel
example : readInt? "1__0".toList = none := by decide +kernel

end Adventure.Text
