import Adventure.Text.Printable

/-!
# Quoted text

* `quote`: a text between quotes, in which quotes, backslashes, line breaks and characters that
  cannot be printed are escaped.

A text is quoted with `'`, and with `"` if it has a `'` and no `"`.
-/

namespace Adventure.Text

/-- The last `width` hexadecimal digits of a number, small letters. -/
def hexDigits (width n : Nat) : List Char :=
  match width with
  | 0 => []
  | w + 1 => hexDigits w (n / 16) ++ [Nat.digitChar (n % 16)]

/-- A character that cannot be shown, by its code point: two, four or eight digits. -/
def escapeByNumber (n : Nat) : List Char :=
  if n < 0x100 then '\\' :: 'x' :: hexDigits 2 n
  else if n < 0x10000 then '\\' :: 'u' :: hexDigits 4 n
  else '\\' :: 'U' :: hexDigits 8 n

/-- One character between quotes `q`. -/
def quoteChar (q c : Char) : List Char :=
  if c = q ∨ c = '\\' then ['\\', c]
  else if c = '\n' then ['\\', 'n']
  else if c = '\r' then ['\\', 'r']
  else if c = '\t' then ['\\', 't']
  else if isPrintable c then [c]
  else escapeByNumber c.toNat

/-- The quote a text is put in. -/
def quoteMark (s : List Char) : Char :=
  if s.contains '\'' && !s.contains '"' then '"' else '\''

/-- **A text between quotes.** -/
def quote (s : List Char) : List Char :=
  let q := quoteMark s
  q :: s.flatMap (quoteChar q) ++ [q]

example : quote "l'oro".toList = "\"l'oro\"".toList := by decide +kernel
example : quote "a\n\x07è".toList = "'a\\n\\x07è'".toList := by decide +kernel

end Adventure.Text
