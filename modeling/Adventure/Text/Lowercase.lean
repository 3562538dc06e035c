import Adventure.Text.Letter
import Adventure.Text.SmallForm

/-!
# Small letters for capitals, over a whole text

* `lowerChar`: the small form of one character, which for the dotted capital I is two characters;
* `lower`: the small form of a text, where a capital sigma at the end of a word takes its final
  form.

A capital sigma is final if a letter stands before it and none after it, where marks in between
(`isTransparent`) do not count.
-/

namespace Adventure.Text

/-- The small form of a character on its own. -/
def lowerChar (c : Char) : List Char :=
  if c = 'İ' then ['i', '\u0307'] else [(smallForm? c).getD c]

/-- The first character that is no mark is a letter. -/
def letterAhead (s : List Char) : Bool :=
  match s.dropWhile isTransparent with
  | [] => false
  | c :: _ => isLetterWithCase c

/-- The small form of the rest of a text. `afterLetter` tells whether the last character before
    it that is no mark is a letter. -/
def lowerFrom (afterLetter : Bool) : List Char → List Char
  | [] => []
  | c :: cs =>
    (if c = 'Σ' then [if afterLetter && !letterAhead cs then 'ς' else 'σ'] else lowerChar c) ++
      lowerFrom (if isTransparent c then afterLetter else isLetterWithCase c) cs

/-- **The small form of a text.** -/
def lower (s : List Char) : List Char := lowerFrom false s

/-- The small form of a string. -/
def lowercase (s : String) : String := String.ofList (lower s.toList)

example : lower "ΑΣ ΑΣΑ Σ".toList = "ας ασα σ".toList := by decide +kernel
example : lower "İX".toList = "i̇x".toList := by decide +kernel

end Adventure.Text
