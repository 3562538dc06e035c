import Adventure.Text.Span

/-!
# Texts as files keep them

* `kept`: a text after it was written into a file between single quotes and read back;
* `isQuotedPlainly`: the texts that are written that way among those with line breaks.

Between single quotes a line break of any kind can be written, but the next-line character U+0085
is read back as a line feed: alone it becomes a blank, and in front of other line breaks it is lost.
All other texts come back as they are.
-/

namespace Adventure.Text

/-- The next-line character. -/
def nextLine : Char := '\u0085'

/-- A character that breaks lines in a file. -/
def breaksLine (c : Char) : Bool :=
  c = '\n' ∨ c = nextLine ∨ c = '\u2028' ∨ c = '\u2029'

/-- A character that stands for itself in a file. -/
def isKeptPlainly (c : Char) : Bool :=
  let n := c.toNat
  n == 10 || (0x20 ≤ n && n ≤ 0x7E) || n == 0x85 ||
    ((0xA0 ≤ n && n ≤ 0xFFFD || 0x10000 ≤ n && n < 0x10FFFF) && n != 0xFEFF)

/-- A blank stands next to a line break. -/
def hasBlankAtBreak : List Char → Bool
  | c :: d :: cs =>
    (c = ' ' && breaksLine d) || (breaksLine c && d = ' ') || hasBlankAtBreak (d :: cs)
  | _ => false

/-- A text with line breaks is written between single quotes. -/
def isQuotedPlainly (s : List Char) : Bool := s.all isKeptPlainly && !hasBlankAtBreak s

/-- A run of line breaks as it is read back. -/
def keptBreaks (run : List Char) : List Char :=
  let read := run.map (fun c => if c = nextLine then '\n' else c)
  if run.head? = some nextLine then (if run.length = 1 then [' '] else read.drop 1) else read

/-- The text as it is read back; `run` holds the line breaks right before it, last first. -/
def keptFrom (run : List Char) : List Char → List Char
  | [] => keptBreaks run.reverse
  | c :: cs =>
    if breaksLine c then keptFrom (c :: run) cs
    else keptBreaks run.reverse ++ c :: keptFrom [] cs

/-- **A text after it was kept in a file.** -/
def kept (s : String) : String :=
  if s.toList.contains nextLine && isQuotedPlainly s.toList then
    String.ofList (keptFrom [] s.toList)
  else s

example : kept "a\u0085b" = "a b" := by decide +kernel
example : kept "a\u0085\nb\u0085 c" = "a\u0085\nb\u0085 c" := by decide +kernel

end Adventure.Text
