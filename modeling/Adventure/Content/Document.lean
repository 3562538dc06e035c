import Adventure.Content.Shown

/-!
# Documents: content as text

* `Document.read?`: the content of a text in which mappings stand in braces, lists in brackets and
  texts in double quotes;
* `Document.write`: such a text of a content.

A number without point and exponent is a whole number, any other one a float. Floats that are not
finite are words. A key that is written twice keeps its first place and its last value.
-/

namespace Adventure.Content.Document

/-! ## 1. Texts -/

/-- The value of a hexadecimal digit. -/
def hexValue? (c : Char) : Option Nat :=
  if '0' ≤ c ∧ c ≤ '9' then some (c.toNat - 48)
  else if 'a' ≤ c ∧ c ≤ 'f' then some (c.toNat - 87)
  else if 'A' ≤ c ∧ c ≤ 'F' then some (c.toNat - 55)
  else none

/-- The number of four hexadecimal digits. -/
def hexNumber? (a b c d : Char) : Option Nat := do
  return 4096 * (← hexValue? a) + 256 * (← hexValue? b) + 16 * (← hexValue? c) + (← hexValue? d)

/-- The character that a letter after a backslash stands for. -/
def escaped? : Char → Option Char
  | '"' => some '"'
  | '\\' => some '\\'
  | '/' => some '/'
  | 'b' => some '\x08'
  | 'f' => some '\x0c'
  | 'n' => some '\n'
  | 'r' => some '\r'
  | 't' => some '\t'
  | _ => none

/-- The units of a text after its opening quote, and what follows the closing one. A unit is a
    code point, or one half of a code point that is written in two. -/
def unitsFrom (seen : List Nat) : List Char → Option (List Nat × List Char)
  | [] => none
  | '"' :: cs => some (seen.reverse, cs)
  | '\\' :: 'u' :: a :: b :: c :: d :: cs =>
    match hexNumber? a b c d with
    | some n => unitsFrom (n :: seen) cs
    | none => none
  | '\\' :: c :: cs =>
    match escaped? c with
    | some e => unitsFrom (e.toNat :: seen) cs
    | none => none
  | c :: cs => unitsFrom (c.toNat :: seen) cs

def isHighHalf (n : Nat) : Bool := 0xD800 ≤ n && n < 0xDC00

def isLowHalf (n : Nat) : Bool := 0xDC00 ≤ n && n < 0xE000

/-- The character of a unit; a half without its other one cannot be shown. -/
def ofUnit (n : Nat) : Char :=
  if isHighHalf n || isLowHalf n then Char.ofNat 0xFFFD else Char.ofNat n

/-- The characters of units; two halves make one. -/
def joinHalves : List Nat → List Char
  | [] => []
  | [n] => [ofUnit n]
  | n :: m :: ns =>
    if isHighHalf n && isLowHalf m then
      Char.ofNat (0x10000 + 0x400 * (n - 0xD800) + (m - 0xDC00)) :: joinHalves ns
    else ofUnit n :: joinHalves (m :: ns)

/-- A text after its opening quote. -/
def readText? (cs : List Char) : Option (String × List Char) :=
  (unitsFrom [] cs).map (fun (units, rest) => (String.ofList (joinHalves units), rest))

/-! ## 2. Values -/

/-- The text from its first character on that counts. -/
def skip (cs : List Char) : List Char :=
  cs.dropWhile (fun c => c = ' ' ∨ c = '\n' ∨ c = '\r' ∨ c = '\t')

/-- A character of a number. -/
def isNumberChar (c : Char) : Bool :=
  (Text.plainDigitValue? c).isSome || c == '-' || c == '+' || c == '.' || c == 'e' || c == 'E'

/-- A number without point and exponent. -/
def wholeOf? (cs : List Char) : Option Int :=
  let (negative, digits) := Text.splitSign cs
  if digits.contains '_' then none
  else
    (Text.readDigits? Text.plainDigitValue? digits).map
      (fun n => if negative then -(n.1 : Int) else n.1)

/-- A number, and what follows it. -/
def readNumber? (cs : List Char) : Option (Content × List Char) :=
  let word := cs.takeWhile isNumberChar
  let rest := cs.dropWhile isNumberChar
  match wholeOf? word with
  | some n => some (.int n, rest)
  | none => (Number.Binary64.read? word).map (fun x => (.float x, rest))

/-- The words for floats that are not finite. -/
def floatWords : List (String × Number.Binary64) :=
  [("NaN", .nan), ("Infinity", .infinity false), ("-Infinity", .infinity true)]

/-- A number or a word for one, and what follows it. -/
def readFloatWord? (cs : List Char) : Option (Content × List Char) :=
  match floatWords.find? (fun w => w.1.toList.isPrefixOf cs) with
  | some (word, x) => some (.float x, cs.drop word.length)
  | none => readNumber? cs

/-- Puts an entry into a list of entries, in the place of the one it had under its key. -/
def put (e : String × Content) (es : List (String × Content)) : List (String × Content) :=
  if (es.lookup e.1).isSome then es.map (fun f => if f.1 = e.1 then e else f) else es ++ [e]

/-- The entries of a mapping with distinct keys. -/
def distinctEntries (es : List (String × Content)) : List (String × Content) :=
  if (es.map Prod.fst).eraseDups.length = es.length then es
  else es.foldl (fun seen e => put e seen) []

mutual

/-- A value, and what follows it. The number bounds how many steps are made. -/
def valueFrom : Nat → List Char → Option (Content × List Char)
  | 0, _ => none
  | n + 1, cs =>
    match skip cs with
    | '"' :: cs => (readText? cs).map (fun (s, rest) => (.text s, rest))
    | '[' :: cs =>
      match skip cs with
      | ']' :: cs => some (.list [], cs)
      | cs => (elementsFrom n cs).map (fun (xs, rest) => (.list xs, rest))
    | '\x7b' :: cs =>
      match skip cs with
      | '\x7d' :: cs => some (.mapping [], cs)
      | cs => (entriesFrom n cs).map (fun (es, rest) => (.mapping (distinctEntries es), rest))
    | 'n' :: 'u' :: 'l' :: 'l' :: cs => some (.null, cs)
    | 't' :: 'r' :: 'u' :: 'e' :: cs => some (.bool true, cs)
    | 'f' :: 'a' :: 'l' :: 's' :: 'e' :: cs => some (.bool false, cs)
    | cs => readFloatWord? cs

/-- The elements of a list up to its end, and what follows it. -/
def elementsFrom : Nat → List Char → Option (List Content × List Char)
  | 0, _ => none
  | n + 1, cs =>
    match valueFrom n cs with
    | none => none
    | some (x, cs) =>
      match skip cs with
      | ',' :: cs => (elementsFrom n cs).map (fun (xs, rest) => (x :: xs, rest))
      | ']' :: cs => some ([x], cs)
      | _ => none

/-- The entries of a mapping up to its end, and what follows it. -/
def entriesFrom : Nat → List Char → Option (List (String × Content) × List Char)
  | 0, _ => none
  | n + 1, cs =>
    match skip cs with
    | '"' :: cs =>
      match readText? cs with
      | none => none
      | some (k, cs) =>
        match skip cs with
        | ':' :: cs =>
          match valueFrom n cs with
          | none => none
          | some (x, cs) =>
            match skip cs with
            | ',' :: cs => (entriesFrom n cs).map (fun (es, rest) => ((k, x) :: es, rest))
            | '\x7d' :: cs => some ([(k, x)], cs)
            | _ => none
        | _ => none
    | _ => none

end

/-- **The content of a text.** -/
def read? (s : String) : Option Content :=
  let cs := s.toList
  match valueFrom (cs.length + 1) cs with
  | some (c, rest) => if (skip rest).isEmpty then some c else none
  | none => none

/-! ## 3. Writing -/

/-- A character of a text between double quotes. -/
def writeChar (c : Char) : List Char :=
  if c = '"' ∨ c = '\\' then ['\\', c]
  else if c = '\n' then ['\\', 'n']
  else if c.toNat < 32 ∨ c.toNat = 127 then '\\' :: 'u' :: Text.hexDigits 4 c.toNat
  else [c]

/-- A text between double quotes. -/
def writeText (s : String) : String :=
  "\"" ++ String.ofList (s.toList.flatMap writeChar) ++ "\""

/-- The text of a float. -/
def writeFloat (x : Number.Binary64) : String :=
  if x.isFinite then x.toText
  else ((floatWords.find? (fun w => w.2 == (if x.isNaN then .nan else x))).map Prod.fst).getD "NaN"

mutual

/-- **The text of a content.** -/
def write : Content → String
  | .null => "null"
  | .bool b => if b then "true" else "false"
  | .int n => toString n
  | .float x => writeFloat x
  | .text s => writeText s
  | .inventory => writeText inventoryWord
  | .list xs => "[" ++ ",".intercalate (writeList xs) ++ "]"
  | .mapping es => "\x7b" ++ ",".intercalate (writeEntries es) ++ "\x7d"

def writeList : List Content → List String
  | [] => []
  | x :: xs => write x :: writeList xs

def writeEntries : List (String × Content) → List String
  | [] => []
  | (k, x) :: es => (writeText k ++ ":" ++ write x) :: writeEntries es

end

example : (read? "[-Infinity,NaN]").map write = some "[-Infinity,NaN]" := by decide +kernel
example : (read? "[1, -2.5, \"a\\u00e8\\ud83d\\ude00\"]").map write =
    some "[1,-2.5,\"aè😀\"]" := by decide +kernel

end Adventure.Content.Document
