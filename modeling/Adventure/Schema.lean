import Adventure.Content

/-!
# Reading typed values from content

* `Problem`: what is wrong with a part of a content, and where that part lies;
* `Checked`: a value, or all the problems that were found on the way to it;
* `Reader`: a reading of content, built from readings of its parts: `Reader.text`, `Reader.bool`,
  `Reader.whole`, `Reader.float`, `Reader.listOf`, `Reader.nullable`, `Reader.table`,
  `Reader.entries` and `Reader.record` with `required`, `optional` and `closed`.

Readings are lenient as the writers of adventures expect: `"yes"` is a truth value and `"4"` a
number. A record reports the problems of all its fields at once, and every field that it does not
know.
-/

namespace Adventure

open Number (Binary64)

/-! ## 1. Problems -/

/-- What is wrong with a part of a content. -/
inductive ProblemKind where
  | missing
  | unexpected
  | notText
  | notBool
  | unreadableBool
  | notWhole
  | unreadableWhole
  | fractionalWhole
  /-- A whole number that is too large to be read. -/
  | hugeWhole
  | notFinite
  | notFloat
  | unreadableFloat
  | notList
  | notMapping
  | notRecord
  | notOneOf
  /-- A name under which nothing can be set. -/
  | unknownName
deriving DecidableEq, Repr

/-- A problem and the path to the part that has it. -/
structure Problem where
  path : List String
  kind : ProblemKind
deriving DecidableEq, Repr

/-- The path of a problem, its steps joined by points. -/
def Problem.place (p : Problem) : String := ".".intercalate p.path

/-- The problem as seen from outside the part `step`. -/
def Problem.within (step : String) (p : Problem) : Problem := { p with path := step :: p.path }

/-! ## 2. Checked values -/

/-- A value, or all that is wrong. -/
inductive Checked (α : Type) where
  | good (a : α)
  | bad (problems : List Problem)

namespace Checked

variable {α β : Type}

/-- A single problem at the place itself. -/
def wrong (kind : ProblemKind) : Checked α := .bad [⟨[], kind⟩]

def map (f : α → β) : Checked α → Checked β
  | .good a => .good (f a)
  | .bad ps => .bad ps

/-- A function and its argument; the problems of both add up. -/
def app (f : Checked (α → β)) (x : Checked α) : Checked β :=
  match f, x with
  | .good f, .good a => .good (f a)
  | .good _, .bad qs => .bad qs
  | .bad ps, .good _ => .bad ps
  | .bad ps, .bad qs => .bad (ps ++ qs)

instance : Applicative Checked where
  pure := .good
  map := map
  seq f x := app f (x ())

/-- The same value, its problems seen from outside the part `step`. -/
def within (step : String) : Checked α → Checked α
  | .good a => .good a
  | .bad ps => .bad (ps.map (Problem.within step))

end Checked

/-! ## 3. Readers of single values -/

/-- A reading of content. -/
abbrev Reader (α : Type) := Content → Checked α

namespace Reader

variable {α β : Type}

/-- A text; the mark of the inventory reads as the word it is written with. -/
def text : Reader String
  | .text s => .good s
  | .inventory => .good Content.inventoryWord
  | _ => .wrong .notText

/-- The words for yes and no. -/
def boolOfWord? (s : String) : Option Bool :=
  let word := s.toList.map Char.toLower
  if ["1", "t", "true", "on", "y", "yes"].any (·.toList == word) then some true
  else if ["0", "f", "false", "off", "n", "no"].any (·.toList == word) then some false
  else none

/-- The bound below which a float is read as a whole number. -/
def wholeBound : Int := Int.pow 2 63

/-- A whole number that counts as a truth value; one beyond the bound is not even looked at. -/
def boolOfWhole (n : Int) : Checked Bool :=
  if n = 0 then .good false
  else if n = 1 then .good true
  else if -wholeBound ≤ n ∧ n < wholeBound then .wrong .unreadableBool
  else .wrong .notBool

/-- The whole number that a float is, within the bound. -/
def boundedWhole? (x : Binary64) : Option Int :=
  x.whole?.filter (fun n => -wholeBound < n ∧ n < wholeBound)

/-- A truth value: itself, one or zero, or a word for it. -/
def bool : Reader Bool
  | .bool b => .good b
  | .text s =>
    match boolOfWord? s with
    | some b => .good b
    | none => .wrong .unreadableBool
  | .int n => boolOfWhole n
  | .float x =>
    match boundedWhole? x with
    | some n => boolOfWhole n
    | none => .wrong .notBool
  | _ => .wrong .notBool

/-- The text without its underscores, if it has some, each single and between other characters. -/
def withoutUnderscores (s : List Char) : List Char :=
  if s.head? = some '_' ∨ s.getLast? = some '_' ∨
      (s.zip (s.drop 1)).any (fun p => p.1 = '_' ∧ p.2 = '_') then s
  else s.filter (· ≠ '_')

/-- The text without a point and zeros at its end; there is at least one zero. -/
def withoutZeroPart (s : List Char) : List Char :=
  let rest := s.reverse.dropWhile (· = '0')
  match rest with
  | '.' :: kept => if rest.length = s.length then s else kept.reverse
  | _ => s

/-- The text after the zeros it begins with, and underscores among them: from a digit or a minus
    on, or from the last of these characters on where a point or nothing comes after them. -/
def afterZeros (last : Char) : List Char → Option (List Char)
  | [] => some [last]
  | c :: cs =>
    if c = '0' ∨ c = '_' then afterZeros c cs
    else if c = '.' then some (last :: c :: cs)
    else if c = '-' ∨ (Text.plainDigitValue? c).isSome then some (c :: cs)
    else none

/-- The text without leading zeros: it begins with a digit, or a minus. -/
def withoutLeadingZeros? : List Char → Option (List Char)
  | [] => none
  | c :: cs =>
    if c = '0' then afterZeros c cs
    else if c = '-' ∨ (Text.plainDigitValue? c).isSome then some (c :: cs)
    else none

/-- A sign, if there is one, and the rest; after a plus there is no minus. -/
def splitWholeSign? : List Char → Option (Bool × List Char)
  | '-' :: cs => some (true, cs)
  | '+' :: '-' :: _ => none
  | '+' :: cs => some (false, cs)
  | cs => some (false, cs)

/-- What the text of a whole number is read as. -/
inductive WholeText where
  | number (n : Int)
  | unreadable
  /-- More digits than are read. -/
  | huge
deriving DecidableEq, Repr

/-- The plain digits that a text begins with. -/
def leadingDigits (s : List Char) : List Char :=
  s.takeWhile (fun c => (Text.plainDigitValue? c).isSome)

/-- The text begins with more digits than are read, perhaps after a minus; leading zeros do not
    count as a beginning. What comes after the digits does not matter. -/
def isHuge (s : List Char) : Bool :=
  let digits := leadingDigits (if s.head? = some '-' then s.drop 1 else s)
  digits.head? != some '0' && Text.digitLimit < digits.length

/-- A number in plain digits that does not begin with zero, or zero itself. -/
def plainWhole (negative : Bool) (s : List Char) : WholeText :=
  let digits := leadingDigits s
  if s = ['0'] then .number 0
  else if s.isEmpty || s.head? == some '0' then .unreadable
  else if Text.digitLimit < digits.length || digits.length < s.length then .unreadable
  else
    let n : Nat := digits.foldl (fun n c => 10 * n + (Text.plainDigitValue? c).getD 0) 0
    .number (if negative then -(n : Int) else n)

/-- **A whole number in text**: white space around it, a sign, zeros, digits with single
    underscores between them, and perhaps a point and zeros. A minus may come after the zeros
    instead of in front of them. Too many digits are told apart only in a text that begins with
    them. -/
def readWhole (s : String) : WholeText :=
  if isHuge s.toList then .huge
  else match splitWholeSign? (Text.trim Text.isWhite s.toList) with
  | none => .unreadable
  | some (negative, s) =>
    match (withoutLeadingZeros? s).map (fun s => withoutUnderscores (withoutZeroPart s)) with
    | none => .unreadable
    | some ('-' :: digits) => if negative then .unreadable else plainWhole true digits
    | some digits => plainWhole negative digits

/-- A whole number: itself, a truth value, a float without a fraction, or its text. -/
def whole : Reader Int
  | .int n => .good n
  | .bool b => .good (if b then 1 else 0)
  | .text s =>
    match readWhole s with
    | .number n => .good n
    | .unreadable => .wrong .unreadableWhole
    | .huge => .wrong .hugeWhole
  | .float x =>
    if !x.isFinite then .wrong .notFinite
    else match boundedWhole? x with
      | some n => .good n
      | none => .wrong (if x.whole?.isSome then .hugeWhole else .fractionalWhole)
  | _ => .wrong .notWhole

/-- A float: itself, a whole number that is not too large, a truth value, or its text, with white
    space around it or with single underscores in it, but not both. -/
def float : Reader Binary64
  | .float x => .good x
  | .int n => if (Binary64.ofInt n).isFinite then .good (.ofInt n) else .wrong .notFloat
  | .bool b => .good (.ofInt (if b then 1 else 0))
  | .text s =>
    match Binary64.read? (Text.trim Text.isWhite s.toList) with
    | some x => .good x
    | none =>
      match Binary64.read? (withoutUnderscores s.toList) with
      | some x => .good x
      | none => .wrong .unreadableFloat
  | _ => .wrong .notFloat

/-- One of a few words. -/
def oneOf (ofWord? : String → Option α) : Reader α
  | .text s =>
    match ofWord? s with
    | some a => .good a
    | none => .wrong .notOneOf
  | _ => .wrong .notOneOf

/-! ## 4. Readers of parts -/

/-- Nothing, or a value. -/
def nullable (r : Reader α) : Reader (Option α)
  | .null => .good none
  | c => (r c).map some

/-- The elements of a list from the index `i` on. -/
def elementsFrom (r : Reader α) (i : Nat) : List Content → Checked (List α)
  | [] => .good []
  | x :: xs =>
    ((r x).within (toString i)).map (fun a as => a :: as) |>.app (elementsFrom r (i + 1) xs)

/-- A list. -/
def listOf (r : Reader α) : Reader (List α)
  | .list xs => elementsFrom r 0 xs
  | _ => .wrong .notList

/-- A mapping, kept as it is; nothing stays nothing. -/
def table : Reader Content
  | .null => .good .null
  | .mapping es => .good (.mapping es)
  | _ => .wrong .notMapping

/-- The entries of a mapping, keys and values read apart. -/
def entriesOf (key : Reader α) (value : Reader β) :
    List (String × Content) → Checked (List (α × β))
  | [] => .good []
  | (k, x) :: es =>
    let k' := ((key (.text k)).within "[key]").within k
    let x' := (value x).within k
    ((k'.map Prod.mk).app x').map (fun p ps => p :: ps) |>.app (entriesOf key value es)

/-- A mapping with keys and values of one kind each. -/
def entries (key : Reader α) (value : Reader β) : Reader (List (α × β))
  | .mapping es => entriesOf key value es
  | _ => .wrong .notMapping

/-! ## 5. Readers of records -/

/-- A field that has to be there. -/
def required (es : List (String × Content)) (name : String) (r : Reader α) : Checked α :=
  match es.lookup name with
  | some x => (r x).within name
  | none => .bad [⟨[name], .missing⟩]

/-- A field that may be left out. -/
def optional (es : List (String × Content)) (name : String) (r : Reader α) (default : α) :
    Checked α :=
  match es.lookup name with
  | some x => (r x).within name
  | none => .good default

/-- The value, if the record has no other fields than the named ones. -/
def closed (names : List String) (es : List (String × Content)) (x : Checked α) : Checked α :=
  match es.filter (fun e => !names.contains e.1) with
  | [] => x
  | e :: extra =>
    (x.map (fun a _ => a)).app
      (.bad ((e :: extra).map (fun e => ⟨[e.1], .unexpected⟩)) : Checked Unit)

/-- A record: a mapping whose fields are read by `fields`, with no others than the named ones. -/
def record (names : List String) (fields : List (String × Content) → Checked α) : Reader α
  | .mapping es => closed names es (fields es)
  | _ => .wrong .notRecord

end Reader

end Adventure
