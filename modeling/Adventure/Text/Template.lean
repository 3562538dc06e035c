import Adventure.Text.Digit

/-!
# Message templates

A message has fields in braces, `{name}`, that are filled with values; a doubled brace stands for
itself. A name may be followed by indexes in brackets and by parts after points.

* `Piece`, `pieces`: a template as characters and fields, up to the first fault in it;
* `Index`, `readIndex?`: what stands in brackets, a position or a key;
* `Step`, `stepsOf`: the parts and indexes after a name.
-/

namespace Adventure.Text

/-! ## 1. Pieces -/

/-- A part of a template. -/
inductive Piece where
  /-- A character that stands for itself. -/
  | plain (c : Char)
  /-- A field: what it names, how the value is turned into text, and its layout. -/
  | field (name : List Char) (conversion : Option Char) (layout : List Char)
  /-- Braces that do not match; nothing after them counts. -/
  | broken
deriving DecidableEq, Repr

/-- Where a reader of a template stands. Collected characters are kept last first. -/
inductive Spot where
  | outside
  | opened
  | closed
  | name (seen : List Char)
  | index (seen : List Char)
  | conversion (name : List Char)
  | converted (name : List Char) (c : Char)
  | layout (name : List Char) (c : Option Char) (depth : Nat) (seen : List Char)
deriving DecidableEq, Repr

/-- One character of a field's name; `none` if no name goes on like that. -/
def nameStep (seen : List Char) (c : Char) : Option Spot :=
  if c = '\x7b' then none
  else if c = '[' then some (.index (c :: seen))
  else if c = ':' then some (.layout seen.reverse none 0 [])
  else if c = '!' then some (.conversion seen.reverse)
  else some (.name (c :: seen))

/-- The pieces of the rest of a template. -/
def piecesFrom : Spot → List Char → List Piece
  | .outside, [] => []
  | .outside, c :: cs =>
    if c = '\x7b' then piecesFrom .opened cs
    else if c = '\x7d' then piecesFrom .closed cs
    else .plain c :: piecesFrom .outside cs
  | .closed, c :: cs =>
    if c = '\x7d' then .plain c :: piecesFrom .outside cs else [.broken]
  | .opened, c :: cs =>
    if c = '\x7b' then .plain c :: piecesFrom .outside cs
    else if c = '\x7d' then .field [] none [] :: piecesFrom .outside cs
    else match nameStep [] c with
      | some spot => piecesFrom spot cs
      | none => [.broken]
  | .name seen, c :: cs =>
    if c = '\x7d' then .field seen.reverse none [] :: piecesFrom .outside cs
    else match nameStep seen c with
      | some spot => piecesFrom spot cs
      | none => [.broken]
  | .index seen, c :: cs =>
    piecesFrom (if c = ']' then .name (c :: seen) else .index (c :: seen)) cs
  | .conversion name, c :: cs => piecesFrom (.converted name c) cs
  | .converted name k, c :: cs =>
    if c = '\x7d' then .field name (some k) [] :: piecesFrom .outside cs
    else if c = ':' then piecesFrom (.layout name (some k) 0 []) cs
    else [.broken]
  | .layout name k depth seen, c :: cs =>
    if c = '\x7d' then
      match depth with
      | 0 => .field name k seen.reverse :: piecesFrom .outside cs
      | d + 1 => piecesFrom (.layout name k d (c :: seen)) cs
    else piecesFrom (.layout name k (if c = '\x7b' then depth + 1 else depth) (c :: seen)) cs
  | _, [] => [.broken]

/-- The pieces of a template. -/
def pieces (template : List Char) : List Piece := piecesFrom .outside template

/-! ## 2. Indexes -/

/-- What stands in brackets: a position, or a key. -/
inductive Index where
  | position (n : Nat)
  | key (s : String)
deriving DecidableEq, Repr

/-- The greatest position that can be written. -/
def lastPosition : Nat := Nat.pow 2 63 - 1

/-- The number that digits of any script write, going on from `n`. -/
inductive Counted where
  | number (n : Nat)
  /-- A character that is no digit. -/
  | other
  /-- A number beyond the last position. -/
  | tooFar
deriving DecidableEq, Repr

/-- Counts on from `n`. The first digit that leads too far ends it, whatever comes after. -/
def countFrom (n : Nat) : List Char → Counted
  | [] => .number n
  | c :: cs =>
    match digitValue? c with
    | none => .other
    | some d => if lastPosition < 10 * n + d then .tooFar else countFrom (10 * n + d) cs

/-- What stands in brackets; `none` if it is a position too far away. -/
def readIndex? (s : List Char) : Option Index :=
  match countFrom 0 s with
  | .number n => some (.position n)
  | .other => some (.key (String.ofList s))
  | .tooFar => none

/-! ## 3. Parts and indexes after a name -/

/-- A step from a value to something it has. -/
inductive Step where
  | part (name : List Char)
  | index (s : List Char)
  /-- What comes after brackets has to begin a step, and brackets have to end. -/
  | broken
deriving DecidableEq, Repr

/-- Where a reader of steps stands. Collected characters are kept last first. -/
inductive StepSpot where
  | between
  | part (seen : List Char)
  | index (seen : List Char)

/-- The steps after the name of a field; nothing after a broken one counts. -/
def stepsFrom : StepSpot → List Char → List Step
  | .between, [] => []
  | .between, c :: cs =>
    if c = '[' then stepsFrom (.index []) cs
    else if c = '.' then stepsFrom (.part []) cs
    else [.broken]
  | .part seen, [] => [.part seen.reverse]
  | .part seen, c :: cs =>
    if c = '.' then .part seen.reverse :: stepsFrom (.part []) cs
    else if c = '[' then .part seen.reverse :: stepsFrom (.index []) cs
    else stepsFrom (.part (c :: seen)) cs
  | .index _, [] => [.broken]
  | .index seen, c :: cs =>
    if c = ']' then .index seen.reverse :: stepsFrom .between cs
    else stepsFrom (.index (c :: seen)) cs

/-- The name of a field without the steps after it. -/
def headOf (name : List Char) : List Char := name.takeWhile (fun c => c ≠ '.' ∧ c ≠ '[')

/-- The steps after the name of a field. -/
def stepsOf (name : List Char) : List Step :=
  stepsFrom .between (name.dropWhile (fun c => c ≠ '.' ∧ c ≠ '['))

end Adventure.Text
