import Adventure.Content.Shown
import Adventure.Content.Trait
import Adventure.Text.Laid

/-!
# Fillings: what the fields of templates are filled with

* `Obstacle`: why a file could not be written;
* `Filling`: what a field of a template may be filled with, and what can be reached from there;
* `TemplateFault`: why a template has no text;
* `Filling.convert`, `Filling.lay`: a value as text, and in a layout.
-/

namespace Adventure

/-! ## 1. Fillings -/

/-- Why a file could not be written. -/
structure Obstacle where
  barrier : Barrier
  file : String
deriving DecidableEq, Repr

/-- The sentence about an obstacle. -/
def Obstacle.sentence (o : Obstacle) : String :=
  "[Errno " ++ toString o.barrier.number ++ "] " ++ o.barrier.reason ++ ": " ++
    Content.quotedText o.file

/-- What a field may be filled with, and what can be reached from there. -/
inductive Filling where
  | content (c : Content)
  | obstacle (o : Obstacle)
  | kind (k : ValueKind)
  /-- A fixed number of values or kinds in a row. -/
  | tuple (parts : List (Content ⊕ ValueKind))
  /-- A trait by itself, not of a value. -/
  | trait (t : Trait)
  /-- A trait that has been taken from a value or a kind. -/
  | bound (holder : Filling) (t : Trait)
  /-- A kind that has been given an index. -/
  | special (origin : ValueKind) (index : Content)
  /-- All that a kind itself gives to its values. -/
  | register (k : ValueKind)
deriving DecidableEq

/-- Why a template has no text. -/
inductive TemplateFault where
  /-- A field names a value that is not given, or a key that a mapping does not have. -/
  | unknownKey (key : Content)
  /-- A field asks for a value by its position, and there is none; or for an element past the
      end. -/
  | noSuchPosition
  /-- Braces, conversion, steps or layout are malformed. -/
  | malformed
  /-- A layout or an index for a value that takes none. -/
  | wrongKind
  /-- A part of a value that it does not have. -/
  | noSuchPart
  /-- A number beyond what its layout can show. -/
  | tooLarge
  /-- A layout wider than there is room for. -/
  | tooWide
deriving DecidableEq

namespace Filling

def text (s : String) : Filling := .content (.text s)

def number (n : Int) : Filling := .content (.int n)

/-! ## 2. Values as text -/

/-- Parts of a tuple in round brackets; a single one has a comma after it. -/
def bracketed : List String → String
  | [part] => "(" ++ part ++ ",)"
  | parts => "(" ++ ", ".intercalate parts ++ ")"

/-- A part of a tuple as it stands in the tuple. -/
def quotedPart : Content ⊕ ValueKind → String
  | .inl c => c.quoted
  | .inr k => k.shown

/-- The kind of a value. -/
def kindOf : Filling → ValueKind
  | .content c => c.kind
  | .obstacle o => o.barrier.kind
  | .kind _ => .kind
  | .tuple _ => .tuple
  | .trait t => t.kind
  | .bound _ t => if t.sort = .operator then .boundOperator else .boundMethod
  | .special .. => .special
  | .register _ => .register

/-- What a constant trait of a kind is. -/
def constant (t : Trait) : Filling :=
  .content (if t.name = "__doc__" then Content.ofText? t.owner.description? else .null)

/-- What a kind itself gives under a name, by itself. -/
def unbound (t : Trait) : Filling :=
  match t.sort with
  | .constant => constant t
  | .maker => .bound (.kind t.owner) t
  | _ => .trait t

/-- A trait that has been taken from something of a kind. -/
def boundShown (t : Trait) (k : ValueKind) : String :=
  if t.sort = .operator then "<method-wrapper '" ++ t.name ++ "' of " ++ k.name ++ " object>"
  else "<built-in method " ++ t.name ++ " of " ++ k.name ++ " object>"

/-- What a kind itself gives under a name, as it stands in a register. -/
def registered (t : Trait) : String :=
  match unbound t with
  | .content c => c.quoted
  | .bound _ t => boundShown t .kind
  | _ => t.shown

/-- The traits that a kind itself gives. -/
def traitsOf (k : ValueKind) : List Trait :=
  k.own.flatMap (fun group => group.2.map (fun name => ⟨k, group.1, name⟩))

/-- A value as it stands in a sentence. -/
def shown : Filling → String
  | .content c => c.shown
  | .obstacle o => o.sentence
  | .kind k => k.shown
  | .tuple parts => bracketed (parts.map quotedPart)
  | .trait t => t.shown
  | .bound holder t => boundShown t holder.kindOf
  | .special k index => k.name ++ "[" ++ index.quoted ++ "]"
  | .register k =>
    let rows := (traitsOf k).map (fun t => Content.quotedText t.name ++ ": " ++ registered t)
    "\x7b" ++ ", ".intercalate rows ++ "\x7d"

/-- A value as it stands inside another one. -/
def quoted : Filling → String
  | .content c => c.quoted
  | .obstacle o =>
    o.barrier.kind.name ++ "(" ++ toString o.barrier.number ++ ", " ++
      Content.quotedText o.barrier.reason ++ ")"
  | .register k => ValueKind.register.name ++ "(" ++ shown (.register k) ++ ")"
  | v => v.shown

/-- A text with every character outside the plain ones shown by its number. -/
def inPlainCharacters (s : String) : String :=
  String.ofList (s.toList.flatMap fun c =>
    if c.toNat < 128 then [c] else Text.escapeByNumber c.toNat)

/-- A value turned into text before it is laid out. A blank conversion is none. -/
def convert (v : Filling) : Option Char → Except TemplateFault Filling
  | none => .ok v
  | some '\x00' => .ok v
  | some 's' => .ok (.text v.shown)
  | some 'r' => .ok (.text v.quoted)
  | some 'a' => .ok (.text (inPlainCharacters v.quoted))
  | some _ => .error .malformed

/-- A content in a layout: texts and numbers have one, and truth values as numbers. -/
def layContent (l : Text.Layout) : Content → Except TemplateFault (List Char)
  | .text s => (Text.layText l s.toList).mapError misfit
  | .inventory => (Text.layText l Content.inventoryName.toList).mapError misfit
  | .int n => (Text.layWhole l n).mapError misfit
  | .bool b => (Text.layWhole l (if b then 1 else 0)).mapError misfit
  | .float x => (Text.layFloat l x).mapError misfit
  | _ => .error .wrongKind
where
  /-- The fault of a value that has no place in its layout. -/
  misfit : Text.Misfit → TemplateFault
    | .atOdds => .malformed
    | .tooLarge => .tooLarge
    | .tooWide => .tooWide

/-- The content has layouts. -/
def hasLayout : Content → Bool
  | .null => false
  | .list _ => false
  | .mapping _ => false
  | _ => true

/-- **A value in its layout.** The empty one suits every value. -/
def lay (v : Filling) (layout : List Char) : Except TemplateFault (List Char) :=
  if layout.isEmpty then .ok v.shown.toList
  else match v with
    | .content c =>
      if hasLayout c then
        match Text.Layout.read? layout with
        | some l => layContent l c
        | none => .error .malformed
      else .error .wrongKind
    | _ => .error .wrongKind

end Filling

end Adventure
