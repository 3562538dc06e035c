import Adventure.Content.Filling
import Adventure.Content.Manual
import Adventure.Text.Template

/-!
# Reach: the steps from a value to something it has

* `Filling.elementAt`: what a value has at an index;
* `Filling.part`: what a value has under a name. A trait that is read is worked out from the value,
  any other is taken from it;
* `Filling.follow`: the steps one after the other.
-/

namespace Adventure.Filling

open Text (Index Step)

/-! ## 1. Elements -/

/-- An element of a list of values. -/
def element (xs : List Filling) (n : Nat) : Except TemplateFault Filling :=
  match xs[n]? with
  | some v => .ok v
  | none => .error .noSuchPosition

/-- A part of a tuple as a value. -/
def ofPart : Content ⊕ ValueKind → Filling
  | .inl c => .content c
  | .inr k => .kind k

/-- An index as a content. -/
def ofIndex : Index → Content
  | .position n => .int n
  | .key k => .text k

/-- A kind takes an index. -/
def takesIndex (k : ValueKind) : Bool := k = .kind || (k.trait? "__class_getitem__").isSome

/-- What a value has at an index. -/
def elementAt (v : Filling) (index : Index) : Except TemplateFault Filling :=
  match v, index with
  | .content (.text s), .position n =>
    match s.toList[n]? with
    | some c => .ok (.text (String.singleton c))
    | none => .error .noSuchPosition
  | .content (.list xs), .position n => element (xs.map .content) n
  | .tuple parts, .position n => element (parts.map ofPart) n
  | .content (.mapping _), .position n => .error (.unknownKey (.int n))
  | .content (.mapping es), .key k =>
    match es.lookup k with
    | some c => .ok (.content c)
    | none => .error (.unknownKey (.text k))
  | .kind k, index => if takesIndex k then .ok (.special k (ofIndex index)) else .error .wrongKind
  | .register k, .key name =>
    match k.ownTrait? name with
    | some t => .ok (unbound t)
    | none => .error (.unknownKey (.text name))
  | .register _, .position n => .error (.unknownKey (.int n))
  | _, _ => .error .wrongKind

/-! ## 2. Traits that are read -/

/-- The parts of a number: a whole number has numerator and denominator too. -/
def numberPart? (name : String) : Content → Option Content
  | .float x =>
    if name = "real" then some (.float x)
    else if name = "imag" then some (.float (.ofInt 0))
    else none
  | .int n => wholePart? n
  | .bool b => wholePart? (if b then 1 else 0)
  | _ => none
where
  /-- The parts of a whole number. -/
  wholePart? (n : Int) : Option Content :=
    if name = "real" ∨ name = "numerator" then some (.int n)
    else if name = "imag" then some (.int 0)
    else if name = "denominator" then some (.int 1)
    else none

/-- The parts of an obstacle. -/
def obstaclePart? (o : Obstacle) (name : String) : Option Filling :=
  let number : Content := .int o.barrier.number
  let reason : Content := .text o.barrier.reason
  [("errno", Filling.content number), ("strerror", .content reason),
    ("filename", .text o.file), ("filename2", .content .null),
    ("args", .tuple [.inl number, .inl reason]), ("__dict__", .content (.mapping [])),
    ("__cause__", .content .null), ("__context__", .content .null),
    ("__suppress_context__", .content (.bool false))].lookup name

/-- A text that may be missing. -/
def ofText? (s : Option String) : Filling := .content (Content.ofText? s)

/-- What a kind says of itself: a kind without words shows the trait that its values speak by. -/
def sayingOf (k : ValueKind) : Filling :=
  match k.description?, k.ownTrait? "__doc__" with
  | none, some t => unbound t
  | said, _ => ofText? said

/-- The parts of a kind. -/
def kindPart? (k : ValueKind) (name : String) : Option Filling :=
  let (size, elementSize, abilities, references, extras) := k.measures
  let number := fun n : Nat => Filling.number n
  [("__name__", Filling.text k.name), ("__qualname__", .text k.name), ("__module__", .text k.home),
    ("__mro__", .tuple ((k :: k.parents).map .inr)),
    ("__bases__", .tuple ((k.parents.take 1).map .inr)),
    ("__base__", match k.parents with
      | [] => .content .null
      | parent :: _ => .kind parent),
    ("__doc__", sayingOf k), ("__text_signature__", ofText? k.signature?), ("__dict__", .register k),
    ("__basicsize__", number size), ("__itemsize__", number elementSize),
    ("__flags__", number abilities), ("__weakrefoffset__", number references),
    ("__dictoffset__", number extras)].lookup name

/-- The parts that a trait has, be it by itself or not. -/
def traitPart? (t : Trait) (before : ValueKind) (name : String) : Option Filling :=
  [("__name__", Filling.text t.name), ("__qualname__", .text (before.name ++ "." ++ t.name)),
    ("__objclass__", .kind t.owner), ("__doc__", ofText? (Manual.description? t)),
    ("__text_signature__", ofText? (Manual.signature? t)),
    ("__module__", .content .null)].lookup name

/-- The kind that stands before the name of a trait that has been taken from a value. -/
def placeOf (holder : Filling) (t : Trait) : ValueKind :=
  match t.sort, holder with
  | .operator, _ => t.owner
  | _, .kind k => k
  | _, v => v.kindOf

/-- The parts of a kind that has been given an index. -/
def specialPart? (origin : ValueKind) (index : Content) (name : String) : Option Filling :=
  [("__origin__", Filling.kind origin), ("__args__", .tuple [.inl index]),
    ("__parameters__", .tuple []), ("__unpacked__", .content (.bool false)),
    ("__typing_unpacked_tuple_args__", .content .null)].lookup name

/-- What is read off a value under a name. -/
def read? (v : Filling) (name : String) : Option Filling :=
  if name = "__class__" then some (.kind v.kindOf)
  else match v with
    | .content c => (numberPart? name c).map .content
    | .obstacle o => obstaclePart? o name
    | .kind k => kindPart? k name
    | .tuple _ => none
    | .trait t => traitPart? t t.owner name
    | .bound holder t =>
      if name = "__self__" then some (if t.sort = .loose then .content .null else holder)
      else traitPart? t (placeOf holder t) name
    | .special origin index => specialPart? origin index name
    | .register _ => none

/-! ## 3. Parts -/

/-- A trait as it is taken from a value. -/
def take (v : Filling) (t : Trait) : Option Filling :=
  match t.sort with
  | .attribute => v.read? t.name
  | .member => v.read? t.name
  | .constant => some (constant t)
  | .kindMethod => some (.bound (.kind v.kindOf) t)
  | .maker => some (.bound (.kind t.owner) t)
  | .loose => some (.bound (.kind t.owner) t)
  | _ => some (.bound v t)

/-- A trait as it is taken from a kind that gives it to its values. -/
def takeFrom (k : ValueKind) (t : Trait) : Filling :=
  match t.sort with
  | .kindMethod => .bound (.kind k) t
  | .loose => .bound (.kind t.owner) t
  | _ => unbound t

/-- What a kind has under a name: what is read off it, what it gives to its values, and then what
    kinds have in common. -/
def partOfKind? (k : ValueKind) (name : String) : Option Filling :=
  match ValueKind.kind.trait? name, k.trait? name with
  | some shared, given =>
    if shared.isRead then (Filling.kind k).read? name
    else match given with
      | some t => some (takeFrom k t)
      | none => (Filling.kind k).take shared
  | none, some t => some (takeFrom k t)
  | none, none => none

/-- Names that a kind with an index answers to by itself, and not in place of the kind. -/
def specialNames : List String :=
  ["__class__", "__origin__", "__args__", "__unpacked__", "__parameters__",
    "__typing_unpacked_tuple_args__", "__mro_entries__", "__reduce_ex__", "__reduce__", "__copy__",
    "__deepcopy__"]

/-- What a value has under a name, if anything. -/
def part? (v : Filling) (name : String) : Option Filling :=
  match v with
  | .kind k => partOfKind? k name
  | .special origin _ =>
    if specialNames.contains name then (v.kindOf.trait? name).bind v.take
    else partOfKind? origin name
  | v => (v.kindOf.trait? name).bind v.take

/-- **A part of a value by its name.** -/
def part (v : Filling) (name : String) : Except TemplateFault Filling :=
  if name = "" then .error .malformed
  else match v.part? name with
    | some w => .ok w
    | none => .error .noSuchPart

/-- Goes from a value to something it has, step by step. -/
def follow (v : Filling) : List Step → Except TemplateFault Filling
  | [] => .ok v
  | .part name :: steps => do
    let w ← v.part (String.ofList name)
    w.follow steps
  | .index s :: steps =>
    match s, Text.readIndex? s with
    | _ :: _, some index => do
      let w ← v.elementAt index
      w.follow steps
    | _, _ => .error .malformed
  | .broken :: _ => .error .malformed

end Adventure.Filling
