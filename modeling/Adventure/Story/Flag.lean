import Adventure.Fault
import Adventure.Story.Reserved

/-!
# Flags: what has happened in the story

* `Flag`: the six things that may have happened;
* `Flags`: whether they have, and remarks, which are kept under names of their own;
* `Flags.get`, `Flags.set`: look-up and change, with their laws;
* `Flags.look`, `Flags.isSet`: what the rules of the adventure ask of a flag;
* `Flags.holding`, `Flags.assign`: the same by a name, which need not be a flag's;
* `Flags.read`: flags from content.

Only flags are saved and shown. A remark has a name that begins with an underscore; it can be any
content, and a condition may ask for it. All that is kept under names can be replaced as a whole by
a mapping, which need not have the flags in it, nor truth values under them.
-/

namespace Adventure

/-- Something that may have happened. -/
inductive Flag where
  | torchLit
  | antagonistActive
  | antagonistDefeated
  | groundDug
  | survivorWarned
  | survivorHeard
deriving DecidableEq, Repr

namespace Flag

/-- All flags, in order. -/
def all : List Flag :=
  [.torchLit, .antagonistActive, .antagonistDefeated, .groundDug, .survivorWarned, .survivorHeard]

/-- The name of a flag in content. -/
def word : Flag → String
  | .torchLit => "torch_lit"
  | .antagonistActive => "antagonist_active"
  | .antagonistDefeated => "antagonist_defeated"
  | .groundDug => "ground_dug"
  | .survivorWarned => "survivor_warned"
  | .survivorHeard => "survivor_heard"

/-- The flag with a name. -/
def ofWord? (s : String) : Option Flag := all.find? (fun f => f.word == s)

theorem ofWord?_word (f : Flag) : ofWord? f.word = some f := by
  cases f <;> decide

theorem word_of_ofWord? {s : String} {f : Flag} (h : ofWord? s = some f) : f.word = s := by
  have := List.find?_some h
  simpa using this

end Flag

/-- Entries with a value put under a name. -/
def replaceEntry (name : String) (value : Content) (es : List (String × Content)) :
    List (String × Content) :=
  (name, value) :: es.filter (fun e => e.1 ≠ name)

/-- What has happened. -/
structure Flags where
  torchLit : Bool := false
  antagonistActive : Bool := false
  antagonistDefeated : Bool := false
  groundDug : Bool := false
  survivorWarned : Bool := false
  survivorHeard : Bool := false
  /-- What is kept under names that are no flags', each of them once. -/
  remarks : List (String × Content) := []
  /-- All that is kept under names, if it has been put there as a whole. -/
  instead : Option (List (String × Content)) := none
  /-- What the drawers have been filled with. -/
  drawers : List (Drawer × Content) := []
deriving DecidableEq

namespace Flags

/-! ## 1. Flags -/

def get (fs : Flags) : Flag → Bool
  | .torchLit => fs.torchLit
  | .antagonistActive => fs.antagonistActive
  | .antagonistDefeated => fs.antagonistDefeated
  | .groundDug => fs.groundDug
  | .survivorWarned => fs.survivorWarned
  | .survivorHeard => fs.survivorHeard

/-- The flags with one of them set, where all are kept as they are. -/
def setOwn (fs : Flags) (f : Flag) (b : Bool) : Flags :=
  match f with
  | .torchLit => { fs with torchLit := b }
  | .antagonistActive => { fs with antagonistActive := b }
  | .antagonistDefeated => { fs with antagonistDefeated := b }
  | .groundDug => { fs with groundDug := b }
  | .survivorWarned => { fs with survivorWarned := b }
  | .survivorHeard => { fs with survivorHeard := b }

/-- The flags with one of them set. -/
def set (fs : Flags) (f : Flag) (b : Bool) : Flags :=
  { fs.setOwn f b with instead := fs.instead.map (replaceEntry f.word (.bool b)) }

/-- **Setting one flag leaves the others.** -/
theorem get_set (fs : Flags) (f g : Flag) (b : Bool) :
    (fs.set f b).get g = if g = f then b else fs.get g := by
  cases f <;> cases g <;> rfl

theorem remarks_set (fs : Flags) (f : Flag) (b : Bool) : (fs.set f b).remarks = fs.remarks := by
  cases f <;> rfl

theorem drawers_set (fs : Flags) (f : Flag) (b : Bool) : (fs.set f b).drawers = fs.drawers := by
  cases f <;> rfl

theorem instead_set (fs : Flags) (f : Flag) (b : Bool) :
    (fs.set f b).instead = fs.instead.map (replaceEntry f.word (.bool b)) := rfl

theorem ext_get {fs gs : Flags} (h : ∀ f, fs.get f = gs.get f)
    (hr : fs.remarks = gs.remarks) (hi : fs.instead = gs.instead)
    (hd : fs.drawers = gs.drawers) : fs = gs := by
  cases fs; cases gs
  have h1 := h .torchLit
  have h2 := h .antagonistActive
  have h3 := h .antagonistDefeated
  have h4 := h .groundDug
  have h5 := h .survivorWarned
  have h6 := h .survivorHeard
  simp only [get] at h1 h2 h3 h4 h5 h6
  simp only at hr hi hd
  simp [h1, h2, h3, h4, h5, h6, hr, hi, hd]

/-- The flags as entries, in order. -/
def entries (fs : Flags) : List (String × Content) :=
  Flag.all.map (fun f => (f.word, .bool (fs.get f)))

/-- All that is kept under names. -/
def kept (fs : Flags) : List (String × Content) := fs.instead.getD (fs.entries ++ fs.remarks)

/-- The flags that are kept, as entries. -/
def shown (fs : Flags) : List (String × Content) :=
  match fs.instead with
  | none => fs.entries
  | some es => es.filter (fun e => (Flag.ofWord? e.1).isSome)

/-- What hides a means of the flags from them: an entry that has been put there as one of all. -/
def hiding? (fs : Flags) (means : String) : Option Content :=
  fs.instead.bind (fun es => es.lookup means)

/-- Why the flags cannot be shown: what shows them is hidden by an entry. -/
def showingFault? (fs : Flags) : Option Fault :=
  if (fs.hiding? "model_dump").isSome then some .wrongKind
  else if (fs.hiding? "__pydantic_serializer__").isSome then some .noSuchPart
  else none

/-! ## 2. Looking under names -/

/-- What a drawer has been filled with. -/
def drawer? (fs : Flags) (d : Drawer) : Option Content := fs.drawers.lookup d

/-- What is in a drawer. -/
def inDrawer (fs : Flags) (d : Drawer) : Holding :=
  match fs.drawer? d with
  | some c => .content c
  | none => d.untouched

/-- What stands under a name that stands nowhere else: the first drawer may have it. -/
def beyond (fs : Flags) (name : String) : Except Fault Content :=
  let extra := (fs.drawer? .extra).getD .null
  if !extra.isFilled then .error .noSuchPart
  else match extra with
    | .mapping es =>
      match es.lookup name with
      | some c => .ok c
      | none => .error .noSuchPart
    | _ => .error .wrongKind

/-- **What stands under the name of a flag**: a truth value, unless something else has been put in
    the place of all that is kept. -/
def look (fs : Flags) (f : Flag) : Except Fault Content :=
  match fs.instead with
  | none => .ok (.bool (fs.get f))
  | some es =>
    match es.lookup f.word with
    | some c => .ok c
    | none => fs.beyond f.word

/-- A flag counts as set. -/
def isSet (fs : Flags) (f : Flag) : Except Fault Bool := (fs.look f).map Content.isFilled

theorem look_eq {fs : Flags} (h : fs.instead = none) (f : Flag) :
    fs.look f = .ok (.bool (fs.get f)) := by
  simp [look, h]

theorem isSet_eq {fs : Flags} (h : fs.instead = none) (f : Flag) :
    fs.isSet f = .ok (fs.get f) := by
  simp [isSet, look_eq h, Except.map, Content.isFilled]

/-- The kind that each flag has. -/
def kinds : Content := .mapping (Flag.all.map (fun f => (f.word, .text ValueKind.truth.name)))

/-- What stands under a name that no flag has. -/
def holdingOther (fs : Flags) (name : String) : Except Fault Holding :=
  if name = Reserved.everything then .ok (.content (.mapping fs.kept))
  else match Drawer.readUnder? name, Reserved.foremost.lookup name, fs.kept.lookup name with
    | some d, _, _ => .ok (fs.inDrawer d)
    | none, some holding, _ => .ok holding
    | none, none, some c => .ok (.content c)
    | none, none, none =>
      if name = "__annotations__" then .ok (.content kinds)
      else match Reserved.holding? name with
        | some holding => .ok holding
        | none => (fs.beyond name).map Holding.content

/-- **What stands under a name**: a flag, all that is kept, a remark, or what the flags keep for
    themselves. -/
def holding (fs : Flags) (name : String) : Except Fault Holding :=
  match Flag.ofWord? name with
  | some f => (fs.look f).map .content
  | none => fs.holdingOther name

/-! ## 3. Changing what stands under names -/

/-- The flags with a remark. -/
def remark (fs : Flags) (name : String) (value : Content) : Flags :=
  match fs.instead with
  | none => { fs with remarks := replaceEntry name value fs.remarks }
  | some es => { fs with instead := some (replaceEntry name value es) }

/-- The flags with a drawer filled. -/
def fill (fs : Flags) (d : Drawer) (value : Content) : Flags :=
  { fs with drawers := (d, value) :: fs.drawers.filter (fun e => e.1 ≠ d) }

/-- The flags before one of them is set: what is in the first drawer is put among all that is
    kept. Only a mapping can be. -/
def gathered (fs : Flags) : Except Fault Flags :=
  match fs.drawer? .extra with
  | none => .ok fs
  | some .null => .ok fs
  | some (.mapping es) =>
    .ok { fs.fill .extra .null with
      instead := some (es.foldl (fun kept e => replaceEntry e.1 e.2 kept) fs.kept) }
  | some _ => .error .wrongKind

/-- Why nothing can be put under a name: what does so is hidden by an entry. -/
def assigningFault? (fs : Flags) (name : String) : Option Fault :=
  let hidden := (fs.kept.lookup "_setattr_handler").isSome
  match fs.hiding? "__pydantic_setattr_handlers__" with
  | some (.mapping es) =>
    if (es.lookup name).getD .null ≠ .null || hidden then some .wrongKind else none
  | some _ => some .noSuchPart
  | none => if hidden && (Flag.ofWord? name).isNone then some .wrongKind else none

/-- **Sets a flag** to a value that has to read as a truth value. -/
def assignFlag (fs : Flags) (f : Flag) (value : Content) : Except Fault Flags := do
  if (fs.hiding? "__pydantic_validator__").isSome then throw .noSuchPart
  let all ← fs.gathered
  let b ← ((Reader.bool value).within f.word).orInvalid .flags
  if (fs.drawer? .given).isSome then throw .wrongKind
  return all.set f b

/-- Puts a value under a name that no flag has. A name that begins with an underscore may stand for
    anything; other names are not known. -/
def assignOther (fs : Flags) (name : String) (value : Content) : Except Fault Flags :=
  match Reserved.guard? name, Drawer.ofWord? name with
  | some .firm, _ => .error .noSuchPart
  | some .ofOtherKind, _ => .error .wrongKind
  | none, some d => .ok (fs.fill d value)
  | none, none =>
    if name = Reserved.everything then
      match value with
      | .mapping es => .ok { fs with instead := some es }
      | _ => .error .wrongKind
    else if Reserved.isFree name then .ok (fs.remark name value)
    else if (fs.hiding? "__pydantic_validator__").isSome then .error .noSuchPart
    else do
      let _ ← fs.gathered
      .error (.invalid .flags [⟨[name], .unknownName⟩])

/-- **Puts a value under a name.** -/
def assign (fs : Flags) (name : String) (value : Content) : Except Fault Flags :=
  match fs.assigningFault? name with
  | some fault => .error fault
  | none =>
    match Flag.ofWord? name with
    | some f => fs.assignFlag f value
    | none => fs.assignOther name value

/-- Nothing but flags and remarks has been touched. -/
def IsPlain (fs : Flags) : Prop := fs.instead = none ∧ fs.drawers = []

theorem IsPlain.set {fs : Flags} (h : fs.IsPlain) (f : Flag) (b : Bool) : (fs.set f b).IsPlain := by
  obtain ⟨hi, hd⟩ := h
  exact ⟨by simp [instead_set, hi], by rw [drawers_set, hd]⟩

theorem assignFlag_bool {fs : Flags} (h : fs.IsPlain) (f : Flag) (b : Bool) :
    fs.assignFlag f (.bool b) = .ok (fs.set f b) := by
  obtain ⟨hi, hd⟩ := h
  simp [assignFlag, hiding?, hi, gathered, drawer?, hd, Reader.bool, Checked.within,
    Checked.orInvalid, bind, Except.bind, pure, Except.pure]

theorem assign_word {fs : Flags} (h : fs.IsPlain) (f : Flag) (b : Bool) :
    fs.assign f.word (.bool b) = .ok (fs.set f b) := by
  have free : fs.assigningFault? f.word = none := by
    simp [assigningFault?, hiding?, h.1, Flag.ofWord?_word]
  simp [assign, free, Flag.ofWord?_word, assignFlag_bool h]

/-! ## 4. Reading -/

def fields (es : List (String × Content)) : Checked Flags :=
  (fun torchLit antagonistActive antagonistDefeated groundDug survivorWarned survivorHeard =>
      { torchLit, antagonistActive, antagonistDefeated, groundDug, survivorWarned,
        survivorHeard : Flags })
    <$> Reader.optional es "torch_lit" Reader.bool false
    <*> Reader.optional es "antagonist_active" Reader.bool false
    <*> Reader.optional es "antagonist_defeated" Reader.bool false
    <*> Reader.optional es "ground_dug" Reader.bool false
    <*> Reader.optional es "survivor_warned" Reader.bool false
    <*> Reader.optional es "survivor_heard" Reader.bool false

/-- Flags from content. -/
def read : Reader Flags := Reader.record (Flag.all.map Flag.word) fields

end Flags

end Adventure
