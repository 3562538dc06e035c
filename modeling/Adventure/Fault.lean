import Adventure.Content.Filled
import Adventure.Roster
import Adventure.Schema

/-!
# Faults: why a step of the adventure comes to nothing

* `Model`: the records that content is read into;
* `Fault`: the causes;
* `Act`: a step that changes a state and may end in a fault, which keeps the changes made before;
* `Act.zoom`: a step on a part of the state;
* `Content.demand`, `Content.filledEntries`, `Content.filledElements`, `Content.asName`,
  `Content.joined`: access to content that has to have a shape.
-/

namespace Adventure

/-! ## 1. Causes -/

/-- The records that content is read into. -/
inductive Model where
  | command
  | room
  | item
  | character
  | dialogue
  | action
  | scenario
  | flags
deriving DecidableEq, Repr

/-- Why a step comes to nothing. -/
inductive Fault where
  /-- Nothing is kept under the key. -/
  | unknownKey (key : Content)
  /-- A value of a kind that the step cannot work with. -/
  | wrongKind
  /-- A value without the part that is asked for. -/
  | noSuchPart
  /-- A value of the right kind that makes no sense. -/
  | badValue
  /-- A position past the end. -/
  | noSuchPosition
  /-- A number beyond what can be worked with. -/
  | tooLarge
  /-- A text longer than there is room for. -/
  | tooWide
  /-- A record with problems. -/
  | invalid (model : Model) (problems : List Problem)
  /-- A choice although no dialogue waits for one. -/
  | noChoiceAwaited
  /-- A file that is not there. -/
  | notFound
  /-- A file that is there already. -/
  | alreadyExists
  /-- A file in the place of a directory. -/
  | notDirectory
  /-- A directory in the place of a file. -/
  | isDirectory
  /-- A file whose name is too long. -/
  | nameTooLong
  /-- A content that cannot be written into a file. -/
  | unwritable
  /-- A file whose text is no content. -/
  | unreadable
  /-- The adventure or the saved game is inconsistent. -/
  | inconsistent
  /-- The session cannot start, for the given cause. -/
  | abandoned (cause : Fault)
  /-- The command line ends the program with a status. -/
  | exited (status : Nat)
deriving DecidableEq

/-- A fault in the words of a message to the person at the keyboard. -/
def Fault.wording : Fault → String
  | .unknownKey key => "nothing is kept under " ++ key.quoted
  | .wrongKind => "a value is of the wrong kind"
  | .noSuchPart => "a value lacks a part"
  | .badValue => "a value makes no sense"
  | .noSuchPosition => "a position is past the end"
  | .tooLarge => "a number is too large"
  | .tooWide => "a text is too wide"
  | .invalid _ problems => "not valid at " ++ ", ".intercalate (problems.map Problem.place)
  | .noChoiceAwaited => "no dialogue is waiting for a choice"
  | .notFound => "the file is not there"
  | .alreadyExists => "the file is there already"
  | .notDirectory => "a file stands where a directory should"
  | .isDirectory => "the file is a directory"
  | .nameTooLong => "the name of the file is too long"
  | .unwritable => "a value cannot be written into a file"
  | .unreadable => "the file cannot be read"
  | .inconsistent => "the adventure is inconsistent"
  | .abandoned cause => cause.wording
  | .exited status => "status " ++ toString status

/-- The fault of a message that cannot be filled. -/
def Fault.ofTemplate : TemplateFault → Fault
  | .unknownKey key => .unknownKey key
  | .noSuchPosition => .noSuchPosition
  | .malformed => .badValue
  | .wrongKind => .wrongKind
  | .noSuchPart => .noSuchPart
  | .tooLarge => .tooLarge
  | .tooWide => .tooWide

/-- The value of a record, or its problems as a fault. -/
def Checked.orInvalid {α : Type} (model : Model) : Checked α → Except Fault α
  | .good a => .ok a
  | .bad ps => .error (.invalid model ps)

/-! ## 2. Steps -/

/-- **A step on a state.** A fault keeps the state that was reached. -/
abbrev Act (σ : Type) := ExceptT Fault (StateM σ)

namespace Act

variable {σ τ α : Type}

/-- Runs a step: its outcome and the state that was reached. -/
def runOn (a : Act σ α) (s : σ) : Except Fault α × σ := a.run.run s

/-- The outcome of a reading of the state that may fail. -/
def reading (f : σ → Except Fault α) : Act σ α := fun s => (f s, s)

/-- An outcome that does not touch the state. -/
def ofExcept (r : Except Fault α) : Act σ α := fun s => (r, s)

/-- A step, and after it another one, whether the first came to a fault or not. -/
def andThen (a : Act σ α) (last : Act σ Unit) : Act σ α := fun s =>
  let (r, t) := a s
  match last t with
  | (.ok (), u) => (r, u)
  | (.error e, u) => (.error e, u)

/-- A step on a part of the state. -/
def zoom (get : σ → τ) (set : τ → σ → σ) (a : Act τ α) : Act σ α := fun s =>
  let (r, t) := a (get s)
  (r, set t s)

end Act

/-! ## 3. Access to content -/

namespace Content

/-- The entries of a mapping. -/
def entries : Content → Except Fault (List (String × Content))
  | .mapping es => .ok es
  | _ => .error .noSuchPart

/-- The value under a key of a mapping that has to be there. -/
def demand (k : String) : Content → Except Fault Content
  | .mapping es =>
    match es.lookup k with
    | some x => .ok x
    | none => .error (.unknownKey (.text k))
  | _ => .error .wrongKind

/-- The entries of a mapping; a value that is not filled has none. -/
def filledEntries (c : Content) : Except Fault (List (String × Content)) :=
  if c.isFilled then c.entries else .ok []

/-- The elements a value is walked through by. -/
def elements (c : Content) : Except Fault (List Content) :=
  match c.elements? with
  | some xs => .ok xs
  | none => .error .wrongKind

/-- The elements of a value; a value that is not filled has none. -/
def filledElements (c : Content) : Except Fault (List Content) :=
  if c.isFilled then c.elements else .ok []

/-- The name that a value is, if it is one; lists and mappings cannot be looked up. -/
def asName : Content → Except Fault (Option String)
  | .text s => .ok (some s)
  | .list _ => .error .wrongKind
  | .mapping _ => .error .wrongKind
  | _ => .ok none

/-- The texts of a list of contents, which have to be texts. -/
def allTexts : List Content → Except Fault (List String)
  | [] => .ok []
  | .text s :: cs => (allTexts cs).map (s :: ·)
  | _ :: _ => .error .wrongKind

/-- **Texts as one text**, with something between them; only texts can be joined. -/
def joined (between : String) (cs : List Content) : Except Fault String :=
  (allTexts cs).map between.intercalate

@[simp] theorem allTexts_map_text (l : List String) :
    allTexts (l.map .text) = .ok l := by
  induction l with
  | nil => rfl
  | cons s l ih => simp [allTexts, ih, Except.map]

@[simp] theorem asName_text (s : String) : asName (.text s) = .ok (some s) := rfl

end Content

namespace Roster

variable {α : Type}

/-- The entry under a name that is given as content. -/
def find (r : Roster α) (key : Content) : Except Fault (Option α) :=
  key.asName.map (fun name => name.bind r.get?)

/-- The entry under a name that has to be there. -/
def demand (r : Roster α) (key : Content) : Except Fault α :=
  match r.find key with
  | .error e => .error e
  | .ok (some a) => .ok a
  | .ok none => .error (.unknownKey key)

/-- The name that is given as content has an entry. -/
def knows (r : Roster α) (key : Content) : Except Fault Bool :=
  (r.find key).map Option.isSome

end Roster

end Adventure
