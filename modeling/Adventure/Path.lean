import Adventure.Fault

/-!
# Paths: where files stand

* `Path`: steps from a root, or from wherever one is;
* `Path.read`, `Path.toText`: a path from text and back;
* `Path.join`: a path taken from the end of another one;
* `Ground`: the folders and the files that are there;
* `Ground.walk`, `Ground.opening`: where steps lead to, and where a file is opened under a name.

Steps that lead nowhere, the empty one and `.`, are left out of a path; `..` is a step like any
other, and leads up only from a folder that is there.
-/

namespace Adventure

/-- Steps from a root; without a root it is empty. -/
structure Path where
  root : String
  steps : List String
deriving DecidableEq, Repr

namespace Path

/-- The parts of a text between slashes; `part` is the one that has begun, last character
    first. -/
def partsFrom (part : List Char) : List Char → List (List Char)
  | [] => [part.reverse]
  | c :: cs => if c = '/' then part.reverse :: partsFrom [] cs else partsFrom (c :: part) cs

/-- A part that leads somewhere. -/
def isStep (part : List Char) : Bool := part ≠ [] && part ≠ ['.']

/-- The root that a number of slashes at the beginning stands for: two are a root of their own. -/
def rootOf (slashes : Nat) : String :=
  if slashes = 0 then "" else if slashes = 2 then "//" else "/"

/-- The path that a text describes. -/
def read (s : String) : Path where
  root := rootOf (s.toList.takeWhile (· = '/')).length
  steps := ((partsFrom [] s.toList).filter isStep).map String.ofList

/-- **A path from the end of another one.** A path with a root leads away from it. -/
def join (p q : Path) : Path := if q.root = "" then { p with steps := p.steps ++ q.steps } else q

/-- The path without its last step. -/
def parent (p : Path) : Path := { p with steps := p.steps.dropLast }

/-- The folder that a folder stands in. Nothing stands above a root; above where one is, the steps
    are not known by name. -/
def above (p : Path) : Path :=
  if p.steps.all (· = "..") then
    if p.root = "" then { p with steps := ".." :: p.steps } else { p with steps := [] }
  else p.parent

def toText (p : Path) : String :=
  if p.root = "" ∧ p.steps = [] then "." else p.root ++ "/".intercalate p.steps

end Path

/-! ## Files and folders -/

/-- The folders and the files that are there. -/
structure Ground where
  folders : List Path
  files : List Path := []

namespace Ground

/-- The longest name of a file or a folder, in bytes. -/
def longestName : Nat := 255

def isNameTooLong (name : String) : Bool := longestName < name.utf8ByteSize

/-- The longest text that describes a path, in bytes. -/
def longestPath : Nat := 4095

/-- **Where a walk from a folder along steps comes to.** The steps before the last one have to lead
    from folder to folder; what the last one names need not be there. -/
def walk (g : Ground) (here : Path) : List String → Except Fault Path
  | [] => .ok here
  | step :: steps =>
    if step = ".." then walk g here.above steps
    else
      let there : Path := { here with steps := here.steps ++ [step] }
      if isNameTooLong step then .error .nameTooLong
      else if steps = [] ∨ g.folders.contains there then walk g there steps
      else if g.files.contains there then .error .notDirectory
      else .error .notFound

/-- The root that a walk along a path starts from. -/
def start (p : Path) : Path := { root := if p.root = "" then "" else "/", steps := [] }

/-- **Where a file is opened under a name**, if one can be. -/
def opening (g : Ground) (name : String) : Except Fault Path := do
  let path := Path.read name
  if name.contains '\x00' then throw .badValue
  if name = "" then throw .notFound
  if longestPath < name.utf8ByteSize then throw .nameTooLong
  let place ← g.walk (start path) path.steps
  let closed := name.endsWith "/" || name.endsWith "/."
  if g.folders.contains place || path.steps.getLast? = some ".." then throw .isDirectory
  if g.files.contains place then
    if closed then throw .notDirectory else return place
  if name.endsWith "/" then throw .isDirectory
  if closed then throw .notFound
  return place

example : (Path.read "a//b/./c/").toText = "a/b/c" := by decide +kernel
example : ((Path.read "a").join (Path.read "/b")).toText = "/b" := by decide +kernel
example : (⟨[⟨"", ["a"]⟩], []⟩ : Ground).walk ⟨"", []⟩ ["a", "..", "b"] = .ok ⟨"", ["b"]⟩ := by
  cbv
example : (⟨[], []⟩ : Ground).walk ⟨"", []⟩ ["a", "b"] = .error .notFound := by cbv
example : (⟨[], [⟨"", ["a"]⟩]⟩ : Ground).walk ⟨"", []⟩ ["a", "b"] = .error .notDirectory := by cbv

end Ground

end Adventure
