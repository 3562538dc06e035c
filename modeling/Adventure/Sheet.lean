import Adventure.Fault
import Adventure.Text.Kept

/-!
# Sheets: what stands in the place of a file of content

* `Sheet`: a content, nothing at all, a text that is no content, or something that cannot be
  opened;
* `Sheet.read`: the content of a sheet, or why there is none;
* `Content.isWritable`, `Content.asKept`: what can be written, and how a sheet keeps it.
-/

namespace Adventure

namespace Content

mutual

/-- The content has no mark of the inventory in it, which files do not know. -/
def isWritable : Content → Bool
  | .inventory => false
  | .list xs => allWritable xs
  | .mapping es => allEntriesWritable es
  | _ => true

def allWritable : List Content → Bool
  | [] => true
  | x :: xs => isWritable x && allWritable xs

def allEntriesWritable : List (String × Content) → Bool
  | [] => true
  | (_, x) :: es => isWritable x && allEntriesWritable es

end

mutual

/-- **The content as a sheet keeps it**: the entries of every mapping in the order of their keys. -/
def asKept : Content → Content
  | .text s => .text (Text.kept s)
  | .list xs => .list (listAsKept xs)
  | .mapping es => .mapping (((entriesAsKept es).mergeSort (fun a b => a.1 ≤ b.1)).map
      (fun e => (Text.kept e.1, e.2)))
  | c => c

def listAsKept : List Content → List Content
  | [] => []
  | x :: xs => asKept x :: listAsKept xs

def entriesAsKept : List (String × Content) → List (String × Content)
  | [] => []
  | (k, x) :: es => (k, asKept x) :: entriesAsKept es

end

end Content

/-- What stands in the place of a file of content. -/
inductive Sheet where
  | absent
  | written (content : Content)
  /-- A text that is no content. -/
  | garbled
  /-- Something that cannot be opened, for the given cause. -/
  | barred (cause : Fault)
deriving DecidableEq

namespace Sheet

/-- The content of a sheet, or why there is none. -/
def read : Sheet → Except Fault Content
  | .absent => .error .notFound
  | .written c => .ok c
  | .garbled => .error .unreadable
  | .barred cause => .error cause

theorem read_eq_ok_iff {s : Sheet} {c : Content} : s.read = .ok c ↔ s = .written c := by
  cases s <;> simp [read]

end Sheet

end Adventure
