import Adventure.Number.Binary64

/-!
# Content: the values that adventures and saved games are written in

* `Content`: nothing, truth values, numbers, texts, lists and mappings, and `inventory`, the mark
  for "carried by the player";
* `Content.isFilled`: everything but nothing, false, zero and the empty values;
* `Content.same`: equality as content compares, where truth values and numbers are numbers and the
  order of a mapping does not count;
* `Content.get?`, `Content.entries?`, `Content.elements?`: access to parts;
* `Content.marked`: the text `INVENTORY` read as the mark, at every depth.
-/

namespace Adventure

open Number (Binary64)

/-- A value of an adventure or a saved game. -/
inductive Content where
  | null
  | bool (b : Bool)
  | int (n : Int)
  | float (x : Binary64)
  | text (s : String)
  /-- The mark for the place "carried by the player". -/
  | inventory
  | list (xs : List Content)
  /-- Entries in the order in which they were written; keys are distinct. -/
  | mapping (entries : List (String × Content))

namespace Content

instance : Inhabited Content := ⟨.null⟩

/-! ## 1. Equality -/

mutual

/-- Decides whether two contents are literally the same. -/
def decEq : (a b : Content) → Decidable (a = b)
  | .null, b => by cases b <;> first | exact .isTrue rfl | exact .isFalse (by simp)
  | .inventory, b => by cases b <;> first | exact .isTrue rfl | exact .isFalse (by simp)
  | .bool x, b =>
    match b with
    | .bool y => if h : x = y then .isTrue (by rw [h]) else .isFalse (by simp [h])
    | .null | .int _ | .float _ | .text _ | .inventory | .list _ | .mapping _ =>
      .isFalse (by simp)
  | .int x, b =>
    match b with
    | .int y => if h : x = y then .isTrue (by rw [h]) else .isFalse (by simp [h])
    | .null | .bool _ | .float _ | .text _ | .inventory | .list _ | .mapping _ =>
      .isFalse (by simp)
  | .float x, b =>
    match b with
    | .float y => if h : x = y then .isTrue (by rw [h]) else .isFalse (by simp [h])
    | .null | .bool _ | .int _ | .text _ | .inventory | .list _ | .mapping _ =>
      .isFalse (by simp)
  | .text x, b =>
    match b with
    | .text y => if h : x = y then .isTrue (by rw [h]) else .isFalse (by simp [h])
    | .null | .bool _ | .int _ | .float _ | .inventory | .list _ | .mapping _ =>
      .isFalse (by simp)
  | .list xs, b =>
    match b with
    | .list ys =>
      match decEqList xs ys with
      | .isTrue h => .isTrue (by rw [h])
      | .isFalse h => .isFalse (by simp [h])
    | .null | .bool _ | .int _ | .float _ | .text _ | .inventory | .mapping _ =>
      .isFalse (by simp)
  | .mapping xs, b =>
    match b with
    | .mapping ys =>
      match decEqEntries xs ys with
      | .isTrue h => .isTrue (by rw [h])
      | .isFalse h => .isFalse (by simp [h])
    | .null | .bool _ | .int _ | .float _ | .text _ | .inventory | .list _ =>
      .isFalse (by simp)

def decEqList : (a b : List Content) → Decidable (a = b)
  | [], [] => .isTrue rfl
  | [], _ :: _ => .isFalse (by simp)
  | _ :: _, [] => .isFalse (by simp)
  | x :: xs, y :: ys =>
    match decEq x y with
    | .isFalse h => .isFalse (by simp [h])
    | .isTrue h =>
      match decEqList xs ys with
      | .isTrue k => .isTrue (by rw [h, k])
      | .isFalse k => .isFalse (by simp [k])

def decEqEntries : (a b : List (String × Content)) → Decidable (a = b)
  | [], [] => .isTrue rfl
  | [], _ :: _ => .isFalse (by simp)
  | _ :: _, [] => .isFalse (by simp)
  | (k, x) :: xs, (l, y) :: ys =>
    if hk : k = l then
      match decEq x y with
      | .isFalse h => .isFalse (by simp [h])
      | .isTrue h =>
        match decEqEntries xs ys with
        | .isTrue g => .isTrue (by rw [hk, h, g])
        | .isFalse g => .isFalse (by simp [g])
    else .isFalse (by simp [hk])

end

instance : DecidableEq Content := decEq

/-! ## 2. Equality as content compares -/

/-- The number a value counts as: truth values count as zero and one. -/
def number? : Content → Option (Int ⊕ Binary64)
  | .bool b => some (.inl (if b then 1 else 0))
  | .int n => some (.inl n)
  | .float x => some (.inr x)
  | _ => none

/-- Two numbers are equal, whether whole or not. -/
def sameNumber : Int ⊕ Binary64 → Int ⊕ Binary64 → Bool
  | .inl m, .inl n => m == n
  | .inr x, .inr y => x.same y
  | .inl m, .inr y => y.whole? == some m
  | .inr x, .inl n => x.whole? == some n

mutual

/-- **Two contents compare equal.** -/
def same : Content → Content → Bool
  | .null, b =>
    match b with
    | .null => true
    | _ => false
  | .inventory, b =>
    match b with
    | .inventory => true
    | _ => false
  | .text s, b =>
    match b with
    | .text t => s == t
    | _ => false
  | .list xs, b =>
    match b with
    | .list ys => sameList xs ys
    | _ => false
  | .mapping xs, b =>
    match b with
    | .mapping ys => xs.length == ys.length && sameEntries xs ys
    | _ => false
  | .bool x, b =>
    match b.number? with
    | some n => sameNumber (.inl (if x then 1 else 0)) n
    | none => false
  | .int x, b =>
    match b.number? with
    | some n => sameNumber (.inl x) n
    | none => false
  | .float x, b =>
    match b.number? with
    | some n => sameNumber (.inr x) n
    | none => false

def sameList : List Content → List Content → Bool
  | [], ys => ys.isEmpty
  | x :: xs, ys =>
    match ys with
    | [] => false
    | y :: ys => same x y && sameList xs ys

/-- Every entry has an equal one under the same key. -/
def sameEntries : List (String × Content) → List (String × Content) → Bool
  | [], _ => true
  | (k, x) :: xs, ys =>
    match ys.lookup k with
    | some y => same x y && sameEntries xs ys
    | none => false

end

@[simp] theorem same_text (s : String) (b : Content) :
    same (.text s) b = true ↔ b = .text s := by
  cases b <;> simp [same]
  exact eq_comm

theorem same_text_right (a : Content) (s : String) : same a (.text s) = true ↔ a = .text s := by
  cases a <;> simp [same, number?]

/-! ## 3. Parts -/

/-- A value that counts as given: not nothing, false, zero or empty. -/
def isFilled : Content → Bool
  | .null => false
  | .bool b => b
  | .int n => n != 0
  | .float x => !x.isZero
  | .text s => s != ""
  | .inventory => true
  | .list xs => !xs.isEmpty
  | .mapping es => !es.isEmpty

/-- The value under a key of a mapping. -/
def get? (k : String) : Content → Option Content
  | .mapping es => es.lookup k
  | _ => none

/-- The text of a text. -/
def text? : Content → Option String
  | .text s => some s
  | _ => none

/-- A text that may be missing, as content. -/
def ofText? : Option String → Content
  | some s => .text s
  | none => .null

/-- A value that may stand where keys stand: everything but lists and mappings. -/
def isAtomic : Content → Bool
  | .list _ => false
  | .mapping _ => false
  | _ => true

/-- The elements a value is walked through by: the elements of a list, the keys of a mapping, the
    characters of a text. -/
def elements? : Content → Option (List Content)
  | .list xs => some xs
  | .mapping es => some (es.map (fun e => .text e.1))
  | .text s => some (s.toList.map (fun c => .text (String.singleton c)))
  | _ => none

/-! ## 4. The mark of the inventory -/

/-- How the mark is written. -/
def inventoryWord : String := "INVENTORY"

mutual

/-- **The content with the written mark read as the mark**, in values at every depth; keys stay
    as they are. -/
def marked : Content → Content
  | .text s => if s = inventoryWord then .inventory else .text s
  | .list xs => .list (markedList xs)
  | .mapping es => .mapping (markedEntries es)
  | c => c

def markedList : List Content → List Content
  | [] => []
  | x :: xs => marked x :: markedList xs

def markedEntries : List (String × Content) → List (String × Content)
  | [] => []
  | (k, x) :: xs => (k, marked x) :: markedEntries xs

end

/-- The value with the mark written out. -/
def unmarked : Content → Content
  | .inventory => .text inventoryWord
  | c => c

end Content

end Adventure
