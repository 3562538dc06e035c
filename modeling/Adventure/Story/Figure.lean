import Adventure.Schema

/-!
# Figures: the numbers of an adventure

* `Figure`: a whole number, or the word for the inventory written in its place;
* `Figure.read`, `Figure.toContent`, `Figure.ofContent?`: a figure from content and back.

The word is neither greater nor smaller than a number and equals none, so an adventure can be
written with it, but nothing can be counted with it.
-/

namespace Adventure

/-- A whole number, or the word for the inventory in its place. -/
inductive Figure where
  | number (n : Int)
  | word
deriving DecidableEq, Repr

namespace Figure

instance : Coe Int Figure := ⟨.number⟩

instance (n : Nat) : OfNat Figure n := ⟨.number n⟩

/-- A figure as content: the word is a text like any other. -/
def toContent : Figure → Content
  | .number n => .int n
  | .word => .text Content.inventoryWord

/-- The figure that compares equal to a content. -/
def ofContent? (c : Content) : Option Figure :=
  if c = .text Content.inventoryWord then some .word
  else match c.number? with
    | some (.inl n) => some (.number n)
    | some (.inr x) => x.whole?.map .number
    | none => none

/-- A figure in a sentence. -/
def shown : Figure → String
  | .number n => toString n
  | .word => Content.inventoryWord

/-- A figure from content: the mark of the inventory is read as its word. -/
def read : Reader Figure
  | .inventory => .good .word
  | c => (Reader.whole c).map .number

@[simp] theorem ofContent?_toContent (f : Figure) : ofContent? f.toContent = some f := by
  cases f <;> simp [ofContent?, toContent, Content.number?]

end Figure

end Adventure
