/-!
# Spans of code points

* `Span`: the code points from a first to a last one, all of them or every second one;
* `Span.contains`, `inSpans`: membership.

The character properties of this library are lists of spans.
-/

namespace Adventure.Text

/-- The code points `first`, `first + stride`, … up to `last`. -/
structure Span where
  /-- The least code point. -/
  first : Nat
  /-- The greatest code point. -/
  last : Nat
  /-- The distance between neighbours. -/
  stride : Nat
deriving DecidableEq, Repr

/-- A code point of the span. -/
def Span.contains (s : Span) (n : Nat) : Bool :=
  s.first ≤ n && n ≤ s.last && (n - s.first) % s.stride == 0

/-- A character whose code point lies in one of the spans. -/
def inSpans (spans : List Span) (c : Char) : Bool :=
  spans.any (fun s => s.contains c.toNat)

theorem Span.contains_iff {s : Span} {n : Nat} :
    s.contains n = true ↔ s.first ≤ n ∧ n ≤ s.last ∧ (n - s.first) % s.stride = 0 := by
  simp [Span.contains, and_assoc]

end Adventure.Text
