/-!
# The router: who consumes the next line

* `Router`: a continuation that waits for the next line, or none;
* `Router.redirect`, `Router.take`, `Router.clear`.

A continuation that waits takes the line before anything else looks at it.
-/

namespace Adventure

/-- A continuation that waits for the next line, or none. -/
structure Router (κ : Type) where
  waiting : Option κ := none
deriving DecidableEq, Repr

namespace Router

variable {κ : Type}

/-- A continuation waits. -/
def isPending (r : Router κ) : Bool := r.waiting.isSome

/-- The next line goes to a continuation; the one that waited before is forgotten. -/
def redirect (_ : Router κ) (k : κ) : Router κ := ⟨some k⟩

/-- The continuation that waits, and a router in which none does. -/
def take (r : Router κ) : Option κ × Router κ := (r.waiting, ⟨none⟩)

/-- No continuation waits any longer. -/
def clear (_ : Router κ) : Router κ := ⟨none⟩

end Router

end Adventure
