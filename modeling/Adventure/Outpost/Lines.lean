import Adventure.Content

/-!
# Texts of several lines

* `lines`: a text from its lines.
-/

namespace Adventure.Outpost

/-- The text with the given lines. -/
def lines (ls : List String) : String := "\n".intercalate ls

end Adventure.Outpost
