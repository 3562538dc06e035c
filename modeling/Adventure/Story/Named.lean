/-!
# Things that answer to a word

* `Named`: a name and other words for it;
* `Named.answersTo`: the word is the name or one of the others, letter for letter.
-/

namespace Adventure

/-- A name and other words for the same thing. -/
structure Named where
  name : String
  aliases : List String := []
deriving DecidableEq, Repr

/-- The word is the name or an alias, letter for letter. -/
def Named.answersTo (n : Named) (word : String) : Bool :=
  word == n.name || n.aliases.contains word

end Adventure
