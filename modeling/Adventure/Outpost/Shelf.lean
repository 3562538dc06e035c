import Adventure.Outpost.Sentences
import Adventure.Outpost.Story
import Adventure.Outpost.Words
import Adventure.Shelf

/-!
# The shelf of the outpost

* `Outpost.content`: the four contents of the adventure that comes with the library;
* `Outpost.shelf`: the same as a shelf.
-/

namespace Adventure.Outpost

/-- What the sheets of the outpost hold. -/
def content : Kind → Content
  | .world => Story.all
  | .messages => Sentences.all
  | .commands => Words.commands
  | .stopwords => Words.stopwords

/-- The language in which the outpost is told. -/
def language : String := "it"

/-- The adventure that comes with the library. -/
def shelf : Shelf where
  sheet kind := .written (content kind)

end Adventure.Outpost
