import Adventure.Content
import Adventure.Number.Shortest
import Adventure.Text.Quoted

/-!
# How content is shown

* `Content.shown`: a value inside a sentence; texts stand as they are;
* `Content.quoted`: a value inside a shown list or mapping; texts stand in quotes.
-/

namespace Adventure.Content

/-- A text in quotes. -/
def quotedText (s : String) : String := String.ofList (Text.quote s.toList)

/-- The mark of the inventory in a sentence. -/
def inventoryName : String := "LocationTag.INVENTORY"

mutual

/-- A value inside a shown list or mapping. -/
def quoted : Content → String
  | .null => "None"
  | .bool b => if b then "True" else "False"
  | .int n => toString n
  | .float x => x.toText
  | .text s => quotedText s
  | .inventory => "<" ++ inventoryName ++ ": " ++ quotedText inventoryWord ++ ">"
  | .list xs => "[" ++ ", ".intercalate (quotedList xs) ++ "]"
  | .mapping es => "\x7b" ++ ", ".intercalate (quotedEntries es) ++ "\x7d"

def quotedList : List Content → List String
  | [] => []
  | x :: xs => quoted x :: quotedList xs

def quotedEntries : List (String × Content) → List String
  | [] => []
  | (k, x) :: xs => (quotedText k ++ ": " ++ quoted x) :: quotedEntries xs

end

/-- **A value inside a sentence.** -/
def shown : Content → String
  | .text s => s
  | .inventory => inventoryName
  | c => c.quoted

@[simp] theorem shown_text (s : String) : shown (.text s) = s := rfl

/-- A list of names as a sentence shows it. -/
def shownNames (names : List String) : String := quoted (.list (names.map .text))

example : shownNames ["a", "l'oro"] = "['a', \"l'oro\"]" := by decide +kernel

end Adventure.Content
