import Adventure.Text.Blank
import Adventure.Text.Lowercase

/-!
# The words of a line

* `tokens`: the words of a player's line in small letters, without the stopwords.
-/

namespace Adventure.Line

/-- **The words of a line** in small letters, in order, without the stopwords. -/
def tokens (stopwords : List String) (line : String) : List String :=
  ((Text.words (Text.lower line.toList)).map String.ofList).filter (fun t => !stopwords.contains t)

/-- No token is a stopword. -/
theorem not_mem_of_mem_tokens {stopwords : List String} {line token : String}
    (h : token ∈ tokens stopwords line) : token ∉ stopwords := by
  have := (List.mem_filter.1 h).2
  simpa using this

/-- No token is empty and none has a blank in it. -/
theorem sound_of_mem_tokens {stopwords : List String} {line token : String}
    (h : token ∈ tokens stopwords line) :
    token.toList ≠ [] ∧ ∀ c ∈ token.toList, Text.isBlank c = false := by
  obtain ⟨w, hw, rfl⟩ := List.mem_map.1 (List.mem_filter.1 h).1
  rw [String.toList_ofList]
  exact Text.words_sound hw

end Adventure.Line
