/-!
# Blanks: stripping a text and cutting it into words

* `isWhite`: the white space of the character standard;
* `isBlank`: white space and the four information separators, which part words as well;
* `stripEnd`, `strip`: a text without the blanks at its ends;
* `occurs`: one text stands in another;
* `words`: the longest runs of other characters, in order.
-/

namespace Adventure.Text

/-! ## 1. The two classes -/

/-- The white space of the character standard. -/
def isWhite (c : Char) : Bool :=
  let n := c.toNat
  (9 ≤ n && n ≤ 13) || n == 32 || n == 0x85 || n == 0xA0 || n == 0x1680 ||
    (0x2000 ≤ n && n ≤ 0x200A) || n == 0x2028 || n == 0x2029 || n == 0x202F || n == 0x205F ||
    n == 0x3000

/-- A character that parts words: white space, and the separators from U+001C to U+001F. -/
def isBlank (c : Char) : Bool :=
  isWhite c || (0x1C ≤ c.toNat && c.toNat ≤ 0x1F)

/-! ## 2. Stripping -/

/-- The text from its first character outside the class on. -/
def trimStart (p : Char → Bool) (s : List Char) : List Char := s.dropWhile p

/-- The text up to its last character outside the class. -/
def trimEnd (p : Char → Bool) (s : List Char) : List Char := (s.reverse.dropWhile p).reverse

/-- The text without the characters of the class at its ends. -/
def trim (p : Char → Bool) (s : List Char) : List Char := trimEnd p (trimStart p s)

/-- A string without the blanks at its end. -/
def stripEnd (s : String) : String := String.ofList (trimEnd isBlank s.toList)

/-- A string without the blanks at its ends. -/
def strip (s : String) : String := String.ofList (trim isBlank s.toList)

/-- One text stands somewhere in the other. -/
def occurs (part : List Char) : List Char → Bool
  | [] => part.isEmpty
  | c :: cs => part.isPrefixOf (c :: cs) || occurs part cs

/-! ## 3. Words -/

/-- The words of a text whose first word has already begun with `word`, last character first. -/
def wordsAfter (word : List Char) : List Char → List (List Char)
  | [] => if word.isEmpty then [] else [word.reverse]
  | c :: cs =>
    if isBlank c then
      if word.isEmpty then wordsAfter [] cs else word.reverse :: wordsAfter [] cs
    else wordsAfter (c :: word) cs

/-- The longest runs of characters that are not blank, in order. -/
def words (s : List Char) : List (List Char) := wordsAfter [] s

/-- No word is empty and none has a blank in it. -/
theorem wordsAfter_sound (s : List Char) :
    ∀ word : List Char, (∀ c ∈ word, isBlank c = false) →
      ∀ w ∈ wordsAfter word s, w ≠ [] ∧ ∀ c ∈ w, isBlank c = false := by
  induction s with
  | nil =>
    intro word hw w h
    unfold wordsAfter at h
    split at h
    · cases h
    · rename_i hne
      simp only [List.mem_singleton] at h
      subst h
      refine ⟨by simpa using hne, fun c hc => hw c (by simpa using hc)⟩
  | cons c cs ih =>
    intro word hw w h
    unfold wordsAfter at h
    split at h
    · split at h
      · exact ih [] (by simp) w h
      · rename_i hne
        rcases List.mem_cons.1 h with h | h
        · subst h
          exact ⟨by simpa using hne, fun d hd => hw d (by simpa using hd)⟩
        · exact ih [] (by simp) w h
    · rename_i hc
      refine ih (c :: word) (fun d hd => ?_) w h
      rcases List.mem_cons.1 hd with hd | hd
      · subst hd; simpa using hc
      · exact hw d hd

theorem words_sound {s w : List Char} (h : w ∈ words s) :
    w ≠ [] ∧ ∀ c ∈ w, isBlank c = false :=
  wordsAfter_sound s [] (by simp) w h

end Adventure.Text
