import Adventure.Line.Token
import Mathlib.Data.List.Basic

/-!
# Lines that are read word by word

* `Text.IsSettled`: a character that stands for itself in a text in small letters;
* `lower_eq_self_iff`: **a text is its own small form** if all its characters are settled, wherever
  they stand;
* `words_intercalate`: words between single blanks are found again;
* `Line.IsWord`, `tokens_intercalate`: **a line of words is read as just these words**.
-/

namespace Adventure

namespace Text

/-! ## 1. Small letters -/

/-- A character that is its own small form. A capital sigma never is, whatever stands around it. -/
def IsSettled (c : Char) : Prop := c ≠ 'Σ' ∧ lowerChar c = [c]

/-- The small form of a character alone is that character, or begins with another. -/
theorem lowerChar_cons (c : Char) : ∃ d rest, lowerChar c = d :: rest ∧ (d = c → rest = []) := by
  unfold lowerChar
  by_cases dotted : c = 'İ'
  · subst dotted
    exact ⟨_, _, rfl, by decide⟩
  · rw [if_neg dotted]
    exact ⟨_, _, rfl, fun _ => rfl⟩

/-- **A text is its own small form** if all its characters are settled. What stands before it does
    not matter. -/
theorem lowerFrom_eq_self_iff {s : List Char} (afterLetter : Bool) :
    lowerFrom afterLetter s = s ↔ ∀ c ∈ s, IsSettled c := by
  induction s generalizing afterLetter with
  | nil => simp [lowerFrom]
  | cons c cs ih =>
      unfold lowerFrom
      by_cases sigma : c = 'Σ'
      · rw [if_pos sigma]
        refine iff_of_false (fun h => ?_) fun h => (h c List.mem_cons_self).1 sigma
        have first := (List.cons.inj h).1
        rw [sigma] at first
        split at first
        · exact absurd first (by decide)
        · exact absurd first (by decide)
      · rw [if_neg sigma]
        obtain ⟨d, rest, form, alone⟩ := lowerChar_cons c
        constructor
        · intro same
          rw [form, List.cons_append] at same
          obtain ⟨rfl, same⟩ := List.cons.inj same
          rw [alone rfl, List.nil_append] at same
          rw [alone rfl] at form
          exact List.forall_mem_cons.mpr ⟨⟨sigma, form⟩, (ih _).mp same⟩
        · intro settled
          obtain ⟨first, rest⟩ := List.forall_mem_cons.mp settled
          rw [first.2, (ih _).mpr rest]
          rfl

theorem lower_eq_self_iff {s : List Char} : lower s = s ↔ ∀ c ∈ s, IsSettled c :=
  lowerFrom_eq_self_iff false

theorem isSettled_blank : IsSettled ' ' := ⟨by decide, by decide +kernel⟩

/-! ## 2. Words -/

/-- A word that has begun goes on until a blank comes. -/
theorem wordsAfter_append (begun : List Char) {w : List Char} (whole : ∀ c ∈ w, isBlank c = false)
    (rest : List Char) : wordsAfter begun (w ++ rest) = wordsAfter (w.reverse ++ begun) rest := by
  induction w generalizing begun with
  | nil => rfl
  | cons c w ih =>
      obtain ⟨first, whole⟩ := List.forall_mem_cons.mp whole
      rw [List.cons_append, wordsAfter, if_neg (by rw [first]; decide), ih _ whole,
        List.reverse_cons, List.append_assoc]
      rfl

/-- Settled words are settled with blanks between them. -/
theorem isSettled_intercalate {ws : List (List Char)}
    (settled : ∀ w ∈ ws, ∀ c ∈ w, IsSettled c) : ∀ c ∈ [' '].intercalate ws, IsSettled c := by
  induction ws with
  | nil => exact fun _ h => absurd h List.not_mem_nil
  | cons w ws ih =>
      obtain ⟨first, settled⟩ := List.forall_mem_cons.mp settled
      cases ws with
      | nil => rwa [List.intercalate_singleton]
      | cons next ws =>
          rw [List.intercalate_cons_cons, List.append_assoc]
          refine List.forall_mem_append.mpr ⟨first, List.forall_mem_append.mpr ⟨?_, ih settled⟩⟩
          exact List.forall_mem_singleton.mpr isSettled_blank

/-- **Words with a blank between them** are found again. -/
theorem words_intercalate {ws : List (List Char)}
    (sound : ∀ w ∈ ws, w ≠ [] ∧ ∀ c ∈ w, isBlank c = false) :
    words ([' '].intercalate ws) = ws := by
  induction ws with
  | nil => rfl
  | cons w ws ih =>
      obtain ⟨⟨filled, whole⟩, sound⟩ := List.forall_mem_cons.mp sound
      have begun : (w.reverse ++ []).isEmpty = false := by simpa using filled
      have once : (w.reverse ++ []).reverse = w := by simp
      unfold words at ih ⊢
      cases ws with
      | nil =>
          rw [List.intercalate_singleton, ← List.append_nil w, wordsAfter_append [] whole,
            wordsAfter, if_neg (by rw [begun]; decide), once, List.append_nil]
      | cons next ws =>
          rw [List.intercalate_cons_cons, List.append_assoc, List.singleton_append,
            wordsAfter_append [] whole, wordsAfter, if_pos (by decide),
            if_neg (by rw [begun]; decide), once, ih sound]

end Text

/-! ## 3. Lines -/

namespace Line

/-- **A word that a line can bring to the rules**: it is not empty, in small letters, without a
    blank, and no stopword. -/
structure IsWord (stopwords : List String) (word : String) : Prop where
  filled : word ≠ ""
  small : Text.lowercase word = word
  whole : word.toList.any Text.isBlank = false
  kept : word ∉ stopwords

variable {stopwords : List String} {words : List String}

/-- **A line of words is read as just these words.** -/
theorem tokens_intercalate (sound : ∀ word ∈ words, IsWord stopwords word) :
    tokens stopwords (" ".intercalate words) = words := by
  have chars : ∀ w ∈ words.map String.toList, Text.lower w = w ∧ w ≠ [] ∧
      ∀ c ∈ w, Text.isBlank c = false := by
    intro w mem
    obtain ⟨word, known, rfl⟩ := List.mem_map.mp mem
    have isWord := sound word known
    have small := congrArg String.toList isWord.small
    unfold Text.lowercase at small
    rw [String.toList_ofList] at small
    refine ⟨small, fun empty => isWord.filled (String.toList_eq_nil_iff.mp empty), ?_⟩
    exact fun c mem => Bool.eq_false_iff.mpr (List.any_eq_false.mp isWord.whole c mem)
  have settled := Text.isSettled_intercalate fun w mem => Text.lower_eq_self_iff.mp (chars w mem).1
  have kept : ∀ word ∈ words, (!stopwords.contains word) = true := fun word mem => by
    simpa using (sound word mem).kept
  have again : (words.map String.toList).map String.ofList = words := by
    rw [List.map_map]
    exact (List.map_congr_left fun word _ => String.ofList_toList).trans (List.map_id words)
  unfold tokens
  rw [String.toList_intercalate, show " ".toList = [' '] from rfl,
    Text.lower_eq_self_iff.mpr settled, Text.words_intercalate fun w mem => (chars w mem).2, again,
    List.filter_eq_self.mpr kept]

end Line

end Adventure
