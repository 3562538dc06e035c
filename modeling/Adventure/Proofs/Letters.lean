import Adventure.Proofs.Line
import Adventure.Text.Letter

/-!
# Capitals and small letters

What the tables of letters have to do with each other, and what follows for the words of a line:

* `Span.isApart`, `Span.isCovered`: two spans that share no code point, a span that lies in several
  others; both are decided span by span, as there are too many pairs of letters;
* `changing`: the characters with another small form; none of the small letters is among them
  (`inSpans_smallForm`), and all of them are capitals or in title form (`isSettled_of_not_capital`);
* `isSettled_lower`: **a text in small letters stays as it is**;
* `isAllSmall_iff`: a text that shows its case is without capitals exactly if it stays as it is;
* `isWord_of_mem_tokens`, `tokens_eq_singleton_iff`: **the tokens of a line are words**, and these
  are what is read as it stands.
-/

namespace Adventure

namespace Text

/-! ## 1. Spans -/

namespace Span

variable {s t : Span} {spans : List Span} {n : Nat}

/-- The spans share no code point: one ends before the other begins, or one has every second code
    point and the other only such as lie between. -/
def isApart (s t : Span) : Bool :=
  s.last.blt t.first || t.last.blt s.first ||
    (t.stride == 2 && (s.stride == 2 || s.first == s.last) && (s.first + t.first) % 2 == 1)

theorem not_contains_of_isApart (apart : s.isApart t = true) (inside : s.contains n = true) :
    t.contains n = false := by
  rw [Bool.eq_false_iff]
  intro other
  obtain ⟨low, high, step⟩ := contains_iff.mp inside
  obtain ⟨low', high', step'⟩ := contains_iff.mp other
  simp only [isApart, Bool.or_eq_true, Bool.and_eq_true, Nat.blt_eq, beq_iff_eq] at apart
  rcases apart with (before | after) | ⟨⟨second, alternates⟩, odd⟩
  · omega
  · omega
  · rw [second] at step'
    rcases alternates with second' | single
    · rw [second'] at step
      omega
    · omega

/-- The code points of a span, in order. -/
def points (s : Span) : List Nat :=
  List.range' s.first ((s.last - s.first) / s.stride + 1) s.stride

theorem mem_points (inside : s.contains n = true) : n ∈ s.points := by
  obtain ⟨low, high, step⟩ := contains_iff.mp inside
  have whole := Nat.mul_div_cancel' (Nat.dvd_of_mod_eq_zero step)
  have early : (n - s.first) / s.stride ≤ (s.last - s.first) / s.stride :=
    Nat.div_le_div_right (Nat.sub_le_sub_right high _)
  refine List.mem_range'.mpr ⟨(n - s.first) / s.stride, Nat.lt_succ_of_le early, ?_⟩
  omega

/-- Every code point of the span lies in one of the others. -/
def isCovered (s : Span) (spans : List Span) : Bool :=
  s.points.all fun n => (spans.filter (!s.isApart ·)).any (·.contains n)

theorem contains_of_isCovered (covered : s.isCovered spans = true) (inside : s.contains n = true) :
    ∃ t ∈ spans, t.contains n = true := by
  have hit := List.all_eq_true.mp covered n (mem_points inside)
  obtain ⟨t, near, there⟩ := List.any_eq_true.mp hit
  exact ⟨t, (List.mem_filter.mp near).1, there⟩

end Span

/-! ## 2. Characters with another small form -/

/-- The characters with another small form: the dotted capital I, and the capitals with one small
    letter. -/
def changing : List Span := ⟨0x130, 0x130, 1⟩ :: shifts.map Shift.toSpan

/-- Where the small letters of a span of capitals lie. -/
def Shift.target (s : Shift) : Span where
  first := ((s.first : Int) + s.distance).toNat
  last := ((s.last : Int) + s.distance).toNat
  stride := s.stride

/-- The small letters of a span of capitals are characters, and none of them changes again. -/
def Shift.isFinal (s : Shift) : Bool :=
  0 ≤ (s.first : Int) + s.distance &&
    (s.target.last < 0xD800 || (0xDFFF < s.target.first && s.target.last < 0x110000)) &&
      changing.all s.target.isApart

theorem shifts_final : shifts.all Shift.isFinal = true := by decide +kernel

theorem changing_covered : changing.all (·.isCovered (capitalSpans ++ titleSpans)) = true := by
  decide +kernel

/-- The distance from a capital to its small letter is the same for a whole span. -/
theorem Shift.contains_target {s : Shift} {n : Nat} (low : 0 ≤ (s.first : Int) + s.distance)
    (inside : s.toSpan.contains n = true) :
    s.target.contains ((n : Int) + s.distance).toNat = true := by
  obtain ⟨first, last, step⟩ := Span.contains_iff.mp inside
  refine Span.contains_iff.mpr ⟨?_, ?_, ?_⟩
  · show ((s.first : Int) + s.distance).toNat ≤ _
    omega
  · show _ ≤ ((s.last : Int) + s.distance).toNat
    omega
  · show (((n : Int) + s.distance).toNat - ((s.first : Int) + s.distance).toNat) % s.stride = 0
    have same : ((n : Int) + s.distance).toNat - ((s.first : Int) + s.distance).toNat =
        n - s.first := by omega
    rw [same, step]

theorem smallForm?_eq_none {c : Char} (h : inSpans changing c = false) : smallForm? c = none := by
  unfold smallForm?
  rw [Option.map_eq_none_iff, List.find?_eq_none]
  intro s mem inside
  have outside := List.any_eq_false.mp h s.toSpan
    (List.mem_cons_of_mem _ (List.mem_map_of_mem mem))
  exact outside inside

/-- **A small letter has no other small form.** -/
theorem inSpans_smallForm {c d : Char} (h : smallForm? c = some d) :
    inSpans changing d = false := by
  obtain ⟨s, found, rfl⟩ := Option.map_eq_some_iff.mp h
  have inside : s.toSpan.contains c.toNat = true := by simpa using List.find?_some found
  have final := List.all_eq_true.mp shifts_final s (List.mem_of_find?_eq_some found)
  simp only [Shift.isFinal, Bool.and_eq_true, decide_eq_true_eq, Bool.or_eq_true] at final
  obtain ⟨⟨low, valid⟩, apart⟩ := final
  have target := s.contains_target low inside
  obtain ⟨first, last, -⟩ := Span.contains_iff.mp target
  have isChar : ((c.toNat : Int) + s.distance).toNat.isValidChar := by
    rcases valid with small | ⟨large, bounded⟩
    · exact .inl (by omega)
    · exact .inr ⟨by omega, by omega⟩
  have code : (Char.ofNat ((c.toNat : Int) + s.distance).toNat).toNat =
      ((c.toNat : Int) + s.distance).toNat := by
    rw [Char.ofNat, dif_pos isChar]
    rfl
  refine List.any_eq_false.mpr fun t mem => ?_
  rw [code, Span.not_contains_of_isApart (List.all_eq_true.mp apart t mem) target]
  exact Bool.false_ne_true

/-- A character that is not among those that change stands for itself. -/
theorem isSettled_of_unchanging {c : Char} (h : inSpans changing c = false) : IsSettled c := by
  have dotted : inSpans changing 'İ' = true := by decide +kernel
  have sigma : inSpans changing 'Σ' = true := by decide +kernel
  refine ⟨?_, ?_⟩
  · rintro rfl
    rw [sigma] at h
    cases h
  · have plain : c ≠ 'İ' := by
      rintro rfl
      rw [dotted] at h
      cases h
    unfold lowerChar
    rw [if_neg plain, smallForm?_eq_none h]
    rfl

/-- What changes is a capital, or in title form. -/
theorem isSettled_of_not_capital {c : Char} (small : isCapital c = false)
    (plain : isTitle c = false) : IsSettled c := by
  refine isSettled_of_unchanging (Bool.eq_false_iff.mpr fun changes => ?_)
  obtain ⟨s, mem, inside⟩ := List.any_eq_true.mp changes
  have covered := List.all_eq_true.mp changing_covered s mem
  obtain ⟨t, known, there⟩ := Span.contains_of_isCovered covered inside
  rcases List.mem_append.mp known with capital | title
  · have found : isCapital c = true := List.any_eq_true.mpr ⟨t, capital, there⟩
    rw [small] at found
    cases found
  · have found : isTitle c = true := List.any_eq_true.mpr ⟨t, title, there⟩
    rw [plain] at found
    cases found

/-! ## 3. Texts -/

/-- The small forms that are not taken from the table. -/
theorem isSettled_of_special {c : Char} (special : c ∈ ['i', '\u0307', 'ς', 'σ']) :
    IsSettled c := by
  have all : ['i', '\u0307', 'ς', 'σ'].all (fun c => !inSpans changing c) = true := by
    decide +kernel
  refine isSettled_of_unchanging ?_
  simpa using List.all_eq_true.mp all c special

/-- The small form of a character stands for itself. -/
theorem isSettled_lowerChar (c : Char) : ∀ d ∈ lowerChar c, IsSettled d := by
  unfold lowerChar
  by_cases dotted : c = 'İ'
  · rw [if_pos dotted]
    intro d mem
    exact isSettled_of_special (List.mem_append_left ['ς', 'σ'] mem)
  · rw [if_neg dotted]
    intro d mem
    obtain rfl := List.mem_singleton.mp mem
    cases form : smallForm? c with
    | some small => exact isSettled_of_unchanging (inSpans_smallForm form)
    | none =>
        refine ⟨?_, ?_⟩
        · have sigma : smallForm? 'Σ' ≠ none := by decide +kernel
          rintro rfl
          exact sigma form
        · show lowerChar c = [c]
          unfold lowerChar
          rw [if_neg dotted, form]
          rfl

/-- **A text in small letters stays as it is**, whatever stands before it. -/
theorem isSettled_lowerFrom (afterLetter : Bool) (s : List Char) :
    ∀ c ∈ lowerFrom afterLetter s, IsSettled c := by
  induction s generalizing afterLetter with
  | nil => exact fun _ mem => absurd mem List.not_mem_nil
  | cons c cs ih =>
      unfold lowerFrom
      refine List.forall_mem_append.mpr ⟨?_, ih _⟩
      by_cases sigma : c = 'Σ'
      · rw [if_pos sigma]
        refine List.forall_mem_singleton.mpr (isSettled_of_special ?_)
        split
        · simp
        · simp
      · rw [if_neg sigma]
        exact isSettled_lowerChar c

theorem isSettled_lower (s : List Char) : ∀ c ∈ lower s, IsSettled c :=
  isSettled_lowerFrom false s

/-- A text without capitals stays as it is in small letters. -/
theorem lower_of_isAllSmall {s : List Char} (small : isAllSmall s = true) : lower s = s := by
  have none_capital : s.any (fun c => isCapital c || isTitle c) = false := by
    simpa using (Bool.and_eq_true_iff.mp small).2
  refine lower_eq_self_iff.mpr fun c mem => ?_
  have plain := List.any_eq_false.mp none_capital c mem
  rw [Bool.not_eq_true, Bool.or_eq_false_iff] at plain
  exact isSettled_of_not_capital plain.1 plain.2

/-- A text shows its case: it has a letter, and no capital without a small form. -/
def ShowsCase (s : List Char) : Prop :=
  (∃ c ∈ s, isLetterWithCase c = true) ∧
    ∀ c ∈ s, (isCapital c || isTitle c) = true → ¬ IsSettled c

/-- A text without capitals shows its case. -/
theorem showsCase_of_isAllSmall {s : List Char} (small : isAllSmall s = true) : ShowsCase s := by
  obtain ⟨some_small, none_capital⟩ := Bool.and_eq_true_iff.mp small
  obtain ⟨c, mem, letter⟩ := List.any_eq_true.mp some_small
  refine ⟨⟨c, mem, ?_⟩, fun d mem capital => ?_⟩
  · unfold isLetterWithCase
    rw [letter]
    rfl
  · rw [Bool.not_eq_true'] at none_capital
    exact absurd capital (List.any_eq_false.mp none_capital d mem)

/-- **A text that shows its case** is without capitals exactly if small letters leave it as it is.
    -/
theorem isAllSmall_iff {s : List Char} (shows : ShowsCase s) :
    isAllSmall s = true ↔ lower s = s := by
  refine ⟨lower_of_isAllSmall, fun same => ?_⟩
  have settled := lower_eq_self_iff.mp same
  have plain : ∀ c ∈ s, (isCapital c || isTitle c) = false := fun c mem =>
    Bool.eq_false_iff.mpr fun capital => shows.2 c mem capital (settled c mem)
  obtain ⟨c, mem, letter⟩ := shows.1
  have small : isSmall c = true := by
    have no := plain c mem
    unfold isLetterWithCase at letter
    rw [Bool.or_assoc, no, Bool.or_false] at letter
    exact letter
  unfold isAllSmall
  rw [List.any_eq_true.mpr ⟨c, mem, small⟩, Bool.true_and, Bool.not_eq_true',
    List.any_eq_false]
  exact fun c mem => Bool.eq_false_iff.mp (plain c mem)

/-- The words of a text are made of its characters. -/
theorem mem_of_mem_wordsAfter {c : Char} {w : List Char} (s : List Char) (begun : List Char)
    (mem : w ∈ wordsAfter begun s) (inside : c ∈ w) : c ∈ begun ∨ c ∈ s := by
  induction s generalizing begun with
  | nil =>
      unfold wordsAfter at mem
      split at mem
      · cases mem
      · obtain rfl := List.mem_singleton.mp mem
        exact .inl (List.mem_reverse.mp inside)
  | cons d s ih =>
      have later : c ∈ s → c ∈ d :: s := List.mem_cons_of_mem d
      unfold wordsAfter at mem
      split at mem
      · split at mem
        · exact (ih [] mem).elim (fun no => absurd no List.not_mem_nil) fun h => .inr (later h)
        · rcases List.mem_cons.mp mem with rfl | mem
          · exact .inl (List.mem_reverse.mp inside)
          · exact (ih [] mem).elim (fun no => absurd no List.not_mem_nil) fun h => .inr (later h)
      · rcases ih (d :: begun) mem with before | after
        · rcases List.mem_cons.mp before with rfl | before
          · exact .inr List.mem_cons_self
          · exact .inl before
        · exact .inr (later after)

theorem mem_of_mem_words {c : Char} {s w : List Char} (mem : w ∈ words s) (inside : c ∈ w) :
    c ∈ s :=
  (mem_of_mem_wordsAfter s [] mem inside).resolve_left List.not_mem_nil

end Text

/-! ## 4. Tokens -/

namespace Line

variable {stopwords : List String} {line token : String}

/-- **The tokens of a line are words.** -/
theorem isWord_of_mem_tokens (mem : token ∈ tokens stopwords line) : IsWord stopwords token := by
  obtain ⟨nonempty, whole⟩ := sound_of_mem_tokens mem
  obtain ⟨w, known, rfl⟩ := List.mem_map.mp (List.mem_filter.mp mem).1
  rw [String.toList_ofList] at nonempty whole
  refine ⟨?_, ?_, ?_, not_mem_of_mem_tokens mem⟩
  · intro empty
    rw [← String.toList_eq_nil_iff, String.toList_ofList] at empty
    exact nonempty empty
  · have settled : ∀ c ∈ w, Text.IsSettled c := fun c inside =>
      Text.isSettled_lower _ c (Text.mem_of_mem_words known inside)
    unfold Text.lowercase
    rw [String.toList_ofList, Text.lower_eq_self_iff.mpr settled]
  · rw [String.toList_ofList]
    exact List.any_eq_false.mpr fun c inside => Bool.eq_false_iff.mp (whole c inside)

/-- A word alone is read as itself, and nothing else is. -/
theorem tokens_eq_singleton_iff {word : String} :
    tokens stopwords word = [word] ↔ IsWord stopwords word := by
  constructor
  · intro alone
    exact isWord_of_mem_tokens (alone ▸ List.mem_singleton_self word)
  · intro isWord
    have alone := tokens_intercalate (List.forall_mem_singleton.mpr isWord)
    rwa [String.intercalate_singleton] at alone

end Line

end Adventure
