import Adventure.Path
import Adventure.Proofs.Outcome
import Mathlib.Data.List.TakeWhile

/-!
# Paths from text and back

* `Path.IsTidy`: a path with steps that a path can have, and at most one slash at its root;
* `read_toText`: **a tidy path is read back from its text**;
* `tidy_walk`: where a walk along a path comes to is tidy;
* `opening_eq_ok`: when a file can be opened, and where;
* `opening_with_file`: it still can be when it is there.
-/

namespace Adventure

namespace Path

/-! ## 1. Steps -/

/-- A step that a path can have. -/
def IsTidyStep (step : String) : Prop := '/' ∉ step.toList ∧ isStep step.toList = true

/-- The path has steps that a path can have, and at most one slash at its root. -/
structure IsTidy (p : Path) : Prop where
  root : p.root = "" ∨ p.root = "/"
  steps : ∀ step ∈ p.steps, IsTidyStep step

/-- The parts of a text are what it is split into. -/
theorem partsFrom_eq (part cs : List Char) :
    partsFrom part cs = List.splitOnPPrepend (· == '/') cs part := by
  induction cs generalizing part with
  | nil => rfl
  | cons c cs ih =>
      unfold partsFrom
      rw [List.splitOnPPrepend_cons_eq_if, ih, ih, List.splitOnPPrepend_nil_right]
      simp only [beq_iff_eq]

theorem partsFrom_nil (cs : List Char) : partsFrom [] cs = cs.splitOn '/' := by
  rw [partsFrom_eq, List.splitOnPPrepend_nil_right, List.splitOn_eq_splitOnP]

/-- No part of a text has a slash. -/
theorem no_slash_of_mem {cs part x : List Char} (clean : '/' ∉ part) (h : x ∈ partsFrom part cs) :
    '/' ∉ x := by
  induction cs generalizing part with
  | nil =>
      rw [List.mem_singleton.mp h, List.mem_reverse]
      exact clean
  | cons c cs ih =>
      unfold partsFrom at h
      split at h
      · rcases List.mem_cons.mp h with rfl | h
        · rw [List.mem_reverse]
          exact clean
        · exact ih List.not_mem_nil h
      · next other =>
          refine ih (fun hm => ?_) h
          rcases List.mem_cons.mp hm with e | hm
          · exact other e.symm
          · exact clean hm

/-- The steps of a text that is read are steps that a path can have. -/
theorem tidy_read {s step : String} (h : step ∈ (read s).steps) : IsTidyStep step := by
  obtain ⟨part, hm, rfl⟩ := List.mem_map.mp h
  obtain ⟨mem, leads⟩ := List.mem_filter.mp hm
  unfold IsTidyStep
  rw [String.toList_ofList]
  exact ⟨no_slash_of_mem List.not_mem_nil mem, leads⟩

/-! ## 2. From text and back -/

/-- The steps of a text in which tidy steps stand between slashes. -/
theorem steps_intercalate {steps : List String} (tidy : ∀ step ∈ steps, IsTidyStep step) :
    ((partsFrom [] ("/".intercalate steps).toList).filter isStep).map String.ofList = steps := by
  by_cases empty : steps = []
  · subst empty
    rfl
  · have split : partsFrom [] ("/".intercalate steps).toList = steps.map String.toList := by
      rw [partsFrom_nil, String.toList_intercalate]
      refine List.splitOn_intercalate '/' (fun l hl => ?_) (by simpa using empty)
      obtain ⟨step, hs, rfl⟩ := List.mem_map.mp hl
      exact (tidy step hs).1
    have all : (steps.map String.toList).filter isStep = steps.map String.toList := by
      rw [List.filter_eq_self]
      intro l hl
      obtain ⟨step, hs, rfl⟩ := List.mem_map.mp hl
      exact (tidy step hs).2
    rw [split, all, List.map_map]
    simp [Function.comp_def, String.ofList_toList]

/-- A text in which tidy steps stand between slashes does not begin with one. -/
theorem takeWhile_intercalate {steps : List String} (tidy : ∀ step ∈ steps, IsTidyStep step) :
    ("/".intercalate steps).toList.takeWhile (· = '/') = [] := by
  cases steps with
  | nil => rfl
  | cons step steps =>
      obtain ⟨clean, leads⟩ := tidy step (List.mem_cons_self ..)
      cases chars : step.toList with
      | nil =>
          rw [chars] at leads
          cases leads
      | cons c cs =>
          rw [chars] at clean
          have other : c ≠ '/' := fun e => clean (e ▸ List.mem_cons_self ..)
          have first : ∃ rest, ("/".intercalate (step :: steps)).toList = c :: rest := by
            rw [String.toList_intercalate]
            cases steps with
            | nil => exact ⟨cs, by simp [chars]⟩
            | cons step' steps => exact ⟨_, by simp [chars]; rfl⟩
          obtain ⟨rest, e⟩ := first
          rw [e]
          simp [other]

/-- **A tidy path is read back from its text.** -/
theorem read_toText {p : Path} (tidy : p.IsTidy) : read p.toText = p := by
  obtain ⟨root, steps⟩ := p
  obtain ⟨roots, tidy⟩ := tidy
  simp only at roots tidy
  rcases roots with rfl | rfl
  · by_cases empty : steps = []
    · subst empty
      rfl
    · have text : (Path.mk "" steps).toText = "/".intercalate steps := by
        simp [toText, empty]
      unfold read
      rw [text, takeWhile_intercalate tidy, steps_intercalate tidy]
      rfl
  · have text : (Path.mk "/" steps).toText.toList = '/' :: ("/".intercalate steps).toList := by
      simp [toText]
    unfold read
    rw [text]
    have slashes : ('/' :: ("/".intercalate steps).toList).takeWhile (· = '/') = ['/'] := by
      rw [List.takeWhile_cons_of_pos (by simp), takeWhile_intercalate tidy]
    have parts : partsFrom [] ('/' :: ("/".intercalate steps).toList) =
        [] :: partsFrom [] ("/".intercalate steps).toList := rfl
    rw [slashes, parts, List.filter_cons_of_neg (by decide), steps_intercalate tidy]
    rfl

end Path

namespace Ground

open Adventure.Path

/-! ## 3. Walks -/

theorem tidy_above {p : Path} (tidy : p.IsTidy) : p.above.IsTidy := by
  unfold above
  split
  · split
    · refine ⟨tidy.root, fun step hm => ?_⟩
      rcases List.mem_cons.mp hm with rfl | hm
      · exact ⟨by decide, by decide⟩
      · exact tidy.steps step hm
    · exact ⟨tidy.root, fun _ hm => absurd hm List.not_mem_nil⟩
  · exact ⟨tidy.root, fun step hm => tidy.steps step ((List.dropLast_sublist _).subset hm)⟩

/-- **Where a walk comes to is tidy.** -/
theorem tidy_walk {g : Ground} {here there : Path} {steps : List String} (tidy : here.IsTidy)
    (leads : ∀ step ∈ steps, IsTidyStep step) (h : g.walk here steps = .ok there) :
    there.IsTidy := by
  induction steps generalizing here with
  | nil =>
      cases h
      exact tidy
  | cons step steps ih =>
      have later : ∀ step ∈ steps, IsTidyStep step :=
        fun step hm => leads step (List.mem_cons_of_mem _ hm)
      unfold walk at h
      split at h
      · exact ih (tidy_above tidy) later h
      · simp only at h
        split at h
        · cases h
        · split at h
          · have further : Path.IsTidy { here with steps := here.steps ++ [step] } := by
              refine ⟨tidy.root, fun s hm => ?_⟩
              rcases List.mem_append.mp hm with hm | hm
              · exact tidy.steps s hm
              · rw [List.mem_singleton.mp hm]
                exact leads step (List.mem_cons_self ..)
            exact ih further later h
          · split at h
            · cases h
            · cases h

/-- A walk does not mind one more file. -/
theorem walk_with_file {g g' : Ground} (folders : g'.folders = g.folders) {here there : Path}
    {steps : List String} (h : g.walk here steps = .ok there) :
    g'.walk here steps = .ok there := by
  induction steps generalizing here with
  | nil => exact h
  | cons step steps ih =>
      unfold walk at h ⊢
      by_cases up : step = ".."
      · rw [if_pos up] at h ⊢
        exact ih h
      · rw [if_neg up] at h ⊢
        simp only at h ⊢
        split at h
        · cases h
        · next short =>
            rw [if_neg short]
            split at h
            · next leads =>
                rw [folders, if_pos leads]
                exact ih h
            · split at h
              · cases h
              · cases h

/-- The name leads to a file in a folder that is there, not to a folder itself. -/
structure Leads (g : Ground) (name : String) (there : Path) : Prop where
  named : name.contains '\x00' = false
  filled : name ≠ ""
  short : ¬ longestPath < name.utf8ByteSize
  walked : g.walk (start (read name)) (read name).steps = .ok there
  file : (g.folders.contains there || (read name).steps.getLast? = some "..") = false
  opened : (name.endsWith "/" || name.endsWith "/.") = false

/-- **When a file can be opened, and where.** -/
theorem opening_eq_ok {g : Ground} {name : String} {there : Path} :
    g.opening name = .ok there ↔ g.Leads name there := by
  constructor
  · intro h
    unfold opening at h
    by_cases named : name.contains '\x00' = true
    · rw [if_pos named] at h
      cases h
    by_cases filled : name = ""
    · rw [if_neg named, if_pos filled] at h
      cases h
    by_cases short : longestPath < name.utf8ByteSize
    · rw [if_neg named, if_neg filled, if_pos short] at h
      cases h
    rw [if_neg named, if_neg filled, if_neg short] at h
    obtain ⟨place, walked, h⟩ := Outcome.bind_eq_ok.mp h
    have named : name.contains '\x00' = false := by simpa using named
    simp only at h
    split at h
    · cases h
    · next file =>
        have file := Bool.not_eq_true _ ▸ file
        split at h
        · split at h
          · cases h
          · next opened =>
              cases h
              exact ⟨named, filled, short, walked, file, Bool.not_eq_true _ ▸ opened⟩
        · split at h
          · cases h
          · split at h
            · cases h
            · next opened =>
                cases h
                exact ⟨named, filled, short, walked, file, Bool.not_eq_true _ ▸ opened⟩
  · rintro ⟨named, filled, short, walked, file, opened⟩
    obtain ⟨slash, point⟩ := Bool.or_eq_false_iff.mp opened
    unfold opening
    simp only [named, filled, short, slash, point, Bool.false_eq_true, if_false,
      Outcome.bind_eq_ok]
    refine ⟨there, walked, ?_⟩
    simp only [file, Bool.or_self, Bool.false_eq_true, if_false, ite_self]
    rfl

/-- **A file can still be opened when it is there.** -/
theorem opening_with_file {g g' : Ground} (folders : g'.folders = g.folders) {name : String}
    {there : Path} (h : g.opening name = .ok there) : g'.opening name = .ok there := by
  obtain ⟨named, filled, short, walked, file, opened⟩ := opening_eq_ok.mp h
  refine opening_eq_ok.mpr ⟨named, filled, short, walk_with_file folders walked, ?_, opened⟩
  rw [folders]
  exact file

/-- **Where a file is opened is a tidy path.** -/
theorem tidy_opening {g : Ground} {name : String} {there : Path} (h : g.opening name = .ok there) :
    there.IsTidy := by
  refine tidy_walk ⟨?_, fun _ hm => absurd hm List.not_mem_nil⟩ (fun step hm => tidy_read hm)
    (opening_eq_ok.mp h).walked
  unfold start
  simp only
  split
  · exact .inl rfl
  · exact .inr rfl

end Ground

end Adventure
