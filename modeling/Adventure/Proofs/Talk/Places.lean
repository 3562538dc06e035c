import Adventure.Proofs.World.Plan
import Adventure.Conversation

/-!
# Lines of a dialogue, by their places

* `PlayerLine.spent`: a line after it has been said;
* `Dialogue.openPlaces`: where the lines stand that can still be said at a node;
* `openPlaces_lines`: the lines at these places are the open lines;
* `sayOpen_place`: **to say the open line at a position is to spend the line at its place**;
* `Dialogue.unsaid`, `unsaid_modify`: how many lines are left, which is one less after each.

Lines of one dialogue may be equal in all they say, and their ids may be equal too. A line is known
by its place.
-/

namespace Adventure

/-- A line after it has been said. -/
def PlayerLine.spent (line : PlayerLine) : PlayerLine := { line with used := true }

namespace Dialogue

/-! ## 1. Places of open lines -/

/-- **The places of the lines that can still be said at a node**, in order. -/
def openPlaces (node : Option Figure) : List PlayerLine → List Nat
  | [] => []
  | line :: lines =>
    let later := (openPlaces node lines).map (· + 1)
    if isOpenAt node line then 0 :: later else later

variable {node : Option Figure} {lines : List PlayerLine} {line : PlayerLine} {k place : Nat}

theorem openPlaces_open (isOpen : isOpenAt node line = true) (lines : List PlayerLine) :
    openPlaces node (line :: lines) = 0 :: (openPlaces node lines).map (· + 1) := by
  simp only [openPlaces, isOpen, if_true]

theorem openPlaces_shut (shut : isOpenAt node line = false) (lines : List PlayerLine) :
    openPlaces node (line :: lines) = (openPlaces node lines).map (· + 1) := by
  simp only [openPlaces, shut, Bool.false_eq_true, if_false]

/-- There is a place for each open line. -/
theorem length_openPlaces (node : Option Figure) (lines : List PlayerLine) :
    (openPlaces node lines).length = (lines.filter (isOpenAt node)).length := by
  induction lines with
  | nil => rfl
  | cons line lines ih =>
      cases isOpen : isOpenAt node line with
      | true => simp only [openPlaces_open isOpen, List.filter_cons, isOpen, if_true,
          List.length_cons, List.length_map, ih]
      | false => simp only [openPlaces_shut isOpen, List.filter_cons, isOpen, Bool.false_eq_true,
          if_false, List.length_map, ih]

/-- **At the place of an open line stands that line**, and it is open. -/
theorem openPlaces_lines (h : (openPlaces node lines)[k]? = some place) :
    ∃ line, lines[place]? = some line ∧ isOpenAt node line = true ∧
      (lines.filter (isOpenAt node))[k]? = some line := by
  induction lines generalizing k place with
  | nil => cases h
  | cons first lines ih =>
      cases isOpen : isOpenAt node first with
      | true =>
          rw [openPlaces_open isOpen] at h
          rw [List.filter_cons, if_pos isOpen]
          cases k with
          | zero =>
              cases h
              exact ⟨first, rfl, isOpen, rfl⟩
          | succ k =>
              rw [List.getElem?_cons_succ, List.getElem?_map, Option.map_eq_some_iff] at h
              obtain ⟨place, h, rfl⟩ := h
              exact ih h
      | false =>
          rw [openPlaces_shut isOpen, List.getElem?_map, Option.map_eq_some_iff] at h
          obtain ⟨place, h, rfl⟩ := h
          rw [List.filter_cons, if_neg (by rw [isOpen]; exact nofun)]
          exact ih h

/-- Where an open line is, a place is. -/
theorem openPlaces_of_line (h : (lines.filter (isOpenAt node))[k]? = some line) :
    ∃ place, (openPlaces node lines)[k]? = some place ∧ lines[place]? = some line := by
  have within : k < (openPlaces node lines).length := by
    rw [length_openPlaces]
    exact (List.getElem?_eq_some_iff.mp h).1
  obtain ⟨line', there, -, found⟩ := openPlaces_lines (List.getElem?_eq_getElem within)
  rw [h] at found
  cases found
  exact ⟨_, List.getElem?_eq_getElem within, there⟩

/-- **To say the open line at a position is to spend the line at its place**, and no other. -/
theorem sayOpen_place (h : (openPlaces node lines)[k]? = some place) :
    sayOpen node k lines = lines.modify place PlayerLine.spent := by
  induction lines generalizing k place with
  | nil => cases h
  | cons first lines ih =>
      cases isOpen : isOpenAt node first with
      | true =>
          rw [openPlaces_open isOpen] at h
          simp only [sayOpen, isOpen, if_true]
          cases k with
          | zero =>
              cases h
              rfl
          | succ k =>
              rw [List.getElem?_cons_succ, List.getElem?_map, Option.map_eq_some_iff] at h
              obtain ⟨place, h, rfl⟩ := h
              rw [List.modify_succ_cons, ← ih h]
      | false =>
          rw [openPlaces_shut isOpen, List.getElem?_map, Option.map_eq_some_iff] at h
          obtain ⟨place, h, rfl⟩ := h
          simp only [sayOpen, isOpen, Bool.false_eq_true, if_false]
          rw [List.modify_succ_cons, ih h]

/-- That a line is spent is no change of the plan. -/
theorem bare_modify (place : Nat) (lines : List PlayerLine) :
    (lines.modify place PlayerLine.spent).map PlayerLine.bare = lines.map PlayerLine.bare := by
  induction lines generalizing place with
  | nil => cases place <;> rfl
  | cons line lines ih =>
      cases place with
      | zero => rfl
      | succ place => rw [List.modify_succ_cons, List.map_cons, List.map_cons, ih]

/-! ## 2. How many lines are left -/

/-- **How many lines have not been said.** -/
def unsaid (lines : List PlayerLine) : Nat := lines.countP (fun line => !line.used)

/-- A line that is spent was left before, and no other line counts differently. -/
theorem unsaid_modify (there : lines[place]? = some line) (unused : line.used = false) :
    unsaid (lines.modify place PlayerLine.spent) + 1 = unsaid lines := by
  induction lines generalizing place with
  | nil => cases there
  | cons first lines ih =>
      unfold unsaid at ih ⊢
      cases place with
      | zero =>
          cases there
          rw [List.modify_zero_cons, List.countP_cons, List.countP_cons, unused]
          rfl
      | succ place =>
          rw [List.modify_succ_cons, List.countP_cons, List.countP_cons, ← ih there]
          omega

theorem unused_of_isOpenAt (isOpen : isOpenAt node line = true) : line.used = false := by
  unfold isOpenAt at isOpen
  rw [Bool.and_eq_true] at isOpen
  simpa using isOpen.2

end Dialogue

end Adventure
