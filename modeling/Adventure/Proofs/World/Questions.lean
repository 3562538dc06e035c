import Adventure.Proofs.World.Deed

/-!
# What the rules ask of a world, and the answers

* `room_text`, `isDark_eq`, `encounterActive_eq`, `isCornered_eq`, `isAsleep_eq`, `isExposed_eq`:
  the answers, where the flags are clean;
* `holds_comes_of_fine`: conditions of the adventure can be told in a fine world;
* `holds_notes`: they do not depend on the notes.
-/

namespace Adventure.World

open Outcome

/-! ## 1. Answers -/

section Answers

variable {w : World}

theorem room_text {name : String} {r : Room} (current : w.current = .text name)
    (there : w.rooms.get? name = some r) : w.room = .ok r := by
  unfold room
  rw [current]
  exact Roster.demand_text there

theorem room_eq_ok {r : Room} (h : w.room = .ok r) :
    ∃ name, w.current = .text name ∧ w.rooms.get? name = some r :=
  Roster.demand_eq_ok h

theorem room_comes (placed : w.IsPlaced) : Comes w.room := by
  obtain ⟨name, current, has⟩ := placed
  obtain ⟨r, there⟩ := (Roster.has_iff _).mp has
  exact ⟨r, room_text current there⟩

theorem description_comes (placed : w.IsPlaced) : Comes w.description :=
  comes_map _ (room_comes placed)

/-- Who is in a room is where they are. -/
theorem IsPlaced.here (placed : w.IsPlaced) : w.current.same w.current = true := by
  obtain ⟨name, current, -⟩ := placed
  rw [current, Content.same_text]

variable (clean : w.flags.IsClean)

include clean

theorem isDark_eq {r : Room} (h : w.room = .ok r) :
    w.isDark = .ok (!r.visible && !w.flags.get .torchLit) := by
  simp only [isDark, h, clean.isSet, bind, Except.bind, pure, Except.pure]
  cases r.visible <;> simp

theorem isDark_comes (placed : w.IsPlaced) : Comes w.isDark := by
  obtain ⟨r, h⟩ := room_comes placed
  exact ⟨_, isDark_eq clean h⟩

theorem encounterActive_eq :
    w.encounterActive =
      .ok (w.flags.get .antagonistActive && !w.flags.get .antagonistDefeated) := by
  simp only [encounterActive, encounter, Flags.look_eq clean.1.1, clean.isSet, bind, Except.bind,
    pure, Except.pure, Content.isFilled]
  cases w.flags.get .antagonistActive <;> simp [Except.map, Content.isFilled]

theorem isCornered_eq :
    w.isCornered = .ok (w.inLair &&
      (w.flags.get .antagonistActive && !w.flags.get .antagonistDefeated)) := by
  unfold isCornered
  rw [encounterActive_eq clean]
  cases w.inLair <;> rfl

theorem isExposed_eq : w.isExposed = .ok (w.inLair && w.flags.get .antagonistActive) := by
  unfold isExposed
  rw [clean.isSet]
  cases w.inLair <;> rfl

theorem isAsleep_eq :
    w.isAsleep =
      .ok (!w.flags.get .antagonistActive && !w.flags.get .antagonistDefeated) := by
  simp only [isAsleep, clean.isSet, bind, Except.bind, pure, Except.pure]
  cases w.flags.get .antagonistActive <;> simp

end Answers

/-- **A condition of the adventure can be told** in a fine world. -/
theorem holds_comes_of_fine {b w : World} (sane : Sane b w) (fine : Fine b w) {pre : Content}
    (mem : pre ∈ w.preconditions) : Comes (w.holds pre) := by
  rw [preconditions_of_plan sane.plan] at mem
  exact holds_comes sane.clean (grasps_precondition sane.sound mem) (fine.documented.1 pre mem)

/-! ## 2. The notes do not count -/

section Notes

variable (w : World) (notes : List String)

theorem itemConditionsHold_notes (conds : List Content) :
    { w with notes }.itemConditionsHold conds = w.itemConditionsHold conds := by
  induction conds with
  | nil => rfl
  | cons cond conds ih =>
      unfold itemConditionsHold
      rw [ih]
      rfl

theorem flagsHold_notes (es : List (String × Content)) :
    { w with notes }.flagsHold es = w.flagsHold es := by
  induction es with
  | nil => rfl
  | cons e es ih =>
      obtain ⟨name, value⟩ := e
      unfold flagsHold
      rw [ih]
      rfl

theorem holds_notes (pre : Content) : { w with notes }.holds pre = w.holds pre := by
  unfold holds
  simp only [itemConditionsHold_notes, flagsHold_notes]
  rfl

end Notes

end Adventure.World
