import Adventure.Archive
import Adventure.Proofs.Mishaps
import Adventure.Proofs.Path
import Adventure.Proofs.Roster
import Adventure.Proofs.Terms

/-!
# What the archive keeps

* `save_run`: what saving in a slot comes to;
* `opening_fault`: what can stand in the way of a file whose name has no zero character;
* `obstacle_of_hindrance`: that is an obstacle; `mishaps_save`: saving comes to a mishap at worst;
* `sheet_of_put`: **what is put in a slot stands there afterwards**.
-/

namespace Adventure

open Outcome

namespace Ground

/-- What can stand in the way of a file. -/
def IsHindrance (e : Fault) : Prop :=
  e = .notFound ∨ e = .notDirectory ∨ e = .isDirectory ∨ e = .nameTooLong

theorem walk_fault (g : Ground) (here : Path) {steps : List String} {e : Fault}
    (h : g.walk here steps = .error e) : IsHindrance e := by
  induction steps generalizing here with
  | nil => cases h
  | cons step steps ih =>
      unfold walk at h
      split at h
      · exact ih _ h
      · simp only at h
        split at h
        · cases h
          exact .inr (.inr (.inr rfl))
        · split at h
          · exact ih _ h
          · split at h
            · cases h
              exact .inr (.inl rfl)
            · cases h
              exact .inl rfl

/-- **A name without a zero character** leads to a file, or something stands in its way. -/
theorem opening_fault (g : Ground) {name : String} {e : Fault}
    (named : name.contains '\x00' = false) (h : g.opening name = .error e) : IsHindrance e := by
  unfold opening at h
  simp only [named, Bool.false_eq_true, if_false] at h
  by_cases empty : name = ""
  · simp only [empty, if_true] at h
    cases h
    exact .inl rfl
  by_cases long : longestPath < name.utf8ByteSize
  · simp only [empty, long, if_true, if_false] at h
    cases h
    exact .inr (.inr (.inr rfl))
  simp only [empty, long, if_false] at h
  cases hw : g.walk (start (Path.read name)) (Path.read name).steps with
  | error fault =>
      rw [hw] at h
      cases h
      exact walk_fault g _ hw
  | ok place =>
      rw [hw] at h
      simp only [bind, Except.bind, pure, Except.pure] at h
      split at h
      · cases h
        exact .inr (.inr (.inl rfl))
      · split at h
        · split at h
          · cases h
            exact .inr (.inl rfl)
          · cases h
        · split at h
          · cases h
            exact .inr (.inr (.inl rfl))
          · split at h
            · cases h
              exact .inl rfl
            · cases h

theorem IsHindrance.isMishap {e : Fault} (h : IsHindrance e) : e.IsMishap := by
  rcases h with rfl | rfl | rfl | rfl
  all_goals exact nofun

theorem mishaps_opening (g : Ground) (name : String) : Mishaps (g.opening name) := by
  intro e h
  by_cases named : name.contains '\x00' = false
  · exact (g.opening_fault named h).isMishap
  · unfold opening at h
    rw [if_pos (by simpa using named)] at h
    cases h
    exact nofun

end Ground

namespace Archive

/-- **What saving in a slot comes to.** -/
theorem save_run (a : Archive) (slot game : Content) :
    (save slot game).runOn a = match a.place slot with
      | .error e => (.error e, a)
      | .ok there =>
        if game.isWritable then (.ok (), a.put there (.written game.asKept))
        else (.error .unwritable, a.put there (.written .null)) := by
  unfold save
  rw [Act.runOn_bind_ok (Act.runOn_get a), Act.runOn_bind]
  simp only [Act.runOn_ofExcept]
  cases a.place slot with
  | error e => rfl
  | ok there =>
      simp only
      split
      · rfl
      · rfl

theorem mishaps_save (a : Archive) (slot game : Content) :
    Mishaps ((save slot game).runOn a).1 := by
  rw [save_run]
  split
  · next e place => exact mishaps_error (Ground.mishaps_opening _ _ e place)
  · split
    · exact mishaps_ok _
    · exact mishaps_error nofun

/-- What stands in the way of a file can be told. -/
theorem obstacle_of_hindrance (a : Archive) (slot : Content) {e : Fault}
    (h : Ground.IsHindrance e) : ∃ o, a.obstacle? slot e = some o := by
  rcases h with rfl | rfl | rfl | rfl
  all_goals exact ⟨_, rfl⟩

theorem path_save (a : Archive) (slot game other : Content) :
    ((save slot game).runOn a).2.path other = a.path other := by
  rw [save_run]
  cases a.place slot with
  | error e => rfl
  | ok there =>
      simp only
      split
      · rfl
      · rfl

/-- A test that neither the entry under a name nor the one that replaces it passes. -/
theorem filter_replaced {α : Type} {p : α → Bool} {name : String} {a : α} (out : p a = false) :
    ∀ es : List (String × α), (∀ e ∈ es, e.1 = name → p e.2 = false) →
      (es.map (fun e => (e.1, if e.1 = name then a else e.2))).filter (fun e => p e.2) =
        es.filter (fun e => p e.2)
  | [], _ => rfl
  | e :: es, free => by
      have rest := filter_replaced (p := p) out es fun e he =>
        free e (List.mem_cons_of_mem _ he)
      rw [List.map_cons, List.filter_cons, List.filter_cons, rest]
      by_cases here : e.1 = name
      · simp [here, out, free e (List.mem_cons_self ..) here]
      · simp [here]

/-- What is put in the place of a file changes no folder. -/
theorem folders_put {a : Archive} {slot : Content} {there : Path} (place : a.place slot = .ok there)
    (c : Content) : (a.put there (.written c)).surroundings.folders = a.surroundings.folders := by
  have tidy : Path.read there.toText = there := Path.read_toText (Ground.tidy_opening place)
  have free : ∀ e ∈ a.sheets.entries, e.1 = there.toText →
      decide (e.2 = .barred .isDirectory) = false := by
    intro e he name
    by_cases folder : e.2 = .barred .isDirectory
    · have mem : there ∈ a.surroundings.folders := by
        unfold surroundings
        simp only [List.partition_eq_filter_filter, List.mem_append, List.mem_map, List.mem_filter]
        exact .inr ⟨e, ⟨he, by simp [folder]⟩, by rw [name, tidy]⟩
      have file := (Ground.opening_eq_ok.mp place).file
      simp [mem] at file
    · simp [folder]
  have kept : (a.put there (.written c)).sheets.entries.filter
      (fun e => e.2 = .barred .isDirectory) =
        a.sheets.entries.filter (fun e => e.2 = .barred .isDirectory) := by
    unfold put Roster.insert
    simp only
    split
    · exact filter_replaced (p := fun s : Sheet => decide (s = .barred .isDirectory)) rfl _ free
    · rw [List.filter_append]
      simp
  unfold surroundings
  simp only [List.partition_eq_filter_filter, kept]
  rfl

/-- The file of a slot keeps its place when something is put there. -/
theorem place_put {a : Archive} {slot : Content} {there : Path} (place : a.place slot = .ok there)
    (c : Content) : (a.put there (.written c)).place slot = .ok there :=
  Ground.opening_with_file (folders_put place c) place

/-- **What is put in a slot stands there afterwards.** -/
theorem sheet_of_put {a : Archive} {slot : Content} {there : Path}
    (place : a.place slot = .ok there) (c : Content) : (a.put there (.written c)).sheet slot = .written c := by
  unfold sheet
  rw [place_put place]
  have found : (a.put there (.written c)).sheets.get? there.toText = some (.written c) :=
    Roster.get?_insert_self a.sheets there.toText (.written c)
  simp only [found, Option.getD_some]

end Archive

end Adventure
