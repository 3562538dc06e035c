import Adventure.Proofs.Kept
import Adventure.Proofs.World.Deed
import Adventure.Sheet
import Adventure.World.Saved

/-!
# Saved games can be written

* `savedGame_eq`: a world with clean flags has a saved game;
* `isWritable_savedGame`: **it can be written** where no item lies in a list or a mapping;
* `savedOr_current`, `filled_items` and the lemmas after it: what is read from a saved game that a
  sheet has kept.
-/

namespace Adventure

open Outcome

/-! ## 1. What can be written -/

namespace Content

theorem allEntriesWritable_iff {es : List (String × Content)} :
    allEntriesWritable es = true ↔ ∀ e ∈ es, e.2.isWritable = true := by
  induction es with
  | nil => simp [allEntriesWritable]
  | cons e es ih => simp [allEntriesWritable, ih]

theorem allWritable_iff {xs : List Content} :
    allWritable xs = true ↔ ∀ x ∈ xs, x.isWritable = true := by
  induction xs with
  | nil => simp [allWritable]
  | cons x xs ih => simp [allWritable, ih]

theorem isWritable_unmarked {c : Content} (h : c.isAtomic = true) :
    c.unmarked.isWritable = true := by
  cases c with
  | list | mapping => cases h
  | null | bool | int | float | text | inventory => rfl

theorem isWritable_figure (f : Figure) : f.toContent.isWritable = true := by
  cases f with
  | number | word => rfl

end Content

namespace World

/-- A part of a saved content can be written if its entries can. -/
theorem part_writable {key : String} {entries : List (String × Content)}
    (h : ∀ e ∈ entries, e.2.isWritable = true) :
    ∀ e ∈ part key entries, e.2.isWritable = true := by
  intro e he
  unfold part at he
  split at he
  · exact absurd he List.not_mem_nil
  · rw [List.mem_singleton.mp he]
    unfold Content.isWritable
    exact Content.allEntriesWritable_iff.mpr h

theorem differences_writable {α : Type} {same : α → α → Bool} {toContent : α → Content}
    {now before : List (String × α)} (h : ∀ e ∈ now, (toContent e.2).isWritable = true) :
    ∀ e ∈ differences same toContent now before, e.2.isWritable = true := by
  intro e he
  obtain ⟨e', hm, hd⟩ := List.mem_filterMap.mp he
  split at hd
  · cases hd
  · cases hd
    exact h e' hm

variable {w : World}

/-- **A world with clean flags has a saved game.** -/
theorem savedGame_eq (clean : w.flags.IsClean) (language : Content) :
    w.savedGame language = .ok (.mapping (w.toSaved ++ [("language", language)])) := by
  have shown : w.flags.showingFault? = none := by
    simp [Flags.showingFault?, Flags.hiding?, clean.1.1]
  simp [savedGame, report, shown, Except.map]

theorem items_writable (plain : w.HasPlainLocations) :
    ∀ e ∈ w.snapshot.items, (ItemState.toContent e.2).isWritable = true := by
  intro e he
  obtain ⟨⟨name, i⟩, hm, rfl⟩ := List.mem_map.mp he
  have atomic := plain name i (w.items.mem_entries_iff.mp hm)
  unfold ItemState.toContent Content.isWritable
  refine Content.allEntriesWritable_iff.mpr fun e he => ?_
  rcases List.mem_cons.mp he with rfl | he
  · exact Content.isWritable_unmarked atomic
  · simp only [Item.state] at he
    cases active : i.active with
    | none =>
        rw [active] at he
        exact absurd he List.not_mem_nil
    | some lit =>
        rw [active] at he
        rw [List.mem_singleton.mp he]
        rfl

theorem characters_writable : ∀ e ∈ w.snapshot.characters,
    (CharacterState.toContent e.2).isWritable = true := by
  intro e _
  unfold CharacterState.toContent Content.isWritable
  refine Content.allEntriesWritable_iff.mpr fun x hx => ?_
  simp only [List.mem_cons, List.not_mem_nil, or_false] at hx
  rcases hx with rfl | rfl
  · exact Content.isWritable_figure _
  · rfl

theorem flags_writable (now before : Flags) (plain : now.instead = none) :
    ∀ e ∈ flagDifferences now before, e.2.isWritable = true := by
  intro e he
  have hm := (List.mem_filter.mp he).1
  simp only [Flags.shown, plain] at hm
  obtain ⟨f, -, rfl⟩ := List.mem_map.mp hm
  rfl

theorem usedLines_writable (dialogues : List (String × Dialogue)) :
    ∀ e ∈ usedLines dialogues, e.2.isWritable = true := by
  intro e he
  obtain ⟨e', -, hd⟩ := List.mem_filterMap.mp he
  split at hd
  · cases hd
  · cases hd
    unfold Content.isWritable
    refine Content.allWritable_iff.mpr fun x hx => ?_
    obtain ⟨line, -, rfl⟩ := List.mem_map.mp hx
    exact Content.isWritable_figure _

/-- **The saved game of a fine world can be written.** -/
theorem isWritable_savedGame (clean : w.flags.IsClean) (placed : w.IsPlaced)
    (plain : w.HasPlainLocations) (language : String) :
    (Content.mapping (w.toSaved ++ [("language", .text language)])).isWritable = true := by
  obtain ⟨name, current, -⟩ := placed
  unfold Content.isWritable
  refine Content.allEntriesWritable_iff.mpr fun e he => ?_
  simp only [toSaved, List.mem_append, List.mem_singleton] at he
  rcases he with (((((rfl | he) | he) | he) | he) | he) | rfl
  · rw [current]
    rfl
  · exact part_writable (differences_writable (items_writable plain)) e he
  · exact part_writable (differences_writable fun _ _ => rfl) e he
  · exact part_writable (differences_writable characters_writable) e he
  · exact part_writable (flags_writable _ _ clean.1.1) e he
  · exact part_writable (usedLines_writable _) e he
  · rfl

/-! ## 2. What is read from a saved game -/

/-- The entries of a saved game, as a sheet keeps them. -/
def keptGame (w : World) (language : Content) : List (String × Content) :=
  Content.keptEntries (w.toSaved ++ [("language", language)])

/-- The keys that a saved game can have. -/
def savedKeys : List String :=
  ["current", "items", "rooms", "characters", "flags", "used_lines", "language"]

theorem keys_part (key : String) (entries : List (String × Content)) :
    ((part key entries).map Prod.fst).Sublist [key] := by
  unfold part
  split
  · exact List.nil_sublist _
  · exact List.Sublist.refl _

theorem keys_saved (w : World) (language : Content) :
    ((w.toSaved ++ [("language", language)]).map Prod.fst).Sublist savedKeys := by
  unfold toSaved
  simp only [List.map_append]
  have one (key : String) (c : Content) : ([(key, c)].map Prod.fst).Sublist [key] :=
    List.Sublist.refl _
  exact ((((((one "current" _).append (keys_part "items" _)).append (keys_part "rooms" _)).append
    (keys_part "characters" _)).append (keys_part "flags" _)).append
      (keys_part "used_lines" _)).append (one "language" language)

theorem lookup_part (key other : String) (entries : List (String × Content)) :
    (part key entries).lookup other =
      if other = key ∧ entries ≠ [] then some (.mapping entries) else none := by
  unfold part
  cases entries with
  | nil => simp
  | cons e entries =>
      by_cases same : other = key
      · subst same
        simp
      · have ne : (other == key) = false := by simpa using same
        simp [List.lookup_cons, ne, same]

/-- **A look-up in a saved game that was kept.** -/
theorem lookup_keptGame (w : World) (language : Content) (key : String) :
    (w.keptGame language).lookup key =
      ((w.toSaved ++ [("language", language)]).lookup key).map Content.asKept := by
  have sub := keys_saved w language
  refine Content.lookup_keptEntries (sub.nodup (by decide)) (fun e he => ?_) key
  have mem : e.1 ∈ savedKeys := sub.subset (List.mem_map_of_mem he)
  have kept : ∀ key ∈ savedKeys, Text.kept key = key := by decide +kernel
  exact kept _ mem

theorem savedOr_current (w : World) (language default : Content) :
    savedOr (w.keptGame language) "current" default = w.current.asKept := by
  unfold savedOr
  rw [lookup_keptGame]
  simp [toSaved]

section Parts

variable {w : World} {language : Content}

/-- A part of a saved game that was kept has the entries of the part. -/
theorem filled_part {key : String} {entries : List (String × Content)}
    (h : (w.toSaved ++ [("language", language)]).lookup key = (part key entries).lookup key) :
    (savedOr (w.keptGame language) key .null).filledEntries =
      .ok (Content.keptEntries entries) := by
  unfold savedOr
  rw [lookup_keptGame, h, lookup_part]
  cases entries with
  | nil =>
      rw [if_neg (by simp), Content.keptEntries_nil]
      rfl
  | cons e entries =>
      simp only [ne_eq, reduceCtorEq, not_false_eq_true, and_self, if_true, Option.map_some,
        Option.getD_some]
      exact Content.filledEntries_kept _

theorem filled_items : (savedOr (w.keptGame language) "items" .null).filledEntries =
    .ok (Content.keptEntries (differences ItemState.same ItemState.toContent w.snapshot.items
      w.origin.items)) :=
  filled_part (by simp [toSaved, List.lookup_cons, List.lookup_append, lookup_part])

theorem filled_rooms : (savedOr (w.keptGame language) "rooms" .null).filledEntries =
    .ok (Content.keptEntries (differences (· == ·) RoomState.toContent w.snapshot.rooms
      w.origin.rooms)) :=
  filled_part (by simp [toSaved, List.lookup_cons, List.lookup_append, lookup_part])

theorem filled_characters : (savedOr (w.keptGame language) "characters" .null).filledEntries =
    .ok (Content.keptEntries (differences (· == ·) CharacterState.toContent w.snapshot.characters
      w.origin.characters)) :=
  filled_part (by simp [toSaved, List.lookup_cons, List.lookup_append, lookup_part])

theorem filled_flags : (savedOr (w.keptGame language) "flags" .null).filledEntries =
    .ok (Content.keptEntries (flagDifferences w.flags w.origin.flags)) :=
  filled_part (by simp [toSaved, List.lookup_cons, List.lookup_append, lookup_part, snapshot])

theorem filled_lines : (savedOr (w.keptGame language) "used_lines" .null).filledEntries =
    .ok (Content.keptEntries (usedLines w.dialogues.entries)) :=
  filled_part (by simp [toSaved, List.lookup_cons, List.lookup_append, lookup_part])

end Parts

end World

end Adventure
