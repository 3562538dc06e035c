import Adventure.Proofs.World.Progress
import Adventure.Proofs.World.Resumed
import Adventure.Proofs.World.Uptake

/-!
# What is not lost with a saved game

* `Roster.get?_takeUp`: what stands under a name that entries may be about;
* `rooms_restored`, `lines_restored`, `carried_restored`: rooms come back, lines that have been said
  stay said, and what the player carries is still carried;
* `advances_restored`: **a world that is gone on with is as far as the one that was saved**.

Lines whose ids are not told apart come back as well, and items that lie where no item should: what
is said and what is carried needs less than that the whole world comes back.
-/

namespace Adventure

open Outcome

/-! ## 1. Rosters -/

/-- **What stands under a name once entries have been taken up**: what stood there if no entry is
    about it, and otherwise what the last of them makes of it. -/
theorem Roster.get?_takeUp {α : Type} (take : Content → α → α) (es : List (String × Content))
    {name : String} {r : Roster α} {a : α} (there : r.get? name = some a) :
    ((r.takeUp take es).get? name = some a ∧ ∀ x, (name, x) ∉ es) ∨
    ∃ x c, (name, x) ∈ es ∧ (r.takeUp take es).get? name = some (take x c) ∧
      ∀ motive : α → Prop, motive a → (∀ y c, motive c → motive (take y c)) → motive c := by
  induction es generalizing r a with
  | nil => exact .inl ⟨there, fun _ => List.not_mem_nil⟩
  | cons e es ih =>
      by_cases here : name = e.1
      · subst here
        rcases ih (Roster.get?_update_self there (take e.2)) with ⟨last, -⟩ | ⟨x, c, mem, at', comes⟩
        · exact .inr ⟨e.2, a, List.mem_cons_self .., last, fun _ start _ => start⟩
        · refine .inr ⟨x, c, List.mem_cons_of_mem _ mem, at', fun motive start step => ?_⟩
          exact comes motive (step _ _ start) step
      · rcases ih ((Roster.get?_update_ne r here (take e.2)).trans there) with
          ⟨last, fresh⟩ | ⟨x, c, mem, at', comes⟩
        · refine .inl ⟨last, fun x mem => ?_⟩
          rcases List.mem_cons.mp mem with e | later
          · exact here (congrArg Prod.fst e)
          · exact fresh x later
        · exact .inr ⟨x, c, List.mem_cons_of_mem _ mem, at', comes⟩

namespace World

/-! ## 2. Parts of a world that is gone on with -/

section

variable {b w v : World} (keeps : b.KeepsNames) (plan : w.plan = b.plan)

include keeps plan

/-- **The rooms of a world that is gone on with are those of the world that was saved.** -/
theorem rooms_restored (built : b.IsBuilt) {language : Content}
    (accepts : b.Accepts (w.keptGame language)) (h : Restores b (w.keptGame language) v) :
    v.rooms = w.rooms := by
  obtain ⟨entries, u, u', saved, begins, run, same⟩ :=
    restores_own .rooms World.rooms rfl rooms_mend built.clean (fun _ => accepts) h
  cases filled_rooms.symm.trans saved
  cases run.symm.trans (loadRooms_kept keeps plan built begins)
  exact same

/-! ## 3. Lines that have been said -/

omit keeps plan in
/-- Ids that lines hold make them said. -/
theorem used_of_holdsId {ids : Content} {lines : List PlayerLine}
    (comes : ∀ l ∈ lines, Comes (holdsId ids l.id)) : ∀ l ∈ (useLines ids lines).1,
      holdsId ids l.id = .ok true → l.used = true := by
  induction lines with
  | nil => exact fun l mem => absurd mem List.not_mem_nil
  | cons line lines ih =>
      intro l mem held
      obtain ⟨used, answer⟩ := comes line (List.mem_cons_self ..)
      simp only [useLines, answer] at mem
      rcases List.mem_cons.mp mem with rfl | later
      · cases used with
        | true => rfl
        | false =>
            rw [if_neg Bool.false_ne_true, answer] at held
            cases held
      · exact ih (fun l' mem => comes l' (List.mem_cons_of_mem _ mem)) l later held

omit keeps plan in
/-- Lines that are the same follow each other if what was said stays said. -/
theorem follows_of_bare {lines after : List PlayerLine}
    (same : lines.map PlayerLine.bare = after.map PlayerLine.bare)
    (stays : ∀ l ∈ lines, l.used = true → ∀ l' ∈ after, l'.id = l.id → l'.used = true) :
    List.Forall₂ PlayerLine.Follows lines after := by
  induction lines generalizing after with
  | nil =>
      cases after with
      | nil => exact .nil
      | cons => cases same
  | cons l lines ih =>
      cases after with
      | nil => cases same
      | cons l' after =>
          simp only [List.map_cons, List.cons.injEq] at same
          have id : l'.id = l.id := (congrArg PlayerLine.id same.1).symm
          refine .cons ⟨same.1.symm, fun used => ?_⟩ (ih same.2 fun m mem used m' mem' => ?_)
          · exact stays l (List.mem_cons_self ..) used l' (List.mem_cons_self ..) id
          · exact stays m (List.mem_cons_of_mem _ mem) used m' (List.mem_cons_of_mem _ mem')

/-- What is saved of the lines of a dialogue. -/
theorem savedLines {name : String} {d : Dialogue} (there : w.dialogues.get? name = some d)
    (x : Content) : (name, x) ∈ Content.keptEntries (usedLines w.dialogues.entries) ↔
      d.lines.filter PlayerLine.used ≠ [] ∧
        x = .list ((d.lines.filter PlayerLine.used).map (fun line => line.id.toContent)) := by
  have kept {other : String} {d : Dialogue} (there : w.dialogues.get? other = some d) :
      Text.kept other = other := by
    obtain ⟨d₀, before, -⟩ := dialogue_of_plan plan there
    exact kept_dialogue keeps (Roster.has_of_get? before)
  rw [Content.mem_keptEntries]
  constructor
  · rintro ⟨⟨other, y⟩, mem, same, rfl⟩
    obtain ⟨d', there', said, rfl⟩ := mem_usedLines.mp mem
    have there' := w.dialogues.mem_entries_iff.mp there'
    have same : other = name := (kept there').symm.trans same
    subst same
    rw [there] at there'
    cases there'
    exact ⟨said, usedIds_kept d.lines⟩
  · rintro ⟨said, rfl⟩
    exact ⟨(name, _), mem_usedLines.mpr ⟨d, w.dialogues.mem_entries_iff.mpr there, said, rfl⟩,
      kept there, usedIds_kept d.lines⟩

/-- **Lines that have been said stay said** in a world that is gone on with. -/
theorem lines_restored (built : b.IsBuilt) {language : Content}
    (accepts : b.Accepts (w.keptGame language)) (h : Restores b (w.keptGame language) v) :
    w.dialogues.Advances (fun _ => Dialogue.Advances) v.dialogues := by
  obtain ⟨saved, u, u', filled, begins, run, e⟩ :=
    restores_own .lines World.dialogues rfl dialogues_mend built.clean (fun _ => accepts) h
  cases filled_lines.symm.trans filled
  have listed : ∀ e ∈ Content.keptEntries (usedLines w.dialogues.entries),
      ∃ ids, e.2 = .list ids := by
    rintro ⟨name, x⟩ mem
    obtain ⟨⟨other, y⟩, said, -, rfl⟩ := Content.mem_keptEntries.mp mem
    obtain ⟨d, -, -, rfl⟩ := mem_usedLines.mp said
    exact ⟨_, usedIds_kept d.lines⟩
  have comes {x : Content} {ids : List Content} (list : x = .list ids) (lines : List PlayerLine) :
      ∀ l ∈ lines, Comes (holdsId x l.id) := by
    subst list
    exact fun l _ => ⟨_, rfl⟩
  have taken := run.symm.trans (lineUptake.load_run (w := u) fun e mem d _ =>
    comes (listed e mem).choose_spec d.lines)
  cases taken
  intro name d there
  obtain ⟨d₀, before, bare⟩ := dialogue_of_plan plan there
  have same : d₀.lines.map PlayerLine.bare = d.lines.map PlayerLine.bare :=
    congrArg Dialogue.lines bare
  rw [← begins] at before
  rw [e]
  rcases Roster.get?_takeUp Dialogue.resume
    (Content.keptEntries (usedLines w.dialogues.entries)) before with
    ⟨at', fresh⟩ | ⟨x, c, mem, at', reached⟩
  · -- none of the lines has been said, so nothing has to come back
    refine ⟨d₀, at', follows_of_bare same.symm fun l mem used => ?_⟩
    exact absurd ((savedLines keeps plan there _).mpr
      ⟨List.ne_nil_of_mem (List.mem_filter.mpr ⟨mem, used⟩), rfl⟩) (fresh _)
  · obtain ⟨-, rfl⟩ := (savedLines keeps plan there x).mp mem
    have bare : c.lines.map PlayerLine.bare = d₀.lines.map PlayerLine.bare :=
      reached (fun c => c.lines.map PlayerLine.bare = d₀.lines.map PlayerLine.bare) rfl
        fun y c h => (useLines_bare y c.lines).trans h
    refine ⟨_, at', follows_of_bare ?_ fun l mem used l' mem' id => ?_⟩
    · exact (((useLines_bare _ c.lines).trans bare).trans same).symm
    · refine used_of_holdsId (comes rfl c.lines) l' mem' ?_
      rw [id, holdsId]
      refine congrArg Except.ok (List.any_eq_true.mpr ⟨l.id.toContent, ?_, figure_same.mpr rfl⟩)
      exact List.mem_map_of_mem (f := fun line => line.id.toContent)
        (List.mem_filter.mpr ⟨mem, used⟩)

/-! ## 4. Items that are carried -/

omit keeps plan in
/-- **The items come to what is saved of them**, if that can be brought about. -/
theorem takeUp_of_loadItems {es : List (String × Content)} {u u' : World}
    (run : (loadItems es).runOn u = (.ok (), u')) :
    u'.items = u.items.takeUp Item.resume es := by
  induction es generalizing u with
  | nil =>
      cases run
      rfl
  | cons e es ih =>
      obtain ⟨name, x⟩ := e
      cases found : u.items.get? name with
      | none =>
          have passed := (itemUptake.skip (x := x) es found).symm.trans run
          rw [ih passed]
          unfold Roster.takeUp
          rw [List.foldl_cons, Roster.update_of_fresh found]
      | some i =>
          have fits : itemUptake.Fits x i := by
            have taken {α : Type} {r : Except Fault α} {y : α} {s t : World} :
                (Act.ofExcept r).runOn s = (.ok y, t) ↔ r = .ok y ∧ t = s := by
              simp only [Act.runOn_ofExcept, Prod.mk.injEq]
              exact and_congr_right fun _ => eq_comm
            unfold loadItems at run
            rw [Act.runOn_bind_ok (Act.runOn_get u)] at run
            simp only [found, Act.runOn_bind_eq_ok, taken] at run
            obtain ⟨fs, _, ⟨entries, rfl⟩, location, _, ⟨placed, rfl⟩, -⟩ := run
            cases Content.entries_eq_ok.mp entries
            exact ⟨⟨fs, entries⟩, location, placed⟩
          have passed := (itemUptake.step es found fits).symm.trans run
          exact ih passed

omit keeps plan in
theorem has_carried_iff {name : String} : w.carried.has name = true ↔
    ∃ i, w.items.get? name = some i ∧ i.location = .inventory := by
  rw [Roster.has_iff]
  refine exists_congr fun i => Roster.get?_filter_iff.trans ?_
  exact and_congr_right fun _ => decide_eq_true_iff

omit keeps in
/-- An item of which nothing is saved is carried from the beginning, if it is carried. -/
theorem carried_of_unsaved (built : b.IsBuilt) {name : String} {i i₀ : Item}
    (there : w.items.get? name = some i) (before : b.items.get? name = some i₀)
    (location : i.location = .inventory)
    (unsaved : ∀ x, (name, x) ∉
      differences ItemState.same ItemState.toContent w.snapshot.items w.origin.items) :
    i₀.location = .inventory := by
  by_contra elsewhere
  refine unsaved _ (mem_differences.mpr ⟨i.state, ?_, ?_, rfl⟩)
  · exact List.mem_map.mpr ⟨(name, i), w.items.mem_entries_iff.mpr there, rfl⟩
  · rw [origin_of_plan plan, built.origin]
    show ((b.items.entries.map (fun e => (e.1, e.2.state))).lookup name).any _ = false
    rw [lookup_states, before, Option.map_some, Option.any_some, Bool.eq_false_iff]
    intro same
    simp only [ItemState.same, Item.state, location, Content.unmarked, Content.same_text,
      Bool.and_eq_true] at same
    -- no item of the adventure lies where the word for what is carried would send it
    have located := built.located name i₀ before
    cases place : i₀.location with
    | inventory => exact elsewhere place
    | text s =>
        rw [place] at same located
        exact located same.1
    | null | bool | int | float | list | mapping =>
        rw [place] at same
        cases same.1

omit keeps plan in
/-- An item that was saved while it was carried is carried. -/
theorem resume_carried {i : Item} (location : i.location = .inventory) (c : Item) :
    (Item.resume (ItemState.toContent i.state).asKept c).location = .inventory := by
  obtain ⟨es, state, place, -⟩ := itemState_kept i
  have word : Text.kept Content.inventoryWord = Content.inventoryWord := by decide +kernel
  have placed : savedLocation (savedOr es "location" .null) = .ok .inventory := by
    rw [place, location]
    simp [Content.unmarked, Content.asKept, word, savedLocation, Content.isAtomic]
  rw [state]
  show (savedLocation (savedOr es "location" .null)).toOption.getD .null = .inventory
  rw [placed]
  rfl

/-- **What the player carries is still carried** in a world that is gone on with. -/
theorem carried_restored (built : b.IsBuilt) {language : Content}
    (accepts : b.Accepts (w.keptGame language)) (h : Restores b (w.keptGame language) v)
    {name : String} (carried : w.carried.has name = true) : v.carried.has name = true := by
  obtain ⟨i, there, location⟩ := has_carried_iff.mp carried
  have stays {i' : Item} (there' : v.items.get? name = some i')
      (location : i'.location = .inventory) : v.carried.has name = true :=
    has_carried_iff.mpr ⟨i', there', location⟩
  obtain ⟨i₀, before⟩ : ∃ i₀, b.items.get? name = some i₀ :=
    (Roster.has_iff _).mp ((has_item_of_plan plan name).symm.trans (Roster.has_of_get? there))
  obtain ⟨entries, u, u', saved, begins, run, items⟩ :=
    restores_own .items World.items rfl items_mend built.clean (fun _ => accepts) h
  cases filled_items.symm.trans saved
  rw [takeUp_of_loadItems run, begins] at items
  have kept (other : String) (has : w.items.has other = true) : Text.kept other = other :=
    kept_item keeps ((has_item_of_plan plan other).symm.trans has)
  rcases Roster.get?_takeUp Item.resume (Content.keptEntries
    (differences ItemState.same ItemState.toContent w.snapshot.items w.origin.items)) before with
    ⟨at', fresh⟩ | ⟨x, c, mem, at', -⟩
  · refine stays ((congrArg (fun r => r.get? name) items).trans at') ?_
    refine carried_of_unsaved plan built there before location fun x mem => ?_
    exact fresh x.asKept
      (Content.mem_keptEntries.mpr ⟨(name, x), mem, kept name (Roster.has_of_get? there), rfl⟩)
  · obtain ⟨t, there', e⟩ := known_of_differs kept mem
    cases there.symm.trans there'
    refine stays ((congrArg (fun r => r.get? name) items).trans at') ?_
    cases e
    exact resume_carried location c

/-! ## 5. Worlds -/

/-- **A world that is gone on with is as far as the one that was saved.** -/
theorem advances_restored (built : b.IsBuilt) {language : Content}
    (accepts : b.Accepts (w.keptGame language)) (h : Restores b (w.keptGame language) v) :
    w.Advances v := by
  obtain ⟨plan', -⟩ := restores_preserve built.clean accepts h
  refine ⟨scenario_of_plan (plan'.trans plan.symm), ?_, ?_, lines_restored keeps plan built accepts h⟩
  · rw [rooms_restored keeps plan built accepts h]
    exact (Advances.refl w).rooms
  · rw [characters_restored keeps plan built accepts h]
    exact (Advances.refl w).characters

end

end World

end Adventure
