import Adventure.Proofs.World.Deed

/-!
# The steps on a world meet its terms

* `meets_note`, `meets_moveTo`, `meets_moveItem` and the lemmas after them: each step that play
  consists of, with what has to hold before it;
* `meets_apply`: **a consequence of the adventure is brought about**;
* `meets_question`: a question to the world that does not look at the notes.
-/

namespace Adventure.World

open Outcome Terms

variable {b : World} {c : Cause} {α : Type} {P : World → Prop}

/-! ## 1. Single changes -/

theorem leads_deed {w v : World} (h : Deed b c w v) : (terms b c).Leads w v := .single h

/-- A change that does not look at the notes, and is a deed. -/
theorem meets_change {f : World → World} {Q : Unit → World → Prop}
    (same : ∀ w notes, f { w with notes } = { f w with notes })
    (h : ∀ w, Sane b w → P w → Deed b c w (f w) ∧ Q () (f w)) :
    (terms b c).Meets P (modify f) Q := by
  refine meets_modify ?_ fun w sane pre => ⟨leads_deed (h w sane pre).1, (h w sane pre).2⟩
  rintro w v ⟨notes, rfl⟩
  exact ⟨notes, same w notes⟩

theorem meets_note {Q : Unit → World → Prop} (text : String)
    (h : ∀ w, P w → Q () (w.noted text)) : (terms b c).Meets P (note text) Q := by
  refine meets_modify ?_ fun w _ pre => ⟨leads_deed (.note w text), h w pre⟩
  rintro w v ⟨notes, rfl⟩
  exact ⟨_, rfl⟩

/-- **A question to the world** that does not look at the notes. -/
theorem meets_question {f : World → Except Fault α} {Q : α → World → Prop}
    (same : ∀ w notes, f { w with notes } = f w)
    (hQ : ∀ w x, Sane b w → P w → f w = .ok x → Q x w)
    (hF : ∀ w, Sane b w → P w → Fine b w → Comes (f w)) (hE : ∀ w, Mishaps (f w)) :
    (terms b c).Meets P (Act.reading f) Q := by
  refine meets_reading ?_ hQ hF hE
  rintro w v ⟨notes, rfl⟩
  exact same w notes

theorem known_run {roster : World → Roster α} {w : World} {name : String} {a : α}
    (there : (roster w).get? name = some a) :
    (known roster (.text name)).runOn w = (.ok name, w) := by
  unfold known
  rw [Act.runOn_reading, Roster.demand_text there]

/-- The name under which an entry is kept. -/
theorem meets_known {roster : World → Roster α} (key : Content)
    (same : ∀ w notes, roster { w with notes } = roster w)
    (hF : ∀ w, Sane b w → P w → Fine b w → ∃ name, key = .text name ∧ (roster w).has name = true) :
    (terms b c).Meets P (known roster key)
      (fun name w => P w ∧ key = .text name ∧ ∃ a, (roster w).get? name = some a) := by
  refine meets_question (fun w notes => by rw [same]) (fun w name _ pre h => ?_)
    (fun w sane pre fine => ?_) fun w e failed => ?_
  · rcases hd : (roster w).demand key with e | a
    · simp only [hd] at h
      cases h
    · obtain ⟨name', rfl, ha⟩ := Roster.demand_eq_ok hd
      simp only [hd] at h
      cases h
      exact ⟨pre, rfl, a, ha⟩
  · obtain ⟨name, rfl, has⟩ := hF w sane pre fine
    obtain ⟨a, ha⟩ := (Roster.has_iff _).mp has
    rw [Roster.demand_text ha]
    exact comes_ok name
  · rcases hd : (roster w).demand key with fault | a
    · simp only [hd] at failed
      cases failed
      exact (roster w).mishaps_demand key _ hd
    · obtain ⟨name, rfl, -⟩ := Roster.demand_eq_ok hd
      simp only [hd] at failed
      cases failed

/-- The player goes to a room that lets the player in. -/
theorem meets_moveTo (target : String)
    (h : ∀ w, Sane b w → P w → ∃ r, w.rooms.get? target = some r ∧ r.locked = false ∧
      (c.Approaches w target ∨ c.Unlocks w target)) :
    (terms b c).Meets P (moveTo (.text target)) (fun _ _ => True) := by
  refine meets_bind (Q := fun _ _ => True) (meets_change (fun _ _ => rfl) fun w sane pre => ?_)
    fun _ => meets_note _ fun _ _ => trivial
  obtain ⟨r, there, unlocked, allowed⟩ := h w sane pre
  exact ⟨.enter w target r there unlocked allowed, trivial⟩

/-- An item goes to a place, if that is a deed. -/
theorem meets_moveItem (item location : Content)
    (h : ∀ w name, Sane b w → P w → item = .text name →
      Deed b c w (w.updateItem name (fun i => { i with location })))
    (hF : ∀ w, Sane b w → P w → Fine b w → ∃ name, item = .text name ∧ w.items.has name = true) :
    (terms b c).Meets P (moveItem item location) (fun _ _ => True) := by
  refine meets_bind (meets_known item (fun _ _ => rfl) hF) fun name => ?_
  refine meets_bind (Q := fun _ _ => True) ?_ fun _ => ?_
  · refine meets_change (fun _ _ => rfl) fun w sane pre => ⟨?_, trivial⟩
    exact h w name sane pre.1 pre.2.1
  · refine meets_bind (meets_note (Q := fun _ _ => True) _ fun _ _ => trivial) fun _ => ?_
    split
    · refine meets_get ?_ fun w _ _ => meets_note _ fun _ _ => trivial
      rintro w v ⟨notes, rfl⟩
      rfl
    · exact meets_return ()

/-! ## 2. Flags and the torch -/

/-- A value is put under the name of a flag, if that is a deed. -/
theorem meets_assignFlag (f : Flag) (value : Content)
    (h : ∀ w v, Sane b w → P w → Deed b c w { w with flags := w.flags.set f v })
    (hF : ∀ w, Sane b w → P w → Fine b w → ∃ v, value = .bool v) :
    (terms b c).Meets P (assignFlag f.word value) (fun _ _ => True) := by
  refine meets_bind (Q := fun flags w => P w ∧ ∃ v, flags = w.flags.set f v)
    (meets_question (fun _ _ => rfl) (fun w flags sane pre e => ⟨pre, sane.clean.1.assign e⟩)
      (fun w sane pre fine => ?_) fun w => w.flags.mishaps_assign f.word value) fun flags => ?_
  · obtain ⟨v, rfl⟩ := hF w sane pre fine
    rw [Flags.assign_word sane.clean.1]
    exact comes_ok _
  · refine meets_change (fun _ _ => rfl) fun w sane pre => ⟨?_, trivial⟩
    obtain ⟨pre, v, rfl⟩ := pre
    exact h w v sane pre

theorem meets_setFlag (f : Flag) (value : Content)
    (h : ∀ w v, Sane b w → P w → Deed b c w { w with flags := w.flags.set f v })
    (hF : ∀ w, Sane b w → P w → Fine b w → ∃ v, value = .bool v) :
    (terms b c).Meets P (setFlag f.word value) (fun _ _ => True) :=
  meets_bind (meets_assignFlag f value h hF) fun _ => meets_note _ fun _ _ => trivial

/-- A truth value is put under the name of a flag. -/
theorem assignFlag_run {w : World} (plain : w.flags.IsPlain) (f : Flag) (v : Bool) :
    (assignFlag f.word (.bool v)).runOn w = (.ok (), { w with flags := w.flags.set f v }) := by
  unfold assignFlag
  rw [Act.runOn_bind_ok (t := w) (x := w.flags.set f v)]
  · rfl
  · rw [Act.runOn_reading, Flags.assign_word plain]

/-- A flag gets a truth value. -/
theorem setFlag_run {w : World} (plain : w.flags.IsPlain) (f : Flag) (v : Bool) :
    (setFlag f.word (.bool v)).runOn w =
      (.ok (), { w with flags := w.flags.set f v }.noted
        ("flag " ++ f.word ++ " " ++ (Content.bool v).shown)) := by
  unfold setFlag
  rw [Act.runOn_bind_ok (assignFlag_run plain f v)]
  rfl

/-- A flag gets a truth value, if that is a deed. -/
theorem meets_setFlag_bool (f : Flag) (v : Bool)
    (h : ∀ w, Sane b w → P w → Deed b c w { w with flags := w.flags.set f v }) :
    (terms b c).Meets P (setFlag f.word (.bool v)) (fun _ _ => True) := by
  rintro w u ⟨notes, rfl⟩ sane pre
  rw [setFlag_run sane.clean.1, setFlag_run (w := { w with notes }) sane.clean.1]
  exact ⟨rfl, ⟨_, rfl⟩, .tail (.single (h w sane pre)) (.note ..), fun _ _ => trivial,
    fun _ => comes_ok (), nofun⟩

/-- What the torch is set to, it is as a flag and as an item. -/
theorem setTorch_run {w : World} (plain : w.flags.IsPlain) (lit : Bool) :
    (setTorch lit).runOn w =
      (.ok (), (w.withTorch lit).noted
        ("flag " ++ Flag.torchLit.word ++ " " ++ (Content.bool lit).shown)) := by
  unfold setTorch
  rw [Act.runOn_bind_ok (setFlag_run plain .torchLit lit)]
  rfl

/-- **The torch goes on or off.** -/
theorem meets_setTorch (lit : Bool) {Q : Unit → World → Prop}
    (h : ∀ w, Sane b w → P w → (lit = false → c.MayDarken w) ∧
      ∀ note, Q () ((w.withTorch lit).noted note)) :
    (terms b c).Meets P (setTorch lit) Q := by
  rintro w v ⟨notes, rfl⟩ sane pre
  rw [setTorch_run sane.clean.1, setTorch_run (w := { w with notes }) sane.clean.1]
  obtain ⟨allowed, post⟩ := h w sane pre
  exact ⟨rfl, ⟨_, rfl⟩, .tail (.single (.torch w lit allowed)) (.note ..), fun _ _ => post _,
    fun _ => comes_ok (), nofun⟩

/-- An item that is not the torch is switched. -/
theorem meets_setItemActive (name : String) (active : Bool)
    (h : ∀ w, Sane b w → P w → w.scenario.torch ≠ some name ∧ w.items.has name = true) :
    (terms b c).Meets P (setItemActive (.text name) active) (fun _ _ => True) := by
  refine meets_get ?_ fun w sane pre => ?_
  · rintro w v ⟨notes, rfl⟩
    rfl
  · obtain ⟨other, has⟩ := h w sane pre
    have ne : (Content.ofText? w.scenario.torch).same (.text name) = false := by
      cases torch : w.scenario.torch with
      | none => rfl
      | some torch' =>
          rw [torch] at other
          simpa [Content.ofText?, Content.same] using fun e => other (by rw [e])
    rw [if_neg (by simp [ne])]
    refine meets_bind (meets_known (.text name) (fun _ _ => rfl)
      (by rintro _ _ rfl _; exact ⟨name, rfl, has⟩)) fun found => ?_
    refine meets_get ?_ fun v sane pre => ?_
    · rintro w v ⟨notes, rfl⟩
      rfl
    · obtain ⟨rfl, e, item, hi⟩ := pre
      cases e
      rw [hi]
      cases ha : item.active with
      | none =>
          simp only [Option.bind_some, ha]
          exact meets_return ()
      | some old =>
          simp only [Option.bind_some, ha]
          refine meets_bind (Q := fun _ _ => True) (meets_change (fun _ _ => rfl) ?_)
            fun _ => meets_note _ fun _ _ => trivial
          rintro u - rfl
          exact ⟨.switch u name item active hi (by rw [ha]; rfl) other, trivial⟩

/-! ## 3. Rooms and characters -/

/-- The updated observation of a room begins to count. -/
theorem meets_refreshObservation (force : Bool) :
    (terms b c).Meets P (refreshObservation .null force) (fun _ _ => True) := by
  refine meets_get ?_ fun w sane pre => ?_
  · rintro w v ⟨notes, rfl⟩
    rfl
  · refine meets_bind (meets_known (w.placeOr .null) (fun _ _ => rfl)
      (by rintro _ _ rfl fine; exact fine.placed)) fun name => ?_
    refine meets_get ?_ fun v _ _ => ?_
    · rintro w v ⟨notes, rfl⟩
      rfl
    · cases v.rooms.get? name with
      | none => exact meets_return ()
      | some r =>
          simp only
          split
          · refine meets_bind (Q := fun _ _ => True) (meets_change (fun _ _ => rfl) ?_)
              fun _ => meets_note _ fun _ _ => trivial
            exact fun u _ _ => ⟨.refresh u name, trivial⟩
          · exact meets_return ()

/-- A room is unlocked by its code, and is open then. -/
theorem meets_unlock (target : String)
    (h : ∀ w, Sane b w → P w → c.Unlocks w target) :
    (terms b c).Meets P (unlock (.text target)) (fun _ w =>
      (∃ r, w.rooms.get? target = some r ∧ r.locked = false) ∧ c.Unlocks w target) := by
  refine meets_bind (meets_known (.text target) (fun _ _ => rfl) fun w sane pre _ => ?_)
    fun name => ?_
  · obtain ⟨-, r, -, there, -⟩ := h w sane pre
    exact ⟨target, rfl, Roster.has_of_get? there⟩
  · refine meets_bind (Q := fun _ w =>
      (∃ r, w.rooms.get? target = some r ∧ r.locked = false) ∧ c.Unlocks w target)
      (meets_change (fun _ _ => rfl) fun w sane pre => ?_) fun _ => meets_note _ fun _ pre => pre
    obtain ⟨pre, e, -⟩ := pre
    cases e
    have unlocks := h w sane pre
    refine ⟨.unlock w target unlocks, ?_⟩
    obtain ⟨line, r, hc, there, code⟩ := unlocks
    have after := Roster.get?_update_self there (fun r => { r with locked := false })
    exact ⟨⟨_, after, rfl⟩, line, _, hc, after, code⟩

/-- A dialogue with a character that is there comes to its end. -/
theorem meets_markInteracted (character : Content)
    (hF : ∀ w, Sane b w → P w → Fine b w →
      ∃ name, character = .text name ∧ w.characters.has name = true) :
    (terms b c).Meets P (markInteracted character) (fun _ _ => True) := by
  refine meets_bind (meets_known character (fun _ _ => rfl) hF) fun name => ?_
  refine meets_bind (Q := fun _ _ => True)
    (meets_change (fun _ _ => rfl) fun w _ _ => ⟨.part w name, trivial⟩)
    fun _ => meets_note _ fun _ _ => trivial

/-- The antagonist loses one health. -/
theorem meets_setHealth (a : Antagonist) (n : Int)
    (h : ∀ w, Sane b w → P w → c.verb? = some .shoot ∧ w.scenario.antagonist = some a ∧
      (∃ ch, w.characters.get? a.character = some ch ∧ ch.health = .number n) ∧ 0 < n) :
    (terms b c).Meets P (setHealth (.text a.character) (.number (n - 1))) (fun _ _ => True) := by
  refine meets_bind (meets_known (.text a.character) (fun _ _ => rfl) fun w sane pre _ => ?_)
    fun name => ?_
  · obtain ⟨-, -, ⟨ch, there, -⟩, -⟩ := h w sane pre
    exact ⟨_, rfl, Roster.has_of_get? there⟩
  · refine meets_bind (Q := fun _ _ => True) (meets_change (fun _ _ => rfl) fun w sane pre => ?_)
      fun _ => meets_note _ fun _ _ => trivial
    obtain ⟨pre, e, -⟩ := pre
    cases e
    obtain ⟨shoot, antagonist, ⟨ch, there, health⟩, alive⟩ := h w sane pre
    exact ⟨.strike w a ch n shoot antagonist there health alive, trivial⟩

/-! ## 4. Consequences -/

theorem meets_setFlags (es : List (String × Content))
    (h : ∀ e ∈ es, ∃ f : Flag, e.1 = f.word ∧
      ∀ w v, Deed b c w { w with flags := w.flags.set f v })
    (hF : ∀ w, Fine b w → ∀ e ∈ es, ∃ v, e.2 = .bool v) :
    (terms b c).Meets (fun _ => True) (setFlags es) (fun _ _ => True) := by
  induction es with
  | nil => exact meets_return ()
  | cons e es ih =>
      obtain ⟨name, value⟩ := e
      obtain ⟨f, hf, deed⟩ := h (name, value) (List.mem_cons_self ..)
      simp only at hf
      subst hf
      refine meets_bind (meets_setFlag f value (fun w v _ _ => deed w v) fun w _ _ fine => ?_)
        fun _ => ih (fun e he => h e (List.mem_cons_of_mem _ he))
          fun w fine e he => hF w fine e (List.mem_cons_of_mem _ he)
      exact hF w fine (f.word, value) (List.mem_cons_self ..)

theorem meets_moveItems (conds : List Content)
    (h : ∀ cond ∈ conds, ∀ name location, cond.demand "item" = .ok (.text name) →
      cond.demand "location" = .ok location →
      ∀ w, Deed b c w (w.updateItem name (fun i => { i with location })))
    (grasps : ∀ cond ∈ conds, b.GraspsItem cond)
    (hF : ∀ w, Fine b w → ∀ cond ∈ conds, Content.isItemCondition true cond = true) :
    (terms b c).Meets (fun _ => True) (moveItems conds) (fun _ _ => True) := by
  induction conds with
  | nil => exact meets_return ()
  | cons cond conds ih =>
      obtain ⟨es, name, rfl, item, has, -⟩ := grasps cond (List.mem_cons_self ..)
      refine meets_bind (Q := fun x _ => x = .text name) (meets_ofExcept _ (fun w x _ e => ?_)
        (fun w _ _ _ => ⟨_, Content.demand_of_lookup item⟩) (Content.mishaps_demand _ _))
        fun found => ?_
      · rw [Content.demand_of_lookup item] at e
        cases e
        rfl
      · refine meets_bind (Q := fun location _ => found = .text name ∧
          (Content.mapping es).demand "location" = .ok location)
          (meets_ofExcept _ (fun w x pre e => ⟨pre, e⟩) (fun w _ _ fine => ?_)
            (Content.mishaps_demand _ _)) fun location => ?_
        · have placed := hF w fine _ (List.mem_cons_self ..)
          simp only [Content.isItemCondition, Bool.not_true, Bool.false_or, Bool.and_eq_true] at placed
          obtain ⟨location, hl, -⟩ := Option.any_eq_true _ _ |>.mp placed.2
          exact ⟨location, Content.demand_of_lookup hl⟩
        · refine meets_bind (meets_moveItem found location (fun w other _ pre e => ?_)
            fun w sane pre _ => ?_) fun _ => ?_
          · obtain ⟨rfl, hl⟩ := pre
            cases e
            exact h _ (List.mem_cons_self ..) name location (Content.demand_of_lookup item) hl w
          · exact ⟨name, pre.1, (has_item_of_plan sane.plan name).trans has⟩
          · exact ih (fun cond hc => h cond (List.mem_cons_of_mem _ hc))
              (fun cond hc => grasps cond (List.mem_cons_of_mem _ hc))
              fun w fine cond hc => hF w fine cond (List.mem_cons_of_mem _ hc)

/-- A consequence names the flags of its table. -/
theorem namesFlag_of_mem {es fs : List (String × Content)} {e : String × Content} {f : Flag}
    (table : ((es.lookup "flags").getD .null).filledEntries = .ok fs) (mem : e ∈ fs)
    (word : e.1 = f.word) : (Content.mapping es).namesFlag f = true := by
  rcases Content.filledEntries_eq_ok table with entries | none
  · cases look : es.lookup "flags" with
    | none =>
        rw [look] at entries
        cases entries
    | some table' =>
        rw [look] at entries
        simp only [Option.getD_some] at entries
        simp only [Content.namesFlag, Content.get?, look, entries, List.any_eq_true]
        exact ⟨e, mem, by simp [word]⟩
  · rw [none] at mem
    exact absurd mem List.not_mem_nil

/-- **A consequence of the adventure is brought about.** -/
theorem meets_apply {effect : Content} (mem : effect ∈ b.effects) :
    (terms b c).Meets P (apply effect) (fun _ _ => True) := by
  refine meets_of_state fun w₀ sane₀ _ => ?_
  unfold apply
  split
  · exact meets_return ()
  · next filled =>
      rcases grasps_effect sane₀.sound mem with empty | ⟨es, conds, names, rfl, hc, items, hn, flags⟩
      · rw [empty] at filled
        exact absurd rfl filled
      · have documented (w : World) (fine : Fine b w) := fine.documented.2 _ mem
        simp only [Content.isDocumented, Bool.and_eq_true] at documented
        refine meets_bind (Q := fun es' _ => es' = es)
          (meets_ofExcept _ (fun _ _ _ e => ?_) (fun _ _ _ _ => ⟨es, rfl⟩)
            (Content.mishaps_entries _)) fun es' => ?_
        · cases e
          rfl
        refine meets_of_state fun w₁ _ e => ?_
        subst e
        refine meets_bind (Q := fun fs _ => ((es'.lookup "flags").getD .null).filledEntries = .ok fs)
          (meets_ofExcept _ (fun _ _ _ e => e) (fun w _ _ fine => ?_)
            (Content.mishaps_filledEntries _)) fun fs => ?_
        · obtain ⟨fs, hfs, -, -⟩ := Content.isFlagTable_entries (documented w fine).1
          exact ⟨fs, hfs⟩
        refine meets_of_state fun w₂ _ hfs => ?_
        have set : ∀ e ∈ fs, ∃ f : Flag, e.1 = f.word ∧
            ∀ w v, Deed b c w { w with flags := w.flags.set f v } := by
          intro e he
          obtain ⟨f, hf⟩ := flags _ (Content.names_of_filledEntries hfs hn e he)
          have word : e.1 = f.word := by simpa using hf
          exact ⟨f, word, fun w v => .flag w f v _ mem (namesFlag_of_mem hfs he word)⟩
        refine meets_bind ((meets_setFlags fs set fun w fine e he => ?_).pre fun _ _ _ => trivial)
          fun _ => ?_
        · obtain ⟨fs', hfs', -, values⟩ := Content.isFlagTable_entries (documented w fine).1
          rw [hfs] at hfs'
          cases hfs'
          exact values e he
        refine meets_bind (Q := fun conds' _ => conds' = conds)
          (meets_ofExcept _ (fun _ _ _ e => ?_) (fun _ _ _ _ => ⟨conds, hc⟩)
            (Content.mishaps_filledElements _)) fun conds' => ?_
        · rw [hc] at e
          cases e
          rfl
        refine meets_of_state fun w₃ _ e => ?_
        subst e
        refine meets_bind ((meets_moveItems conds' (fun cond hm name location hi hl w => ?_) items
          fun w fine => ?_).pre fun _ _ _ => trivial) fun _ => ?_
        · exact .place w name location _ mem ⟨es', conds', cond, rfl, hc, hm, hi, hl⟩
        · exact Content.areItemConditions_elements (documented w fine).2 hc
        split
        · exact meets_refreshObservation false
        · exact meets_return ()

end Adventure.World
