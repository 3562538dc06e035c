import Adventure.Proofs.Turn.Ground
import Adventure.Turn.Look

/-!
# The rules that only tell meet the terms

* `meets_inventory`, `meets_observe`, `meets_read`, `meets_help`, `meets_examine`: from a beginning
  turn each of these rules keeps to the terms of its stage.
-/

namespace Adventure.Setting.Suits

open Outcome Terms

variable {σ : Type} {s : Setting σ} {b before : World} {i : Intent} {T : Terms (Stage σ)}
variable (S : s.Suits b (.command s.messages before i) T)

include S

/-! ## 1. Inventory -/

theorem meets_inventoryRow {P : Stage σ → Prop} (item : Item) :
    T.Meets P (s.inventoryRow item) (fun x p => P p ∧ s.Says x) := by
  unfold inventoryRow
  split
  · exact S.meets_sayWith rfl (by simp [Phrase.fields])
  · exact S.meets_sayWith rfl (by simp [Phrase.fields])

theorem meets_inventoryRows {P : Stage σ → Prop} (items : List (String × Item)) :
    T.Meets P (s.inventoryRows items) (fun rows _ => ∀ x ∈ rows, s.Says x) := by
  induction items with
  | nil =>
      refine Meets.pre (meets_pure (Q := fun rows _ => ∀ x ∈ rows, s.Says x) []) fun _ _ _ => ?_
      exact fun _ hm => absurd hm List.not_mem_nil
  | cons e items ih =>
      obtain ⟨name, item⟩ := e
      refine meets_bind (S.meets_inventoryRow item) fun row => ?_
      refine meets_of_state fun p₀ _ pre => ?_
      refine meets_bind (ih.pre fun p _ e => by rw [e]; exact pre.1) fun rows => ?_
      refine Meets.pre (meets_pure (Q := fun rows _ => ∀ x ∈ rows, s.Says x) _) fun p _ said => ?_
      intro x hm
      rcases List.mem_cons.mp hm with rfl | hm
      · exact pre.2
      · exact said x hm

/-- **The list of what the player carries.** -/
theorem meets_inventory :
    T.Meets (Stage.Begins before i) (s.inventory i) (fun _ _ => True) := by
  unfold inventory
  split
  · exact S.meets_saying _
  · refine S.meets_look (fun p q notes e => ?_) fun p _ _ => ?_
    · simp only [e]
      rfl
    · split
      · exact S.meets_saying _
      · refine meets_bind (S.meets_say .inventoryHeader) fun header => ?_
        refine meets_of_state fun p _ pre => ?_
        refine meets_bind (S.meets_inventoryRows _) fun rows => ?_
        refine meets_of_state fun p _ said => ?_
        refine S.meets_joined _ _ fun x hm => ?_
        rcases List.mem_cons.mp hm with rfl | hm
        · exact says_plain pre.2
        · rcases List.mem_cons.mp hm with rfl | hm
          · exact says_text ""
          · exact said x hm

/-! ## 2. Observe and read -/

/-- **What is seen in the room.** -/
theorem meets_observe :
    T.Meets (Stage.Begins before i) (s.observe i) (fun _ _ => True) := by
  unfold observe
  split
  · exact S.meets_saying _
  · refine meets_bind (S.meets_ask (fun _ _ => rfl)
      (fun p sane _ fine => World.isDark_comes sane.clean fine.placed)
      fun w => w.mishaps_isDark) fun dark => ?_
    split
    · exact S.meets_saying _
    · refine meets_bind (S.meets_ask (fun _ _ => rfl)
        (fun p _ _ fine => World.room_comes fine.placed) fun w => w.mishaps_room) fun room => ?_
      split
      · exact S.meets_saying _
      · exact S.meets_sayingWith rfl (by simp [Phrase.fields])

omit S in
/-- The item that an intent is aimed at is an item of the world. -/
theorem item_of_begins {p : Stage σ} (begins : Stage.Begins before i p) {id : String}
    (h : i.item? = some id) : p.world.items.has id = true := by
  unfold Intent.item? at h
  split at h
  · next given =>
      cases h
      obtain ⟨item, hi⟩ := World.get?_of_carried
        (begins.fits.carriedItem _ (givenId?_eq_some given))
      exact Roster.has_of_get? hi
  · obtain ⟨item, hi⟩ := World.get?_of_itemsHere (begins.fits.roomItem _ h)
    exact Roster.has_of_get? hi

/-- **What is written on an item.** -/
theorem meets_read :
    T.Meets (Stage.Begins before i) (s.read i) (fun _ _ => True) := by
  unfold read
  split
  · exact S.meets_saying _
  · next id aimed =>
      refine meets_bind (S.meets_demand id (fun _ _ => rfl)
        fun p _ begins => item_of_begins begins aimed) fun item => ?_
      split
      · exact S.meets_saying _
      · exact S.meets_sayingWith rfl (by simp [Phrase.fields])

/-! ## 3. Help -/

/-- **The list of the commands.** -/
theorem meets_help : T.Meets (Stage.Begins before i) (s.help i) (fun _ _ => True) := by
  unfold help
  refine meets_bind (S.meets_say .helpHeader) fun header => ?_
  refine meets_bind (S.meets_say .helpInstructions) fun instructions => ?_
  refine meets_of_state fun p _ pre => ?_
  obtain ⟨⟨_, header_said⟩, instructions_said⟩ := pre
  split
  · refine S.meets_joined _ _ fun x hm => ?_
    rcases List.mem_cons.mp hm with rfl | hm
    · exact says_plain header_said
    · obtain ⟨t, -, rfl⟩ := List.mem_map.mp hm
      exact says_text t
  · next other =>
      refine meets_throw _ (fun p _ _ fine => ?_) (S.faults nofun)
      obtain ⟨t, ht, -⟩ := Messages.plain_text (S.fine fine).2 .helpInstructions
      rw [instructions_said] at ht
      cases ht
      exact other t rfl

/-! ## 4. Examine -/

/-- **The look at the lair of the antagonist wakes it**, if it sleeps and there is light. -/
theorem meets_examineLair (a : Antagonist) (verb : i.verb? = some .examine) :
    T.Meets (fun p => p.world.inLair = true ∧ p.world.isDark = .ok false) (s.examineLair a)
      (fun _ _ => True) := by
  unfold examineLair
  refine meets_bind (S.meets_ask (fun _ _ => rfl)
    (fun p sane _ _ => ⟨_, World.isAsleep_eq sane.clean⟩)
    fun w => w.mishaps_isAsleep) fun asleep => ?_
  split
  · next sleeps =>
      refine meets_bind (S.meets_world (I := fun w => w.inLair = true ∧ w.isDark = .ok false ∧
          w.isAsleep = .ok true)
        (World.meets_setFlag_bool .antagonistActive true
          fun w _ pre => .wake w verb pre.1 pre.2.1 pre.2.2) fun p _ pre => ?_) fun _ => ?_
      · exact ⟨pre.1.1, pre.1.2, sleeps ▸ pre.2⟩
      · exact meets_bind S.startTicker fun _ => meets_return _
  · refine S.meets_look (fun p q notes e => ?_) fun p _ _ => ?_
    · simp only [e]
      rfl
    · split
      · exact S.meets_sayingWith rfl (by simp [Phrase.fields])
      · exact S.meets_sayingWith rfl (by simp [Phrase.fields])

/-- The description of an item. -/
theorem meets_describeItem (id : String) :
    T.Meets (fun p => p.world.items.has id = true) (s.describeItem id) (fun _ _ => True) := by
  unfold describeItem
  refine meets_bind (S.meets_demand id (fun _ _ => rfl) fun _ _ has => has) fun item => ?_
  simp only
  split
  · exact S.meets_saying _
  · exact S.meets_sayingWith rfl (by simp [Phrase.fields])

/-- **What an item looks like.** -/
theorem meets_examine (verb : i.verb? = some .examine) :
    T.Meets (Stage.Begins before i) (s.examine i) (fun _ _ => True) := by
  unfold examine
  split
  · next id _ aimed =>
      refine meets_bind (S.meets_ask (fun _ _ => rfl)
        (fun p sane _ fine => World.isDark_comes sane.clean fine.placed)
        fun w => w.mishaps_isDark) fun dark => ?_
      split
      · exact S.meets_saying _
      · next light =>
          refine S.meets_look (fun p q notes e => ?_) fun p _ pre => ?_
          · simp only [e]
            rfl
          · split
            · next a lair =>
                refine (S.meets_examineLair a verb).pre fun q _ e => ?_
                have inLair := (Option.filter_eq_some_iff.mp lair).2
                simp only [decide_eq_true_eq] at inLair
                rw [e]
                exact ⟨inLair.2, by simpa [light] using pre.2⟩
            · refine (S.meets_describeItem id).pre fun q _ e => ?_
              rw [e]
              exact item_of_begins pre.1 aimed
  · exact S.meets_saying _

end Adventure.Setting.Suits
