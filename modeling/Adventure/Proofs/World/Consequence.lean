import Adventure.Proofs.World.Steps

/-!
# What a consequence does to a world

* `Content.settings`, `Content.shifts`, `Content.refreshes`: what a consequence says;
* `World.granted`: the world that a consequence asks for, told without steps and faults;
* `World.brought`: the world that is left when it was brought about, or as far as it came;
* `World.Bears`: what a consequence may do, even if it comes to a fault halfway;
* `apply_cases`: a consequence is brought about part by part;
* `brought_bears`: **no consequence touches what it does not name**;
* `brought_granted`: **a documented consequence does exactly what it says**;
* `apply_unmoved`: one that moves nothing comes to an end if its flags can be set.
-/

namespace Adventure

open Outcome

/-! ## 1. What a consequence says -/

namespace Content

/-- The flags that a consequence sets, with their values, in order. -/
def settings (effect : Content) : List (String × Content) :=
  ((effect.get? "flags").getD .null).filledEntries.toOption.getD []

/-- The item conditions that a consequence establishes, in order. -/
def shifts (effect : Content) : List Content :=
  ((effect.get? "item_conditions").getD .null).filledElements.toOption.getD []

/-- The player sees the room anew, if it waits for an event. -/
def refreshes (effect : Content) : Bool :=
  ((effect.get? "refresh_observation").getD .null).isFilled

/-- A consequence moves the item. -/
def namesItem (effect : Content) (name : String) : Bool :=
  effect.shifts.any (fun cond => cond.get? "item" == some (.text name))

/-- A value reads as a truth value. -/
def isTruth (value : Content) : Bool :=
  match Reader.bool value with
  | .good _ => true
  | .bad _ => false

/-- **The flags of a consequence can be set**: there is a table of them, and all its values read as
    truth values. -/
def setsTruths (effect : Content) : Bool :=
  match ((effect.get? "flags").getD .null).filledEntries with
  | .ok es => es.all fun e => e.2.isTruth
  | .error _ => false

theorem namesFlag_eq (effect : Content) (f : Flag) :
    effect.namesFlag f = effect.settings.any (fun e => e.1 == f.word) := by
  unfold namesFlag settings
  cases effect.get? "flags" with
  | none => rfl
  | some table =>
      cases table with
      | mapping es => cases es <;> rfl
      | null | bool | int | float | text | inventory | list =>
          simp only [Option.getD_some, filledEntries]
          split <;> rfl

end Content

/-- A flag gets a truth value. -/
def Flags.settle (fs : Flags) (e : String × Content) : Flags :=
  match Flag.ofWord? e.1, e.2 with
  | some f, .bool v => fs.set f v
  | _, _ => fs

/-- An item goes where a condition wants it. -/
def Roster.shift (items : Roster Item) (cond : Content) : Roster Item :=
  match cond.get? "item", cond.get? "location" with
  | some (.text item), some location => items.update item (fun i => { i with location })
  | _, _ => items

namespace World

/-- The room of the player is seen anew, by force or if it waits for an event. -/
def refreshed (force : Bool) (w : World) : World :=
  { w with rooms :=
      match w.current with
      | .text name => w.rooms.update name (fun r =>
          if force ∨ r.reason = .event then { r with updated := true } else r)
      | _ => w.rooms }

/-- **The world that a consequence asks for**: flags are set, items are moved, and the room of the
    player is seen anew. -/
def granted (effect : Content) (w : World) : World :=
  let v := { w with
    flags := effect.settings.foldl Flags.settle w.flags
    items := effect.shifts.foldl Roster.shift w.items }
  if effect.refreshes then v.refreshed false else v

/-- The notes do not count for what a consequence asks for. -/
theorem granted_alike {w v : World} (alike : w.Alike v) (effect : Content) :
    (w.granted effect).Alike (v.granted effect) := by
  obtain ⟨notes, rfl⟩ := alike
  refine ⟨notes, ?_⟩
  unfold granted
  split
  · rfl
  · rfl

/-- **The world that is left** when a consequence was brought about, or as far as it came. -/
def brought (effect : Content) (w : World) : World := ((apply effect).runOn w).2

/-! ## 2. Flags -/

/-- A value is put under the name of a flag: the flag is set, to the value if that is a truth value,
    or nothing happens. -/
theorem setFlag_cases {w : World} (plain : w.flags.IsPlain) (f : Flag) (value : Content) :
    (∃ e, (setFlag f.word value).runOn w = (.error e, w) ∧ ∀ v, value ≠ .bool v) ∨
      ∃ v notes, (setFlag f.word value).runOn w =
        (.ok (), { w with flags := w.flags.set f v, notes }) ∧ ∀ v', value = .bool v' → v' = v := by
  by_cases truth : ∃ v, value = .bool v
  · obtain ⟨v, rfl⟩ := truth
    exact .inr ⟨v, _, setFlag_run plain f v, fun v' e => by cases e; rfl⟩
  · have other (v : Bool) : value ≠ .bool v := fun e => truth ⟨v, e⟩
    have asked : (Act.reading fun w : World => w.flags.assign f.word value).runOn w =
        (w.flags.assign f.word value, w) := rfl
    unfold setFlag assignFlag
    cases assigned : w.flags.assign f.word value with
    | error e =>
        rw [Act.runOn_bind, Act.runOn_bind_error (asked.trans (by rw [assigned]))]
        exact .inl ⟨e, rfl, other⟩
    | ok flags =>
        obtain ⟨v, rfl⟩ := plain.assign assigned
        rw [Act.runOn_bind, Act.runOn_bind_ok (asked.trans (by rw [assigned]))]
        exact .inr ⟨v, _, rfl, fun v' e => absurd e (other v')⟩

/-- **Flags are set one after the other**, as far as there are truth values for them. -/
theorem setFlags_run {es : List (String × Content)} (known : ∀ e ∈ es, ∃ f : Flag, e.1 = f.word) :
    ∀ {w : World}, w.flags.IsPlain → ∃ r flags notes,
      (setFlags es).runOn w = (r, { w with flags, notes }) ∧
        (flags.IsPlain ∧ flags.remarks = w.flags.remarks) ∧
        (∀ f : Flag, es.any (fun e => e.1 == f.word) = false → flags.get f = w.flags.get f) ∧
        ((∀ e ∈ es, ∃ v, e.2 = .bool v) →
          r = .ok () ∧ flags = es.foldl Flags.settle w.flags) := by
  induction es with
  | nil => exact fun {w} plain => ⟨.ok (), w.flags, w.notes, rfl, ⟨plain, rfl⟩, fun _ _ => rfl,
      fun _ => ⟨rfl, rfl⟩⟩
  | cons e es ih =>
      intro w plain
      obtain ⟨name, value⟩ := e
      obtain ⟨f, word⟩ := known (name, value) (List.mem_cons_self ..)
      simp only at word
      subst word
      unfold setFlags
      rcases setFlag_cases plain f value with ⟨e, run, other⟩ | ⟨v, notes, run, same⟩
      · rw [Act.runOn_bind_error run]
        refine ⟨.error e, w.flags, w.notes, rfl, ⟨plain, rfl⟩, fun _ _ => rfl, fun truths => ?_⟩
        obtain ⟨v, truth⟩ := truths (f.word, value) (List.mem_cons_self ..)
        exact absurd truth (other v)
      · rw [Act.runOn_bind_ok run]
        obtain ⟨r, flags, notes', run', ⟨plain', remarks⟩, frame, exact'⟩ :=
          ih (fun e he => known e (List.mem_cons_of_mem _ he))
            (w := { w with flags := w.flags.set f v, notes }) (plain.set f v)
        refine ⟨r, flags, notes', run', ⟨plain', remarks.trans (Flags.remarks_set ..)⟩,
          fun g unnamed => ?_, fun truths => ?_⟩
        · simp only [List.any_cons, Bool.or_eq_false_iff] at unnamed
          have ne : g ≠ f := by
            rintro rfl
            simp at unnamed
          rw [frame g unnamed.2, Flags.get_set, if_neg ne]
        · obtain ⟨v', truth⟩ := truths (f.word, value) (List.mem_cons_self ..)
          obtain rfl := same v' truth
          obtain ⟨ok, flags_eq⟩ := exact' fun e he => truths e (List.mem_cons_of_mem _ he)
          refine ⟨ok, flags_eq.trans ?_⟩
          simp only at truth
          rw [List.foldl_cons, Flags.settle]
          simp only [Flag.ofWord?_word, truth]

/-! ## 3. Items -/

/-- An item that is there goes to a place. -/
theorem moveItem_run {w : World} {name : String} {i : Item} (there : w.items.get? name = some i)
    (location : Content) : ∃ notes, (moveItem (.text name) location).runOn w =
      (.ok (), { w.updateItem name (fun i => { i with location }) with notes }) := by
  unfold moveItem
  rw [Act.runOn_bind_ok (known_run there)]
  by_cases carried : location = .inventory
  · subst carried
    exact ⟨_, rfl⟩
  · simp only [if_neg carried]
    exact ⟨_, rfl⟩

/-- The item of an item condition is there. -/
def FindsItem (w : World) (cond : Content) : Prop :=
  ∃ es name, cond = .mapping es ∧ es.lookup "item" = some (.text name) ∧ w.items.has name = true

/-- **Items are moved one after the other**, as far as there are places for them. -/
theorem moveItems_run {conds : List Content} :
    ∀ {w : World}, (∀ cond ∈ conds, w.FindsItem cond) → ∃ r items notes,
      (moveItems conds).runOn w = (r, { w with items, notes }) ∧
        (∀ name, conds.any (fun cond => cond.get? "item" == some (.text name)) = false →
          items.get? name = w.items.get? name) ∧
        ((∀ cond ∈ conds, (cond.get? "location").isSome = true) →
          r = .ok () ∧ items = conds.foldl Roster.shift w.items) := by
  induction conds with
  | nil => exact fun {w} _ => ⟨.ok (), w.items, w.notes, rfl, fun _ _ => rfl, fun _ => ⟨rfl, rfl⟩⟩
  | cons cond conds ih =>
      intro w finds
      obtain ⟨es, name, rfl, item, has⟩ := finds cond (List.mem_cons_self ..)
      obtain ⟨i, there⟩ := (Roster.has_iff _).mp has
      unfold moveItems
      rw [Act.runOn_bind_ok (by rw [Content.demand_of_lookup item]; exact Act.runOn_ofExcept ..)]
      cases place : es.lookup "location" with
      | none =>
          have missing : (Act.ofExcept ((Content.mapping es).demand "location")).runOn w =
              (.error (.unknownKey (.text "location")), w) := by
            simp [Content.demand, place]
          rw [Act.runOn_bind_error missing]
          refine ⟨_, w.items, w.notes, rfl, fun _ _ => rfl, fun placed => ?_⟩
          have shape := placed _ (List.mem_cons_self ..)
          simp [Content.get?, place] at shape
      | some location =>
          rw [Act.runOn_bind_ok (by
            rw [Content.demand_of_lookup place]; exact Act.runOn_ofExcept ..)]
          obtain ⟨notes, moved⟩ := moveItem_run there location
          rw [Act.runOn_bind_ok moved]
          have stays : ∀ cond ∈ conds,
              { w.updateItem name (fun i => { i with location }) with notes }.FindsItem cond := by
            intro cond hc
            obtain ⟨es', name', e, item', has'⟩ := finds cond (List.mem_cons_of_mem _ hc)
            exact ⟨es', name', e, item', (Roster.has_update _ _ _ _).trans has'⟩
          obtain ⟨r, items, notes', run, frame, exact'⟩ := ih stays
          refine ⟨r, items, notes', run, fun other unnamed => ?_, fun placed => ?_⟩
          · simp only [List.any_cons, Bool.or_eq_false_iff, Content.get?, item] at unnamed
            have ne : other ≠ name := by
              rintro rfl
              simp at unnamed
            exact (frame other unnamed.2).trans (Roster.get?_update_ne _ ne _)
          · obtain ⟨ok, e⟩ := exact' fun cond hc => placed cond (List.mem_cons_of_mem _ hc)
            refine ⟨ok, e.trans ?_⟩
            rw [List.foldl_cons, Roster.shift]
            simp only [Content.get?, item, place]
            rfl

/-! ## 4. Rooms -/

theorem refreshed_here {w : World} {name : String} {r : Room} (current : w.current = .text name)
    (there : w.rooms.get? name = some r) (force : Bool) :
    w.refreshed force = if force ∨ r.reason = .event then
      w.updateRoom name (fun r => { r with updated := true }) else w := by
  have same {f : Room → Room} (h : f r = if force ∨ r.reason = .event then
      { r with updated := true } else r) : w.refreshed force = w.updateRoom name f := by
    simp only [refreshed, current, updateRoom]
    congr 1
    refine Roster.update_congr fun r' there' => ?_
    rw [there] at there'
    cases there'
    exact h.symm
  by_cases waits : force ∨ r.reason = .event
  · rw [if_pos waits]
    exact same (by rw [if_pos waits])
  · rw [if_neg waits, same (f := id) (by rw [if_neg waits]; rfl)]
    simp only [updateRoom, Roster.update_id]

/-- Somebody who is in no room sees none anew. -/
theorem refreshed_nowhere {w : World} {e : Fault} (lost : w.rooms.demand w.current = .error e)
    (force : Bool) : w.refreshed force = w := by
  unfold refreshed
  split
  · next name current =>
      have none (r : Room) : w.rooms.get? name ≠ some r := by
        intro there
        rw [current, Roster.demand_text there] at lost
        cases lost
      rw [Roster.update_congr (g := id) fun r there => absurd there (none r), Roster.update_id]
  · rfl

/-- To see a room anew is no change of the plan. -/
theorem plan_refreshed (force : Bool) (w : World) : (w.refreshed force).plan = w.plan := by
  unfold refreshed
  split
  · refine plan_updateRoom (f := fun r =>
      if force ∨ r.reason = .event then { r with updated := true } else r) fun r => ?_
    split
    · rfl
    · rfl
  · rfl

/-- **The room of the player is seen anew**, if there is one. -/
theorem refreshObservation_run (force : Bool) (w : World) : ∃ r notes,
    (refreshObservation .null force).runOn w = (r, { w.refreshed force with notes }) ∧
      (r = .ok () ↔ w.IsPlaced) := by
  have here : w.placeOr .null = w.current := rfl
  unfold refreshObservation
  rw [Act.runOn_bind_ok (Act.runOn_get w), here]
  cases found : w.rooms.demand w.current with
  | error e =>
      refine ⟨.error e, w.notes, ?_, nofun, fun placed => ?_⟩
      · rw [refreshed_nowhere found force, Act.runOn_bind_error (e := e)]
        unfold World.known
        rw [Act.runOn_reading, found]
      · obtain ⟨name, current, has⟩ := placed
        obtain ⟨r, there⟩ := (Roster.has_iff _).mp has
        rw [current, Roster.demand_text there] at found
        cases found
  | ok r =>
      obtain ⟨name, current, there⟩ := Roster.demand_eq_ok found
      have placed : w.IsPlaced := ⟨name, current, Roster.has_of_get? there⟩
      rw [current, Act.runOn_bind_ok (known_run there), Act.runOn_bind_ok (Act.runOn_get w), there,
        refreshed_here current there force]
      by_cases waits : force ∨ r.reason = .event
      · simp only [if_pos waits]
        exact ⟨.ok (), _, rfl, fun _ => placed, fun _ => rfl⟩
      · simp only [if_neg waits]
        exact ⟨.ok (), w.notes, rfl, fun _ => placed, fun _ => rfl⟩

/-! ## 5. Consequences -/

/-- **What a consequence may do**, even if it comes to a fault halfway: it touches nothing but what
    it names. -/
structure Bears (effect : Content) (w v : World) : Prop where
  clean : v.flags.IsClean
  rest : ∃ flags items rooms notes, v = { w with flags, items, rooms, notes }
  flags : ∀ f, effect.namesFlag f = false → v.flags.get f = w.flags.get f
  items : ∀ name, effect.namesItem name = false → v.items.get? name = w.items.get? name
  rooms : v.rooms = w.rooms ∨ v.rooms = (w.refreshed false).rooms

/-- What is not filled is no consequence. -/
theorem granted_empty {effect : Content} (empty : effect.isFilled = false)
    (documented : effect.isDocumented true = true) (w : World) : w.granted effect = w := by
  cases effect with
  | null => rfl
  | mapping es =>
      have none : es = [] := by simpa [Content.isFilled] using empty
      subst none
      rfl
  | bool | int | float | text | inventory | list => cases documented

section Parts

variable {b w : World} {es : List (String × Content)}

/-- The flags of a consequence are set, as far as that comes. -/
theorem settings_run {names : List Content} (clean : w.flags.IsClean)
    (hn : ((es.lookup "flags").getD .null).filledElements = .ok names)
    (known : ∀ name ∈ names, ∃ f : Flag, name = .text f.word) : ∃ r flags notes,
      (Act.ofExcept ((es.lookup "flags").getD .null).filledEntries >>= setFlags).runOn w =
        (r, { w with flags, notes }) ∧ flags.IsClean ∧
        (∀ f, (Content.mapping es).namesFlag f = false → flags.get f = w.flags.get f) ∧
        (Content.isFlagTable ((es.lookup "flags").getD .null) = true →
          r = .ok () ∧ flags = (Content.mapping es).settings.foldl Flags.settle w.flags) := by
  cases hf : ((es.lookup "flags").getD .null).filledEntries with
  | error e =>
      refine ⟨.error e, w.flags, w.notes, rfl, clean, fun _ _ => rfl, fun documented => ?_⟩
      obtain ⟨fs, table, -⟩ := Content.isFlagTable_entries documented
      rw [hf] at table
      cases table
  | ok fs =>
      have settings : (Content.mapping es).settings = fs := by
        simp only [Content.settings, Content.get?, hf, Except.toOption, Option.getD_some]
      have named : ∀ e ∈ fs, ∃ f : Flag, e.1 = f.word := by
        intro e he
        obtain ⟨f, word⟩ := known _ (Content.names_of_filledEntries hf hn e he)
        exact ⟨f, by simpa using word⟩
      obtain ⟨r, flags, notes, run, ⟨plain, remarks⟩, frame, told⟩ := setFlags_run named clean.1
      refine ⟨r, flags, notes, run, ⟨plain, remarks.trans clean.2⟩, fun f unnamed => ?_,
        fun documented => ?_⟩
      · rw [Content.namesFlag_eq, settings] at unnamed
        exact frame f unnamed
      · obtain ⟨fs', table, -, truths⟩ := Content.isFlagTable_entries documented
        rw [hf] at table
        cases table
        rw [settings]
        exact told truths

/-- The items of a consequence are moved, as far as that comes. -/
theorem shifts_run {conds : List Content} (plan : w.plan = b.plan)
    (hc : ((es.lookup "item_conditions").getD .null).filledElements = .ok conds)
    (grasps : ∀ cond ∈ conds, b.GraspsItem cond) : ∃ r items notes,
      (Act.ofExcept ((es.lookup "item_conditions").getD .null).filledElements >>=
        moveItems).runOn w = (r, { w with items, notes }) ∧
        (∀ name, (Content.mapping es).namesItem name = false →
          items.get? name = w.items.get? name) ∧
        (Content.areItemConditions true ((es.lookup "item_conditions").getD .null) = true →
          r = .ok () ∧ items = (Content.mapping es).shifts.foldl Roster.shift w.items) := by
  have shifts : (Content.mapping es).shifts = conds := by
    simp only [Content.shifts, Content.get?, hc, Except.toOption, Option.getD_some]
  have finds : ∀ cond ∈ conds, w.FindsItem cond := by
    intro cond mem
    obtain ⟨es, name, e, item, has, -⟩ := grasps cond mem
    exact ⟨es, name, e, item, (has_item_of_plan plan name).trans has⟩
  obtain ⟨r, items, notes, run, frame, told⟩ := moveItems_run finds
  rw [hc]
  refine ⟨r, items, notes, run, fun name unnamed => ?_, fun documented => ?_⟩
  · unfold Content.namesItem at unnamed
    rw [shifts] at unnamed
    exact frame name unnamed
  · rw [shifts]
    refine told fun cond mem => ?_
    have shape := Content.areItemConditions_elements documented hc cond mem
    obtain ⟨es, -, rfl, -⟩ := finds cond mem
    simp only [Content.isItemCondition, Bool.not_true, Bool.false_or, Bool.and_eq_true] at shape
    obtain ⟨location, place, -⟩ := Option.any_eq_true _ _ |>.mp shape.2
    exact Option.isSome_iff_exists.mpr ⟨location, place⟩

/-- A consequence is brought about in three parts: flags, items, and the room of the player. -/
theorem apply_parts (filled : (Content.mapping es).isFilled = true) : apply (.mapping es) =
    ((Act.ofExcept ((es.lookup "flags").getD .null).filledEntries >>= setFlags) >>= fun _ =>
      (Act.ofExcept ((es.lookup "item_conditions").getD .null).filledElements >>= moveItems) >>=
        fun _ => if (Content.mapping es).refreshes then refreshObservation .null false
          else pure ()) := by
  unfold apply
  rw [if_neg (by rw [filled]; exact nofun)]
  simp only [bind_assoc]
  rfl

/-- What is a consequence is brought about part by part. -/
theorem apply_mapping {conds names : List Content} (clean : w.flags.IsClean)
    (plan : w.plan = b.plan) (filled : (Content.mapping es).isFilled = true)
    (hc : ((es.lookup "item_conditions").getD .null).filledElements = .ok conds)
    (items : ∀ cond ∈ conds, b.GraspsItem cond)
    (hn : ((es.lookup "flags").getD .null).filledElements = .ok names)
    (known : ∀ name ∈ names, ∃ f : Flag, name = .text f.word) : ∃ r v,
      (apply (.mapping es)).runOn w = (r, v) ∧ w.Bears (.mapping es) v ∧
        ((Content.mapping es).isDocumented true = true → w.IsPlaced →
          r = .ok () ∧ ∃ notes, v = { w.granted (.mapping es) with notes }) := by
  obtain ⟨r, flags, notes, run, clean', unset, set⟩ := settings_run clean hn known
  obtain ⟨r', items', notes', run', unmoved, moved⟩ :=
    shifts_run (w := { w with flags, notes }) plan hc items
  simp only [apply_parts filled, Content.isDocumented, Bool.and_eq_true]
  cases r with
  | error e =>
      rw [Act.runOn_bind_error run]
      refine ⟨_, _, rfl, ⟨clean', ⟨_, _, _, _, rfl⟩, unset, fun _ _ => rfl, .inl rfl⟩,
        fun documented _ => ?_⟩
      cases (set documented.1).1
  | ok =>
      rw [Act.runOn_bind_ok run]
      cases r' with
      | error e =>
          rw [Act.runOn_bind_error run']
          refine ⟨_, _, rfl, ⟨clean', ⟨_, _, _, _, rfl⟩, unset, unmoved, .inl rfl⟩,
            fun documented _ => ?_⟩
          cases (moved documented.2).1
      | ok =>
          rw [Act.runOn_bind_ok run']
          by_cases anew : (Content.mapping es).refreshes = true
          · rw [if_pos anew]
            obtain ⟨r'', notes'', run'', comes⟩ := refreshObservation_run false
              { w with flags, items := items', notes := notes' }
            rw [run'']
            refine ⟨r'', _, rfl, ⟨clean', ⟨_, _, _, _, rfl⟩, unset, unmoved, .inr rfl⟩,
              fun documented placed => ⟨comes.mpr placed, notes'', ?_⟩⟩
            unfold granted
            rw [if_pos anew, ← (set documented.1).2, ← (moved documented.2).2]
            rfl
          · rw [if_neg anew]
            refine ⟨_, _, rfl, ⟨clean', ⟨_, _, _, _, rfl⟩, unset, unmoved, .inl rfl⟩,
              fun documented _ => ⟨rfl, notes', ?_⟩⟩
            unfold granted
            rw [if_neg anew, ← (set documented.1).2, ← (moved documented.2).2]

end Parts

/-- **A consequence is brought about** as far as it comes. A documented one does exactly what it
    says. -/
theorem apply_cases {b w : World} {effect : Content} (clean : w.flags.IsClean)
    (plan : w.plan = b.plan) (grasps : b.Grasps effect) : ∃ r v,
      (apply effect).runOn w = (r, v) ∧ w.Bears effect v ∧
        (effect.isDocumented true = true → w.IsPlaced →
          r = .ok () ∧ ∃ notes, v = { w.granted effect with notes }) := by
  by_cases filled : effect.isFilled = true
  · rcases grasps with empty | ⟨es, conds, names, rfl, hc, items, hn, known⟩
    · rw [empty] at filled
      cases filled
    · exact apply_mapping clean plan filled hc items hn known
  · have empty : effect.isFilled = false := Bool.eq_false_iff.mpr filled
    unfold apply
    rw [if_pos (by rw [empty]; rfl)]
    refine ⟨.ok (), w, rfl, ⟨clean, ⟨_, _, _, _, rfl⟩, fun _ _ => rfl, fun _ _ => rfl, .inl rfl⟩,
      fun documented _ => ⟨rfl, w.notes, ?_⟩⟩
    rw [granted_empty empty documented]

section Brought

variable {b w : World} {effect : Content} (clean : w.flags.IsClean) (plan : w.plan = b.plan)
  (grasps : b.Grasps effect)

include clean plan grasps

/-- **No consequence touches what it does not name.** -/
theorem brought_bears : w.Bears effect (w.brought effect) := by
  obtain ⟨r, v, run, bears, -⟩ := apply_cases clean plan grasps
  unfold brought
  rw [run]
  exact bears

/-- **A documented consequence does exactly what it says.** -/
theorem brought_granted (documented : effect.isDocumented true = true) (placed : w.IsPlaced) :
    (w.granted effect).Alike (w.brought effect) := by
  obtain ⟨r, v, run, -, told⟩ := apply_cases clean plan grasps
  unfold brought
  rw [run]
  exact (told documented placed).2

end Brought

/-! ## 6. Consequences that move nothing -/

/-- A flag is set to what reads as a truth value, and to nothing else. -/
theorem setFlag_ok_iff {w : World} (plain : w.flags.IsPlain) (f : Flag) (value : Content) :
    ((setFlag f.word value).runOn w).1 = .ok () ↔ value.isTruth = true := by
  have assigned := plain.assign_eq f value
  have asked : (Act.reading fun w : World => w.flags.assign f.word value).runOn w =
      (w.flags.assign f.word value, w) := rfl
  unfold setFlag assignFlag Content.isTruth
  cases read : Reader.bool value with
  | good v =>
      rw [read] at assigned
      rw [Act.runOn_bind, Act.runOn_bind_ok (asked.trans (congrArg (·, w) assigned))]
      exact iff_of_true rfl rfl
  | bad problems =>
      rw [read] at assigned
      rw [Act.runOn_bind, Act.runOn_bind_error (asked.trans (congrArg (·, w) assigned))]
      exact iff_of_false nofun nofun

/-- Flags are set one after the other if every value reads as a truth value. -/
theorem setFlags_ok_iff {es : List (String × Content)}
    (known : ∀ e ∈ es, ∃ f : Flag, e.1 = f.word) : ∀ {w : World}, w.flags.IsPlain →
      (((setFlags es).runOn w).1 = .ok () ↔ (es.all fun e => e.2.isTruth) = true) := by
  induction es with
  | nil => exact fun _ => iff_of_true rfl rfl
  | cons e es ih =>
      intro w plain
      obtain ⟨name, value⟩ := e
      obtain ⟨f, rfl⟩ := known _ List.mem_cons_self
      rw [List.all_cons, Bool.and_eq_true, ← setFlag_ok_iff plain f value]
      unfold setFlags
      rcases setFlag_cases plain f value with ⟨e, run, -⟩ | ⟨v, notes, run, -⟩
      · rw [Act.runOn_bind_error run, run]
        exact iff_of_false nofun fun h => nomatch h.1
      · rw [Act.runOn_bind_ok run, run, and_iff_right rfl]
        exact ih (fun e mem => known e (List.mem_cons_of_mem _ mem)) (plain.set f v)

/-- **A consequence that moves nothing** leaves the items and the player where they are, and comes to
    an end just if its flags can be set. -/
theorem apply_unmoved {b w : World} {effect : Content} (plain : w.flags.IsPlain)
    (placed : w.IsPlaced) (grasps : b.Grasps effect) (unmoved : effect.shifts = []) :
    ∃ r v, (apply effect).runOn w = (r, v) ∧ v.items = w.items ∧ v.current = w.current ∧
      (r = .ok () ↔ effect.setsTruths = true) := by
  by_cases filled : effect.isFilled = true
  · rcases grasps with empty | ⟨es, conds, names, rfl, hc, -, hn, known⟩
    · rw [empty] at filled
      cases filled
    obtain rfl : conds = [] := by
      rw [← unmoved]
      simp only [Content.shifts, Content.get?, hc, Except.toOption, Option.getD_some]
    rw [apply_parts filled, hc]
    unfold Content.setsTruths
    rw [Content.get?]
    cases hf : ((es.lookup "flags").getD .null).filledEntries with
    | error e => exact ⟨_, w, rfl, rfl, rfl, by simp⟩
    | ok fs =>
        have named : ∀ e ∈ fs, ∃ f : Flag, e.1 = f.word := by
          intro e he
          obtain ⟨f, word⟩ := known _ (Content.names_of_filledEntries hf hn e he)
          exact ⟨f, by simpa using word⟩
        obtain ⟨r, flags, notes, run, -⟩ := setFlags_run named plain
        have truths := setFlags_ok_iff named plain
        rw [run] at truths
        rw [← truths]
        have set : (Act.ofExcept (.ok fs) >>= setFlags).runOn w = (r, { w with flags, notes }) := run
        cases r with
        | error e =>
            rw [Act.runOn_bind_error set]
            exact ⟨_, _, rfl, rfl, rfl, Iff.rfl⟩
        | ok =>
            have still : (Act.ofExcept (.ok []) >>= moveItems).runOn { w with flags, notes } =
                (.ok (), { w with flags, notes }) := rfl
            rw [Act.runOn_bind_ok set, Act.runOn_bind_ok still]
            by_cases anew : (Content.mapping es).refreshes = true
            · obtain ⟨r, notes', seen, comes⟩ := refreshObservation_run false { w with flags, notes }
              rw [if_pos anew, seen, comes.mpr placed]
              exact ⟨_, _, rfl, rfl, rfl, Iff.rfl⟩
            · rw [if_neg anew]
              exact ⟨_, _, rfl, rfl, rfl, Iff.rfl⟩
  · have empty : effect.isFilled = false := Bool.eq_false_iff.mpr filled
    unfold apply
    rw [if_pos (by rw [empty]; rfl)]
    refine ⟨.ok (), w, rfl, rfl, rfl, iff_of_true rfl ?_⟩
    cases effect with
    | mapping es =>
        obtain rfl : es = [] := by simpa [Content.isFilled] using empty
        rfl
    | _ => rfl

end World

end Adventure
