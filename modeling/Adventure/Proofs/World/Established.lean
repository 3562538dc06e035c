import Adventure.Proofs.World.Consequence
import Adventure.Proofs.World.Questions
import Mathlib.Data.List.Nodup

/-!
# What a consequence says is so afterwards

* `Content.isConsequence`: the documented shape of a consequence, whose places may be missing too;
* `World.Grants`: flags and items of the consequence exist, and each is named once;
* `Content.setting?`, `Content.destination?`: the value of a flag and the place of an item in it;
* `get_settles`, `get?_shifts`: flags and items afterwards, looked up one by one;
* `apply_granted`: the world that the consequence asks for is reached, whatever the place of the
  player is;
* `holds_granted`: **the condition with the same flags and item conditions holds in it**;
* `granted_granted`: it asks for nothing more there;
* `World.Fulfils`, `apply_fulfils`: **a consequence establishes what it says, once and only that**.

Conditions and consequences are read by different functions (`holds`, `apply`). That they agree
needs that no item is named twice: the second place would undo the first.
-/

namespace Adventure

open Outcome

/-! ## 1. The shape of a consequence -/

namespace Content

/-- A truth value. -/
def truth? : Content → Option Bool
  | .bool v => some v
  | _ => none

/-- A place as a consequence may name it: a text, the mark of the inventory, or none. -/
def isWhereabouts : Content → Bool
  | .text _ => true
  | .inventory => true
  | .null => true
  | _ => false

/-- An item condition with an item and a place. -/
def isShift : Content → Bool
  | .mapping es => (es.lookup "item").any (fun item => item.text?.isSome) &&
      (es.lookup "location").any isWhereabouts
  | _ => false

/-- Item conditions that move their items, or nothing. -/
def areShifts : Content → Bool
  | .null => true
  | .list conds => conds.all isShift
  | _ => false

/-- **The documented shape of a consequence.** -/
def isConsequence : Content → Bool
  | .null => true
  | .mapping es => isFlagTable ((es.lookup "flags").getD .null) &&
      areShifts ((es.lookup "item_conditions").getD .null)
  | _ => false

/-- The condition with the flags and the item conditions of a consequence. -/
def asCondition (effect : Content) : Content :=
  .mapping [("flags", (effect.get? "flags").getD .null),
    ("item_conditions", (effect.get? "item_conditions").getD .null)]

/-- The value that a consequence gives to a flag. -/
def setting? (effect : Content) (f : Flag) : Option Bool :=
  (effect.settings.lookup f.word).bind truth?

/-- The place of an item in item conditions. -/
def destinationIn? (conds : List Content) (name : String) : Option Content :=
  (conds.find? (fun cond => cond.get? "item" == some (.text name))).bind
    (fun cond => cond.get? "location")

/-- The place to which a consequence moves an item. -/
def destination? (effect : Content) (name : String) : Option Content :=
  destinationIn? effect.shifts name

theorem isShift_iff {cond : Content} : cond.isShift = true ↔ ∃ es name location,
    cond = .mapping es ∧ es.lookup "item" = some (.text name) ∧
      es.lookup "location" = some location ∧ location.isWhereabouts = true := by
  cases cond with
  | mapping es =>
      simp only [isShift, Bool.and_eq_true, Option.any_eq_true, mapping.injEq]
      constructor
      · rintro ⟨⟨item, he, text⟩, location, hl, place⟩
        cases item with
        | text name => exact ⟨es, name, location, rfl, he, hl, place⟩
        | null | bool | int | float | inventory | list | mapping => cases text
      · rintro ⟨_, name, location, rfl, he, hl, place⟩
        exact ⟨⟨_, he, rfl⟩, location, hl, place⟩
  | null | bool | int | float | text | inventory | list => simp [isShift]

theorem same_of_isWhereabouts {place : Content} (h : place.isWhereabouts = true) :
    place.same place = true := by
  cases place with
  | text s => exact (same_text s _).mpr rfl
  | inventory => rfl
  | null => rfl
  | bool | int | float | list | mapping => cases h

section

variable {effect : Content} (shape : effect.isConsequence = true)

include shape

/-- The flags of a consequence are walked through, and have truth values. -/
theorem settings_told : ((effect.get? "flags").getD .null).filledEntries = .ok effect.settings ∧
    ∀ e ∈ effect.settings, ∃ v, e.2 = .bool v := by
  have table : isFlagTable ((effect.get? "flags").getD .null) = true := by
    cases effect with
    | null => rfl
    | mapping es => exact (Bool.and_eq_true_iff.mp shape).1
    | bool | int | float | text | inventory | list => cases shape
  obtain ⟨es, told, -, truths⟩ := isFlagTable_entries table
  have settings : effect.settings = es := by
    simp only [Content.settings, told, Except.toOption, Option.getD_some]
  rw [settings]
  exact ⟨told, truths⟩

/-- The item conditions of a consequence are walked through, and move their items. -/
theorem shifts_told :
    ((effect.get? "item_conditions").getD .null).filledElements = .ok effect.shifts ∧
      ∀ cond ∈ effect.shifts, cond.isShift = true := by
  have conditions : areShifts ((effect.get? "item_conditions").getD .null) = true := by
    cases effect with
    | null => rfl
    | mapping es => exact (Bool.and_eq_true_iff.mp shape).2
    | bool | int | float | text | inventory | list => cases shape
  unfold Content.shifts
  cases h : (effect.get? "item_conditions").getD .null with
  | null => exact ⟨rfl, fun _ mem => absurd mem List.not_mem_nil⟩
  | list conds =>
      rw [h] at conditions
      cases conds with
      | nil => exact ⟨rfl, fun _ mem => absurd mem List.not_mem_nil⟩
      | cons cond conds => exact ⟨rfl, List.all_eq_true.mp conditions⟩
  | bool | int | float | text | inventory | mapping =>
      rw [h] at conditions
      cases conditions

end

end Content

/-- **A consequence that a world can grant**: it has the documented shape, its flags and its items
    exist, and none of them is named twice. -/
structure World.Grants (w : World) (effect : Content) : Prop where
  shape : effect.isConsequence = true
  flags : ∀ e ∈ effect.settings, ∃ f : Flag, e.1 = f.word
  flagsOnce : (effect.settings.map Prod.fst).Nodup
  items : ∀ cond ∈ effect.shifts, ∀ name, cond.get? "item" = some (.text name) →
    w.items.has name = true
  itemsOnce : (effect.shifts.map (fun cond => cond.get? "item")).Nodup

/-! ## 2. Flags and items afterwards -/

theorem Flag.word_inj {f g : Flag} (h : f.word = g.word) : f = g := by
  have words := congrArg Flag.ofWord? h
  rw [Flag.ofWord?_word, Flag.ofWord?_word] at words
  exact Option.some.inj words

/-- **A flag afterwards**: it has the value that it is given, or the one it had. -/
theorem Flags.get_settles {es : List (String × Content)}
    (told : ∀ e ∈ es, ∃ f : Flag, ∃ v, e = (f.word, .bool v)) (once : (es.map Prod.fst).Nodup)
    (fs : Flags) (f : Flag) : (es.foldl Flags.settle fs).get f =
      ((es.lookup f.word).bind Content.truth?).getD (fs.get f) := by
  induction es generalizing fs with
  | nil => rfl
  | cons e es ih =>
      obtain ⟨g, v, rfl⟩ := told e (List.mem_cons_self ..)
      rw [List.map_cons, List.nodup_cons] at once
      have set : fs.settle (g.word, .bool v) = fs.set g v := by
        simp only [Flags.settle, Flag.ofWord?_word]
      rw [List.foldl_cons, set,
        ih (fun e mem => told e (List.mem_cons_of_mem _ mem)) once.2 (fs.set g v), Flags.get_set]
      by_cases same : f = g
      · -- the flag is not named again
        subst same
        rw [if_pos rfl, lookup_of_fresh once.1]
        simp [Content.truth?]
      · have other : (f.word == g.word) = false := by
          simpa using fun word => same (Flag.word_inj word)
        rw [if_neg same, List.lookup_cons, other]

/-- **An item afterwards**: it is where it is moved to, or where it was. -/
theorem Roster.get?_shifts {conds : List Content} (shifts : ∀ cond ∈ conds, cond.isShift = true)
    (once : (conds.map (fun cond => cond.get? "item")).Nodup) (items : Roster Item)
    (name : String) : (conds.foldl Roster.shift items).get? name =
      (items.get? name).map (fun i =>
        { i with location := (Content.destinationIn? conds name).getD i.location }) := by
  induction conds generalizing items with
  | nil => exact Option.map_id'.symm
  | cons cond conds ih =>
      obtain ⟨es, other, location, rfl, item, place, -⟩ :=
        Content.isShift_iff.mp (shifts cond (List.mem_cons_self ..))
      rw [List.map_cons, List.nodup_cons] at once
      have moved : items.shift (.mapping es) =
          items.update other (fun i => { i with location }) := by
        simp only [Roster.shift, Content.get?, item, place]
      rw [List.foldl_cons, moved, ih (fun cond mem => shifts cond (List.mem_cons_of_mem _ mem)) once.2,
        Roster.get?_update, Option.map_map]
      unfold Content.destinationIn?
      simp only [List.find?_cons, Content.get?, item]
      by_cases same : name = other
      · -- the item is not named again
        subst same
        have unnamed : conds.find? (fun cond => cond.get? "item" == some (.text name)) = none := by
          refine List.find?_eq_none.mpr fun cond mem named => once.1 ?_
          rw [Content.get?, item, ← eq_of_beq named]
          exact List.mem_map_of_mem mem
        simp only [Content.get?] at unnamed
        simp [unnamed, place, Function.comp_def]
      · have ne : (some (Content.text other) == some (.text name)) = false := by
          simpa using fun e => same e.symm
        simp [ne, same, Function.comp_def]

namespace World

variable {w : World} {effect : Content}

/-! ## 3. The world that a consequence asks for -/

theorem flags_granted (grants : w.Grants effect) (f : Flag) :
    (w.granted effect).flags.get f = (effect.setting? f).getD (w.flags.get f) := by
  have flags : (w.granted effect).flags = effect.settings.foldl Flags.settle w.flags := by
    unfold granted
    split
    · rfl
    · rfl
  rw [flags]
  refine Flags.get_settles (fun e mem => ?_) grants.flagsOnce w.flags f
  obtain ⟨g, word⟩ := grants.flags e mem
  obtain ⟨v, value⟩ := (Content.settings_told grants.shape).2 e mem
  exact ⟨g, v, Prod.ext word value⟩

theorem items_granted (grants : w.Grants effect) (name : String) :
    (w.granted effect).items.get? name = (w.items.get? name).map (fun i =>
      { i with location := (effect.destination? name).getD i.location }) := by
  have items : (w.granted effect).items = effect.shifts.foldl Roster.shift w.items := by
    unfold granted
    split
    · rfl
    · rfl
  rw [items]
  exact Roster.get?_shifts (Content.shifts_told grants.shape).2 grants.itemsOnce w.items name

/-- The observation of the player's room begins to count if the consequence says so and the room
    waits for an event; all else about rooms is as before. -/
theorem rooms_granted (w : World) (effect : Content) (name : String) :
    (w.granted effect).rooms.get? name = (w.rooms.get? name).map (fun r =>
      { r with updated := r.updated ||
          (effect.refreshes && decide (w.current = .text name ∧ r.reason = .event)) }) := by
  have still (f : Room → Room) (h : ∀ r, f r = r) :
      w.rooms.get? name = (w.rooms.get? name).map f := by
    rw [funext h]
    exact Option.map_id'.symm
  by_cases anew : effect.refreshes = true
  · have rooms : (w.granted effect).rooms = (w.refreshed false).rooms := by
      unfold granted
      rw [if_pos anew]
      rfl
    rw [rooms, anew]
    unfold refreshed
    by_cases here : w.current = .text name
    · simp only [here, Roster.get?_update, true_and, Bool.true_and]
      refine congrArg (fun f => Option.map f (w.rooms.get? name)) (funext fun r => ?_)
      by_cases waits : r.reason = .event
      · simp [waits]
      · simp [waits]
    · simp only [here, false_and, decide_false, Bool.and_false, Bool.or_false]
      split
      · next other current =>
          have ne : name ≠ other := fun e => here (by rw [current, e])
          rw [Roster.get?_update_ne _ ne]
          exact still _ fun _ => rfl
      · exact still _ fun _ => rfl
  · have rooms : (w.granted effect).rooms = w.rooms := by
      unfold granted
      rw [if_neg anew]
    rw [rooms]
    exact still _ fun r => by simp [anew]

theorem names_granted (w : World) (effect : Content) :
    (w.granted effect).items.names = w.items.names ∧
      (w.granted effect).rooms.names = w.rooms.names := by
  have shifts (conds : List Content) (items : Roster Item) :
      (conds.foldl Roster.shift items).names = items.names := by
    induction conds generalizing items with
    | nil => rfl
    | cons cond conds ih =>
        rw [List.foldl_cons, ih]
        unfold Roster.shift
        split
        · exact Roster.names_update ..
        · rfl
  have rooms (w : World) : (w.refreshed false).rooms.names = w.rooms.names := by
    unfold refreshed
    split
    · exact Roster.names_update ..
    · rfl
  unfold granted
  split
  · exact ⟨shifts _ _, rooms _⟩
  · exact ⟨shifts _ _, rfl⟩

theorem plain_granted (plain : w.flags.IsPlain) (effect : Content) :
    (w.granted effect).flags.IsPlain ∧ (w.granted effect).flags.remarks = w.flags.remarks := by
  have settles (es : List (String × Content)) (fs : Flags) (plain : fs.IsPlain) :
      (es.foldl Flags.settle fs).IsPlain ∧ (es.foldl Flags.settle fs).remarks = fs.remarks := by
    induction es generalizing fs with
    | nil => exact ⟨plain, rfl⟩
    | cons e es ih =>
        rw [List.foldl_cons]
        unfold Flags.settle
        split
        · next f v _ _ =>
            obtain ⟨plain', remarks⟩ := ih _ (plain.set f v)
            exact ⟨plain', remarks.trans (Flags.remarks_set ..)⟩
        · exact ih _ plain
  unfold granted
  split
  · exact settles _ _ plain
  · exact settles _ _ plain

/-- A consequence is about flags, items and rooms. -/
theorem granted_eq (w : World) (effect : Content) : w.granted effect =
    { w with
      flags := (w.granted effect).flags
      items := (w.granted effect).items
      rooms := (w.granted effect).rooms } := by
  unfold granted
  split
  · rfl
  · rfl

/-! ## 4. It is reached -/

theorem Grants.finds (grants : w.Grants effect) : ∀ cond ∈ effect.shifts, w.FindsItem cond := by
  intro cond mem
  obtain ⟨es, name, -, rfl, item, -⟩ :=
    Content.isShift_iff.mp ((Content.shifts_told grants.shape).2 cond mem)
  exact ⟨es, name, rfl, item, grants.items _ mem name item⟩

/-- **The world that a consequence asks for is reached.** A fault comes of it only where the room of
    the player is to be seen anew and there is none. -/
theorem apply_granted (plain : w.flags.IsPlain) (grants : w.Grants effect) :
    ∃ r notes, (apply effect).runOn w = (r, { w.granted effect with notes }) ∧
      (r = .ok () ↔ (effect.refreshes = true → w.IsPlaced)) := by
  by_cases filled : effect.isFilled = true
  · cases effect with
    | mapping es =>
        obtain ⟨told, truths⟩ := Content.settings_told grants.shape
        obtain ⟨walked, shifts⟩ := Content.shifts_told grants.shape
        simp only [Content.get?] at told walked
        obtain ⟨r, flags, notes, run, -, -, set⟩ := setFlags_run grants.flags plain
        obtain ⟨rfl, hf⟩ := set truths
        obtain ⟨r, items, notes', run', -, moved⟩ := moveItems_run (w := { w with flags, notes })
          grants.finds
        obtain ⟨rfl, hi⟩ := moved fun cond mem => by
          obtain ⟨es, -, location, rfl, -, place, -⟩ := Content.isShift_iff.mp (shifts cond mem)
          exact Option.isSome_iff_exists.mpr ⟨location, place⟩
        rw [apply_parts filled, Act.runOn_bind_ok (by rw [told]; exact run),
          Act.runOn_bind_ok (by rw [walked]; exact run')]
        subst hf hi
        unfold granted
        by_cases anew : (Content.mapping es).refreshes = true
        · rw [if_pos anew, if_pos anew]
          obtain ⟨r, notes'', seen, comes⟩ := refreshObservation_run false
            { w with
              flags := (Content.mapping es).settings.foldl Flags.settle w.flags
              items := (Content.mapping es).shifts.foldl Roster.shift w.items
              notes := notes' }
          exact ⟨r, notes'', seen, comes.trans ⟨fun placed _ => placed, fun h => h anew⟩⟩
        · rw [if_neg anew, if_neg anew]
          exact ⟨.ok (), notes', rfl, fun _ h => absurd h anew, fun _ => rfl⟩
    | null => cases filled
    | bool | int | float | text | inventory | list => cases grants.shape
  · have empty : effect = .null ∨ effect = .mapping [] := by
      cases effect with
      | null => exact .inl rfl
      | mapping es =>
          cases es with
          | nil => exact .inr rfl
          | cons => exact absurd rfl filled
      | bool | int | float | text | inventory | list => cases grants.shape
    rcases empty with rfl | rfl
    · exact ⟨.ok (), w.notes, rfl, fun _ anew => absurd anew Bool.false_ne_true, fun _ => rfl⟩
    · exact ⟨.ok (), w.notes, rfl, fun _ anew => absurd anew Bool.false_ne_true, fun _ => rfl⟩

/-! ## 5. What it says is so -/

theorem itemConditionsHold_of {conds : List Content}
    (h : ∀ cond ∈ conds, w.itemConditionHolds cond = .ok true) :
    w.itemConditionsHold conds = .ok true := by
  induction conds with
  | nil => rfl
  | cons cond conds ih =>
      unfold itemConditionsHold
      rw [h cond (List.mem_cons_self ..)]
      exact ih fun cond mem => h cond (List.mem_cons_of_mem _ mem)

theorem flagsHold_of {es : List (String × Content)}
    (h : ∀ e ∈ es, w.flagHolds e.1 e.2 = .ok true) : w.flagsHold es = .ok true := by
  induction es with
  | nil => rfl
  | cons e es ih =>
      unfold flagsHold
      rw [h e (List.mem_cons_self ..)]
      exact ih fun e mem => h e (List.mem_cons_of_mem _ mem)

/-- An item is where a consequence has moved it. -/
theorem itemConditionHolds_granted (grants : w.Grants effect) {cond : Content}
    (mem : cond ∈ effect.shifts) : (w.granted effect).itemConditionHolds cond = .ok true := by
  obtain ⟨es, name, location, rfl, item, place, whereabouts⟩ :=
    Content.isShift_iff.mp ((Content.shifts_told grants.shape).2 cond mem)
  obtain ⟨i, there⟩ := (Roster.has_iff _).mp (grants.items _ mem name item)
  have first : effect.shifts.find? (fun cond => cond.get? "item" == some (.text name)) =
      some (.mapping es) := by
    cases found : effect.shifts.find? (fun cond => cond.get? "item" == some (.text name)) with
    | none =>
        have unnamed := List.find?_eq_none.mp found _ mem
        simp [Content.get?, item] at unnamed
    | some cond =>
        -- no other condition names the item
        have named : cond.get? "item" = some (.text name) := by
          simpa using List.find?_some found
        refine congrArg some (List.inj_on_of_nodup_map grants.itemsOnce
          (List.mem_of_find?_eq_some found) mem ?_)
        exact named.trans item.symm
  have moved : (w.granted effect).items.get? name = some { i with location } := by
    have destination : effect.destination? name = some location := by
      rw [Content.destination?, Content.destinationIn?, first]
      exact place
    rw [items_granted grants, there, destination]
    rfl
  unfold itemConditionHolds
  simp only [Content.entries, item, place, Option.getD_some, Roster.find, Content.asName_text,
    Except.map, Option.bind_some, moved, bind, Except.bind, pure, Except.pure,
    Content.same_of_isWhereabouts whereabouts, Bool.or_true]

/-- A flag has the value that a consequence has given to it. -/
theorem flagHolds_granted (plain : w.flags.IsPlain) (grants : w.Grants effect)
    {e : String × Content} (mem : e ∈ effect.settings) :
    (w.granted effect).flagHolds e.1 e.2 = .ok true := by
  obtain ⟨name, value⟩ := e
  obtain ⟨f, word⟩ := grants.flags _ mem
  obtain ⟨v, truth⟩ := (Content.settings_told grants.shape).2 _ mem
  simp only at word truth
  subst word truth
  have set : (w.granted effect).flags.get f = v := by
    rw [flags_granted grants, Content.setting?, lookup_of_mem grants.flagsOnce mem]
    rfl
  unfold flagHolds
  rw [(plain_granted plain effect).1.holding f, set]
  cases v with
  | true => rfl
  | false => rfl

/-- **The condition with the flags and item conditions of a consequence holds** in the world that it
    asks for. -/
theorem holds_granted (plain : w.flags.IsPlain) (grants : w.Grants effect) :
    (w.granted effect).holds effect.asCondition = .ok true := by
  have told := (Content.settings_told grants.shape).1
  have walked := (Content.shifts_told grants.shape).1
  have items : (w.granted effect).itemConditionsHold effect.shifts = .ok true :=
    itemConditionsHold_of fun cond mem => itemConditionHolds_granted grants mem
  have flags : (w.granted effect).flagsHold effect.settings = .ok true :=
    flagsHold_of fun e mem => flagHolds_granted plain grants mem
  unfold holds Content.asCondition
  simp [Content.isFilled, Content.entries, List.lookup_cons, placeHolds, told, walked, items, flags,
    bind, Except.bind]

/-! ## 6. It asks for nothing more -/

/-- Whether a consequence can be granted depends on the names of the items. -/
theorem Grants.of_names {v : World} (grants : w.Grants effect)
    (names : v.items.names = w.items.names) : v.Grants effect where
  shape := grants.shape
  flags := grants.flags
  flagsOnce := grants.flagsOnce
  items := fun cond mem name item => by
    rw [← Roster.mem_names_iff, names, Roster.mem_names_iff]
    exact grants.items cond mem name item
  itemsOnce := grants.itemsOnce

theorem Grants.granted (grants : w.Grants effect) : (w.granted effect).Grants effect :=
  grants.of_names (names_granted w effect).1

/-- **A consequence asks for nothing more** in the world that it has asked for. -/
theorem granted_granted (plain : w.flags.IsPlain) (grants : w.Grants effect) :
    (w.granted effect).granted effect = w.granted effect := by
  obtain ⟨plain₁, remarks₁⟩ := plain_granted plain effect
  obtain ⟨plain₂, remarks₂⟩ := plain_granted plain₁ effect
  have flags : ((w.granted effect).granted effect).flags = (w.granted effect).flags := by
    refine Flags.ext_get (fun f => ?_) remarks₂ (plain₂.1.trans plain₁.1.symm)
      (plain₂.2.trans plain₁.2.symm)
    rw [flags_granted grants.granted, flags_granted grants]
    cases effect.setting? f with
    | none => rfl
    | some v => rfl
  have items : ((w.granted effect).granted effect).items = (w.granted effect).items := by
    refine Roster.ext_get? (names_granted _ effect).1 fun name => ?_
    rw [items_granted grants.granted, items_granted grants, Option.map_map]
    cases effect.destination? name with
    | none => rfl
    | some location => rfl
  have current : (w.granted effect).current = w.current := by rw [granted_eq]
  have rooms : ((w.granted effect).granted effect).rooms = (w.granted effect).rooms := by
    refine Roster.ext_get? (names_granted _ effect).2 fun name => ?_
    rw [rooms_granted, rooms_granted, current, Option.map_map]
    refine congrArg (fun f => Option.map f (w.rooms.get? name)) (funext fun r => ?_)
    simp only [Function.comp_apply, Bool.or_assoc, Bool.or_self]
  rw [granted_eq (w.granted effect), flags, items, rooms]

/-! ## 7. Once and only that -/

/-- **What is so when a consequence was brought about**, and what is as before. -/
structure Fulfils (effect : Content) (w v : World) : Prop where
  /-- The condition with its flags and item conditions holds. -/
  holds : v.holds effect.asCondition = .ok true
  /-- Flags that it does not name are as before. -/
  flags : ∀ f, effect.namesFlag f = false → v.flags.get f = w.flags.get f
  /-- Nothing that is no flag is put among them. -/
  remarks : v.flags.IsPlain ∧ v.flags.remarks = w.flags.remarks
  /-- Of an item at most the place is another one, and that only if the item is named. -/
  items : ∀ name i, w.items.get? name = some i → ∃ location,
    v.items.get? name = some { i with location } ∧
      (effect.namesItem name = false → location = i.location)
  /-- Of a room at most the observation is switched, and that only if it is the player's room. -/
  rooms : ∀ name r, w.rooms.get? name = some r → ∃ updated,
    v.rooms.get? name = some { r with updated } ∧
      (updated = true ↔ r.updated = true ∨
        (effect.refreshes = true ∧ w.current = .text name ∧ r.reason = .event))
  /-- There are no other items and rooms than before. -/
  names : v.items.names = w.items.names ∧ v.rooms.names = w.rooms.names
  /-- All else is as before, but for notes. -/
  rest : ∃ flags items rooms notes, v = { w with flags, items, rooms, notes }

theorem setting?_unnamed {f : Flag} (unnamed : effect.namesFlag f = false) :
    effect.setting? f = none := by
  rw [Content.namesFlag_eq, List.any_eq_false] at unnamed
  have fresh : effect.settings.lookup f.word = none :=
    List.lookup_eq_none_iff.mpr fun e mem => by
      simpa using fun word : f.word = e.1 => unnamed e mem (by rw [word]; exact beq_self_eq_true _)
  rw [Content.setting?, fresh]
  rfl

theorem destination?_unnamed {name : String} (unnamed : effect.namesItem name = false) :
    effect.destination? name = none := by
  unfold Content.namesItem at unnamed
  rw [List.any_eq_false] at unnamed
  rw [Content.destination?, Content.destinationIn?, List.find?_eq_none.mpr unnamed]
  rfl

theorem granted_fulfils (plain : w.flags.IsPlain) (grants : w.Grants effect)
    (notes : List String) : w.Fulfils effect { w.granted effect with notes } where
  holds := by
    rw [holds_notes]
    exact holds_granted plain grants
  flags := fun f unnamed => by
    show (w.granted effect).flags.get f = _
    rw [flags_granted grants, setting?_unnamed unnamed]
    rfl
  remarks := plain_granted plain effect
  items := fun name i there => by
    refine ⟨(effect.destination? name).getD i.location, ?_, fun unnamed => ?_⟩
    · show (w.granted effect).items.get? name = _
      rw [items_granted grants, there]
      rfl
    · rw [destination?_unnamed unnamed]
      rfl
  rooms := fun name r there => by
    refine ⟨_, (rooms_granted w effect name).trans (by rw [there]; rfl), ?_⟩
    simp only [Bool.or_eq_true, Bool.and_eq_true, decide_eq_true_eq]
  names := names_granted w effect
  rest := ⟨_, _, _, _, by rw [granted_eq]⟩

/-- **A consequence establishes what it says, once and only that**, if nothing but its flags and
    remarks has been touched of the flags. It may be brought about again, and nothing changes. -/
theorem apply_fulfils (plain : w.flags.IsPlain) (grants : w.Grants effect) :
    ∃ r v, (apply effect).runOn w = (r, v) ∧
      (r = .ok () ↔ (effect.refreshes = true → w.IsPlaced)) ∧ w.Fulfils effect v ∧
      ∃ r' u, (apply effect).runOn v = (r', u) ∧ (r' = .ok () ↔ r = .ok ()) ∧ v.Alike u := by
  obtain ⟨r, notes, run, comes⟩ := apply_granted plain grants
  refine ⟨r, _, run, comes, granted_fulfils plain grants notes, ?_⟩
  obtain ⟨r', notes', again, comes'⟩ := apply_granted (w := { w.granted effect with notes })
    (plain_granted plain effect).1 (grants.granted.of_names rfl)
  refine ⟨r', _, again, ?_, ?_⟩
  · have placed : { w.granted effect with notes }.IsPlaced ↔ w.IsPlaced := by
      unfold IsPlaced
      simp only [← Roster.mem_names_iff, (names_granted w effect).2]
      rw [granted_eq]
    rw [comes, comes', placed]
  · obtain ⟨more, same⟩ := granted_alike (w := w.granted effect) ⟨notes, rfl⟩ effect
    rw [granted_granted plain grants] at same
    exact ⟨notes', by rw [same]⟩

/-! ## 8. A case -/

namespace Loft

/-- A loft that waits for an event, with a lamp and a stone. -/
def world : World where
  rooms := ⟨[("loft", { name := "Loft", description := "", reason := .event })], by decide⟩
  items := ⟨[("lamp", { name := "lamp", location := .text "loft" }),
    ("stone", { name := "stone", location := .inventory })], by decide⟩
  characters := .empty
  dialogues := .empty
  actions := []
  scenario := {}
  flags := {}
  current := .text "loft"
  intro := .text ""
  origin := ⟨[], [], [], {}⟩
  notes := []

/-- The ground is dug up: the lamp is taken, and the stone is gone. -/
def dig : Content :=
  .mapping
    [("flags", .mapping [("ground_dug", .bool true)]),
     ("item_conditions", .list
       [.mapping [("item", .text "lamp"), ("location", .inventory)],
        .mapping [("item", .text "stone"), ("location", .null)]]),
     ("refresh_observation", .bool true)]

theorem grants : world.Grants dig where
  shape := by decide
  flags := fun e mem => by
    rw [List.mem_singleton.mp mem]
    exact ⟨.groundDug, rfl⟩
  flagsOnce := by decide
  items := fun cond mem name item => by
    rcases List.mem_cons.mp mem with rfl | mem
    · cases item
      rfl
    · rw [List.mem_singleton.mp mem] at item
      cases item
      rfl
  itemsOnce := by decide

end Loft

/-- Digging in the loft establishes what it says. -/
theorem apply_fulfils_loft : ∃ v, (apply Loft.dig).runOn Loft.world = (.ok (), v) ∧
    Loft.world.Fulfils Loft.dig v := by
  obtain ⟨r, v, run, comes, fulfils, -⟩ :=
    apply_fulfils (w := Loft.world) ⟨rfl, rfl⟩ Loft.grants
  obtain rfl := comes.mpr fun _ => ⟨"loft", rfl, rfl⟩
  exact ⟨v, run, fulfils⟩

end World

end Adventure
