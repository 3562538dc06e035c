import Adventure.Proofs.Roster
import Adventure.World.Change

/-!
# The plan of a world: what play cannot change

* `World.plan`: a world without all that play changes of it;
* `plan_updateItem` and the lemmas after it: changes that leave the plan as it is;
* `World.preconditions`, `World.effects`: all conditions and consequences of a world, which stand in
  its plan;
* `World.Alike`: worlds that differ in their notes only.

Two worlds of one adventure have the same plan, so what one of them refers to is there in the other
too.
-/

namespace Adventure

/-! ## 1. The plan -/

def Room.bare (r : Room) : Room := { r with locked := false, updated := false }

def Item.bare (i : Item) : Item :=
  { i with location := .null, active := i.active.map (fun _ => false) }

def Character.bare (c : Character) : Character := { c with health := 0, interacted := false }

def PlayerLine.bare (l : PlayerLine) : PlayerLine := { l with used := false }

def Dialogue.bare (d : Dialogue) : Dialogue := { d with lines := d.lines.map PlayerLine.bare }

namespace World

/-- **The world without all that play changes of it.** -/
def plan (w : World) : World :=
  { w with
    rooms := w.rooms.map Room.bare
    items := w.items.map Item.bare
    characters := w.characters.map Character.bare
    dialogues := w.dialogues.map Dialogue.bare
    flags := {}
    current := .null
    notes := [] }

section SamePlan

variable {w b : World} (h : w.plan = b.plan)

include h

theorem rooms_of_plan : w.rooms.map Room.bare = b.rooms.map Room.bare := congrArg World.rooms h

theorem items_of_plan : w.items.map Item.bare = b.items.map Item.bare := congrArg World.items h

theorem characters_of_plan :
    w.characters.map Character.bare = b.characters.map Character.bare :=
  congrArg World.characters h

theorem dialogues_of_plan : w.dialogues.map Dialogue.bare = b.dialogues.map Dialogue.bare :=
  congrArg World.dialogues h

theorem actions_of_plan : w.actions = b.actions := by
  show w.plan.actions = b.plan.actions
  rw [h]

theorem scenario_of_plan : w.scenario = b.scenario := by
  show w.plan.scenario = b.plan.scenario
  rw [h]

theorem origin_of_plan : w.origin = b.origin := by
  show w.plan.origin = b.plan.origin
  rw [h]

theorem has_room_of_plan (name : String) : w.rooms.has name = b.rooms.has name := by
  rw [← Roster.has_map w.rooms Room.bare, rooms_of_plan h, Roster.has_map]

theorem has_item_of_plan (name : String) : w.items.has name = b.items.has name := by
  rw [← Roster.has_map w.items Item.bare, items_of_plan h, Roster.has_map]

theorem has_character_of_plan (name : String) : w.characters.has name = b.characters.has name := by
  rw [← Roster.has_map w.characters Character.bare, characters_of_plan h, Roster.has_map]

/-- A room of one world is the same room of the other, but for what play changes. -/
theorem room_of_plan {name : String} {r : Room} (hr : w.rooms.get? name = some r) :
    ∃ r', b.rooms.get? name = some r' ∧ r'.bare = r.bare := by
  have e := congrArg (fun rooms => rooms.get? name) (rooms_of_plan h)
  simp only [Roster.get?_map, hr, Option.map_some] at e
  exact Option.map_eq_some_iff.mp e.symm

theorem dialogue_of_plan {name : String} {d : Dialogue}
    (hd : w.dialogues.get? name = some d) :
    ∃ d', b.dialogues.get? name = some d' ∧ d'.bare = d.bare := by
  have e := congrArg (fun dialogues => dialogues.get? name) (dialogues_of_plan h)
  simp only [Roster.get?_map, hd, Option.map_some] at e
  exact Option.map_eq_some_iff.mp e.symm

theorem character_of_plan {name : String} {c : Character}
    (hc : w.characters.get? name = some c) :
    ∃ c', b.characters.get? name = some c' ∧ c'.bare = c.bare := by
  have e := congrArg (fun characters => characters.get? name) (characters_of_plan h)
  simp only [Roster.get?_map, hc, Option.map_some] at e
  exact Option.map_eq_some_iff.mp e.symm

end SamePlan

/-! ## 2. Changes that leave the plan -/

@[simp] theorem plan_flags (w : World) (flags : Flags) : { w with flags }.plan = w.plan := rfl

theorem plan_updateItem {w : World} {name : String} {f : Item → Item}
    (h : ∀ i, w.items.get? name = some i → (f i).bare = i.bare) :
    (w.updateItem name f).plan = w.plan := by
  have e : (w.items.update name f).map Item.bare = w.items.map Item.bare := Roster.map_update_of h
  simp only [plan, updateItem, e]

theorem plan_updateRoom {w : World} {name : String} {f : Room → Room}
    (h : ∀ r, (f r).bare = r.bare) : (w.updateRoom name f).plan = w.plan := by
  have e : (w.rooms.update name f).map Room.bare = w.rooms.map Room.bare :=
    Roster.map_update_of fun r _ => h r
  simp only [plan, updateRoom, e]

theorem plan_updateCharacter {w : World} {name : String} {f : Character → Character}
    (h : ∀ c, (f c).bare = c.bare) : (w.updateCharacter name f).plan = w.plan := by
  have e : (w.characters.update name f).map Character.bare = w.characters.map Character.bare :=
    Roster.map_update_of fun c _ => h c
  simp only [plan, updateCharacter, e]

theorem plan_updateDialogue {w : World} {name : String} {f : Dialogue → Dialogue}
    (h : ∀ d, (f d).bare = d.bare) : (w.updateDialogue name f).plan = w.plan := by
  have e : (w.dialogues.update name f).map Dialogue.bare = w.dialogues.map Dialogue.bare :=
    Roster.map_update_of fun d _ => h d
  simp only [plan, updateDialogue, e]

end World

/-! ## 3. Conditions and consequences -/

/-- The conditions for entering a room, and for its refusals. -/
def Room.preconditions (r : Room) : List Content :=
  match r.entry with
  | none => []
  | some entry => entry.preconditions :: entry.refusals.map Gate.preconditions

/-- What follows from being refused by a room. -/
def Room.effects (r : Room) : List Content :=
  match r.entry with
  | none => []
  | some entry => entry.refusals.map Gate.effect

def Item.preconditions (i : Item) : List Content := i.take.toList.map Gate.preconditions

def Item.effects (i : Item) : List Content := i.take.toList.map Gate.effect

def Dialogue.effects (d : Dialogue) : List Content := d.replies.map Reply.effect

namespace World

/-- **All conditions of a world**: for entering, taking, talking and using. -/
def preconditions (w : World) : List Content :=
  w.rooms.entries.flatMap (fun e => e.2.preconditions) ++
    w.items.entries.flatMap (fun e => e.2.preconditions) ++
    w.characters.entries.map (fun e => e.2.talkPreconditions) ++
    w.actions.map Action.preconditions

/-- **All consequences of a world**: of refusals, of taking, of replies and of using. -/
def effects (w : World) : List Content :=
  w.rooms.entries.flatMap (fun e => e.2.effects) ++
    w.items.entries.flatMap (fun e => e.2.effects) ++
    w.dialogues.entries.flatMap (fun e => e.2.effects) ++
    w.actions.map Action.effect

theorem preconditions_plan (w : World) : w.plan.preconditions = w.preconditions := by
  simp only [preconditions, plan, Roster.map, List.flatMap_map, List.map_map]
  rfl

theorem effects_plan (w : World) : w.plan.effects = w.effects := by
  simp only [effects, plan, Roster.map, List.flatMap_map]
  rfl

/-- **The conditions stand in the plan.** -/
theorem preconditions_of_plan {w b : World} (h : w.plan = b.plan) :
    w.preconditions = b.preconditions := by
  rw [← preconditions_plan w, h, preconditions_plan]

/-- **The consequences stand in the plan.** -/
theorem effects_of_plan {w b : World} (h : w.plan = b.plan) : w.effects = b.effects := by
  rw [← effects_plan w, h, effects_plan]

section Members

variable {w : World} {name : String}

theorem mem_preconditions_of_entry {r : Room} {entry : Entry} (hr : w.rooms.get? name = some r)
    (he : r.entry = some entry) : entry.preconditions ∈ w.preconditions := by
  have mem : (name, r) ∈ w.rooms.entries := w.rooms.mem_entries_iff.mpr hr
  simp only [preconditions, List.mem_append, List.mem_flatMap]
  exact .inl (.inl (.inl ⟨_, mem, by simp [Room.preconditions, he]⟩))

theorem mem_preconditions_of_refusal {r : Room} {entry : Entry} {gate : Gate}
    (hr : w.rooms.get? name = some r) (he : r.entry = some entry) (hg : gate ∈ entry.refusals) :
    gate.preconditions ∈ w.preconditions := by
  have mem : (name, r) ∈ w.rooms.entries := w.rooms.mem_entries_iff.mpr hr
  simp only [preconditions, List.mem_append, List.mem_flatMap]
  refine .inl (.inl (.inl ⟨_, mem, ?_⟩))
  simp only [Room.preconditions, he]
  exact List.mem_cons_of_mem _ (List.mem_map_of_mem hg)

theorem mem_effects_of_refusal {r : Room} {entry : Entry} {gate : Gate}
    (hr : w.rooms.get? name = some r) (he : r.entry = some entry) (hg : gate ∈ entry.refusals) :
    gate.effect ∈ w.effects := by
  have mem : (name, r) ∈ w.rooms.entries := w.rooms.mem_entries_iff.mpr hr
  simp only [effects, List.mem_append, List.mem_flatMap]
  refine .inl (.inl (.inl ⟨_, mem, ?_⟩))
  simp only [Room.effects, he]
  exact List.mem_map_of_mem hg

theorem mem_preconditions_of_take {i : Item} {gate : Gate} (hi : w.items.get? name = some i)
    (hg : i.take = some gate) : gate.preconditions ∈ w.preconditions := by
  have mem : (name, i) ∈ w.items.entries := w.items.mem_entries_iff.mpr hi
  simp only [preconditions, List.mem_append, List.mem_flatMap]
  exact .inl (.inl (.inr ⟨_, mem, by simp [Item.preconditions, hg]⟩))

theorem mem_effects_of_take {i : Item} {gate : Gate} (hi : w.items.get? name = some i)
    (hg : i.take = some gate) : gate.effect ∈ w.effects := by
  have mem : (name, i) ∈ w.items.entries := w.items.mem_entries_iff.mpr hi
  simp only [effects, List.mem_append, List.mem_flatMap]
  exact .inl (.inl (.inr ⟨_, mem, by simp [Item.effects, hg]⟩))

theorem mem_preconditions_of_talk {c : Character} (hc : w.characters.get? name = some c) :
    c.talkPreconditions ∈ w.preconditions := by
  have mem : (name, c) ∈ w.characters.entries := w.characters.mem_entries_iff.mpr hc
  simp only [preconditions, List.mem_append]
  exact .inl (.inr (List.mem_map_of_mem (f := fun e => e.2.talkPreconditions) mem))

theorem mem_effects_of_reply {d : Dialogue} {reply : Reply}
    (hd : w.dialogues.get? name = some d) (hr : reply ∈ d.replies) :
    reply.effect ∈ w.effects := by
  have mem : (name, d) ∈ w.dialogues.entries := w.dialogues.mem_entries_iff.mpr hd
  simp only [effects, List.mem_append, List.mem_flatMap]
  exact .inl (.inr ⟨_, mem, List.mem_map_of_mem hr⟩)

theorem mem_preconditions_of_action {a : Action} (ha : a ∈ w.actions) :
    a.preconditions ∈ w.preconditions :=
  List.mem_append_right _ (List.mem_map_of_mem ha)

theorem mem_effects_of_action {a : Action} (ha : a ∈ w.actions) : a.effect ∈ w.effects :=
  List.mem_append_right _ (List.mem_map_of_mem ha)

end Members

/-! ## 4. Worlds that differ in their notes only -/

/-- The worlds differ in their notes only. -/
def Alike (w v : World) : Prop := ∃ notes, v = { w with notes }

theorem Alike.refl (w : World) : w.Alike w := ⟨w.notes, rfl⟩

theorem Alike.symm {w v : World} (h : w.Alike v) : v.Alike w := by
  obtain ⟨notes, rfl⟩ := h
  exact ⟨w.notes, rfl⟩

theorem Alike.trans {w v u : World} (h : w.Alike v) (k : v.Alike u) : w.Alike u := by
  obtain ⟨notes, rfl⟩ := h
  obtain ⟨notes', rfl⟩ := k
  exact ⟨notes', rfl⟩

theorem alike_noted (note : String) (w : World) : w.Alike (w.noted note) := ⟨_, rfl⟩

end World

end Adventure
