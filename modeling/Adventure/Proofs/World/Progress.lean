import Adventure.Proofs.World.Grown

/-!
# What play does not take back

* `Roster.Advances`: what stands in a roster stands in another one too, as far as it has come;
* `Room.Advances`, `Character.Advances`: a room that was unlocked or seen anew stays so, a character
  that was talked to stays so, and healths only go down, and only that of the antagonist;
* `World.Advances`: all this and the lines of dialogues together;
* `advances_deed`: **whatever a line does, the world advances**.
-/

namespace Adventure

/-! ## 1. Rosters -/

namespace Roster

variable {α : Type} {R : String → α → α → Prop} {r r' r'' : Roster α} {name : String}

/-- **Every entry of a roster has come as far** as it stands in another one. -/
def Advances (R : String → α → α → Prop) (r r' : Roster α) : Prop :=
  ∀ name a, r.get? name = some a → ∃ a', r'.get? name = some a' ∧ R name a a'

theorem advances_refl (same : ∀ name a, R name a a) (r : Roster α) : r.Advances R r :=
  fun name a there => ⟨a, there, same name a⟩

theorem Advances.trans (comes : ∀ {name a a' a''}, R name a a' → R name a' a'' → R name a a'')
    (h : r.Advances R r') (k : r'.Advances R r'') : r.Advances R r'' := by
  intro name a there
  obtain ⟨a', there', step⟩ := h name a there
  obtain ⟨a'', there'', step'⟩ := k name a' there'
  exact ⟨a'', there'', comes step step'⟩

/-- A change of one entry, which comes as far. -/
theorem advances_update (same : ∀ name a, R name a a) {f : α → α}
    (step : ∀ a, r.get? name = some a → R name a (f a)) : r.Advances R (r.update name f) := by
  intro other a there
  by_cases here : other = name
  · subst here
    exact ⟨f a, get?_update_self there f, step a there⟩
  · exact ⟨a, (get?_update_ne r here f).trans there, same other a⟩

end Roster

/-! ## 2. Rooms, characters and dialogues -/

/-- **A room as far as it has come**: it is not locked again, and what was seen anew stays. -/
structure Room.Advances (before r : Room) : Prop where
  unlocked : before.locked = false → r.locked = false
  updated : before.updated = true → r.updated = true

theorem Room.Advances.refl (r : Room) : r.Advances r := ⟨id, id⟩

theorem Room.Advances.trans {r r' r'' : Room} (h : r.Advances r') (k : r'.Advances r'') :
    r.Advances r'' :=
  ⟨fun e => k.unlocked (h.unlocked e), fun e => k.updated (h.updated e)⟩

/-- A number for health that has gone down, but not below zero. -/
def Figure.Sinks (before f : Figure) : Prop :=
  ∃ n k : Int, before = .number n ∧ f = .number k ∧ k ≤ n ∧ (0 ≤ n → 0 ≤ k)

theorem Figure.Sinks.trans {f g h : Figure} (s : f.Sinks g) (t : g.Sinks h) : f.Sinks h := by
  obtain ⟨n, k, rfl, rfl, less, above⟩ := s
  obtain ⟨_, l, e, rfl, less', above'⟩ := t
  cases e
  exact ⟨n, l, rfl, rfl, Int.le_trans less' less, fun pos => above' (above pos)⟩

/-- **A character as far as it has come**: whoever was talked to stays so, and only who is `hunted`
    loses health. -/
structure Character.Advances (hunted : Prop) (before c : Character) : Prop where
  interacted : before.interacted = true → c.interacted = true
  health : c.health = before.health ∨ (hunted ∧ before.health.Sinks c.health)

namespace Character.Advances

variable {hunted : Prop} {c c' c'' : Character}

theorem refl (c : Character) : c.Advances hunted c := ⟨id, .inl rfl⟩

theorem trans (h : c.Advances hunted c') (k : c'.Advances hunted c'') : c.Advances hunted c'' := by
  refine ⟨fun e => k.interacted (h.interacted e), ?_⟩
  rcases k.health with same | ⟨whose, sinks⟩
  · rw [same]
    exact h.health
  · rcases h.health with same | ⟨-, sinks'⟩
    · exact .inr ⟨whose, same ▸ sinks⟩
    · exact .inr ⟨whose, sinks'.trans sinks⟩

end Character.Advances

theorem PlayerLine.Follows.trans {l l' l'' : PlayerLine} (h : l.Follows l') (k : l'.Follows l'') :
    l.Follows l'' :=
  ⟨k.1.trans h.1, fun used => k.2 (h.2 used)⟩

/-- The lines of a dialogue as far as they have come. -/
def Dialogue.Advances (before d : Dialogue) : Prop :=
  List.Forall₂ PlayerLine.Follows before.lines d.lines

theorem Dialogue.Advances.refl (d : Dialogue) : d.Advances d :=
  List.forall₂_same.mpr fun l _ => .refl l

theorem Dialogue.Advances.trans {d d' d'' : Dialogue} (h : d.Advances d') (k : d'.Advances d'') :
    d.Advances d'' := by
  have lines {ls ls' ls'' : List PlayerLine} (h : List.Forall₂ PlayerLine.Follows ls ls')
      (k : List.Forall₂ PlayerLine.Follows ls' ls'') : List.Forall₂ PlayerLine.Follows ls ls'' := by
    induction h generalizing ls'' with
    | nil =>
        cases k
        exact .nil
    | cons here _ ih =>
        cases k with
        | cons next later => exact .cons (here.trans next) (ih later)
  exact lines h k

namespace World

variable {b w v u : World} {c : Cause}

/-! ## 3. Worlds -/

/-- The character is the antagonist. -/
def IsAntagonist (w : World) (name : String) : Prop :=
  ∃ a ∈ w.scenario.antagonist, a.character = name

/-- **A world as far as it has come**: what play has done to its rooms, its characters and its
    dialogues is not taken back. -/
structure Advances (w v : World) : Prop where
  scenario : v.scenario = w.scenario
  rooms : w.rooms.Advances (fun _ => Room.Advances) v.rooms
  characters : w.characters.Advances (fun name => Character.Advances (w.IsAntagonist name))
    v.characters
  dialogues : w.dialogues.Advances (fun _ => Dialogue.Advances) v.dialogues

theorem Advances.refl (w : World) : w.Advances w :=
  ⟨rfl, Roster.advances_refl (fun _ => .refl) _, Roster.advances_refl (fun _ => .refl) _,
    Roster.advances_refl (fun _ => .refl) _⟩

theorem Advances.trans (h : w.Advances v) (k : v.Advances u) : w.Advances u := by
  have antagonist (name : String) : v.IsAntagonist name ↔ w.IsAntagonist name := by
    unfold IsAntagonist
    rw [h.scenario]
  have characters := k.characters
  simp only [antagonist] at characters
  exact ⟨k.scenario.trans h.scenario, h.rooms.trans (fun a b => a.trans b) k.rooms,
    h.characters.trans (fun a b => a.trans b) characters,
    h.dialogues.trans (fun a b => a.trans b) k.dialogues⟩

/-- The notes do not count. -/
theorem Alike.advances (h : w.Alike v) : w.Advances v := by
  obtain ⟨notes, rfl⟩ := h
  exact ⟨rfl, (Advances.refl w).rooms, (Advances.refl w).characters, (Advances.refl w).dialogues⟩

section Parts

variable {name : String}

/-- What has to do with no room, no character and no dialogue. -/
theorem advances_of_same (scenario : v.scenario = w.scenario) (rooms : v.rooms = w.rooms)
    (characters : v.characters = w.characters) (dialogues : v.dialogues = w.dialogues) :
    w.Advances v := by
  refine ⟨scenario, ?_, ?_, ?_⟩
  · rw [rooms]
    exact (Advances.refl w).rooms
  · rw [characters]
    exact (Advances.refl w).characters
  · rw [dialogues]
    exact (Advances.refl w).dialogues

theorem advances_updateRoom {f : Room → Room}
    (step : ∀ r, w.rooms.get? name = some r → r.Advances (f r)) :
    w.Advances (w.updateRoom name f) :=
  ⟨rfl, Roster.advances_update (fun _ => .refl) step, (Advances.refl w).characters,
    (Advances.refl w).dialogues⟩

theorem advances_updateCharacter {f : Character → Character}
    (step : ∀ c, w.characters.get? name = some c → c.Advances (w.IsAntagonist name) (f c)) :
    w.Advances (w.updateCharacter name f) :=
  ⟨rfl, (Advances.refl w).rooms, Roster.advances_update (fun _ => .refl) step,
    (Advances.refl w).dialogues⟩

theorem advances_updateDialogue {f : Dialogue → Dialogue}
    (step : ∀ d, w.dialogues.get? name = some d → d.Advances (f d)) :
    w.Advances (w.updateDialogue name f) :=
  ⟨rfl, (Advances.refl w).rooms, (Advances.refl w).characters,
    Roster.advances_update (fun _ => .refl) step⟩

end Parts

/-- **Whatever a line does, the world advances.** -/
theorem advances_deed (h : Deed b c w v) : w.Advances v := by
  cases h with
  | refresh => exact advances_updateRoom fun _ _ => ⟨id, fun _ => rfl⟩
  | unlock => exact advances_updateRoom fun _ _ => ⟨fun _ => rfl, id⟩
  | part => exact advances_updateCharacter fun _ _ => ⟨fun _ => rfl, .inl rfl⟩
  | strike a ch n shoot antagonist there health alive =>
      refine advances_updateCharacter fun ch' there' => ⟨id, .inr ⟨⟨a, antagonist, rfl⟩, ?_⟩⟩
      rw [there] at there'
      cases there'
      exact ⟨n, n - 1, health, rfl, by omega, by omega⟩
  | say subject node position =>
      exact advances_updateDialogue fun d _ =>
        Dialogue.follows_sayOpen node position (Dialogue.Advances.refl d)
  | note => exact advances_of_same rfl rfl rfl rfl
  | wake => exact advances_of_same rfl rfl rfl rfl
  | torch => exact advances_of_same rfl rfl rfl rfl
  | flag => exact advances_of_same rfl rfl rfl rfl
  | place => exact advances_of_same rfl rfl rfl rfl
  | pick => exact advances_of_same rfl rfl rfl rfl
  | switch => exact advances_of_same rfl rfl rfl rfl
  | defeat => exact advances_of_same rfl rfl rfl rfl
  | enter => exact advances_of_same rfl rfl rfl rfl

end World

end Adventure
