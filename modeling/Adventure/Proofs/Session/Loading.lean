import Adventure.Proofs.Session.Anew
import Adventure.Proofs.World.Resumed
import Adventure.Proofs.World.Uptake

/-!
# A saved game that is accepted can be loaded

* `World.IsReadable`: saved games of the shape in which games are saved;
* `fits_of_accepted`: **a readable saved game without inconsistencies fits the world**;
* `World.KeepsUnmentioned`: what is not mentioned in a saved game stays what it was;
* `World.GivesPlace`: what is saved of an item says where the item is;
* `accepted_loads`: **it is brought about without a fault**, and everything is in its place then;
* `accepted_unreadable`: saved games of other shapes, which are accepted all the same.

That a saved game has no inconsistencies means that it refers to nothing that is not there; it says
nothing of the shape of what is saved, nor of locks.

Not here: the place of the player if the one that is saved is not filled, and the place of an item
of which something is saved, but no place, or one that is neither nothing nor filled.
-/

namespace Adventure.World

open Outcome

/-! ## 1. Readable saved games -/

/-- **A saved game that can be read**: its parts are mappings, and what is saved of items, rooms and
    characters are mappings too; places are no lists and no mappings; healths, saved or kept, can be
    read as whole numbers; and where ids of said lines are saved, ids can be looked for. -/
structure IsReadable (w : World) (es : List (String × Content)) : Prop where
  parts : ∀ part ∈ savedParts, Comes (savedOr es part .null).filledEntries
  states : ∀ part ∈ ["items", "rooms", "characters"], ∀ e ∈ savedPart es part, Comes e.2.entries
  places : ∀ e ∈ savedPart es "items", Comes (savedLocation (savedOr e.2.table "location" .null))
  healths : ∀ e ∈ savedPart es "characters", ∀ c ∈ w.characters.get? e.1,
    Comes (savedWhole (savedOr e.2.table "health" c.health.toContent))
  ids : ∀ e ∈ savedPart es "used_lines", ∀ d ∈ w.dialogues.get? e.1, ∀ l ∈ d.lines,
    Comes (holdsId e.2 l.id)

instance {α : Type} (x : Except Fault α) : Decidable (Comes x) :=
  match x with
  | .ok a => .isTrue ⟨a, rfl⟩
  | .error _ => .isFalse fun ⟨_, h⟩ => by cases h

instance (w : World) (es : List (String × Content)) : Decidable (w.IsReadable es) :=
  decidable_of_iff
    ((∀ part ∈ savedParts, Comes (savedOr es part .null).filledEntries) ∧
      (∀ part ∈ ["items", "rooms", "characters"], ∀ e ∈ savedPart es part, Comes e.2.entries) ∧
      (∀ e ∈ savedPart es "items", Comes (savedLocation (savedOr e.2.table "location" .null))) ∧
      (∀ e ∈ savedPart es "characters", ∀ c ∈ w.characters.get? e.1,
        Comes (savedWhole (savedOr e.2.table "health" c.health.toContent))) ∧
      ∀ e ∈ savedPart es "used_lines", ∀ d ∈ w.dialogues.get? e.1, ∀ l ∈ d.lines,
        Comes (holdsId e.2 l.id))
    ⟨fun h => ⟨h.1, h.2.1, h.2.2.1, h.2.2.2.1, h.2.2.2.2⟩,
      fun h => ⟨h.parts, h.states, h.places, h.healths, h.ids⟩⟩

/-- **A readable saved game without inconsistencies fits the world.** -/
theorem fits_of_accepted {w : World} {es : List (String × Content)} (accepts : w.Accepts es)
    (readable : w.IsReadable es) : w.Fits es where
  parts := readable.parts
  items e mem _ _ := ⟨readable.states "items" (by decide) e mem, readable.places e mem⟩
  rooms e mem _ _ := readable.states "rooms" (by decide) e mem
  characters e mem c there :=
    ⟨readable.states "characters" (by decide) e mem, readable.healths e mem c there⟩
  flags := accepts.flags _ (Content.filledEntries_table (readable.parts "flags" (by decide)))
  lines e mem d there := readable.ids e mem d there

/-! ## 2. What a saved game mentions -/

/-- Something is saved under a name of a part. -/
def Names (es : List (String × Content)) (part name : String) : Prop :=
  ∃ x, (name, x) ∈ savedPart es part

/-- A value is saved under a name of a part. -/
def Mentions (es : List (String × Content)) (part name key : String) : Prop :=
  ∃ x, (name, x) ∈ savedPart es part ∧ (x.table.lookup key).isSome = true

/-- **What is saved of an item says where the item is**: nowhere, or in a place that is filled. -/
def GivesPlace (x : Content) : Prop :=
  ∃ place, x.table.lookup "location" = some place ∧ (place = .null ∨ place.isFilled = true)

/-- **What the saved game does not mention stays what it was**, and so does all that is never saved.
    Of the place of an item of which something is saved nothing is told. -/
structure KeepsUnmentioned (es : List (String × Content)) (w v : World) : Prop where
  plan : v.plan = w.plan
  items : ∀ name i, v.items.get? name = some i → ∃ i₀, w.items.get? name = some i₀ ∧
    i = { i₀ with location := i.location, active := i.active } ∧
    (¬ Names es "items" name → i.location = i₀.location) ∧
    (¬ Mentions es "items" name "active" → i.active = i₀.active)
  rooms : ∀ name r, v.rooms.get? name = some r → ∃ r₀, w.rooms.get? name = some r₀ ∧
    r = { r₀ with locked := r.locked, updated := r.updated } ∧
    (¬ Mentions es "rooms" name "locked" → r.locked = r₀.locked) ∧
    (¬ Mentions es "rooms" name "observation_updated" → r.updated = r₀.updated)
  characters : ∀ name c, v.characters.get? name = some c → ∃ c₀,
    w.characters.get? name = some c₀ ∧
    c = { c₀ with health := c.health, interacted := c.interacted } ∧
    (¬ Mentions es "characters" name "health" → c.health = c₀.health) ∧
    (¬ Mentions es "characters" name "interaction_occurred" → c.interacted = c₀.interacted)

section Unmentioned

variable {es : List (String × Content)} {part name key : String} {x : Content}

/-- Nothing is found under a key that is not mentioned. -/
theorem lookup_of_unmentioned (unmentioned : ¬ Mentions es part name key)
    (mem : (name, x) ∈ savedPart es part) : x.table.lookup key = none := by
  cases found : x.table.lookup key with
  | none => rfl
  | some y => exact absurd ⟨x, mem, by rw [found]; rfl⟩ unmentioned

theorem savedOr_of_unmentioned (unmentioned : ¬ Mentions es part name key)
    (mem : (name, x) ∈ savedPart es part) (default : Content) :
    savedOr x.table key default = default := by
  rw [savedOr, lookup_of_unmentioned unmentioned mem]
  rfl

/-- **The world that a saved game asks for keeps what is not mentioned.** -/
theorem keepsUnmentioned_resume {w : World} (fits : w.Fits es) :
    KeepsUnmentioned es w (w.resume es) where
  plan := plan_resume es w
  items := by
    intro name i there
    obtain ⟨i₀, before, comes⟩ := Roster.takeUp_comes there
    refine ⟨i₀, before, ?_, fun unnamed => ?_, fun unmentioned => ?_⟩
    · have same := comes (fun i => i.bare = i₀.bare) rfl
        fun x i _ same => (Item.bare_resume x i).trans same
      exact (Item.eq_of_bare same.symm).symm
    · exact comes (fun i => i.location = i₀.location) rfl
        fun x _ mem _ => absurd ⟨x, mem⟩ unnamed
    · refine comes (fun i => i.active = i₀.active) rfl fun x i mem same => ?_
      simp only [Item.resume, lookup_of_unmentioned unmentioned mem, Option.map_none,
        Option.getD_none, Option.map_id', same]
  rooms := by
    intro name r there
    obtain ⟨r₀, before, comes⟩ := Roster.takeUp_comes there
    refine ⟨r₀, before, ?_, fun unmentioned => ?_, fun unmentioned => ?_⟩
    · have same := comes (fun r => r.bare = r₀.bare) rfl
        fun x r _ same => (Room.bare_resume x r).trans same
      exact (Room.eq_of_bare same.symm).symm
    · refine comes (fun r => r.locked = r₀.locked) rfl fun x r mem same => ?_
      exact (congrArg Content.isFilled (savedOr_of_unmentioned unmentioned mem _)).trans same
    · refine comes (fun r => r.updated = r₀.updated) rfl fun x r mem same => ?_
      exact (congrArg Content.isFilled (savedOr_of_unmentioned unmentioned mem _)).trans same
  characters := by
    intro name c there
    obtain ⟨c₀, before, comes⟩ := Roster.takeUp_comes there
    refine ⟨c₀, before, ?_, fun unmentioned => ?_, fun unmentioned => ?_⟩
    · have same := comes (fun c => c.bare = c₀.bare) rfl
        fun x c _ same => (Character.bare_resume x c).trans same
      exact (Character.eq_of_bare same.symm).symm
    · refine comes (fun c => c.health = c₀.health) rfl fun x c mem same => ?_
      obtain ⟨-, number⟩ := fits.characters _ mem c₀ before
      simp only [Character.resume, savedOr_of_unmentioned unmentioned mem, same] at number ⊢
      -- a health that is not mentioned is a number, and is read back as that number
      cases figure : c₀.health with
      | number n => rfl
      | word =>
          rw [figure] at number
          obtain ⟨n, absurd⟩ := number
          cases absurd
    · refine comes (fun c => c.interacted = c₀.interacted) rfl fun x c mem same => ?_
      exact (congrArg Content.isFilled (savedOr_of_unmentioned unmentioned mem _)).trans same

end Unmentioned

/-! ## 3. Loading -/

section Loaded

variable {w : World} {es : List (String × Content)} (accepts : w.Accepts es)

omit accepts in
theorem has_room_resume (w : World) (es : List (String × Content)) (room : String) :
    (w.resume es).rooms.has room = w.rooms.has room :=
  has_room_of_plan (plan_resume es w) room

include accepts

/-- The player is in a room, unless the place that is saved is not filled. -/
theorem placed_resume (sound : w.inconsistencies = .ok [])
    (given : ∀ place, es.lookup "current" = some place → place.isFilled = true) :
    (w.resume es).IsPlaced := by
  show ∃ room, savedOr es "current" w.current = .text room ∧ (w.resume es).rooms.has room = true
  have current := accepts.current
  unfold savedOr at current ⊢
  cases saved : es.lookup "current" with
  | none =>
      obtain ⟨room, start, known⟩ := start_known sound
      exact ⟨room, start, (has_room_resume w es room).trans known⟩
  | some place =>
      rw [saved] at current
      rcases current with empty | ⟨room, here, known⟩
      · exact absurd ((given place saved).symm.trans empty) (by decide)
      · exact ⟨room, here, (has_room_resume w es room).trans known⟩

omit accepts in
/-- What is saved of an item that is accepted puts it where it can be. -/
theorem place_of_accepted {name : String} {fs : List (String × Content)} {place : Content}
    (issues : w.savedItemIssues (name, .mapping fs) = .ok [])
    (told : savedOr fs "location" .null = place) (filled : place.isFilled = true) :
    savedLocation place = .ok .inventory ∨
      ∃ room, savedLocation place = .ok (.text room) ∧ w.rooms.has room = true := by
  obtain ⟨sentence, issue⟩ := place_of_savedItem issues
  have told : (fs.lookup "location").getD .null = place := told
  rw [told] at issue
  split at issue
  · next word =>
      rw [word]
      exact .inl rfl
  · next other =>
      rcases placeIssue_eq_nil issue with empty | ⟨room, here, known⟩
      · exact absurd (filled.symm.trans empty) (by decide)
      · refine .inr ⟨room, ?_, known⟩
        rw [here] at other ⊢
        simp only [savedLocation, Content.isAtomic, if_true, if_neg other]

/-- An item comes to be where what is saved of it says, if that says where. -/
theorem location_resume (readable : w.IsReadable es) {name : String} {x : Content}
    (mem : (name, x) ∈ savedPart es "items") (given : GivesPlace x) (i : Item) :
    (i.resume x).location = .inventory ∨
      (∃ room, (i.resume x).location = .text room ∧ w.rooms.has room = true) ∨
      (i.resume x).location = .null ∧ x.table.lookup "location" = some .null := by
  obtain ⟨fs, entries⟩ := readable.states "items" (by decide) _ mem
  cases Content.entries_eq_ok.mp entries
  obtain ⟨place, told, given⟩ := given
  have saved : savedOr fs "location" .null = place := by
    have told : fs.lookup "location" = some place := told
    rw [savedOr, told]
    rfl
  have put : (i.resume (.mapping fs)).location = (savedLocation place).toOption.getD .null :=
    congrArg (fun place => (savedLocation place).toOption.getD .null) saved
  rw [put]
  rcases given with rfl | filled
  · exact .inr (.inr ⟨rfl, told⟩)
  · have issues := accepts.items _
      (Content.filledEntries_table (readable.parts "items" (by decide))) _ mem
    rcases place_of_accepted issues saved filled with carried | ⟨room, here, known⟩
    · rw [carried]
      exact .inl rfl
    · rw [here]
      exact .inr (.inl ⟨room, rfl, known⟩)

/-- Every item is where it was, or where the saved game puts it. -/
theorem housed_resume (readable : w.IsReadable es) (sound : w.inconsistencies = .ok [])
    {name : String} {i : Item} (there : (w.resume es).items.get? name = some i)
    (given : ∀ x, (name, x) ∈ savedPart es "items" → GivesPlace x) :
    i.location = .inventory ∨
      (∃ room, i.location = .text room ∧ (w.resume es).rooms.has room = true) ∨
      i.location = .null ∧ (w.HasNowhere name ∨
        ∃ x, (name, x) ∈ savedPart es "items" ∧ x.table.lookup "location" = some .null) := by
  obtain ⟨i₀, before, comes⟩ := Roster.takeUp_comes there
  refine comes (fun i => i.location = .inventory ∨
    (∃ room, i.location = .text room ∧ (w.resume es).rooms.has room = true) ∨
    i.location = .null ∧ (w.HasNowhere name ∨
      ∃ x, (name, x) ∈ savedPart es "items" ∧ x.table.lookup "location" = some .null)) ?_ ?_
  · rcases item_placed sound before with nowhere | carried | ⟨room, here, known⟩
    · exact .inr (.inr ⟨nowhere, .inl ⟨i₀, before, nowhere⟩⟩)
    · exact .inl carried
    · exact .inr (.inl ⟨room, here, (has_room_resume w es room).trans known⟩)
  · intro x i mem _
    rcases location_resume accepts readable mem (given x mem) i with
      carried | ⟨room, here, known⟩ | ⟨nowhere, told⟩
    · exact .inl carried
    · exact .inr (.inl ⟨room, here, (has_room_resume w es room).trans known⟩)
    · exact .inr (.inr ⟨nowhere, .inr ⟨x, mem, told⟩⟩)

omit accepts in
/-- A room that is locked has a code, or is one that the saved game locks. -/
theorem coded_resume (sound : w.inconsistencies = .ok []) {name : String} {r : Room}
    (there : (w.resume es).rooms.get? name = some r) (locked : r.locked = true) :
    (Room.filledText? r.code).isSome = true ∨
      ∃ x, (name, x) ∈ savedPart es "rooms" ∧
        (savedOr x.table "locked" .null).isFilled = true := by
  obtain ⟨r₀, before, comes⟩ := Roster.takeUp_comes there
  refine comes (fun r => r.locked = true → (Room.filledText? r.code).isSome = true ∨
    ∃ x, (name, x) ∈ savedPart es "rooms" ∧
      (savedOr x.table "locked" .null).isFilled = true) ?_ ?_ locked
  · exact fun locked => .inl (room_coded sound before locked)
  · intro x r mem coded locked
    have locked : (savedOr x.table "locked" (.bool r.locked)).isFilled = true := locked
    unfold savedOr at locked
    cases told : x.table.lookup "locked" with
    | none =>
        rw [told] at locked
        exact coded locked
    | some y =>
        rw [told] at locked
        refine .inr ⟨x, mem, ?_⟩
        rw [savedOr, told]
        exact locked

end Loaded

/-- **A saved game that is accepted can be loaded.** If a saved game without inconsistencies can be
    read, a consistent world comes by it to another one without a fault, if nothing but its flags
    and remarks has been touched of the flags. The player is in a room then, unless the place that
    is saved is not filled; every item of which nothing or its place is saved is carried, in a room,
    or nowhere, and nowhere only if it was so or the saved game says so; a room that is locked has a
    code, or is one that the saved game locks; and what is not mentioned stays what it was. -/
theorem accepted_loads {w : World} {es : List (String × Content)} (plain : w.flags.IsPlain)
    (sound : w.inconsistencies = .ok []) (accepted : w.savedInconsistencies (.mapping es) = .ok [])
    (readable : w.IsReadable es) :
    ∃ v, (loadSaved (.mapping es)).runOn w = (.ok (), v) ∧
      ((∀ place, es.lookup "current" = some place → place.isFilled = true) →
        ∃ room, v.current = .text room ∧ v.rooms.has room = true) ∧
      (∀ name i, v.items.get? name = some i →
        (∀ x, (name, x) ∈ savedPart es "items" → GivesPlace x) →
        i.location = .inventory ∨
        (∃ room, i.location = .text room ∧ v.rooms.has room = true) ∨
        i.location = .null ∧ (w.HasNowhere name ∨
          ∃ x, (name, x) ∈ savedPart es "items" ∧ x.table.lookup "location" = some .null)) ∧
      (∀ name r, v.rooms.get? name = some r → r.locked = true →
        (Room.filledText? r.code).isSome = true ∨
          ∃ x, (name, x) ∈ savedPart es "rooms" ∧
            (savedOr x.table "locked" .null).isFilled = true) ∧
      KeepsUnmentioned es w v := by
  have accepts := accepts_of accepted
  have fits := fits_of_accepted accepts readable
  have keeps := keepsUnmentioned_resume fits
  exact ⟨_, loadSaved_run plain fits, placed_resume accepts sound,
    fun name i there => housed_resume accepts readable sound there,
    fun name r there locked => coded_resume sound there locked,
    keeps.plan, keeps.items, keeps.rooms, keeps.characters⟩

/-- A game in which the bones are carried, the cellar is open and the creature has been hit. -/
theorem accepted_loads_cellar : ∃ w es, w.flags.IsPlain ∧ w.inconsistencies = .ok [] ∧
    w.savedInconsistencies (.mapping es) = .ok [] ∧ w.IsReadable es ∧
      ∃ v, (loadSaved (.mapping es)).runOn w = (.ok (), v) ∧
        (∃ room, v.current = .text room ∧ v.rooms.has room = true) ∧
        ∀ i, v.items.get? "bones" = some i → i.location = .inventory ∨
          ∃ room, i.location = .text room ∧ v.rooms.has room = true := by
  let es : List (String × Content) :=
    [("current", .text "cellar"),
     ("items", .mapping [("bones", .mapping [("location", .text Content.inventoryWord)])]),
     ("rooms", .mapping [("cellar", .mapping [("locked", .bool false)])]),
     ("characters", .mapping [("creature", .mapping [("health", .int 1)])]),
     ("flags", .mapping [(Flag.groundDug.word, .bool true)])]
  obtain ⟨b, holds, sound, accepted, readable, somewhere⟩ :=
    Cellar.exists_holds (.int 2) (.text "closed")
      (fun b => b.inconsistencies = .ok [] ∧ b.savedInconsistencies (.mapping es) = .ok [] ∧
        b.IsReadable es ∧ ∀ i ∈ b.items.get? "bones", i.location ≠ .null) (by decide +kernel)
  have plain : b.flags.IsPlain := holds.built.clean.1
  obtain ⟨v, run, placed, housed, -⟩ := accepted_loads plain sound accepted readable
  refine ⟨b, es, plain, sound, accepted, readable, v, run, placed fun place saved => ?_,
    fun i there => ?_⟩
  · cases saved
    rfl
  · have saved {x : Content} (mem : ("bones", x) ∈ savedPart es "items") :
        x = .mapping [("location", .text Content.inventoryWord)] :=
      (Prod.ext_iff.mp (List.mem_singleton.mp mem)).2
    have given (x : Content) (mem : ("bones", x) ∈ savedPart es "items") : GivesPlace x := by
      rw [saved mem]
      exact ⟨_, rfl, .inr rfl⟩
    rcases housed "bones" i there given with
      carried | lies | ⟨-, ⟨i₀, before, nowhere⟩ | ⟨x, mem, nowhere⟩⟩
    · exact .inl carried
    · exact .inr lies
    · exact absurd nowhere (somewhere i₀ before)
    · rw [saved mem] at nowhere
      cases nowhere

/-- **Not all that is accepted is in order.** References alone are looked at, so a saved game may
    lock a room without a code, and a health may be no number, which is a fault. -/
theorem accepted_unreadable : ∃ b : World, b.inconsistencies = .ok [] ∧
    (∃ es r, b.savedInconsistencies (.mapping es) = .ok [] ∧
      ((loadSaved (.mapping es)).runOn b).2.rooms.get? "vault" = some r ∧
        r.locked = true ∧ Room.filledText? r.code = none) ∧
    (∃ es, b.savedInconsistencies (.mapping es) = .ok [] ∧
      ((loadSaved (.mapping es)).runOn b).1 = .error .badValue) := by
  let locks : List (String × Content) :=
    [("rooms", .mapping [("vault", .mapping [("locked", .bool true)])])]
  let strong : List (String × Content) :=
    [("characters", .mapping [("creature", .mapping [("health", .text "strong")])])]
  obtain ⟨b, -, sound, ⟨accepted, r, locked⟩, unread⟩ :=
    Cellar.exists_holds (.int 2) (.text "closed") (fun b => b.inconsistencies = .ok [] ∧
      (b.savedInconsistencies (.mapping locks) = .ok [] ∧
        ∃ r ∈ ((loadSaved (.mapping locks)).runOn b).2.rooms.get? "vault",
          r.locked = true ∧ Room.filledText? r.code = none) ∧
      b.savedInconsistencies (.mapping strong) = .ok [] ∧
        ((loadSaved (.mapping strong)).runOn b).1 = .error .badValue) (by decide +kernel)
  exact ⟨b, sound, ⟨locks, r, accepted, locked⟩, strong, unread⟩

end Adventure.World
