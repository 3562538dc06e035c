import Adventure.Proofs.World.Differences
import Adventure.Proofs.World.Mended

/-!
# What a world becomes when a saved game is gone on with

* `Roster.takeUp`: entries change what stands under their names, one after the other;
* `WorldPart.Uptake`: how a part of a world takes saved states up, and `load_run`: **a part comes to
  what it takes up**;
* `itemUptake`, `roomUptake`, `characterUptake`, `lineUptake`, `loadFlags_run`: the parts;
* `World.resume`: **the world that a saved game asks for**, and `loadSaved_run`: bringing the saved
  game about leads to it, if all its states fit.

What is saved of a name that a part does not have is passed over.
-/

namespace Adventure

open Outcome

/-! ## 1. Entries taken up under their names -/

/-- The entries of a mapping; anything else has none. -/
def Content.table : Content → List (String × Content)
  | .mapping es => es
  | _ => []

theorem Content.filledEntries_table {c : Content} (h : Comes c.filledEntries) :
    c.filledEntries = .ok c.table := by
  obtain ⟨es, h⟩ := h
  rcases Content.filledEntries_eq_ok h with rfl | rfl
  · exact h
  · unfold Content.filledEntries at h ⊢
    split
    · next filled =>
        rw [if_pos filled] at h
        rw [Content.entries_eq_ok.mp h]
        rfl
    · next empty =>
        cases c with
        | mapping es =>
            have none : es = [] := by simpa [Content.isFilled] using empty
            rw [none]
            rfl
        | null | bool | int | float | text | inventory | list => rfl

namespace Roster

variable {α : Type} {take : Content → α → α} {es : List (String × Content)} {name : String}

/-- Entries change what stands under their names, one after the other. -/
def takeUp (take : Content → α → α) (es : List (String × Content)) (r : Roster α) : Roster α :=
  es.foldl (fun r e => r.update e.1 (take e.2)) r

/-- A change under a name that is not there changes nothing. -/
theorem update_of_fresh {r : Roster α} (fresh : r.get? name = none) (f : α → α) :
    r.update name f = r := by
  refine ext_get? (names_update ..) fun other => ?_
  by_cases here : other = name
  · rw [here, get?_update, fresh, Option.map_none]
  · exact get?_update_ne r here f

/-- **What stands in a roster that has taken entries up** has come about by what the entries say
    under its name, and by nothing else. -/
theorem takeUp_comes {r : Roster α} {a : α} (h : (r.takeUp take es).get? name = some a) :
    ∃ a₀, r.get? name = some a₀ ∧ ∀ motive : α → Prop, motive a₀ →
      (∀ x b, (name, x) ∈ es → motive b → motive (take x b)) → motive a := by
  induction es generalizing r with
  | nil => exact ⟨a, h, fun _ start _ => start⟩
  | cons e es ih =>
      obtain ⟨a₁, there, reaches⟩ := ih h
      rcases get?_update_cases there with ⟨rfl, a₀, before, rfl⟩ | ⟨-, before⟩
      · refine ⟨a₀, before, fun motive start step => reaches motive ?_ ?_⟩
        · exact step e.2 a₀ (List.mem_cons_self ..) start
        · exact fun x b mem => step x b (List.mem_cons_of_mem _ mem)
      · refine ⟨a₁, before, fun motive start step => reaches motive start ?_⟩
        exact fun x b mem => step x b (List.mem_cons_of_mem _ mem)

theorem map_takeUp {β : Type} {f : α → β} (same : ∀ x a, f (take x a) = f a)
    (es : List (String × Content)) (r : Roster α) : (r.takeUp take es).map f = r.map f := by
  induction es generalizing r with
  | nil => rfl
  | cons e es ih => exact (ih _).trans (map_update_of fun a _ => same e.2 a)

end Roster

/-! ## 2. Parts that take states up -/

/-- **How a part takes saved states up**: a state that fits an entry changes it, and what is saved of
    an unknown name is passed over. -/
structure WorldPart.Uptake {α : Type} (P : WorldPart α) where
  take : Content → α → α
  Fits : Content → α → Prop
  /-- A state fits an entry as well when the entry has taken another one up. -/
  fits_take : ∀ {x y a}, Fits x a → Fits y a → Fits x (take y a)
  step : ∀ {w name x a} (rest), (P.roster w).get? name = some a → Fits x a →
    (P.load ((name, x) :: rest)).runOn w =
      (P.load rest).runOn (P.put ((P.roster w).update name (take x)) w)
  skip : ∀ {w name x} (rest), (P.roster w).get? name = none →
    (P.load ((name, x) :: rest)).runOn w = (P.load rest).runOn w

/-- **A part comes to what it takes up**, if all states fit what stands under their names. -/
theorem WorldPart.Uptake.load_run {α : Type} {P : WorldPart α} (U : P.Uptake)
    {es : List (String × Content)} {w : World}
    (fits : ∀ e ∈ es, ∀ a, (P.roster w).get? e.1 = some a → U.Fits e.2 a) :
    (P.load es).runOn w = (.ok (), P.put ((P.roster w).takeUp U.take es) w) := by
  induction es generalizing w with
  | nil =>
      rw [P.load_nil]
      exact Prod.ext rfl (P.put_roster w).symm
  | cons e es ih =>
      have later := fun e' (mem : e' ∈ es) => fits e' (List.mem_cons_of_mem _ mem)
      cases found : (P.roster w).get? e.1 with
      | none =>
          have same : (P.roster w).takeUp U.take (e :: es) = (P.roster w).takeUp U.take es := by
            unfold Roster.takeUp
            rw [List.foldl_cons, Roster.update_of_fresh found]
          rw [U.skip es found, ih later, same]
      | some a =>
          have fit := fits e (List.mem_cons_self ..)
          rw [U.step es found (fit a found), ih ?_, P.roster_put, P.put_put]
          · rfl
          · intro e' mem a' there
            rw [P.roster_put] at there
            rcases Roster.get?_update_cases there with ⟨same, a₀, before, rfl⟩ | ⟨-, before⟩
            · exact U.fits_take (later e' mem a₀ before) (fit a₀ (same ▸ before))
            · exact later e' mem a' before

/-! ## 3. Items, rooms, characters and lines -/

open World in
/-- The item with what is saved of it. Whether it is on counts for items that can be. -/
def Item.resume (x : Content) (i : Item) : Item :=
  { i with
    location := (savedLocation (savedOr x.table "location" .null)).toOption.getD .null
    active := i.active.map fun lit => ((x.table.lookup "active").map Content.isFilled).getD lit }

open World in
/-- The room with what is saved of it. -/
def Room.resume (x : Content) (r : Room) : Room :=
  { r with
    locked := (savedOr x.table "locked" (.bool r.locked)).isFilled
    updated := (savedOr x.table "observation_updated" (.bool r.updated)).isFilled }

open World in
/-- The character with what is saved of it. -/
def Character.resume (x : Content) (c : Character) : Character :=
  { c with
    health := (savedWhole (savedOr x.table "health" c.health.toContent)).toOption.elim c.health .number
    interacted := (savedOr x.table "interaction_occurred" (.bool c.interacted)).isFilled }

/-- The dialogue with the lines said whose ids are saved. -/
def Dialogue.resume (ids : Content) (d : Dialogue) : Dialogue :=
  { d with lines := (World.useLines ids d.lines).1 }

theorem Item.bare_resume (x : Content) (i : Item) : (i.resume x).bare = i.bare := by
  unfold Item.bare Item.resume
  simp only [Option.map_map]
  rfl

theorem Room.bare_resume (x : Content) (r : Room) : (r.resume x).bare = r.bare := rfl

theorem Character.bare_resume (x : Content) (c : Character) : (c.resume x).bare = c.bare := rfl

theorem Dialogue.bare_resume (x : Content) (d : Dialogue) : (d.resume x).bare = d.bare := by
  unfold Dialogue.bare Dialogue.resume
  rw [World.useLines_bare]

/-- The flags with those that are saved. -/
def Flags.resume (es : List (String × Content)) (fs : Flags) : Flags :=
  es.foldl (fun fs e => (Flag.ofWord? e.1).elim fs (fun f => fs.set f e.2.isFilled)) fs

namespace World

/-- A change of an item that is there. -/
theorem updateItem_congr {w : World} {name : String} {i : Item} {f g : Item → Item}
    (found : w.items.get? name = some i) (same : f i = g i) :
    w.updateItem name f = w.updateItem name g := by
  unfold updateItem
  rw [Roster.update_congr fun i' there => ?_]
  rw [found] at there
  cases there
  exact same

def itemUptake : itemPart.Uptake where
  take := Item.resume
  Fits x _ := Comes x.entries ∧ Comes (savedLocation (savedOr x.table "location" .null))
  fits_take fits _ := fits
  skip {w name x} rest unknown := by
    have unknown : w.items.get? name = none := unknown
    show (loadItems _).runOn w = (loadItems rest).runOn w
    rw [loadItems, Act.runOn_bind_ok (Act.runOn_get w)]
    simp only [unknown]
  step {w name x i} rest found fits := by
    have found : w.items.get? name = some i := found
    obtain ⟨⟨es, entries⟩, location, placed⟩ := fits
    cases Content.entries_eq_ok.mp entries
    have placed : savedLocation (savedOr es "location" .null) = .ok location := placed
    have resumed : Item.resume (.mapping es) i = { i with
        location
        active := i.active.map fun lit =>
          ((es.lookup "active").map Content.isFilled).getD lit } := by
      simp only [Item.resume, Content.table, placed]
      rfl
    show (loadItems ((name, .mapping es) :: rest)).runOn w =
      (loadItems rest).runOn (w.updateItem name (Item.resume (.mapping es)))
    rw [loadItems, Act.runOn_bind_ok (Act.runOn_get w)]
    simp only [found, entries]
    rw [Act.runOn_bind_ok (Act.runOn_ofExcept _ w), placed,
      Act.runOn_bind_ok (Act.runOn_ofExcept _ w), Act.runOn_bind_ok (Act.runOn_modify _ w)]
    split
    · next lit active on mentioned =>
        rw [Act.runOn_bind_ok (Act.runOn_modify _ _)]
        have twice : (w.updateItem name (fun i => { i with location })).updateItem name
            (fun i => { i with active := some active.isFilled }) =
              w.updateItem name (fun i => { i with location, active := some active.isFilled }) := by
          unfold updateItem
          rw [Roster.update_update]
        rw [twice]
        refine congrArg (loadItems rest).runOn (updateItem_congr found ?_)
        rw [resumed, on, mentioned]
        rfl
    · next unmentioned =>
        refine congrArg (loadItems rest).runOn (updateItem_congr found ?_)
        rw [resumed]
        cases on : i.active with
        | none => rfl
        | some lit =>
            cases active : es.lookup "active" with
            | none => rfl
            | some x => exact (unmentioned lit x on active).elim

def roomUptake : roomPart.Uptake where
  take := Room.resume
  Fits x _ := Comes x.entries
  fits_take fits _ := fits
  skip {w name x} rest unknown := by
    have unknown : w.rooms.get? name = none := unknown
    show (loadRooms _).runOn w = (loadRooms rest).runOn w
    rw [loadRooms, Act.runOn_bind_ok (Act.runOn_get w)]
    simp only [unknown]
  step {w name x r} rest found fits := by
    have found : w.rooms.get? name = some r := found
    obtain ⟨es, entries⟩ := fits
    cases Content.entries_eq_ok.mp entries
    show (loadRooms ((name, .mapping es) :: rest)).runOn w =
      (loadRooms rest).runOn (w.updateRoom name (Room.resume (.mapping es)))
    rw [loadRooms, Act.runOn_bind_ok (Act.runOn_get w)]
    simp only [found, entries]
    rw [Act.runOn_bind_ok (Act.runOn_ofExcept _ w), Act.runOn_bind_ok (Act.runOn_modify _ w)]
    have resumed : w.rooms.update name (Room.resume (.mapping es)) = w.rooms.update name (fun r' =>
        { r' with
          locked := (savedOr es "locked" (.bool r.locked)).isFilled
          updated := (savedOr es "observation_updated" (.bool r.updated)).isFilled }) := by
      refine Roster.update_congr fun r' there => ?_
      rw [found] at there
      cases there
      rfl
    unfold updateRoom
    rw [resumed]

def characterUptake : characterPart.Uptake where
  take := Character.resume
  Fits x c :=
    Comes x.entries ∧ Comes (savedWhole (savedOr x.table "health" c.health.toContent))
  fits_take {x y c} fits other := by
    obtain ⟨entries, health⟩ := fits
    obtain ⟨-, n, number⟩ := other
    refine ⟨entries, ?_⟩
    have counted : (Character.resume y c).health = .number n := by
      simp only [Character.resume, number]
      rfl
    rw [counted]
    unfold savedOr at health ⊢
    cases mentioned : x.table.lookup "health" with
    | none => exact ⟨n, rfl⟩
    | some h => rwa [mentioned] at health
  skip {w name x} rest unknown := by
    have unknown : w.characters.get? name = none := unknown
    show (loadCharacters _).runOn w = (loadCharacters rest).runOn w
    rw [loadCharacters, Act.runOn_bind_ok (Act.runOn_get w)]
    simp only [unknown]
  step {w name x c} rest found fits := by
    have found : w.characters.get? name = some c := found
    obtain ⟨⟨es, entries⟩, n, number⟩ := fits
    cases Content.entries_eq_ok.mp entries
    have number : savedWhole (savedOr es "health" c.health.toContent) = .ok n := number
    show (loadCharacters ((name, .mapping es) :: rest)).runOn w =
      (loadCharacters rest).runOn (w.updateCharacter name (Character.resume (.mapping es)))
    rw [loadCharacters, Act.runOn_bind_ok (Act.runOn_get w)]
    simp only [found, entries]
    rw [Act.runOn_bind_ok (Act.runOn_ofExcept _ w), number,
      Act.runOn_bind_ok (Act.runOn_ofExcept _ w), Act.runOn_bind_ok (Act.runOn_modify _ w)]
    have resumed : w.characters.update name (Character.resume (.mapping es)) =
        w.characters.update name (fun c' =>
          { c' with
            health := .number n
            interacted :=
              (savedOr es "interaction_occurred" (.bool c.interacted)).isFilled }) := by
      refine Roster.update_congr fun c' there => ?_
      rw [found] at there
      cases there
      simp only [Character.resume, Content.table, number]
      rfl
    unfold updateCharacter
    rw [resumed]

/-- Lines come to be said if the ids can be looked through for each of them. -/
theorem useLines_comes {ids : Content} {lines : List PlayerLine}
    (holds : ∀ l ∈ lines, Comes (holdsId ids l.id)) : (useLines ids lines).2 = .ok () := by
  induction lines with
  | nil => rfl
  | cons l lines ih =>
      obtain ⟨used, held⟩ := holds l (List.mem_cons_self ..)
      simp only [useLines, held]
      exact ih fun l' mem => holds l' (List.mem_cons_of_mem _ mem)

/-- Lines keep their ids. -/
theorem useLines_ids (ids : Content) (lines : List PlayerLine) :
    (useLines ids lines).1.map PlayerLine.id = lines.map PlayerLine.id := by
  have same := congrArg (List.map PlayerLine.id) (useLines_bare ids lines)
  rwa [List.map_map, List.map_map] at same

def lineUptake : linePart.Uptake where
  take := Dialogue.resume
  Fits x d := ∀ l ∈ d.lines, Comes (holdsId x l.id)
  fits_take {x y d} fits _ := by
    intro l mem
    have there : l.id ∈ d.lines.map PlayerLine.id := by
      rw [← useLines_ids y d.lines]
      exact List.mem_map_of_mem mem
    obtain ⟨l₀, before, same⟩ := List.mem_map.mp there
    rw [← same]
    exact fits l₀ before
  skip {w name x} rest unknown := by
    have unknown : w.dialogues.get? name = none := unknown
    show (loadUsedLines _).runOn w = (loadUsedLines rest).runOn w
    rw [loadUsedLines, Act.runOn_bind_ok (Act.runOn_get w)]
    simp only [unknown]
  step {w name x d} rest found fits := by
    have found : w.dialogues.get? name = some d := found
    show (loadUsedLines ((name, x) :: rest)).runOn w =
      (loadUsedLines rest).runOn (w.updateDialogue name (Dialogue.resume x))
    rw [loadUsedLines, Act.runOn_bind_ok (Act.runOn_get w)]
    simp only [found]
    rw [Act.runOn_bind_ok (Act.runOn_modify _ w), useLines_comes fits,
      Act.runOn_bind_ok (Act.runOn_ofExcept _ _)]
    have resumed : w.dialogues.update name (Dialogue.resume x) =
        w.dialogues.update name (fun d' => { d' with lines := (useLines x d.lines).1 }) := by
      refine Roster.update_congr fun d' there => ?_
      rw [found] at there
      cases there
      rfl
    unfold updateDialogue
    rw [resumed]

/-! ## 4. Flags -/

/-- **The flags come to what is saved**, if all the names are names of flags. -/
theorem loadFlags_run {es : List (String × Content)} {w : World} (plain : w.flags.IsPlain)
    (named : ∀ e ∈ es, ∃ f : Flag, e.1 = f.word) :
    (loadFlags es).runOn w = (.ok (), { w with flags := w.flags.resume es }) := by
  induction es generalizing w with
  | nil => rfl
  | cons e es ih =>
      obtain ⟨name, x⟩ := e
      obtain ⟨f, rfl⟩ : ∃ f : Flag, name = f.word := named _ (List.mem_cons_self ..)
      rw [loadFlags, Act.runOn_bind_ok (assignFlag_run plain f _),
        ih (w := { w with flags := w.flags.set f x.isFilled }) (plain.set f _)
          fun e' mem => named e' (List.mem_cons_of_mem _ mem)]
      simp only [Flags.resume, List.foldl_cons, Flag.ofWord?_word, Option.elim_some]

/-! ## 5. Saved games -/

/-- The entries of a part of a saved game. -/
def savedPart (es : List (String × Content)) (part : String) : List (String × Content) :=
  (savedOr es part .null).table

/-- **The world that a saved game asks for.** -/
def resume (es : List (String × Content)) (w : World) : World :=
  { w with
    current := savedOr es "current" w.current
    items := w.items.takeUp Item.resume (savedPart es "items")
    rooms := w.rooms.takeUp Room.resume (savedPart es "rooms")
    characters := w.characters.takeUp Character.resume (savedPart es "characters")
    flags := w.flags.resume (savedPart es "flags")
    dialogues := w.dialogues.takeUp Dialogue.resume (savedPart es "used_lines") }

/-- **Nothing else is saved**: the plan stays what it was. -/
theorem plan_resume (es : List (String × Content)) (w : World) : (w.resume es).plan = w.plan := by
  have rooms := w.rooms.map_takeUp Room.bare_resume (savedPart es "rooms")
  have items := w.items.map_takeUp Item.bare_resume (savedPart es "items")
  have characters := w.characters.map_takeUp Character.bare_resume (savedPart es "characters")
  have dialogues := w.dialogues.map_takeUp Dialogue.bare_resume (savedPart es "used_lines")
  unfold plan resume
  simp only [rooms, items, characters, dialogues]

/-- The parts of a saved game that have entries. -/
def savedParts : List String := ["items", "rooms", "characters", "flags", "used_lines"]

/-- **The saved game fits the world**: its parts have entries, and these fit what they are about. -/
structure Fits (w : World) (es : List (String × Content)) : Prop where
  parts : ∀ part ∈ savedParts, Comes (savedOr es part .null).filledEntries
  items : ∀ e ∈ savedPart es "items", ∀ i, w.items.get? e.1 = some i → itemUptake.Fits e.2 i
  rooms : ∀ e ∈ savedPart es "rooms", ∀ r, w.rooms.get? e.1 = some r → roomUptake.Fits e.2 r
  characters : ∀ e ∈ savedPart es "characters", ∀ c, w.characters.get? e.1 = some c →
    characterUptake.Fits e.2 c
  flags : ∀ e ∈ savedPart es "flags", ∃ f : Flag, e.1 = f.word
  lines : ∀ e ∈ savedPart es "used_lines", ∀ d, w.dialogues.get? e.1 = some d →
    lineUptake.Fits e.2 d

/-- **Bringing a saved game about that fits the world leads to the world it asks for.** -/
theorem loadSaved_run {w : World} {es : List (String × Content)} (plain : w.flags.IsPlain)
    (fits : w.Fits es) : (loadSaved (.mapping es)).runOn w =
      (.ok (), (w.resume es).noted (restoredNote (w.resume es))) := by
  have entries {part : String} (mem : part ∈ savedParts) :=
    Content.filledEntries_table (fits.parts part mem)
  refine loadSaved_eq_ok.mpr ⟨es, rfl, .parts _ _ _ _ _ _ _ _ _ (w.resume es)
    (entries (by decide)) (itemUptake.load_run fits.items) (entries (by decide))
    (roomUptake.load_run fits.rooms) (entries (by decide))
    (characterUptake.load_run fits.characters) (entries (by decide))
    (loadFlags_run plain fits.flags) (entries (by decide)) ?_ rfl⟩
  exact lineUptake.load_run fits.lines

end World

end Adventure
