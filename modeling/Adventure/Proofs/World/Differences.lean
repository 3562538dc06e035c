import Adventure.Proofs.World.Grown
import Adventure.Proofs.World.Saved
import Adventure.Proofs.World.Steps
import Mathlib.Data.List.Nodup

/-!
# Differences lead from one world to another

* `WorldPart`: how a part of a world is brought about, entry by entry;
* `load_reaches`: **a part becomes what saved entries bring about**;
* `World.KeepsNames`, `World.HasDistinctLines`: adventures whose names files keep, and whose lines
  can be told apart; `World.Counts`: worlds whose changes can be read back;
* `load_differences`, `loadFlags_kept`, `loadLines_kept`: **the differences between two worlds, as a
  sheet keeps them, lead from one to the other**.
-/

namespace Adventure

open Outcome

/-! ## 1. Parts of a world -/

/-- **How a part of a world is brought about.** An entry that is `Near` another one can be made into
    it by what is saved of the other. -/
structure WorldPart (α : Type) where
  roster : World → Roster α
  put : Roster α → World → World
  load : List (String × Content) → Act World Unit
  Near : α → α → Prop
  roster_put : ∀ r w, roster (put r w) = r
  put_put : ∀ r r' w, put r (put r' w) = put r w
  put_roster : ∀ w, put (roster w) w = w
  load_nil : ∀ w, (load []).runOn w = (.ok (), w)
  near_refl : ∀ a, Near a a

namespace WorldPart

variable {α : Type} (P : WorldPart α)

/-- The saved entry brings about the entry `t` of the part. -/
def Brings (e : String × Content) (t : α) : Prop :=
  ∀ v a rest, (P.roster v).get? e.1 = some a → P.Near a t →
    (P.load (e :: rest)).runOn v =
      (P.load rest).runOn (P.put ((P.roster v).update e.1 (fun _ => t)) v)

/-- The entries of a roster are near those of another one with the same names. -/
def Nears (r target : Roster α) : Prop :=
  r.names = target.names ∧ ∀ name a, r.get? name = some a →
    ∃ t, target.get? name = some t ∧ P.Near a t

variable {P} {start target : Roster α}

theorem Nears.has (nears : P.Nears start target) (name : String) :
    target.has name = start.has name := by
  rw [Bool.eq_iff_iff, ← Roster.mem_names_iff, ← Roster.mem_names_iff, nears.1]

/-- Rosters agree under a name if entries that stand under it and are near are the same. -/
theorem Nears.agree (nears : P.Nears start target) {name : String}
    (same : ∀ a t, start.get? name = some a → target.get? name = some t → P.Near a t → a = t) :
    start.get? name = target.get? name := by
  cases ha : start.get? name with
  | none =>
      cases ht : target.get? name with
      | none => rfl
      | some t =>
          have has := (nears.has name).symm.trans (Roster.has_of_get? ht)
          obtain ⟨a, ha'⟩ := (Roster.has_iff _).mp has
          rw [ha] at ha'
          cases ha'
  | some a =>
      obtain ⟨t, ht, near⟩ := nears.2 name a ha
      rw [ht, same a t ha ht near]

/-- **The part becomes the target** if saved entries bring about what differs. -/
theorem load_reaches (target : Roster α) :
    ∀ {es : List (String × Content)} {w : World},
      (∀ e ∈ es, ∃ t, target.get? e.1 = some t ∧ P.Brings e t) →
      P.Nears (P.roster w) target →
      (∀ name, name ∉ es.map Prod.fst → (P.roster w).get? name = target.get? name) →
      (P.load es).runOn w = (.ok (), P.put target w)
  | [], w, _, nears, same => by
      have reached : P.roster w = target :=
        Roster.ext_get? nears.1 fun name => same name List.not_mem_nil
      rw [P.load_nil, ← reached, P.put_roster]
  | e :: es, w, brings, nears, same => by
      obtain ⟨t, ht, step⟩ := brings e (List.mem_cons_self ..)
      have has := (nears.has e.1).symm.trans (Roster.has_of_get? ht)
      obtain ⟨a, ha⟩ := (Roster.has_iff _).mp has
      obtain ⟨t', ht', near⟩ := nears.2 _ a ha
      rw [ht] at ht'
      cases ht'
      have later : (P.load es).runOn (P.put ((P.roster w).update e.1 (fun _ => t)) w) =
          (.ok (), P.put target (P.put ((P.roster w).update e.1 (fun _ => t)) w)) := by
        refine load_reaches target (fun e' he' => brings e' (List.mem_cons_of_mem _ he')) ?_ ?_
        · rw [P.roster_put]
          refine ⟨(Roster.names_update ..).trans nears.1, fun name a' ha' => ?_⟩
          rcases Roster.get?_update_cases ha' with ⟨rfl, -, -, rfl⟩ | ⟨-, ha'⟩
          · exact ⟨a', ht, P.near_refl _⟩
          · exact nears.2 name a' ha'
        · intro name fresh
          rw [P.roster_put]
          by_cases here : name = e.1
          · subst here
            rw [Roster.get?_update_self ha, ht]
          · rw [Roster.get?_update_ne _ here]
            refine same name fun mem => ?_
            rcases List.mem_cons.mp mem with k | k
            · exact here k
            · exact fresh k
      rw [step w a es ha near, later, P.put_put]

end WorldPart

/-! ## 2. Differences -/

namespace World

section Differences

variable {α σ : Type} {same : σ → σ → Bool} {toContent : σ → Content} {state : α → σ}

theorem mem_differences {now before : List (String × σ)} {name : String} {x : Content} :
    (name, x) ∈ differences same toContent now before ↔
      ∃ s, (name, s) ∈ now ∧ (before.lookup name).any (same s) = false ∧ x = toContent s := by
  unfold differences
  rw [List.mem_filterMap]
  constructor
  · rintro ⟨⟨name', s⟩, mem, h⟩
    split at h
    · cases h
    · next differs =>
        cases h
        exact ⟨s, mem, by simpa using differs, rfl⟩
  · rintro ⟨s, mem, differs, rfl⟩
    refine ⟨(name, s), mem, ?_⟩
    simp only
    rw [if_neg (by rw [differs]; exact Bool.false_ne_true)]

theorem lookup_states (r : Roster α) (name : String) :
    (r.entries.map (fun e => (e.1, state e.2))).lookup name = (r.get? name).map state :=
  Roster.lookup_map state name r.entries

variable {P : WorldPart α} {start target : Roster α}

/-- **The differences of a part, as a sheet keeps them, lead from one world to the other.** -/
theorem load_differences {w : World} (begins : P.roster w = start) (nears : P.Nears start target)
    (kept : ∀ name, start.has name = true → Text.kept name = name)
    (differ : ∀ name a t, start.get? name = some a → target.get? name = some t → P.Near a t →
      same (state t) (state a) = true → a = t)
    (brings : ∀ name t, target.get? name = some t →
      ((start.get? name).map state).any (same (state t)) = false →
        P.Brings (name, (toContent (state t)).asKept) t) :
    (P.load (Content.keptEntries (differences same toContent
      (target.entries.map (fun e => (e.1, state e.2)))
      (start.entries.map (fun e => (e.1, state e.2)))))).runOn w = (.ok (), P.put target w) := by
  have named {name : String} (has : target.has name = true) : Text.kept name = name :=
    kept name ((nears.has name).symm.trans has)
  refine WorldPart.load_reaches target ?_ (begins ▸ nears) ?_
  · rintro ⟨name, x⟩ mem
    obtain ⟨⟨name', y⟩, differs, rfl, rfl⟩ := Content.mem_keptEntries.mp mem
    obtain ⟨s, now, other, rfl⟩ := mem_differences.mp differs
    obtain ⟨⟨_, t⟩, there, e⟩ := List.mem_map.mp now
    cases e
    rw [lookup_states] at other
    have ht := target.mem_entries_iff.mp there
    simp only
    rw [named (Roster.has_of_get? ht)]
    exact ⟨t, ht, brings _ t ht other⟩
  · intro name fresh
    rw [begins]
    refine nears.agree fun a t ha ht near => ?_
    -- an entry that differs would have been kept under its name
    by_contra differs
    refine fresh (List.mem_map_of_mem (f := Prod.fst)
      (a := (name, (toContent (state t)).asKept)) ?_)
    refine Content.mem_keptEntries.mpr ⟨(name, toContent (state t)), ?_,
      named (Roster.has_of_get? ht), rfl⟩
    refine mem_differences.mpr ⟨state t, ?_, ?_, rfl⟩
    · exact List.mem_map.mpr ⟨(name, t), target.mem_entries_iff.mpr ht, rfl⟩
    · rw [lookup_states, ha, Option.map_some, Option.any_some, Bool.eq_false_iff]
      exact fun equal => differs (differ name a t ha ht near equal)

end Differences

/-! ## 3. Adventures that can be kept -/

/-- **Files keep the names of the adventure**, so that what is saved under them is found again. -/
def KeepsNames (b : World) : Prop :=
  ∀ name ∈ b.rooms.names ++ b.items.names ++ b.characters.names ++ b.dialogues.names,
    Text.kept name = name

instance (b : World) : Decidable b.KeepsNames := by
  unfold KeepsNames
  infer_instance

/-- The lines of each dialogue have ids of their own. -/
def HasDistinctLines (b : World) : Prop :=
  ∀ e ∈ b.dialogues.entries, (e.2.lines.map PlayerLine.id).Nodup

instance (b : World) : Decidable b.HasDistinctLines := by
  unfold HasDistinctLines
  infer_instance

/-- **Whoever play has changed has a number for health**, and not the word, which cannot be read
    back as a number. -/
def Counts (b w : World) : Prop :=
  ∀ name ch, w.characters.get? name = some ch →
    (b.characters.get? name).map Character.state = some ch.state ∨ ∃ n, ch.health = .number n

section Names

variable {b : World} (keeps : b.KeepsNames) {name : String}

include keeps

theorem kept_room (has : b.rooms.has name = true) : Text.kept name = name :=
  keeps name (by simp [(Roster.mem_names_iff _).mpr has])

theorem kept_item (has : b.items.has name = true) : Text.kept name = name :=
  keeps name (by simp [(Roster.mem_names_iff _).mpr has])

theorem kept_character (has : b.characters.has name = true) : Text.kept name = name :=
  keeps name (by simp [(Roster.mem_names_iff _).mpr has])

theorem kept_dialogue (has : b.dialogues.has name = true) : Text.kept name = name :=
  keeps name (by simp [(Roster.mem_names_iff _).mpr has])

end Names

end World

/-! ## 4. Items, rooms and characters -/

theorem Item.eq_of_bare {i t : Item} (h : i.bare = t.bare) :
    { i with location := t.location, active := t.active } = t := by
  cases i
  cases t
  simp only [Item.bare, Item.mk.injEq] at h
  simp [h]

theorem Room.eq_of_bare {r t : Room} (h : r.bare = t.bare) :
    { r with locked := t.locked, updated := t.updated } = t := by
  cases r
  cases t
  simp only [Room.bare, Room.mk.injEq] at h
  simp [h]

theorem Character.eq_of_bare {c t : Character} (h : c.bare = t.bare) :
    { c with health := t.health, interacted := t.interacted } = t := by
  cases c
  cases t
  simp only [Character.bare, Character.mk.injEq] at h
  simp [h]

namespace World

/-- What a saved state is walked through by. -/
theorem entries_kept (es : List (String × Content)) :
    (Content.mapping es).asKept.entries = .ok (Content.keptEntries es) := by
  rw [Content.asKept_mapping]
  rfl

/-- The keys of saved states. -/
def stateKeys : List String :=
  ["location", "active", "locked", "observation_updated", "health", "interaction_occurred"]

theorem kept_stateKeys : ∀ key ∈ stateKeys, Text.kept key = key := by decide +kernel

/-- What is found in a saved state. -/
theorem lookup_state {es : List (String × Content)} (keys : (es.map Prod.fst).Sublist stateKeys)
    (key : String) : (Content.keptEntries es).lookup key = (es.lookup key).map Content.asKept := by
  refine Content.lookup_keptEntries (keys.nodup (by decide)) (fun e he => ?_) key
  exact kept_stateKeys _ (keys.subset (List.mem_map_of_mem he))

def itemPart : WorldPart Item where
  roster := World.items
  put items w := { w with items }
  load := loadItems
  Near i t := i.bare = t.bare
  roster_put _ _ := rfl
  put_put _ _ _ := rfl
  put_roster _ := rfl
  load_nil _ := rfl
  near_refl _ := rfl

def roomPart : WorldPart Room where
  roster := World.rooms
  put rooms w := { w with rooms }
  load := loadRooms
  Near r t := r.bare = t.bare
  roster_put _ _ := rfl
  put_put _ _ _ := rfl
  put_roster _ := rfl
  load_nil _ := rfl
  near_refl _ := rfl

def characterPart : WorldPart Character where
  roster := World.characters
  put characters w := { w with characters }
  load := loadCharacters
  Near c t := c.bare = t.bare
  roster_put _ _ := rfl
  put_put _ _ _ := rfl
  put_roster _ := rfl
  load_nil _ := rfl
  near_refl _ := rfl

/-- **Where an item can lie is found again.** -/
theorem savedLocation_kept {b : World} (keeps : b.KeepsNames) {nowhere : Prop} {location : Content}
    (lodges : b.Lodges nowhere location) :
    savedLocation location.unmarked.asKept = .ok location := by
  cases lodges with
  | inventory =>
      have kept : Text.kept Content.inventoryWord = Content.inventoryWord := by decide +kernel
      simp [Content.unmarked, Content.asKept, kept, savedLocation, Content.isAtomic]
  | room room known other =>
      have kept := kept_room keeps known
      simp [Content.unmarked, Content.asKept, kept, savedLocation, Content.isAtomic, other]
  | nowhere => rfl

theorem unmarked_inj {b : World} {nowhere nowhere' : Prop} {x y : Content} (hx : b.Lodges nowhere x)
    (hy : b.Lodges nowhere' y) (h : x.unmarked.same y.unmarked = true) : y = x := by
  cases hx with
  | inventory =>
      cases hy with
      | inventory => rfl
      | room room known other =>
          exact absurd (by simpa [Content.unmarked] using h) other
      | nowhere => cases h
  | room room known other =>
      cases hy with
      | inventory => exact absurd (by simpa [Content.unmarked] using h) (Ne.symm other)
      | room => simpa [Content.unmarked] using h
      | nowhere => cases h
  | nowhere =>
      cases hy with
      | inventory => cases h
      | room => cases h
      | nowhere => rfl

/-- The state of an item as it is kept. -/
theorem itemState_kept (t : Item) : ∃ es, (ItemState.toContent t.state).asKept = .mapping es ∧
    savedOr es "location" .null = t.location.unmarked.asKept ∧
      es.lookup "active" = t.active.map Content.bool := by
  cases ht : t.active with
  | none =>
      have keys : ([("location", t.location.unmarked)].map Prod.fst).Sublist stateKeys :=
        show ["location"].Sublist stateKeys by decide
      refine ⟨Content.keptEntries [("location", t.location.unmarked)], ?_, ?_, ?_⟩
      · simp only [ItemState.toContent, Item.state, ht, Content.asKept_mapping]
      · rw [savedOr, lookup_state keys]
        rfl
      · rw [lookup_state keys]
        rfl
  | some lit =>
      have keys : ([("location", t.location.unmarked), ("active", .bool lit)].map
          Prod.fst).Sublist stateKeys := show ["location", "active"].Sublist stateKeys by decide
      refine ⟨Content.keptEntries [("location", t.location.unmarked), ("active", .bool lit)],
        ?_, ?_, ?_⟩
      · simp only [ItemState.toContent, Item.state, ht, Content.asKept_mapping]
      · rw [savedOr, lookup_state keys]
        rfl
      · rw [lookup_state keys]
        rfl

theorem brings_item {b : World} (keeps : b.KeepsNames) {name : String} {t : Item}
    {nowhere : Prop}
    (lodges : b.Lodges nowhere t.location) :
    itemPart.Brings (name, (ItemState.toContent t.state).asKept) t := by
  intro v i rest found near
  have found : v.items.get? name = some i := found
  have place := savedLocation_kept keeps lodges
  have switched : i.active.map (fun _ => false) = t.active.map (fun _ => false) :=
    congrArg Item.active near
  obtain ⟨es, kept, location, active⟩ := itemState_kept t
  have state : (ItemState.toContent t.state).asKept.entries = .ok es := by
    rw [kept]
    rfl
  have taken : (Act.ofExcept (savedLocation (savedOr es "location" .null))).runOn v =
      (.ok t.location, v) := by
    rw [location, place]
    rfl
  show (loadItems ((name, _) :: rest)).runOn v =
    (loadItems rest).runOn (v.updateItem name (fun _ => t))
  rw [loadItems]
  rw [Act.runOn_bind_ok (Act.runOn_get v)]
  simp only [found, state]
  rw [Act.runOn_bind_ok (Act.runOn_ofExcept _ v), Act.runOn_bind_ok taken,
    Act.runOn_bind_ok (Act.runOn_modify _ v), active]
  cases ht : t.active with
  | none =>
      have hi : i.active = none := by simpa [ht] using switched
      simp only [hi]
      have reached : v.items.update name (fun i => { i with location := t.location }) =
          v.items.update name (fun _ => t) := by
        refine Roster.update_congr fun i' hi' => ?_
        rw [found] at hi'
        cases hi'
        rw [← Item.eq_of_bare near, ht, hi]
      unfold updateItem
      rw [reached]
  | some lit =>
      obtain ⟨x, hi⟩ : ∃ x, i.active = some x := by
        cases hi : i.active with
        | none => simp [ht, hi] at switched
        | some x => exact ⟨x, rfl⟩
      simp only [hi, Option.map_some]
      rw [Act.runOn_bind_ok (Act.runOn_modify _ _)]
      have reached : (v.items.update name (fun i => { i with location := t.location })).update name
          (fun i => { i with active := some lit }) = v.items.update name (fun _ => t) := by
        rw [Roster.update_update]
        refine Roster.update_congr fun i' hi' => ?_
        rw [found] at hi'
        cases hi'
        rw [← Item.eq_of_bare near, ht]
      unfold updateItem
      simp only [Content.isFilled, reached]

theorem brings_room (name : String) (t : Room) :
    roomPart.Brings (name, (RoomState.toContent t.state).asKept) t := by
  intro v r rest found near
  have found : v.rooms.get? name = some r := found
  have keys : ([("locked", Content.bool t.locked), ("observation_updated", .bool t.updated)].map
      Prod.fst).Sublist stateKeys :=
    show ["locked", "observation_updated"].Sublist stateKeys by decide
  obtain ⟨es, state, locked, updated⟩ : ∃ es, (RoomState.toContent t.state).asKept.entries =
      .ok es ∧ (∀ c, savedOr es "locked" c = .bool t.locked) ∧
        ∀ c, savedOr es "observation_updated" c = .bool t.updated := by
    refine ⟨_, entries_kept _, fun c => ?_, fun c => ?_⟩
    · rw [savedOr, Room.state, lookup_state keys]
      rfl
    · rw [savedOr, Room.state, lookup_state keys]
      rfl
  show (loadRooms ((name, _) :: rest)).runOn v =
    (loadRooms rest).runOn (v.updateRoom name (fun _ => t))
  rw [loadRooms, Act.runOn_bind_ok (Act.runOn_get v)]
  simp only [found, state]
  rw [Act.runOn_bind_ok (Act.runOn_ofExcept _ v), Act.runOn_bind_ok (Act.runOn_modify _ v)]
  have reached : v.rooms.update name (fun r =>
      { r with locked := t.locked, updated := t.updated }) =
      v.rooms.update name (fun _ => t) := by
    refine Roster.update_congr fun r' hr' => ?_
    rw [found] at hr'
    cases hr'
    exact Room.eq_of_bare near
  unfold updateRoom
  simp only [locked, updated, Content.isFilled, reached]

theorem kept_figure (f : Figure) : f.toContent.asKept = f.toContent := by
  cases f with
  | number n => rfl
  | word => decide +kernel

/-- What is found in the saved state of a character. -/
theorem savedOr_character (c : CharacterState) : ∃ es,
    (CharacterState.toContent c).asKept.entries = .ok es ∧
      (∀ x, savedOr es "health" x = c.health.toContent) ∧
      ∀ x, savedOr es "interaction_occurred" x = .bool c.interacted := by
  have keys : ([("health", c.health.toContent),
      ("interaction_occurred", Content.bool c.interacted)].map Prod.fst).Sublist stateKeys :=
    show ["health", "interaction_occurred"].Sublist stateKeys by decide
  refine ⟨_, entries_kept _, fun x => ?_, fun x => ?_⟩
  · rw [savedOr, lookup_state keys]
    show ((some c.health.toContent).map Content.asKept).getD x = _
    rw [Option.map_some, Option.getD_some, kept_figure]
  · rw [savedOr, lookup_state keys]
    rfl

theorem brings_character (name : String) {t : Character} (whole : ∃ n, t.health = .number n) :
    characterPart.Brings (name, (CharacterState.toContent t.state).asKept) t := by
  intro v c rest found near
  have found : v.characters.get? name = some c := found
  obtain ⟨n, number⟩ := whole
  obtain ⟨es, state, health, interacted⟩ := savedOr_character t.state
  have taken (x : Content) :
      (Act.ofExcept (savedWhole (savedOr es "health" x))).runOn v = (.ok n, v) := by
    rw [health, Character.state, number]
    rfl
  show (loadCharacters ((name, _) :: rest)).runOn v =
    (loadCharacters rest).runOn (v.updateCharacter name (fun _ => t))
  rw [loadCharacters, Act.runOn_bind_ok (Act.runOn_get v)]
  simp only [found, state]
  rw [Act.runOn_bind_ok (Act.runOn_ofExcept _ v), Act.runOn_bind_ok (taken _),
    Act.runOn_bind_ok (Act.runOn_modify _ v)]
  have reached : v.characters.update name (fun c =>
      { c with health := .number n, interacted := t.state.interacted }) =
      v.characters.update name (fun _ => t) := by
    refine Roster.update_congr fun c' hc' => ?_
    rw [found] at hc'
    cases hc'
    rw [← number]
    exact Character.eq_of_bare near
  unfold updateCharacter
  simp only [interacted, Content.isFilled, reached]

/-! ## 5. Flags -/

/-- Flags that are clean are told apart by what they say. -/
theorem flags_eq {fs gs : Flags} (hf : fs.IsClean) (hg : gs.IsClean)
    (h : ∀ f, fs.get f = gs.get f) : fs = gs :=
  Flags.ext_get h (by rw [hf.2, hg.2]) (by rw [hf.1.1, hg.1.1]) (by rw [hf.1.2, hg.1.2])

/-- **The flags become the target** if the saved ones say what differs. -/
theorem loadFlags_reaches {target : Flags} (clean : target.IsClean) :
    ∀ {es : List (String × Content)} {w : World}, w.flags.IsClean →
      (∀ e ∈ es, ∃ f : Flag, e = (f.word, .bool (target.get f))) →
      (∀ f : Flag, f.word ∉ es.map Prod.fst → w.flags.get f = target.get f) →
      (loadFlags es).runOn w = (.ok (), { w with flags := target })
  | [], w, start, _, same => by
      rw [← flags_eq start clean fun f => same f List.not_mem_nil]
      rfl
  | e :: es, w, start, named, same => by
      obtain ⟨f, rfl⟩ := named e (List.mem_cons_self ..)
      rw [loadFlags, Act.runOn_bind_ok (assignFlag_run start.1 f _)]
      refine loadFlags_reaches clean (start.set f _)
        (fun e he => named e (List.mem_cons_of_mem _ he)) fun g fresh => ?_
      show (w.flags.set f (target.get f)).get g = target.get g
      rw [Flags.get_set]
      by_cases here : g = f
      · rw [if_pos here, here]
      · rw [if_neg here]
        refine same g fun mem => ?_
        rcases List.mem_cons.mp mem with k | k
        · exact here (Option.some.inj ((Flag.ofWord?_word g).symm.trans (k ▸ Flag.ofWord?_word f)))
        · exact fresh k

/-- The differences of flags that are clean. -/
theorem mem_flagDifferences {now before : Flags} (hn : now.IsClean) (hb : before.IsClean)
    {e : String × Content} : e ∈ flagDifferences now before ↔
      ∃ f : Flag, e = (f.word, .bool (now.get f)) ∧ now.get f ≠ before.get f := by
  have shown {fs : Flags} (h : fs.IsClean) : fs.shown = fs.entries := by
    simp only [Flags.shown, h.1.1]
  have all (f : Flag) : f ∈ Flag.all := by cases f <;> decide
  have keys : (before.entries.map Prod.fst).Nodup :=
    show (Flag.all.map Flag.word).Nodup by decide +kernel
  have found (f : Flag) : before.entries.lookup f.word = some (.bool (before.get f)) :=
    lookup_of_mem keys (List.mem_map_of_mem (f := fun f => (f.word, Content.bool (before.get f)))
      (all f))
  have same (x y : Bool) : (Content.bool x).same (.bool y) = true ↔ x = y := by
    cases x <;> cases y <;> decide
  unfold flagDifferences
  rw [shown hn, shown hb, List.mem_filter]
  constructor
  · rintro ⟨mem, differs⟩
    obtain ⟨f, -, rfl⟩ := List.mem_map.mp mem
    refine ⟨f, rfl, fun equal => ?_⟩
    simp [found, equal, (same _ _).mpr] at differs
  · rintro ⟨f, rfl, differs⟩
    refine ⟨List.mem_map_of_mem (f := fun f => (f.word, Content.bool (now.get f))) (all f), ?_⟩
    rw [found, Option.any_some, Bool.not_eq_true', Bool.eq_false_iff]
    exact fun equal => differs ((same _ _).mp equal)

theorem kept_word (f : Flag) : Text.kept f.word = f.word := by
  cases f <;> decide +kernel

/-- **Saved flags come back.** -/
theorem loadFlags_kept {now before : Flags} (hn : now.IsClean) (hb : before.IsClean) {w : World}
    (begins : w.flags = before) :
    (loadFlags (Content.keptEntries (flagDifferences now before))).runOn w =
      (.ok (), { w with flags := now }) := by
  subst begins
  refine loadFlags_reaches hn hb (fun e he => ?_) fun f fresh => ?_
  · obtain ⟨e', mem, hk, hx⟩ := Content.mem_keptEntries.mp he
    obtain ⟨f, rfl, -⟩ := (mem_flagDifferences hn hb).mp mem
    refine ⟨f, Prod.ext ?_ hx.symm⟩
    rw [← hk, kept_word]
  · by_contra differs
    refine fresh (List.mem_map_of_mem (f := Prod.fst) (a := (f.word, .bool (now.get f))) ?_)
    exact Content.mem_keptEntries.mpr ⟨(f.word, .bool (now.get f)),
      (mem_flagDifferences hn hb).mpr ⟨f, rfl, Ne.symm differs⟩, kept_word f, rfl⟩

/-! ## 6. Said lines -/

def linePart : WorldPart Dialogue where
  roster := World.dialogues
  put dialogues w := { w with dialogues }
  load := loadUsedLines
  Near d t := d.replies = t.replies ∧ List.Forall₂ PlayerLine.Follows d.lines t.lines
  roster_put _ _ := rfl
  put_put _ _ _ := rfl
  put_roster _ := rfl
  load_nil _ := rfl
  near_refl _ := ⟨rfl, List.forall₂_same.mpr fun l _ => .refl l⟩

theorem figure_same {f g : Figure} : f.toContent.same g.toContent = true ↔ f = g := by
  cases f with
  | number n =>
      cases g with
      | number m => simp [Figure.toContent, Content.same, Content.number?, Content.sameNumber]
      | word => simp [Figure.toContent, Content.same, Content.number?]
  | word =>
      cases g with
      | number m => simp [Figure.toContent]
      | word => simp [Figure.toContent]

theorem figure_kept (f : Figure) : f.toContent.asKept = f.toContent := by
  cases f with
  | number n => rfl
  | word =>
      have kept : Text.kept Content.inventoryWord = Content.inventoryWord := by decide +kernel
      simp only [Figure.toContent, Content.asKept, kept]

/-- The ids of lines that have been said are kept. -/
theorem usedIds_kept (lines : List PlayerLine) :
    (Content.list ((lines.filter PlayerLine.used).map (fun line => line.id.toContent))).asKept =
      .list ((lines.filter PlayerLine.used).map (fun line => line.id.toContent)) := by
  rw [Content.asKept, Content.listAsKept_eq, List.map_map]
  exact congrArg Content.list (List.map_congr_left fun line _ => figure_kept line.id)

/-- Lines that have been said are told by their ids. -/
theorem holdsId_used {lines : List PlayerLine} (distinct : (lines.map PlayerLine.id).Nodup)
    {l : PlayerLine} (mem : l ∈ lines) :
    holdsId (Content.list ((lines.filter PlayerLine.used).map
      (fun line => line.id.toContent))).asKept l.id = .ok l.used := by
  rw [usedIds_kept, holdsId]
  refine congrArg Except.ok (Bool.eq_iff_iff.mpr ?_)
  rw [List.any_eq_true]
  constructor
  · rintro ⟨x, hx, same⟩
    obtain ⟨u, hu, rfl⟩ := List.mem_map.mp hx
    obtain ⟨there, used⟩ := List.mem_filter.mp hu
    rw [List.inj_on_of_nodup_map distinct mem there (figure_same.mp same)]
    exact used
  · exact fun used => ⟨_, List.mem_map_of_mem (f := fun line => line.id.toContent)
      (List.mem_filter.mpr ⟨mem, used⟩), figure_same.mpr rfl⟩

/-- A line is the one it follows, once that has been said if it has. -/
theorem line_of_follows {before l : PlayerLine} (follows : before.Follows l) :
    (if l.used then { before with used := true } else before) = l := by
  obtain ⟨same, stays⟩ := follows
  have used : (if l.used then true else before.used) = l.used := by
    cases hl : l.used with
    | true => rfl
    | false =>
        cases hb : before.used with
        | true => exact absurd (stays hb) (by simp [hl])
        | false => rfl
  cases before
  cases l
  simp only [PlayerLine.bare, PlayerLine.mk.injEq] at same used ⊢
  obtain ⟨rfl, rfl, rfl, rfl, -⟩ := same
  split
  · next said => simp [said]
  · next unsaid => simpa [unsaid] using used

/-- **Exactly the lines with the given ids have been said** after they are brought about. -/
theorem useLines_follows {ids : Content} {before lines : List PlayerLine}
    (follows : List.Forall₂ PlayerLine.Follows before lines)
    (holds : ∀ l ∈ lines, holdsId ids l.id = .ok l.used) :
    useLines ids before = (lines, .ok ()) := by
  induction follows with
  | nil => rfl
  | @cons l₀ l before lines here _ ih =>
      have held : holdsId ids l₀.id = .ok l.used := by
        rw [show l₀.id = l.id from (congrArg PlayerLine.id here.1).symm]
        exact holds l (List.mem_cons_self ..)
      have later := ih fun l hl => holds l (List.mem_cons_of_mem _ hl)
      simp only [useLines, held, later, line_of_follows here]

/-- Lines of which none has been said are as they were. -/
theorem lines_unsaid {before lines : List PlayerLine}
    (follows : List.Forall₂ PlayerLine.Follows before lines)
    (unsaid : ∀ l ∈ lines, l.used = false) : before = lines := by
  induction follows with
  | nil => rfl
  | @cons l₀ l before lines here _ ih =>
      have same := line_of_follows here
      rw [unsaid l (List.mem_cons_self ..)] at same
      rw [ih fun l hl => unsaid l (List.mem_cons_of_mem _ hl)]
      exact congrArg (· :: lines) same

/-- The dialogues in which lines have been said. -/
theorem mem_usedLines {dialogues : List (String × Dialogue)} {name : String} {x : Content} :
    (name, x) ∈ usedLines dialogues ↔ ∃ d, (name, d) ∈ dialogues ∧
      d.lines.filter PlayerLine.used ≠ [] ∧
        x = .list ((d.lines.filter PlayerLine.used).map (fun line => line.id.toContent)) := by
  unfold usedLines
  rw [List.mem_filterMap]
  constructor
  · rintro ⟨⟨name', d⟩, mem, h⟩
    split at h
    · cases h
    · next used some =>
        cases h
        exact ⟨d, mem, some, rfl⟩
  · rintro ⟨d, mem, said, rfl⟩
    refine ⟨(name, d), mem, ?_⟩
    simp only

theorem brings_lines {name : String} {t : Dialogue} (distinct : (t.lines.map PlayerLine.id).Nodup) :
    linePart.Brings (name, (Content.list ((t.lines.filter PlayerLine.used).map
      (fun line => line.id.toContent))).asKept) t := by
  intro v d rest found near
  have found : v.dialogues.get? name = some d := found
  obtain ⟨replies, lines⟩ := near
  have used := useLines_follows lines fun l hl => holdsId_used distinct hl
  show (loadUsedLines ((name, _) :: rest)).runOn v =
    (loadUsedLines rest).runOn (v.updateDialogue name (fun _ => t))
  rw [loadUsedLines, Act.runOn_bind_ok (Act.runOn_get v)]
  simp only [found, used]
  rw [Act.runOn_bind_ok (Act.runOn_modify _ v), Act.runOn_bind_ok (Act.runOn_ofExcept _ _)]
  have reached : v.dialogues.update name (fun d => { d with lines := t.lines }) =
      v.dialogues.update name (fun _ => t) := by
    refine Roster.update_congr fun d' hd' => ?_
    rw [found] at hd'
    cases hd'
    rw [replies]
  unfold updateDialogue
  rw [reached]

/-- **The lines that have been said come back.** -/
theorem loadLines_kept {start target : Roster Dialogue} {w : World} (begins : w.dialogues = start)
    (nears : linePart.Nears start target)
    (kept : ∀ name, start.has name = true → Text.kept name = name)
    (distinct : ∀ name d, target.get? name = some d → (d.lines.map PlayerLine.id).Nodup) :
    (loadUsedLines (Content.keptEntries (usedLines target.entries))).runOn w =
      (.ok (), { w with dialogues := target }) := by
  subst begins
  have named {name : String} {d : Dialogue} (hd : target.get? name = some d) :
      Text.kept name = name := kept name ((nears.has name).symm.trans (Roster.has_of_get? hd))
  refine WorldPart.load_reaches (P := linePart) target ?_ nears fun name fresh => ?_
  · rintro ⟨name, x⟩ mem
    obtain ⟨⟨name', y⟩, said, rfl, rfl⟩ := Content.mem_keptEntries.mp mem
    obtain ⟨d, there, -, rfl⟩ := mem_usedLines.mp said
    have hd := target.mem_entries_iff.mp there
    simp only
    rw [named hd]
    exact ⟨d, hd, brings_lines (distinct _ d hd)⟩
  · refine nears.agree fun d₀ d _ hd near => ?_
    obtain ⟨replies, lines⟩ := near
    -- no line of such a dialogue has been said, so it is as it was
    have unsaid : ∀ l ∈ d.lines, l.used = false := by
      intro l hl
      rw [Bool.eq_false_iff]
      intro used
      refine fresh (List.mem_map_of_mem (f := Prod.fst) (Content.mem_keptEntries.mpr
        ⟨(name, _), mem_usedLines.mpr ⟨d, target.mem_entries_iff.mpr hd, ?_, rfl⟩,
          named hd, rfl⟩))
      exact List.ne_nil_of_mem (List.mem_filter.mpr ⟨hl, used⟩)
    have same : d₀.lines = d.lines := lines_unsaid lines unsaid
    cases d₀
    cases d
    simp only at replies same
    rw [replies, same]

end World

end Adventure
