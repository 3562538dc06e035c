import Adventure.Proofs.World.Differences
import Adventure.Proofs.World.Mended

/-!
# What comes back from a saved game

* `loadItems_kept` and the lemmas after it: each part of a world that is saved comes back;
* `restores_saved`: **the saved game of a world brings the world back**;
* `counts_of_restores`: when it does not;
* `items_restored`, `characters_restored`, `flags_restored`: what comes back in any case;
* `savedInconsistencies_nil`: **a saved game has no inconsistencies**;
* `houses_restored`: the items of one that is accepted lie where they can.
-/

namespace Adventure.World

open Outcome

/-! ## 1. Whole worlds -/

/-- Rosters that a function sees alike are near each other. -/
theorem nears_of_map {α β : Type} {start target : Roster α} {f : α → β}
    (h : target.map f = start.map f) : start.names = target.names ∧
      ∀ name a, start.get? name = some a → ∃ t, target.get? name = some t ∧ f a = f t := by
  refine ⟨?_, fun name a ha => ?_⟩
  · rw [← Roster.names_map start f, ← h, Roster.names_map]
  · have e := congrArg (fun r => r.get? name) h
    simp only [Roster.get?_map, ha, Option.map_some] at e
    obtain ⟨t, ht, e⟩ := Option.map_eq_some_iff.mp e
    exact ⟨t, ht, e.symm⟩

/-- Worlds that agree in all but their notes are alike. -/
theorem alike_of_parts {w v : World} (rooms : v.rooms = w.rooms) (items : v.items = w.items)
    (characters : v.characters = w.characters) (dialogues : v.dialogues = w.dialogues)
    (actions : v.actions = w.actions) (scenario : v.scenario = w.scenario)
    (flags : v.flags = w.flags) (current : v.current = w.current) (intro : v.intro = w.intro)
    (origin : v.origin = w.origin) : w.Alike v := by
  cases w
  cases v
  simp only at rooms items characters dialogues actions scenario flags current intro origin
  subst rooms items characters dialogues actions scenario flags current intro origin
  exact ⟨_, rfl⟩

variable {b w v : World} {nowhere : String → Prop} (keeps : b.KeepsNames) (plan : w.plan = b.plan)

include keeps plan

/-- **The items of a saved game are those of the world.** -/
theorem loadItems_kept (built : b.IsBuilt) (sound : b.inconsistencies = .ok [])
    (houses : b.Houses nowhere w) (begins : v.items = b.items) :
    (loadItems (Content.keptEntries (differences ItemState.same ItemState.toContent
      w.snapshot.items w.origin.items))).runOn v = (.ok (), { v with items := w.items }) := by
  rw [origin_of_plan plan, built.origin]
  refine load_differences (P := itemPart) begins (nears_of_map (items_of_plan plan))
    (fun _ => kept_item keeps) (fun name i t hi ht near same => ?_)
    fun name t ht _ => brings_item keeps (houses name t ht)
  simp only [ItemState.same, Item.state, Bool.and_eq_true, beq_iff_eq] at same
  have location := unmarked_inj (houses name t ht) (houses_self built sound name i hi) same.1
  rw [← Item.eq_of_bare near, ← location, same.2]

/-- **The rooms of a saved game are those of the world.** -/
theorem loadRooms_kept (built : b.IsBuilt) (begins : v.rooms = b.rooms) :
    (loadRooms (Content.keptEntries (differences (· == ·) RoomState.toContent
      w.snapshot.rooms w.origin.rooms))).runOn v = (.ok (), { v with rooms := w.rooms }) := by
  rw [origin_of_plan plan, built.origin]
  refine load_differences (P := roomPart) begins (nears_of_map (rooms_of_plan plan))
    (fun _ => kept_room keeps) (fun name r t _ _ near same => ?_)
    fun name t _ _ => brings_room name t
  simp only [Room.state, beq_iff_eq, RoomState.mk.injEq] at same
  rw [← Room.eq_of_bare near, same.1, same.2]

/-- **The characters of a saved game are those of the world.** -/
theorem loadCharacters_kept (built : b.IsBuilt) (counts : b.Counts w)
    (begins : v.characters = b.characters) :
    (loadCharacters (Content.keptEntries (differences (· == ·) CharacterState.toContent
      w.snapshot.characters w.origin.characters))).runOn v =
        (.ok (), { v with characters := w.characters }) := by
  rw [origin_of_plan plan, built.origin]
  refine load_differences (P := characterPart) begins (nears_of_map (characters_of_plan plan))
    (fun _ => kept_character keeps) (fun name c t _ _ near same => ?_)
    fun name t ht changed => brings_character name ?_
  · simp only [Character.state, beq_iff_eq, CharacterState.mk.injEq] at same
    rw [← Character.eq_of_bare near, same.1, same.2]
  · rcases counts name t ht with same | number
    · rw [same, Option.any_some, beq_self_eq_true] at changed
      cases changed
    · exact number

omit keeps in
/-- The lines of dialogues are near those of the world. -/
theorem nears_lines (follows : b.Follows w) : linePart.Nears b.dialogues w.dialogues := by
  obtain ⟨names, near⟩ := nears_of_map (dialogues_of_plan plan)
  refine ⟨names, fun name d₀ h₀ => ?_⟩
  obtain ⟨d, hd, bare⟩ := near name d₀ h₀
  obtain ⟨d₀', h₀', lines⟩ := follows name d hd
  rw [h₀] at h₀'
  cases h₀'
  refine ⟨d, hd, ?_, lines⟩
  show d₀.bare.replies = d.bare.replies
  rw [bare]

omit keeps in
theorem distinct_of_plan (distinct : b.HasDistinctLines) :
    ∀ name d, w.dialogues.get? name = some d → (d.lines.map PlayerLine.id).Nodup := by
  intro name d hd
  obtain ⟨d₀, h₀, bare⟩ := dialogue_of_plan plan hd
  have ids (d : Dialogue) : d.lines.map PlayerLine.id = d.bare.lines.map PlayerLine.id := by
    simp only [Dialogue.bare, List.map_map]
    rfl
  rw [ids, ← bare, ← ids]
  exact distinct _ (b.dialogues.mem_entries_iff.mpr h₀)

/-- **The saved game of a world brings the world back**, but for its notes. -/
theorem restores_saved (built : b.IsBuilt) (sound : b.inconsistencies = .ok [])
    (distinct : b.HasDistinctLines) (clean : w.flags.IsClean) (placed : w.IsPlaced)
    (grown : b.Grown w) (counts : b.Counts w) (language : Content) :
    ∃ v, Restores b (w.keptGame language) v ∧ w.Alike v := by
  have current (default : Content) :
      savedOr (w.keptGame language) "current" default = w.current := by
    obtain ⟨name, e, known⟩ := placed
    rw [savedOr_current, e, Content.asKept,
      kept_room keeps ((has_room_of_plan plan name).symm.trans known)]
  have flags : b.flags = w.origin.flags := by
    rw [origin_of_plan plan, built.origin]
    rfl
  have lines (v : World) (begins : v.dialogues = b.dialogues) :=
    loadLines_kept begins (nears_lines plan grown.follows)
      (fun _ => kept_dialogue keeps) (distinct_of_plan plan distinct)
  refine ⟨_, .parts _ _ _ _ _ _ _ _ _ _ filled_items
    (loadItems_kept keeps plan built sound grown.housed rfl) filled_rooms
    (loadRooms_kept keeps plan built rfl) filled_characters
    (loadCharacters_kept keeps plan built counts rfl) filled_flags
    (loadFlags_kept clean (flags ▸ built.clean) flags) filled_lines (lines _ rfl) rfl, ?_⟩
  refine alike_of_parts rfl rfl rfl rfl (actions_of_plan plan).symm (scenario_of_plan plan).symm rfl
    (current _) ?_ (origin_of_plan plan).symm
  show b.plan.intro = w.plan.intro
  rw [plan]

omit keeps plan in
/-- Saved characters that are brought about have a health that a number is read from. -/
theorem number_of_loadCharacters :
    ∀ {rest : List (String × Content)} {u u' : World},
      (loadCharacters rest).runOn u = (.ok (), u') → ∀ {name : String} {state : Content},
        (name, state) ∈ rest → u.characters.has name = true →
          ∃ es x n, state.entries = .ok es ∧ savedWhole (savedOr es "health" x) = .ok n
  | [], _, _, _, _, _, mem, _ => absurd mem List.not_mem_nil
  | (first, saved) :: rest, u, u', run, name, state, mem, has => by
      have taken {α : Type} {r : Except Fault α} {x : α} {s t : World} :
          (Act.ofExcept r).runOn s = (.ok x, t) ↔ r = .ok x ∧ t = s := by
        simp only [Act.runOn_ofExcept, Prod.mk.injEq]
        exact and_congr_right fun _ => eq_comm
      unfold loadCharacters at run
      rw [Act.runOn_bind_ok (Act.runOn_get u)] at run
      cases there : u.characters.get? first with
      | none =>
          rw [there] at run
          rcases List.mem_cons.mp mem with e | mem
          · cases e
            obtain ⟨c, there'⟩ := (Roster.has_iff _).mp has
            rw [there] at there'
            cases there'
          · exact number_of_loadCharacters run mem has
      | some c =>
          rw [there] at run
          simp only [Act.runOn_bind_eq_ok, taken, Act.runOn_modify] at run
          obtain ⟨es, _, ⟨entries, rfl⟩, n, _, ⟨number, rfl⟩, _, _, done, later⟩ := run
          cases done
          rcases List.mem_cons.mp mem with e | mem
          · cases e
            exact ⟨es, _, n, entries, number⟩
          · refine number_of_loadCharacters later mem ?_
            exact (Roster.has_update _ first name _).trans has

/-- **A saved game that can be gone on with counts**: the word cannot be read back as a number. -/
theorem counts_of_restores (built : b.IsBuilt) {language : Content}
    (h : Restores b (w.keptGame language) v) : b.Counts w := by
  intro name ch there
  by_cases same : (b.characters.get? name).map Character.state = some ch.state
  · exact .inl same
  have has : b.characters.has name = true :=
    (has_character_of_plan plan name).symm.trans (Roster.has_of_get? there)
  -- a character that has changed is kept under its name
  have mem : (name, (CharacterState.toContent ch.state).asKept) ∈ Content.keptEntries
      (differences (· == ·) CharacterState.toContent w.snapshot.characters
        w.origin.characters) := by
    refine Content.mem_keptEntries.mpr ⟨(name, CharacterState.toContent ch.state), ?_,
      kept_character keeps has, rfl⟩
    refine mem_differences.mpr ⟨ch.state, ?_, ?_, rfl⟩
    · exact List.mem_map.mpr ⟨(name, ch), w.characters.mem_entries_iff.mpr there, rfl⟩
    · rw [origin_of_plan plan, built.origin]
      show ((b.characters.entries.map (fun e => (e.1, e.2.state))).lookup name).any _ = false
      rw [lookup_states]
      cases before : (b.characters.get? name).map Character.state with
      | none => rfl
      | some s =>
          rw [Option.any_some, beq_eq_false_iff_ne]
          rintro rfl
          exact same before
  obtain ⟨items, rooms, characters, flags, lines, w₁, w₂, w₃, w₄, w₅, -, ri, -, rr, saved, run,
    -⟩ := h
  rw [filled_characters] at saved
  cases saved
  have plan₁ := mends_preserve (I := fun u => u.plan = b.plan)
    (fun e m => (plan_mend m).trans e)
    (mends_of_run (meets_loadItems items _ fun _ he => he) trivial ri) rfl
  have plan₂ := mends_preserve (I := fun u => u.plan = b.plan)
    (fun e m => (plan_mend m).trans e)
    (mends_of_run (meets_loadRooms (fun _ _ => True) _) trivial rr) plan₁
  obtain ⟨es, x, n, entries, number⟩ := number_of_loadCharacters run mem
    ((has_character_of_plan plan₂ name).trans has)
  obtain ⟨es', entries', health, -⟩ := savedOr_character ch.state
  rw [entries] at entries'
  cases entries'
  rw [health] at number
  cases figure : ch.health with
  | number n => exact .inr ⟨n, rfl⟩
  | word =>
      rw [Character.state, figure] at number
      cases number

/-- **The items of a world that is gone on with are those of the world that was saved.** -/
theorem items_restored (built : b.IsBuilt) (sound : b.inconsistencies = .ok [])
    (houses : b.Houses nowhere w) {language : Content} (accepts : b.Accepts (w.keptGame language))
    (h : Restores b (w.keptGame language) v) : v.items = w.items := by
  obtain ⟨entries, u, u', saved, begins, run, same⟩ :=
    restores_own .items World.items rfl items_mend built.clean (fun _ => accepts) h
  cases filled_items.symm.trans saved
  cases run.symm.trans (loadItems_kept keeps plan built sound houses begins)
  exact same

/-- **The characters of a world that is gone on with are those of the world that was saved.** -/
theorem characters_restored (built : b.IsBuilt) {language : Content}
    (accepts : b.Accepts (w.keptGame language)) (h : Restores b (w.keptGame language) v) :
    v.characters = w.characters := by
  have counts := counts_of_restores keeps plan built h
  obtain ⟨entries, u, u', saved, begins, run, same⟩ :=
    restores_own .characters World.characters rfl characters_mend built.clean (fun _ => accepts) h
  cases filled_characters.symm.trans saved
  cases run.symm.trans (loadCharacters_kept keeps plan built counts begins)
  exact same

omit keeps in
/-- **The flags of a saved game are those of the world**, whatever became of the rest. -/
theorem flags_restored (built : b.IsBuilt) (clean : w.flags.IsClean) {language : Content}
    (h : Restores b (w.keptGame language) v) : v.flags = w.flags := by
  have origin : w.origin.flags = b.flags := by
    rw [origin_of_plan plan, built.origin]
    rfl
  obtain ⟨entries, u, u', saved, begins, run, same⟩ :=
    restores_own .flags World.flags rfl flags_mend built.clean (fun other => absurd rfl other) h
  cases filled_flags.symm.trans saved
  cases run.symm.trans (loadFlags_kept clean (origin ▸ built.clean) (begins.trans origin.symm))
  exact same

/-! ## 2. Without inconsistencies -/

omit keeps plan in
theorem gather_nil {α : Type} {f : α → Except Fault (List String)} {l : List α}
    (h : ∀ a ∈ l, f a = .ok []) : gather f l = .ok [] := by
  induction l with
  | nil => rfl
  | cons a l ih =>
      simp [gather, h a (List.mem_cons_self ..), ih fun a' ha' => h a' (List.mem_cons_of_mem _ ha'),
        bind, Except.bind, pure, Except.pure]

omit keeps plan in
/-- The names of a part of a saved game. -/
theorem names_of_filled {c : Content} {es : List (String × Content)}
    (h : c.filledEntries = .ok es) : c.filledElements = .ok (es.map (fun e => .text e.1)) := by
  unfold Content.filledEntries at h
  unfold Content.filledElements
  split at h
  · next filled =>
      rw [Content.entries_eq_ok.mp h] at filled ⊢
      rw [if_pos filled]
      rfl
  · next empty =>
      cases h
      rw [if_neg empty]
      rfl

omit keeps plan in
/-- Names that are known are no matter of a sentence. -/
theorem nameIssues_nil {known : Content → Except Fault Bool} {what : String} {c : Content}
    {es : List (String × Content)} (entries : c.filledEntries = .ok es)
    (h : ∀ e ∈ es, known (.text e.1) = .ok true) : nameIssues known what c = .ok [] := by
  unfold nameIssues
  rw [names_of_filled entries]
  refine gather_nil fun name hn => ?_
  obtain ⟨e, he, rfl⟩ := List.mem_map.mp hn
  rw [h e he]
  rfl

omit keeps plan in
/-- The names of what differs are names of the adventure. -/
theorem known_of_differs {α σ : Type} {same : σ → σ → Bool} {toContent : σ → Content}
    {state : α → σ} {now : Roster α} {before : List (String × σ)}
    (kept : ∀ name, now.has name = true → Text.kept name = name) {e : String × Content}
    (mem : e ∈ Content.keptEntries (differences same toContent
      (now.entries.map (fun e => (e.1, state e.2))) before)) :
    ∃ t, now.get? e.1 = some t ∧ e.2 = (toContent (state t)).asKept := by
  obtain ⟨⟨name, x⟩, differs, hk, hx⟩ := Content.mem_keptEntries.mp mem
  obtain ⟨s, at_name, -, rfl⟩ := mem_differences.mp differs
  obtain ⟨⟨_, t⟩, there, e⟩ := List.mem_map.mp at_name
  cases e
  have ht := now.mem_entries_iff.mp there
  simp only at hk
  rw [kept _ (Roster.has_of_get? ht)] at hk
  exact ⟨t, hk ▸ ht, hx.symm⟩

omit plan in
/-- Where an item can lie is a place, as it is kept. -/
theorem placeIssue_kept {nowhere : Prop} {location : Content}
    (lodges : b.Lodges nowhere location) (sentence : String) :
    (if location.unmarked.asKept = .text Content.inventoryWord then pure []
      else b.placeIssue location.unmarked.asKept sentence) = .ok [] := by
  cases lodges with
  | inventory =>
      have kept : Text.kept Content.inventoryWord = Content.inventoryWord := by decide +kernel
      rw [if_pos (by simp [Content.unmarked, Content.asKept, kept])]
      rfl
  | room room known other =>
      have kept := kept_room keeps known
      rw [if_neg (by simp [Content.unmarked, Content.asKept, kept, other])]
      simp only [Content.unmarked, Content.asKept, kept, placeIssue, Roster.knows_text, known]
      split
      · rfl
      · rfl
  | nowhere =>
      rw [if_neg (by simp [Content.unmarked, Content.asKept])]
      rfl

/-- **An item of a saved game lies where it can.** -/
theorem savedItemIssues_nil (houses : b.Houses nowhere w) {name : String} {t : Item}
    (there : w.items.get? name = some t) :
    b.savedItemIssues (name, (ItemState.toContent t.state).asKept) = .ok [] := by
  have known : b.items.has name = true :=
    (has_item_of_plan plan name).symm.trans (Roster.has_of_get? there)
  obtain ⟨es, kept, location, -⟩ := itemState_kept t
  have place : (es.lookup "location").getD .null = t.location.unmarked.asKept := location
  have issue (sentence : String) :=
    placeIssue_kept keeps (houses name t there) sentence
  unfold savedItemIssues
  simp only [known, kept, Bool.not_true, Bool.false_eq_true, if_false]
  split
  · show (if _ then _ else _) = _
    rw [place]
    exact issue _
  · next empty =>
      have none : es = [] := by simpa [Content.isFilled] using empty
      subst none
      rw [pure_bind, place]
      exact issue _

/-- **A saved game has no inconsistencies.** -/
theorem savedInconsistencies_nil (clean : w.flags.IsClean) (origin : w.origin.flags.IsClean)
    (placed : w.IsPlaced) (houses : b.Houses nowhere w) (language : Content) :
    b.savedInconsistencies (.mapping (w.keptGame language)) = .ok [] := by
  have current : ((w.keptGame language).lookup "current").getD .null = w.current := by
    obtain ⟨name, e, known⟩ := placed
    rw [show ((w.keptGame language).lookup "current").getD .null = _ from
      savedOr_current w language .null, e, Content.asKept,
      kept_room keeps ((has_room_of_plan plan name).symm.trans known)]
  have items {name : String} (has : w.items.has name = true) : b.items.has name = true :=
    (has_item_of_plan plan name).symm.trans has
  have rooms {name : String} (has : w.rooms.has name = true) : b.rooms.has name = true :=
    (has_room_of_plan plan name).symm.trans has
  have characters {name : String} (has : w.characters.has name = true) :
      b.characters.has name = true := (has_character_of_plan plan name).symm.trans has
  have here : b.placeIssue w.current
      ("Save references missing room '" ++ w.current.shown ++ "'") = .ok [] := by
    obtain ⟨name, e, known⟩ := placed
    rw [e, placeIssue, Roster.knows_text, rooms known]
    split
    · rfl
    · rfl
  have savedItems : (((w.keptGame language).lookup "items").getD .null).filledEntries >>=
      gather b.savedItemIssues = .ok [] := by
    refine bind_eq_ok.mpr ⟨_, filled_items, gather_nil fun e he => ?_⟩
    obtain ⟨t, there, kept⟩ := known_of_differs (fun _ has => kept_item keeps (items has)) he
    have issues := savedItemIssues_nil keeps plan houses there
    rw [← kept] at issues
    exact issues
  have savedRooms : nameIssues b.rooms.knows "missing room"
      (((w.keptGame language).lookup "rooms").getD .null) = .ok [] := by
    refine nameIssues_nil filled_rooms fun e he => ?_
    obtain ⟨t, there, -⟩ := known_of_differs (fun _ has => kept_room keeps (rooms has)) he
    rw [Roster.knows_text, rooms (Roster.has_of_get? there)]
  have savedCharacters : nameIssues b.characters.knows "missing character"
      (((w.keptGame language).lookup "characters").getD .null) = .ok [] := by
    refine nameIssues_nil filled_characters fun e he => ?_
    obtain ⟨t, there, -⟩ :=
      known_of_differs (fun _ has => kept_character keeps (characters has)) he
    rw [Roster.knows_text, characters (Roster.has_of_get? there)]
  have savedFlags : nameIssues (fun c => c.asName.map (fun n => (n.bind Flag.ofWord?).isSome))
      "unknown flag" (((w.keptGame language).lookup "flags").getD .null) = .ok [] := by
    refine nameIssues_nil filled_flags fun e he => ?_
    obtain ⟨e', mem, hk, -⟩ := Content.mem_keptEntries.mp he
    obtain ⟨f, rfl, -⟩ := (mem_flagDifferences clean origin).mp mem
    rw [← hk, kept_word]
    simp [Except.map, Flag.ofWord?_word]
  refine bind_eq_ok.mpr ⟨w.keptGame language, rfl, ?_⟩
  simp only [current]
  refine bind_eq_ok.mpr ⟨[], here, bind_eq_ok.mpr ⟨[], savedItems, ?_⟩⟩
  refine bind_eq_ok.mpr ⟨[], savedRooms, bind_eq_ok.mpr ⟨[], savedCharacters, ?_⟩⟩
  exact bind_eq_ok.mpr ⟨[], savedFlags, rfl⟩

/-! ## 3. Where items lie afterwards -/

omit keeps plan in
/-- **Where a saved item lies that is accepted**, even if the name of its room was not kept. -/
theorem lodges_of_saved {nowhere : Prop} {location x : Content} {sentence : String}
    (lodges : b.Lodges nowhere location) (placed : savedLocation location.unmarked.asKept = .ok x)
    (issue : (if location.unmarked.asKept = .text Content.inventoryWord then pure []
      else b.placeIssue location.unmarked.asKept sentence) = .ok []) : b.Lodges True x := by
  have word : Text.kept Content.inventoryWord = Content.inventoryWord := by decide +kernel
  cases lodges with
  | inventory =>
      simp only [Content.unmarked, Content.asKept, word, savedLocation, Content.isAtomic, if_true,
        Except.ok.injEq] at placed
      subst placed
      exact .inventory
  | nowhere =>
      cases placed
      exact .nowhere trivial
  | room room known =>
      simp only [Content.unmarked, Content.asKept, savedLocation, Content.isAtomic, if_true,
        Except.ok.injEq, Content.text.injEq] at placed issue
      by_cases other : Text.kept room = Content.inventoryWord
      · rw [if_pos other] at placed
        subst placed
        exact .inventory
      · rw [if_neg other] at placed issue
        subst placed
        rcases placeIssue_eq_nil issue with empty | ⟨name, e, there⟩
        · have none : Text.kept room = "" := by simpa [Content.isFilled] using empty
          rw [none] at other ⊢
          rw [Text.kept_eq_empty none] at known
          exact .room "" known other
        · cases e
          exact .room _ there other

omit keeps plan in
/-- The place of a saved item that is accepted. -/
theorem place_of_savedItem {name : String} {es : List (String × Content)}
    (h : b.savedItemIssues (name, .mapping es) = .ok []) : ∃ sentence,
      (if (es.lookup "location").getD .null = .text Content.inventoryWord then pure []
        else b.placeIssue ((es.lookup "location").getD .null) sentence) = .ok [] := by
  unfold savedItemIssues at h
  simp only at h
  split at h
  · simp [unknownIssue, pure, Except.pure] at h
  · split at h
    · exact ⟨_, h⟩
    · next empty =>
        have none : es = [] := by simpa [Content.isFilled] using empty
        subst none
        rw [pure_bind] at h
        exact ⟨_, h⟩

omit keeps plan in
theorem houses_mend {places : String → Content → Prop} {part : SavedPart}
    (lodges : ∀ name location, places name location → b.Lodges True location)
    (houses : b.Houses (fun _ => True) w) (h : Mend places part w v) :
    b.Houses (fun _ => True) v := by
  intro name i there
  rcases location_mend h there with ⟨i', there', same⟩ | ⟨named, -⟩
  · rw [same]
    exact houses name i' there'
  · exact lodges name i.location named

omit keeps plan in
/-- **The items of a saved game that is accepted lie where they can.** -/
theorem houses_restored (built : b.IsBuilt) (sound : b.inconsistencies = .ok [])
    (houses : b.Houses nowhere w) {language : Content} (accepts : b.Accepts (w.keptGame language))
    (h : Restores b (w.keptGame language) v) : b.Houses (fun _ => True) v := by
  have start : b.Houses (fun _ => True)
      { b with current := savedOr (w.keptGame language) "current" b.current } :=
    (houses_self built sound).weaken fun _ _ => trivial
  refine restores_carry built.clean accepts h filled_items (fun _ => houses_mend ?_) start
  rintro name location ⟨state, fs, mem, rfl, placed⟩
  have issues := accepts.items _ filled_items _ mem
  obtain ⟨⟨name', x⟩, differs, -, hx⟩ := Content.mem_keptEntries.mp mem
  obtain ⟨s, at_name, -, rfl⟩ := mem_differences.mp differs
  obtain ⟨⟨_, t⟩, there, e⟩ := List.mem_map.mp at_name
  cases e
  have lodges := houses _ t (w.items.mem_entries_iff.mp there)
  obtain ⟨es, kept, at_place, -⟩ := itemState_kept t
  rw [kept] at hx
  cases hx
  rw [at_place] at placed
  obtain ⟨sentence, issue⟩ := place_of_savedItem issues
  rw [show (fs.lookup "location").getD .null = t.location.unmarked.asKept from at_place] at issue
  exact lodges_of_saved lodges placed issue

end Adventure.World
