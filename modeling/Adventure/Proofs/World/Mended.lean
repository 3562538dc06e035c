import Adventure.Proofs.World.Deed
import Adventure.World.Integrity
import Adventure.World.Saved

/-!
# Mends: the changes of a world that a saved game brings about

* `World.Mend`: one change, and the part of the world that it belongs to;
* `World.mending`: the terms that bringing about a part of a saved game meets;
* `meets_loadItems` and the lemmas after it: **each part changes its own part only**;
* `plan_mend`, `clean_mend`, `flags_mend`, …: what a change preserves;
* `loadSaved_eq_ok`: a saved game is brought about part by part;
* `restores_part`, `restores_own`: **how one part of it comes about**.
-/

namespace Adventure

open Relation (ReflTransGen)
open Outcome Terms

/-! ## 1. Mends -/

/-- The parts of a world that a saved game speaks of. -/
inductive SavedPart where
  | place
  | items
  | rooms
  | characters
  | flags
  | lines
  | notes
deriving DecidableEq

namespace World

/-- **One change that a saved game brings about.** It names the places for its items. -/
inductive Mend (places : String → Content → Prop) : SavedPart → World → World → Prop where
  | place (w : World) (current : Content) : Mend places .place w { w with current }
  | item (w : World) (name : String) (location : Content) (named : places name location)
      (atomic : location.isAtomic = true) :
      Mend places .items w (w.updateItem name (fun i => { i with location }))
  | switch (w : World) (name : String) (item : Item) (active : Bool)
      (there : w.items.get? name = some item) (switchable : item.active.isSome = true) :
      Mend places .items w (w.updateItem name (fun i => { i with active := some active }))
  | room (w : World) (name : String) (locked updated : Bool) :
      Mend places .rooms w (w.updateRoom name (fun r => { r with locked, updated }))
  | character (w : World) (name : String) (health : Int) (interacted : Bool) :
      Mend places .characters w (w.updateCharacter name
        (fun c => { c with health := .number health, interacted }))
  | flag (w : World) (f : Flag) (v : Bool) :
      Mend places .flags w { w with flags := w.flags.set f v }
  | lines (w : World) (name : String) (d : Dialogue) (lines : List PlayerLine)
      (there : w.dialogues.get? name = some d)
      (same : lines.map PlayerLine.bare = d.lines.map PlayerLine.bare) :
      Mend places .lines w (w.updateDialogue name (fun d => { d with lines }))
  | note (w : World) (text : String) : Mend places .notes w (w.noted text)

/-- The terms of bringing about a part of a saved game. Faults are no matter here. -/
def mending (places : String → Content → Prop) (part : SavedPart) : Terms World where
  Alike := Eq
  Leads := ReflTransGen (Mend places part)
  Sane _ := True
  Fine _ := False
  Faults _ := True
  refl _ := .refl
  trans := .trans
  sane_of_leads _ _ := trivial
  fine_of_leads _ fine _ := fine

section Parts

variable {places : String → Content → Prop} {part : SavedPart} {α : Type}

/-- What depends on nothing but the outcome of a reading. -/
theorem meets_taking {P : World → Prop} (r : Except Fault α) :
    (mending places part).Meets P (Act.ofExcept r) (fun x w => P w ∧ r = .ok x) :=
  meets_ofExcept r (fun _ _ pre e => ⟨pre, e⟩) (fun _ _ _ fine => fine.elim) fun _ _ => trivial

theorem meets_looking {P : World → Prop} {Q : α → World → Prop} {k : World → Act World α}
    (h : ∀ w, P w → (mending places part).Meets (fun v => v = w) (k w) Q) :
    (mending places part).Meets P (get >>= k) Q :=
  meets_get (fun _ _ like => by rw [like]) fun w _ pre => h w pre

theorem meets_mend {P : World → Prop} {f : World → World} {Q : Unit → World → Prop}
    (h : ∀ w, P w → Mend places part w (f w) ∧ Q () (f w)) :
    (mending places part).Meets P (modify f) Q := by
  refine meets_modify (fun _ _ like => ?_) fun w _ pre => ⟨.single (h w pre).1, (h w pre).2⟩
  exact congrArg f like

/-- The places that saved items name. -/
def SavedPlace (es : List (String × Content)) (name : String) (location : Content) : Prop :=
  ∃ state fs, (name, state) ∈ es ∧ state = .mapping fs ∧
    savedLocation (savedOr fs "location" .null) = .ok location

/-- The place of a saved item is atomic, and not the mark of the inventory. -/
theorem savedLocation_ok {saved location : Content} (h : savedLocation saved = .ok location) :
    location.isAtomic = true ∧ location ≠ .text Content.inventoryWord := by
  unfold savedLocation at h
  split at h
  · next atomic =>
      cases h
      split
      · exact ⟨rfl, nofun⟩
      · next other => exact ⟨atomic, other⟩
  · cases h

theorem meets_loadItems (es : List (String × Content)) :
    ∀ rest : List (String × Content), (∀ e ∈ rest, e ∈ es) →
      (mending (SavedPlace es) .items).Meets (fun _ => True) (loadItems rest) (fun _ _ => True)
  | [], _ => meets_return ()
  | (name, state) :: rest, sub => by
      have later := meets_loadItems es rest fun e he => sub e (List.mem_cons_of_mem _ he)
      unfold loadItems
      refine meets_looking fun w _ => ?_
      split
      · exact later.pre fun _ _ _ => trivial
      · next item found =>
          refine meets_bind (meets_taking _) fun fs => ?_
          refine meets_bind (meets_taking _) fun location => ?_
          refine meets_bind (Q := fun _ v => ∃ i, v.items.get? name = some i ∧
            i.active = item.active) (meets_mend ?_) fun _ => ?_
          · rintro _ ⟨⟨rfl, entries⟩, placed⟩
            refine ⟨.item _ name location ⟨state, fs, sub _ (List.mem_cons_self ..),
              Content.entries_eq_ok.mp entries, placed⟩ (savedLocation_ok placed).1, _,
              Roster.get?_update_self found _, rfl⟩
          · split
            · next switchable _ =>
                refine meets_bind (Q := fun _ _ => True) (meets_mend fun v pre => ?_)
                  fun _ => later
                obtain ⟨i, hi, active⟩ := pre
                exact ⟨.switch v name i _ hi (by rw [active, switchable]; rfl), trivial⟩
            · exact later.pre fun _ _ _ => trivial

theorem meets_loadRooms (places : String → Content → Prop) (rest : List (String × Content)) :
    (mending places .rooms).Meets (fun _ => True) (loadRooms rest) (fun _ _ => True) := by
  induction rest with
  | nil => exact meets_return ()
  | cons e rest later =>
      unfold loadRooms
      refine meets_looking fun w _ => ?_
      split
      · exact later.pre fun _ _ _ => trivial
      · refine meets_bind (meets_taking _) fun fs => ?_
        refine meets_bind (Q := fun _ _ => True) (meets_mend fun v _ => ?_) fun _ => later
        exact ⟨.room v e.1 _ _, trivial⟩

theorem meets_loadCharacters (places : String → Content → Prop)
    (rest : List (String × Content)) :
    (mending places .characters).Meets (fun _ => True) (loadCharacters rest)
      (fun _ _ => True) := by
  induction rest with
  | nil => exact meets_return ()
  | cons e rest later =>
      unfold loadCharacters
      refine meets_looking fun w _ => ?_
      split
      · exact later.pre fun _ _ _ => trivial
      · refine meets_bind (meets_taking _) fun fs => ?_
        refine meets_bind (meets_taking _) fun health => ?_
        refine meets_bind (Q := fun _ _ => True) (meets_mend fun v _ => ?_) fun _ => later
        exact ⟨.character v e.1 _ _, trivial⟩

/-- Flags are brought about one by one; only those that are known can be. -/
theorem meets_loadFlags (places : String → Content → Prop) :
    ∀ rest : List (String × Content), (∀ e ∈ rest, ∃ f : Flag, e.1 = f.word) →
      (mending places .flags).Meets (fun w => w.flags.IsClean) (loadFlags rest)
        (fun _ _ => True)
  | [], _ => meets_return ()
  | (name, value) :: rest, known => by
      have later := meets_loadFlags places rest fun e he => known e (List.mem_cons_of_mem _ he)
      obtain ⟨f, e⟩ := known (name, value) (List.mem_cons_self ..)
      simp only at e
      subst e
      unfold loadFlags assignFlag
      refine meets_bind (meets_bind (Q := fun flags w => w.flags.IsClean ∧
        w.flags.assign f.word (.bool value.isFilled) = .ok flags)
        (meets_reading (fun _ _ like => by rw [like]) (fun w flags _ pre e => ⟨pre, e⟩)
          (fun _ _ _ fine => fine.elim) fun _ _ _ => trivial) fun flags => ?_) fun _ => later
      refine meets_mend fun w pre => ?_
      have e := pre.2
      rw [Flags.assign_word pre.1.1] at e
      cases e
      exact ⟨.flag w f _, pre.1.set f _⟩

theorem useLines_bare (ids : Content) :
    ∀ lines : List PlayerLine,
      (useLines ids lines).1.map PlayerLine.bare = lines.map PlayerLine.bare
  | [] => rfl
  | line :: lines => by
      unfold useLines
      split
      · rfl
      · simp only [List.map_cons, useLines_bare ids lines, List.cons.injEq, and_true]
        split
        · rfl
        · rfl

theorem meets_loadUsedLines (places : String → Content → Prop)
    (rest : List (String × Content)) :
    (mending places .lines).Meets (fun _ => True) (loadUsedLines rest) (fun _ _ => True) := by
  induction rest with
  | nil => exact meets_return ()
  | cons e rest later =>
      unfold loadUsedLines
      refine meets_looking fun w _ => ?_
      split
      · exact later.pre fun _ _ _ => trivial
      · next d found =>
          simp only
          refine meets_bind (Q := fun _ _ => True) (meets_mend fun v same => ?_) fun _ => ?_
          · subst same
            exact ⟨.lines _ e.1 d _ found (useLines_bare e.2 d.lines), trivial⟩
          · exact meets_bind (meets_taking _) fun _ => later.pre fun _ _ _ => trivial

end Parts

/-! ## 2. What mends preserve -/

section Preserved

variable {places : String → Content → Prop} {part : SavedPart} {w v : World}

/-- **No mend changes the plan.** -/
theorem plan_mend (h : Mend places part w v) : v.plan = w.plan := by
  cases h with
  | place => rfl
  | item => exact plan_updateItem fun _ _ => rfl
  | switch _ name item active there switchable =>
      refine plan_updateItem fun i hi => ?_
      rw [there] at hi
      cases hi
      obtain ⟨x, hx⟩ := Option.isSome_iff_exists.mp switchable
      simp [Item.bare, hx]
  | room => exact plan_updateRoom fun _ => rfl
  | character => exact plan_updateCharacter fun _ => rfl
  | flag => rfl
  | lines _ name d lines there same =>
      have e : (w.dialogues.update name (fun d => { d with lines })).map Dialogue.bare =
          w.dialogues.map Dialogue.bare := by
        refine Roster.map_update_of fun d' hd => ?_
        rw [there] at hd
        cases hd
        simp only [Dialogue.bare, same]
      simp only [plan, updateDialogue, e]
  | note => rfl

theorem clean_mend (clean : w.flags.IsClean) (h : Mend places part w v) : v.flags.IsClean := by
  cases h with
  | flag => exact clean.set _ _
  | place | item | switch | room | character | lines | note => exact clean

theorem flags_mend (other : part ≠ .flags) (h : Mend places part w v) : v.flags = w.flags := by
  cases h with
  | flag => exact absurd rfl other
  | place | item | switch | room | character | lines | note => rfl

theorem current_mend (other : part ≠ .place) (h : Mend places part w v) :
    v.current = w.current := by
  cases h with
  | place => exact absurd rfl other
  | flag | item | switch | room | character | lines | note => rfl

theorem items_mend (other : part ≠ .items) (h : Mend places part w v) : v.items = w.items := by
  cases h with
  | item => exact absurd rfl other
  | switch => exact absurd rfl other
  | place | flag | room | character | lines | note => rfl

theorem characters_mend (other : part ≠ .characters) (h : Mend places part w v) :
    v.characters = w.characters := by
  cases h with
  | character => exact absurd rfl other
  | place | flag | item | switch | room | lines | note => rfl

theorem rooms_mend (other : part ≠ .rooms) (h : Mend places part w v) : v.rooms = w.rooms := by
  cases h with
  | room => exact absurd rfl other
  | place | flag | item | switch | character | lines | note => rfl

theorem dialogues_mend (other : part ≠ .lines) (h : Mend places part w v) :
    v.dialogues = w.dialogues := by
  cases h with
  | lines => exact absurd rfl other
  | place | flag | item | switch | room | character | note => rfl

/-- **Where an item lies after a mend**: where it lay, or at a place that the saved game names. -/
theorem location_mend (h : Mend places part w v) {name : String} {i : Item}
    (there : v.items.get? name = some i) :
    (∃ i', w.items.get? name = some i' ∧ i.location = i'.location) ∨
      (places name i.location ∧ i.location.isAtomic = true) := by
  cases h with
  | item _ other location named atomic =>
      rcases Roster.get?_update_cases there with ⟨rfl, i', -, rfl⟩ | ⟨-, there⟩
      · exact .inr ⟨named, atomic⟩
      · exact .inl ⟨i, there, rfl⟩
  | switch =>
      rcases Roster.get?_update_cases there with ⟨-, i', there', rfl⟩ | ⟨-, there⟩
      · exact .inl ⟨i', there', rfl⟩
      · exact .inl ⟨i, there, rfl⟩
  | place | flag | room | character | lines | note => exact .inl ⟨i, there, rfl⟩

theorem plainLocations_mend (plain : w.HasPlainLocations) (h : Mend places part w v) :
    v.HasPlainLocations := by
  intro name i there
  rcases location_mend h there with ⟨i', there', same⟩ | ⟨-, atomic⟩
  · rw [same]
    exact plain name i' there'
  · exact atomic

theorem wholeAntagonist_mend (whole : w.HasWholeAntagonist) (h : Mend places part w v) :
    v.HasWholeAntagonist := by
  cases h with
  | character _ name health =>
      intro a ch ha hc
      rcases Roster.get?_update_cases hc with ⟨-, ch', -, rfl⟩ | ⟨-, hc⟩
      · exact ⟨health, rfl⟩
      · exact whole a ch ha hc
  | place => exact whole
  | item => exact whole
  | switch => exact whole
  | flag => exact whole
  | room => exact whole
  | lines => exact whole
  | note => exact whole

/-- What any number of mends preserve that one mend preserves. -/
theorem mends_preserve {I : World → Prop} (step : ∀ {w v}, I w → Mend places part w v → I v)
    (h : ReflTransGen (Mend places part) w v) (hw : I w) : I v := by
  induction h with
  | refl => exact hw
  | tail _ d ih => exact step ih d

end Preserved

/-! ## 3. Saved games part by part -/

/-- The note with which a saved game is gone on with. -/
def restoredNote (w : World) : String :=
  "state_loaded current " ++ w.current.shown ++ " inventory " ++ w.carriedNote

/-- **A world is gone on with**, part by part. -/
inductive Restores (w : World) (es : List (String × Content)) (v : World) : Prop where
  | parts (items rooms characters flags lines : List (String × Content)) (w₁ w₂ w₃ w₄ w₅ : World)
      (savedItems : (savedOr es "items" .null).filledEntries = .ok items)
      (items_run : (loadItems items).runOn
        { w with current := savedOr es "current" w.current } = (.ok (), w₁))
      (savedRooms : (savedOr es "rooms" .null).filledEntries = .ok rooms)
      (rooms_run : (loadRooms rooms).runOn w₁ = (.ok (), w₂))
      (savedCharacters : (savedOr es "characters" .null).filledEntries = .ok characters)
      (characters_run : (loadCharacters characters).runOn w₂ = (.ok (), w₃))
      (savedFlags : (savedOr es "flags" .null).filledEntries = .ok flags)
      (flags_run : (loadFlags flags).runOn w₃ = (.ok (), w₄))
      (savedLines : (savedOr es "used_lines" .null).filledEntries = .ok lines)
      (lines_run : (loadUsedLines lines).runOn w₄ = (.ok (), w₅))
      (noted : v = w₅.noted (restoredNote w₅)) : Restores w es v

/-- **What it takes to bring a saved game about.** -/
theorem loadSaved_eq_ok {data : Content} {w v : World} :
    (loadSaved data).runOn w = (.ok (), v) ↔ ∃ es, data = .mapping es ∧ Restores w es v := by
  have taken {α : Type} {r : Except Fault α} {x : α} {s t : World} :
      (Act.ofExcept r).runOn s = (.ok x, t) ↔ r = .ok x ∧ t = s := by
    simp only [Act.runOn_ofExcept, Prod.mk.injEq]
    exact and_congr_right fun _ => eq_comm
  unfold loadSaved savedEntries
  simp only [Act.runOn_bind_eq_ok, taken]
  constructor
  · rintro ⟨es, _, ⟨entries, rfl⟩, _, _, placed, _, w₁, ⟨items, _, ⟨hi, rfl⟩, ri⟩, _, w₂,
      ⟨rooms, _, ⟨hr, rfl⟩, rr⟩, _, w₃, ⟨characters, _, ⟨hc, rfl⟩, rc⟩, _, w₄,
      ⟨flags, _, ⟨hf, rfl⟩, rf⟩, _, w₅, ⟨lines, _, ⟨hl, rfl⟩, rl⟩, _, _, look, noted⟩
    cases placed
    cases look
    cases noted
    exact ⟨es, Content.entries_eq_ok.mp entries, .parts items rooms characters flags lines
      _ _ _ _ _ hi ri hr rr hc rc hf rf hl rl rfl⟩
  · rintro ⟨es, rfl, items, rooms, characters, flags, lines, w₁, w₂, w₃, w₄, w₅, hi, ri, hr, rr,
      hc, rc, hf, rf, hl, rl, rfl⟩
    exact ⟨es, _, ⟨rfl, rfl⟩, _, _, rfl, _, w₁, ⟨items, _, ⟨hi, rfl⟩, ri⟩, _, w₂,
      ⟨rooms, _, ⟨hr, rfl⟩, rr⟩, _, w₃, ⟨characters, _, ⟨hc, rfl⟩, rc⟩, _, w₄,
      ⟨flags, _, ⟨hf, rfl⟩, rf⟩, _, w₅, ⟨lines, _, ⟨hl, rfl⟩, rl⟩, _, _, rfl, rfl⟩

/-- The word for a part in a saved game, and the step that brings the part about. -/
def load? : SavedPart → Option (String × (List (String × Content) → Act World Unit))
  | .items => some ("items", loadItems)
  | .rooms => some ("rooms", loadRooms)
  | .characters => some ("characters", loadCharacters)
  | .flags => some ("flags", loadFlags)
  | .lines => some ("used_lines", loadUsedLines)
  | .place | .notes => none

/-- **Mends of other parts**, and not of the place of the player. -/
def Leaves (places : String → Content → Prop) (part : SavedPart) : World → World → Prop :=
  ReflTransGen fun w v => ∃ other, other ≠ .place ∧ other ≠ part ∧ Mend places other w v

/-- What mends of other parts preserve. -/
theorem leaves_preserve {places : String → Content → Prop} {part : SavedPart} {I : World → Prop}
    (step : ∀ {other w v}, other ≠ .place → other ≠ part → I w → Mend places other w v → I v)
    {w v : World} (h : Leaves places part w v) (start : I w) : I v := by
  induction h with
  | refl => exact start
  | tail _ m ih =>
      obtain ⟨other, movable, ne, m⟩ := m
      exact step movable ne ih m

/-- What a run leads to that meets the terms of mending. -/
theorem mends_of_run {places : String → Content → Prop} {part : SavedPart} {P : World → Prop}
    {a : Act World Unit} (h : (mending places part).Meets P a (fun _ _ => True)) {w v : World}
    (pre : P w) {r : Except Fault Unit} (run : a.runOn w = (r, v)) :
    ReflTransGen (Mend places part) w v := by
  have k := (h (rfl : w = w) trivial pre).leads
  rw [run] at k
  exact k

/-! ## 4. Saved games without inconsistencies -/

section Accepted

variable {b v : World} {es : List (String × Content)}

/-- **What is known of a saved game without inconsistencies.** -/
structure Accepts (b : World) (es : List (String × Content)) : Prop where
  current : (savedOr es "current" .null).isFilled = false ∨
    ∃ name, savedOr es "current" .null = .text name ∧ b.rooms.has name = true
  items : ∀ items, (savedOr es "items" .null).filledEntries = .ok items →
    ∀ e ∈ items, b.savedItemIssues e = .ok []
  flags : ∀ flags, (savedOr es "flags" .null).filledEntries = .ok flags →
    ∀ e ∈ flags, ∃ f : Flag, e.1 = f.word

theorem accepts_of (h : b.savedInconsistencies (.mapping es) = .ok []) : b.Accepts es := by
  simp only [savedInconsistencies, bind_eq_ok, pure_eq_ok, List.append_eq_nil_iff] at h
  obtain ⟨es', hes, current, hc, items, ⟨is, his, hi⟩, rooms, -, characters, -, flags, hf, h⟩ := h
  cases hes
  obtain ⟨⟨⟨⟨rfl, rfl⟩, -⟩, -⟩, rfl⟩ := h
  refine ⟨placeIssue_eq_nil hc, fun items e => ?_, fun flags e entry hm => ?_⟩
  · have same := his.symm.trans e
    cases same
    exact gather_eq_nil hi
  · simp only [nameIssues, bind_eq_ok] at hf
    obtain ⟨names, hn, hf⟩ := hf
    have k := gather_eq_nil hf _ (Content.names_of_filledEntries e hn entry hm)
    simp only [Content.asName_text, Except.map, bind_eq_ok, pure_eq_ok] at k
    obtain ⟨known, hk, k⟩ := k
    cases hk
    unfold unknownIssue at k
    split at k
    · next found =>
        obtain ⟨f, hf⟩ := Option.isSome_iff_exists.mp found
        exact ⟨f, (Flag.word_of_ofWord? hf).symm⟩
    · cases k

/-- **How a part of a saved game comes about**: after some mends of other parts, and before some. -/
theorem restores_part (part : SavedPart) {word : String}
    {load : List (String × Content) → Act World Unit} (loads : load? part = some (word, load))
    (clean : b.flags.IsClean) (accepts : part ≠ .flags → b.Accepts es) (h : Restores b es v) :
    ∃ items entries u u', (savedOr es "items" .null).filledEntries = .ok items ∧
      (savedOr es word .null).filledEntries = .ok entries ∧
      Leaves (SavedPlace items) part { b with current := savedOr es "current" b.current } u ∧
      (load entries).runOn u = (.ok (), u') ∧ Leaves (SavedPlace items) part u' v := by
  obtain ⟨items, rooms, characters, flags, lines, w₁, w₂, w₃, w₄, w₅, hi, ri, hr, rr, hc, rc, hf,
    rf, hl, rl, rfl⟩ := h
  have m₁ := mends_of_run (meets_loadItems items _ fun _ he => he) trivial ri
  have m₂ := mends_of_run (meets_loadRooms (SavedPlace items) _) trivial rr
  have m₃ := mends_of_run (meets_loadCharacters (SavedPlace items) _) trivial rc
  have clean₃ : w₃.flags.IsClean :=
    mends_preserve clean_mend m₃ (mends_preserve clean_mend m₂ (mends_preserve clean_mend m₁ clean))
  have m₄ (accepts : b.Accepts es) := mends_of_run
    (meets_loadFlags (SavedPlace items) _ (accepts.flags flags hf)) clean₃ rf
  have m₅ := mends_of_run (meets_loadUsedLines (SavedPlace items) _) trivial rl
  have others {other : SavedPart} {u u' : World}
      (m : ReflTransGen (Mend (SavedPlace items) other) u u') (movable : other ≠ .place)
      (ne : other ≠ part) : Leaves (SavedPlace items) part u u' :=
    ReflTransGen.mono (fun _ _ m => ⟨other, movable, ne, m⟩) _ _ m
  have noted (ne : SavedPart.notes ≠ part) :
      Leaves (SavedPlace items) part w₅ (w₅.noted (restoredNote w₅)) :=
    others (.single (.note w₅ _)) nofun ne
  cases part with
  | place => cases loads
  | notes => cases loads
  | items =>
      cases loads
      exact ⟨items, items, _, w₁, hi, hi, .refl, ri, (others m₂ nofun nofun).trans
        ((others m₃ nofun nofun).trans ((others (m₄ (accepts nofun)) nofun nofun).trans
          ((others m₅ nofun nofun).trans (noted nofun))))⟩
  | rooms =>
      cases loads
      exact ⟨items, rooms, w₁, w₂, hi, hr, others m₁ nofun nofun, rr,
        (others m₃ nofun nofun).trans ((others (m₄ (accepts nofun)) nofun nofun).trans
          ((others m₅ nofun nofun).trans (noted nofun)))⟩
  | characters =>
      cases loads
      exact ⟨items, characters, w₂, w₃, hi, hc,
        (others m₁ nofun nofun).trans (others m₂ nofun nofun), rc,
        (others (m₄ (accepts nofun)) nofun nofun).trans
          ((others m₅ nofun nofun).trans (noted nofun))⟩
  | flags =>
      cases loads
      exact ⟨items, flags, w₃, w₄, hi, hf, (others m₁ nofun nofun).trans
        ((others m₂ nofun nofun).trans (others m₃ nofun nofun)), rf,
        (others m₅ nofun nofun).trans (noted nofun)⟩
  | lines =>
      cases loads
      exact ⟨items, lines, w₄, w₅, hi, hl, (others m₁ nofun nofun).trans
        ((others m₂ nofun nofun).trans ((others m₃ nofun nofun).trans
          (others (m₄ (accepts nofun)) nofun nofun))), rl, noted nofun⟩

/-- **A part of a world that is gone on with** is what is brought about of it in a world in which it
    is as the adventure has it. -/
theorem restores_own {α : Type} (part : SavedPart) {word : String} (get : World → α)
    {load : List (String × Content) → Act World Unit} (loads : load? part = some (word, load))
    (stays : ∀ {places other w v}, other ≠ part → Mend places other w v → get v = get w)
    (clean : b.flags.IsClean) (accepts : part ≠ .flags → b.Accepts es) (h : Restores b es v) :
    ∃ entries u u', (savedOr es word .null).filledEntries = .ok entries ∧ get u = get b ∧
      (load entries).runOn u = (.ok (), u') ∧ get v = get u' := by
  obtain ⟨items, entries, u, u', -, saved, before, run, after⟩ :=
    restores_part part loads clean accepts h
  have same {w v : World} (m : Leaves (SavedPlace items) part w v) : get v = get w :=
    leaves_preserve (I := fun v => get v = get w) (fun _ ne e m => (stays ne m).trans e) m rfl
  have begins := stays (by rintro rfl; cases loads)
    (.place b (savedOr es "current" b.current) : Mend (SavedPlace items) .place b _)
  exact ⟨entries, u, u', saved, (same before).trans begins, run, same after⟩

/-- **What mends preserve holds of a world that is gone on with**, if it does at the place where the
    player is then. -/
theorem restores_carry (clean : b.flags.IsClean) (accepts : b.Accepts es) (h : Restores b es v)
    {items : List (String × Content)}
    (saved : (savedOr es "items" .null).filledEntries = .ok items) {I : World → Prop}
    (step : ∀ {part w v}, part ≠ .place → I w → Mend (SavedPlace items) part w v → I v)
    (start : I { b with current := savedOr es "current" b.current }) : I v := by
  obtain ⟨_, _, u, u', saved', filled, before, run, after⟩ :=
    restores_part .items rfl clean (fun _ => accepts) h
  cases saved.symm.trans saved'
  cases saved.symm.trans filled
  have others {w v : World} (m : Leaves (SavedPlace items) .items w v) : I w → I v :=
    leaves_preserve (fun movable _ => step movable) m
  have m := mends_of_run (meets_loadItems items _ fun _ he => he) trivial run
  exact others after (mends_preserve (step (by decide)) m (others before start))

/-- **What is known of a world that is gone on with.** -/
theorem restores_preserve (clean : b.flags.IsClean) (accepts : b.Accepts es)
    (h : Restores b es v) : v.plan = b.plan ∧ v.flags.IsClean ∧
      v.current = savedOr es "current" b.current ∧
      (b.HasPlainLocations → v.HasPlainLocations) ∧
      (b.HasWholeAntagonist → v.HasWholeAntagonist) := by
  obtain ⟨items, saved⟩ : ∃ items, (savedOr es "items" .null).filledEntries = .ok items := by
    obtain ⟨items, _, _, _, _, _, _, _, _, _, saved, -⟩ := id h
    exact ⟨items, saved⟩
  have carry {I : World → Prop}
      (step : ∀ {part w v}, part ≠ .place → I w → Mend (SavedPlace items) part w v → I v)
      (start : I { b with current := savedOr es "current" b.current }) : I v :=
    restores_carry clean accepts h saved step start
  refine ⟨?_, ?_, ?_, fun plain => ?_, fun whole => ?_⟩
  · exact carry (I := fun w => w.plan = b.plan) (fun _ e m => (plan_mend m).trans e) rfl
  · exact carry (I := fun w => w.flags.IsClean) (fun _ => clean_mend) clean
  · exact carry (I := fun w => w.current = savedOr es "current" b.current)
      (fun other e m => (current_mend other m).trans e) rfl
  · exact carry (I := HasPlainLocations) (fun _ => plainLocations_mend) plain
  · exact carry (I := HasWholeAntagonist) (fun _ => wholeAntagonist_mend) whole

end Accepted

end World

end Adventure
