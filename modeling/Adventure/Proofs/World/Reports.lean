import Adventure.Proofs.World.Mended
import Adventure.Proofs.World.Resumed
import Mathlib.Data.List.Perm.Subperm

/-!
# What a report tells of a world

* `Content.lookup_same`: mappings that compare equal have equal values under each key;
* `World.reported`, `World.Reports`: what stands in a part of the report of a world, and whether it
  mentions a name;
* `reports_item` and the lemmas after it: **what a report mentions**, part by part;
* `World.Agrees`: two worlds agree in all that play changes, and in the ids of the lines that have
  been said;
* `agrees_of_reports`: **worlds of an adventure whose reports compare equal agree**;
* `Agrees.dialogues`: they do so line by line if the ids tell lines apart.

A report says nothing of what is as it was in the beginning. That is enough to tell worlds apart
because it says all of everything else; of lines it says the ids, and nothing of how they were.
-/

namespace Adventure

open Outcome

/-! ## 1. Contents that compare equal -/

namespace Content

variable {xs ys : List (String × Content)} {k : String}

theorem same_mapping (xs ys : List (String × Content)) : same (.mapping xs) (.mapping ys) =
    (xs.length == ys.length && sameEntries xs ys) := by
  rw [same]

theorem lookup_of_sameEntries (h : sameEntries xs ys = true) {x : Content}
    (hx : xs.lookup k = some x) : ∃ y, ys.lookup k = some y ∧ x.same y = true := by
  induction xs with
  | nil => cases hx
  | cons e xs ih =>
      obtain ⟨k', x'⟩ := e
      simp only [sameEntries] at h
      cases hy : ys.lookup k' with
      | none =>
          rw [hy] at h
          cases h
      | some y =>
          rw [hy] at h
          simp only [Bool.and_eq_true] at h
          by_cases here : k = k'
          · subst here
            rw [List.lookup_cons_self] at hx
            cases hx
            exact ⟨y, hy, h.1⟩
          · have ne : (k == k') = false := by simpa using here
            rw [List.lookup_cons, ne] at hx
            exact ih h.2 hx

/-- **Mappings that compare equal have equal values under each key.** -/
theorem lookup_same (hx : (xs.map Prod.fst).Nodup) (h : same (.mapping xs) (.mapping ys) = true)
    (k : String) : Option.Rel (fun x y => x.same y = true) (xs.lookup k) (ys.lookup k) := by
  rw [same_mapping, Bool.and_eq_true, beq_iff_eq] at h
  obtain ⟨length, entries⟩ := h
  have sub : xs.map Prod.fst ⊆ ys.map Prod.fst := by
    intro name mem
    obtain ⟨e, he, rfl⟩ := List.mem_map.mp mem
    obtain ⟨y, there, -⟩ := lookup_of_sameEntries entries (lookup_of_mem hx he)
    exact List.mem_map_of_mem (f := Prod.fst) (a := (e.1, y)) (mem_of_lookup there)
  -- there are as many keys on either side, so neither has one of its own
  have perm : (xs.map Prod.fst).Perm (ys.map Prod.fst) :=
    (hx.subperm sub).perm_of_length_le (by simp [length])
  cases there : xs.lookup k with
  | some x =>
      obtain ⟨y, there', alike⟩ := lookup_of_sameEntries entries there
      rw [there']
      exact .some alike
  | none =>
      rw [lookup_of_fresh fun mem => ?_]
      · exact .none
      · obtain ⟨e, he, rfl⟩ := List.mem_map.mp (perm.mem_iff.mpr mem)
        rw [lookup_of_mem hx he] at there
        cases there

theorem sameList_figures (fs gs : List Figure) :
    sameList (fs.map Figure.toContent) (gs.map Figure.toContent) = true ↔ fs = gs := by
  induction fs generalizing gs with
  | nil => cases gs <;> simp [sameList]
  | cons f fs ih =>
      cases gs with
      | nil => simp [sameList]
      | cons g gs => simp [sameList, World.figure_same, ih]

/-- The mark is told from every place but the word for it. -/
theorem unmarked_same {x y : Content} (hx : x ≠ .text inventoryWord) (hy : y ≠ .text inventoryWord) :
    x.unmarked.same y.unmarked = x.same y := by
  cases x with
  | inventory =>
      cases y with
      | inventory => simp [unmarked, same]
      | text s =>
          have ne : inventoryWord ≠ s := fun e => hy (by rw [e])
          simp [unmarked, same, ne]
      | _ => rfl
  | text s =>
      cases y with
      | inventory =>
          have ne : s ≠ inventoryWord := fun e => hx (by rw [e])
          simp [unmarked, same, ne]
      | _ => rfl
  | _ =>
      cases y with
      | inventory => simp [unmarked, same, number?]
      | _ => rfl

/-- From a place in the beginning only that place cannot be told. -/
theorem same_place {x y : Content} (place : y = .null ∨ y = .inventory ∨ ∃ room, y = .text room) :
    x.same y = true ↔ x = y := by
  rcases place with rfl | rfl | ⟨room, rfl⟩
  · cases x <;> simp [same, number?]
  · cases x <;> simp [same, number?]
  · exact same_text_right _ _

theorem same_bool {x y : Bool} : same (.bool x) (.bool y) = true ↔ x = y := by
  cases x <;> cases y <;> decide

end Content

/-! ## 2. Parts of a report -/

/-- The key of a part in a saved content. -/
def SavedPart.key : SavedPart → String
  | .place => "current"
  | .items => "items"
  | .rooms => "rooms"
  | .characters => "characters"
  | .flags => "flags"
  | .lines => "used_lines"
  | .notes => "notes"

namespace World

/-- **What stands in a part of the report.** -/
def reported (w : World) : SavedPart → List (String × Content)
  | .items => differences ItemState.same ItemState.toContent w.snapshot.items w.origin.items
  | .rooms => differences (· == ·) RoomState.toContent w.snapshot.rooms w.origin.rooms
  | .characters =>
    differences (· == ·) CharacterState.toContent w.snapshot.characters w.origin.characters
  | .flags => flagDifferences w.flags w.origin.flags
  | .lines => usedLines w.dialogues.entries
  | .place | .notes => []

/-- **The report mentions a name** in one of its parts. -/
def Reports (w : World) (part : SavedPart) (name : String) : Prop :=
  ∃ entries, w.toSaved.lookup part.key = some (.mapping entries) ∧
    (entries.lookup name).isSome = true

variable {w v b : World} {part : SavedPart} {name : String}

theorem lookup_toSaved (w : World) (other : part ≠ .place) : w.toSaved.lookup part.key =
    (World.part part.key (w.reported part)).lookup part.key := by
  cases part with
  | place => exact absurd rfl other
  | _ =>
      simp [toSaved, SavedPart.key, reported, snapshot, List.lookup_cons, List.lookup_append,
        lookup_part]

theorem reports_iff (other : part ≠ .place) :
    w.Reports part name ↔ ((w.reported part).lookup name).isSome = true := by
  unfold Reports
  rw [lookup_toSaved w other, lookup_part]
  by_cases nothing : w.reported part = []
  · simp [nothing]
  · simp [nothing]

/-- What is found among entries of which some are shown. -/
theorem lookup_filterMap {α β : Type} {f : String × α → Option (String × β)}
    {g : String → α → Option β} (shows_ : ∀ name a, f (name, a) = (g name a).map (name, ·))
    {es : List (String × α)} (distinct : (es.map Prod.fst).Nodup) (name : String) :
    (es.filterMap f).lookup name = (es.lookup name).bind (g name) := by
  induction es with
  | nil => rfl
  | cons e es ih =>
      obtain ⟨k, a⟩ := e
      rw [List.map_cons, List.nodup_cons] at distinct
      have later := ih distinct.2
      rw [List.filterMap_cons, shows_]
      by_cases here : name = k
      · subst here
        rw [lookup_of_fresh distinct.1] at later
        rw [List.lookup_cons_self]
        cases shown : g name a with
        | none => simpa [shown] using later
        | some x => simp [shown]
      · have ne : (name == k) = false := by simpa using here
        cases g k a with
        | none => simpa [List.lookup_cons, ne] using later
        | some x => simpa [List.lookup_cons, ne] using later

section Rosters

variable {α σ : Type} {same : σ → σ → Bool} {toContent : σ → Content} {state : α → σ}
  {r r' before : Roster α}

/-- What is found among differences. -/
theorem lookup_differences (r before : Roster α) (name : String) :
    (differences same toContent (r.entries.map fun e => (e.1, state e.2))
        (before.entries.map fun e => (e.1, state e.2))).lookup name =
      (r.get? name).bind fun a =>
        if ((before.get? name).map state).any (same (state a)) then none
        else some (toContent (state a)) := by
  have distinct : ((r.entries.map fun e => (e.1, state e.2)).map Prod.fst).Nodup :=
    (r.map state).distinct
  unfold differences
  rw [lookup_filterMap (g := fun name s =>
    if ((before.entries.map fun e => (e.1, state e.2)).lookup name).any (same s) then none
    else some (toContent s)) (fun name s => ?_) distinct, lookup_states, lookup_states]
  · cases r.get? name <;> rfl
  · simp only
    split <;> rfl

/-- **What differs is mentioned, and nothing else.** -/
theorem differs_iff {β : Type} {bare : α → β} {name : String}
    (nears : r.map bare = before.map bare)
    (same_iff : ∀ a a₀, r.get? name = some a → before.get? name = some a₀ → bare a = bare a₀ →
      (same (state a) (state a₀) = true ↔ a = a₀)) :
    ((differences same toContent (r.entries.map fun e => (e.1, state e.2))
        (before.entries.map fun e => (e.1, state e.2))).lookup name).isSome = true ↔
      r.get? name ≠ before.get? name := by
  have sides := congrArg (fun r => r.get? name) nears
  simp only [Roster.get?_map] at sides
  rw [lookup_differences]
  cases there : r.get? name with
  | none =>
      rw [there, Option.map_none, eq_comm, Option.map_eq_none_iff] at sides
      rw [sides]
      simp
  | some a =>
      rw [there, Option.map_some, eq_comm, Option.map_eq_some_iff] at sides
      obtain ⟨a₀, there₀, alike⟩ := sides
      have equal := same_iff a a₀ there there₀ alike.symm
      rw [there₀]
      simp only [Option.bind_some, Option.map_some, Option.any_some, ne_eq, Option.some.injEq]
      by_cases now : same (state a) (state a₀) = true
      · rw [if_pos now]
        exact ⟨nofun, fun differs => absurd (equal.mp now) differs⟩
      · rw [if_neg now]
        exact ⟨fun _ e => now (equal.mpr e), fun _ => rfl⟩

/-- **States of which reports say the same agree**: either both are as in the beginning, or both are
    told. -/
theorem agree_of_differences {R : σ → σ → Prop} {name : String} {a a' a₀ : α}
    (there : r.get? name = some a) (there' : r'.get? name = some a')
    (there₀ : before.get? name = some a₀)
    (told : Option.Rel (fun x y : Content => x.same y = true)
      ((differences same toContent (r.entries.map fun e => (e.1, state e.2))
        (before.entries.map fun e => (e.1, state e.2))).lookup name)
      ((differences same toContent (r'.entries.map fun e => (e.1, state e.2))
        (before.entries.map fun e => (e.1, state e.2))).lookup name))
    (unchanged : same (state a) (state a₀) = true → same (state a') (state a₀) = true →
      R (state a) (state a'))
    (equal : (toContent (state a)).same (toContent (state a')) = true →
      R (state a) (state a')) : R (state a) (state a') := by
  rw [lookup_differences, lookup_differences, there, there', there₀] at told
  simp only [Option.bind_some, Option.map_some, Option.any_some] at told
  by_cases now : same (state a) (state a₀) = true
  · by_cases now' : same (state a') (state a₀) = true
    · exact unchanged now now'
    · rw [if_pos now, if_neg now'] at told
      cases told
  · by_cases now' : same (state a') (state a₀) = true
    · rw [if_neg now, if_pos now'] at told
      cases told
    · rw [if_neg now, if_neg now'] at told
      cases told with
      | some alike => exact equal alike

end Rosters

/-! ## 3. Reports that compare equal -/

/-- The names of entries of which some are shown. -/
theorem names_filterMap {α β : Type} {f : String × α → Option (String × β)}
    (named : ∀ e x, f e = some x → x.1 = e.1) (es : List (String × α)) :
    ((es.filterMap f).map Prod.fst).Sublist (es.map Prod.fst) := by
  induction es with
  | nil => exact .slnil
  | cons e es ih =>
      rw [List.filterMap_cons]
      cases shown : f e with
      | none => exact ih.cons _
      | some x =>
          rw [List.map_cons, List.map_cons, named e x shown]
          exact ih.cons_cons _

theorem names_differences {σ : Type} {same : σ → σ → Bool} {toContent : σ → Content}
    (now before : List (String × σ)) :
    ((differences same toContent now before).map Prod.fst).Sublist (now.map Prod.fst) := by
  refine names_filterMap (fun e x shown => ?_) now
  split at shown
  · cases shown
  · cases shown
    rfl

/-- No part of a report mentions a name twice. -/
theorem reported_distinct (clean : w.flags.IsClean) (part : SavedPart) :
    ((w.reported part).map Prod.fst).Nodup := by
  cases part with
  | items => exact (w.items.map Item.state).distinct.sublist (names_differences ..)
  | rooms => exact (w.rooms.map Room.state).distinct.sublist (names_differences ..)
  | characters => exact (w.characters.map Character.state).distinct.sublist (names_differences ..)
  | lines =>
      refine w.dialogues.distinct.sublist (names_filterMap (fun e x shown => ?_) _)
      split at shown
      · cases shown
      · cases shown
        rfl
  | flags =>
      have shown : w.flags.shown = w.flags.entries := by simp only [Flags.shown, clean.1.1]
      have keys : (w.flags.entries.map Prod.fst).Nodup :=
        show (Flag.all.map Flag.word).Nodup by decide +kernel
      refine keys.sublist ?_
      rw [← shown]
      exact List.filter_sublist.map Prod.fst
  | place => exact List.nodup_nil
  | notes => exact List.nodup_nil

/-- No report has a part twice. -/
theorem keys_toSaved (w : World) : (w.toSaved.map Prod.fst).Nodup := by
  have all := (keys_saved w .null).nodup (by decide)
  rw [List.map_append] at all
  exact (List.nodup_append.mp all).1

/-- **Reports that compare equal say the same in each part.** -/
theorem reported_same (clean : w.flags.IsClean)
    (same : (Content.mapping w.toSaved).same (.mapping v.toSaved) = true) (part : SavedPart)
    (name : String) : Option.Rel (fun x y : Content => x.same y = true)
      ((w.reported part).lookup name) ((v.reported part).lookup name) := by
  by_cases place : part = .place
  · rw [place]
    exact .none
  have told := Content.lookup_same (keys_toSaved w) same part.key
  rw [lookup_toSaved w place, lookup_toSaved v place, lookup_part, lookup_part] at told
  by_cases here : w.reported part = []
  · by_cases there : v.reported part = []
    · rw [here, there]
      exact .none
    · rw [if_neg (fun h => h.2 here), if_pos ⟨rfl, there⟩] at told
      cases told
  · by_cases there : v.reported part = []
    · rw [if_pos ⟨rfl, here⟩, if_neg (fun h => h.2 there)] at told
      cases told
    · rw [if_pos ⟨rfl, here⟩, if_pos ⟨rfl, there⟩] at told
      cases told with
      | some alike => exact Content.lookup_same (reported_distinct clean part) alike name

end World

/-! ## 4. What a report mentions -/

/-- The ids of the lines that have been said. -/
def Dialogue.said (d : Dialogue) : List Figure := (d.lines.filter PlayerLine.used).map PlayerLine.id

/-- A dialogue of which nothing has been said is what stands in the plan. -/
theorem Dialogue.bare_of_unsaid {d : Dialogue} (unsaid : ∀ line ∈ d.lines, line.used = false) :
    d.bare = d := by
  have lines : d.lines.map PlayerLine.bare = d.lines := by
    refine (List.map_congr_left fun line mem => ?_).trans (List.map_id _)
    have unused := unsaid line mem
    cases line
    cases unused
    rfl
  unfold bare
  rw [lines]

theorem Dialogue.said_eq_nil {d : Dialogue} :
    d.said = [] ↔ ∀ line ∈ d.lines, line.used = false := by
  simp [said, List.filter_eq_nil_iff]

namespace World

/-- No item lies in a place that is called like the mark of the inventory. -/
def HasNoWord (w : World) : Prop :=
  ∀ name i, w.items.get? name = some i → i.location ≠ .text Content.inventoryWord

variable {b w v : World} {name : String}

theorem lookup_said (w : World) (name : String) : (w.reported .lines).lookup name =
    (w.dialogues.get? name).bind fun d =>
      if d.said = [] then none else some (.list (d.said.map Figure.toContent)) := by
  let told (d : Dialogue) : Option Content :=
    if d.said = [] then none else some (.list (d.said.map Figure.toContent))
  refine lookup_filterMap (g := fun _ d => told d) (fun name d => ?_) w.dialogues.distinct name
  split
  · next nothing =>
    have unsaid : d.said = [] := List.map_eq_nil_iff.mpr nothing
    simp only [told, if_pos unsaid, Option.map_none]
  · next something =>
    have said : d.said ≠ [] := fun none => something (List.map_eq_nil_iff.mp none)
    simp only [told, if_neg said]
    simp [Dialogue.said]

/-- **A dialogue is mentioned if a line of it has been said.** -/
theorem reports_dialogue : w.Reports .lines name ↔
    ∃ d, w.dialogues.get? name = some d ∧ ∃ line ∈ d.lines, line.used = true := by
  rw [reports_iff (by decide), lookup_said]
  cases w.dialogues.get? name with
  | none => simp
  | some d =>
      by_cases nothing : d.said = []
      · have unsaid := Dialogue.said_eq_nil.mp nothing
        simp [nothing]
        exact unsaid
      · simpa [nothing] using fun none => nothing (Dialogue.said_eq_nil.mpr none)

/-- Where an item lies in the beginning is told from everywhere else. -/
theorem same_begun (sound : b.inconsistencies = .ok []) {i₀ : Item}
    (there₀ : b.items.get? name = some i₀) (x : Content) :
    x.same i₀.location = true ↔ x = i₀.location := by
  refine Content.same_place ?_
  rcases item_placed sound there₀ with e | e | ⟨room, e, -⟩
  · exact .inl e
  · exact .inr (.inl e)
  · exact .inr (.inr ⟨room, e⟩)

/-- States of an item compare equal to that in the beginning if they are the same. -/
theorem itemState_same (built : b.IsBuilt) (sound : b.inconsistencies = .ok []) {i i₀ : Item}
    (located : i.location ≠ .text Content.inventoryWord) (there₀ : b.items.get? name = some i₀) :
    ItemState.same i.state i₀.state = true ↔ i.location = i₀.location ∧ i.active = i₀.active := by
  simp only [ItemState.same, Item.state, Bool.and_eq_true, beq_iff_eq,
    Content.unmarked_same located (built.located name i₀ there₀), same_begun sound there₀]

section Play

variable (built : b.IsBuilt) (plan : w.plan = b.plan)

include built plan

/-- **An item is mentioned if it is not as it was.** -/
theorem reports_item (sound : b.inconsistencies = .ok []) (located : w.HasNoWord) :
    w.Reports .items name ↔ w.items.get? name ≠ b.items.get? name := by
  rw [reports_iff (by decide)]
  unfold reported
  simp only
  rw [origin_of_plan plan, built.origin]
  refine differs_iff (items_of_plan plan) fun i i₀ there there₀ alike => ?_
  rw [itemState_same built sound (located name i there) there₀]
  constructor
  · rintro ⟨location, active⟩
    rw [← Item.eq_of_bare alike, ← location, ← active]
  · rintro rfl
    exact ⟨rfl, rfl⟩

/-- **A room is mentioned if it is not as it was.** -/
theorem reports_room : w.Reports .rooms name ↔ w.rooms.get? name ≠ b.rooms.get? name := by
  rw [reports_iff (by decide)]
  unfold reported
  simp only
  rw [origin_of_plan plan, built.origin]
  refine differs_iff (rooms_of_plan plan) fun r r₀ _ _ alike => ?_
  simp only [Room.state, beq_iff_eq, RoomState.mk.injEq]
  constructor
  · rintro ⟨locked, updated⟩
    rw [← Room.eq_of_bare alike, ← locked, ← updated]
  · rintro rfl
    exact ⟨rfl, rfl⟩

/-- **A character is mentioned if it is not as it was.** -/
theorem reports_character :
    w.Reports .characters name ↔ w.characters.get? name ≠ b.characters.get? name := by
  rw [reports_iff (by decide)]
  unfold reported
  simp only
  rw [origin_of_plan plan, built.origin]
  refine differs_iff (characters_of_plan plan) fun c c₀ _ _ alike => ?_
  simp only [Character.state, beq_iff_eq, CharacterState.mk.injEq]
  constructor
  · rintro ⟨health, interacted⟩
    rw [← Character.eq_of_bare alike, ← health, ← interacted]
  · rintro rfl
    exact ⟨rfl, rfl⟩

/-- **A flag is mentioned if it is not as it was.** -/
theorem reports_flag (clean : w.flags.IsClean) :
    w.Reports .flags name ↔ ∃ f : Flag, name = f.word ∧ w.flags.get f ≠ b.flags.get f := by
  have before : w.origin.flags = b.flags := by
    rw [origin_of_plan plan, built.origin]
    rfl
  have mem {e : String × Content} : e ∈ w.reported .flags ↔
      ∃ f : Flag, e = (f.word, .bool (w.flags.get f)) ∧ w.flags.get f ≠ b.flags.get f := by
    unfold reported
    simp only
    rw [before]
    exact mem_flagDifferences clean built.clean
  rw [reports_iff (by decide), Option.isSome_iff_exists]
  constructor
  · rintro ⟨x, there⟩
    obtain ⟨f, e, differs⟩ := mem.mp (mem_of_lookup there)
    cases e
    exact ⟨f, rfl, differs⟩
  · rintro ⟨f, rfl, differs⟩
    exact ⟨_, lookup_of_mem (reported_distinct clean .flags) (mem.mpr ⟨f, rfl, differs⟩)⟩

omit built in
/-- Where no line has been said in the beginning, a dialogue is mentioned if it is not as it was. -/
theorem reports_unsaid (unsaid : ∀ d, b.dialogues.get? name = some d →
      ∀ line ∈ d.lines, line.used = false) :
    w.Reports .lines name ↔ w.dialogues.get? name ≠ b.dialogues.get? name := by
  rw [reports_dialogue]
  constructor
  · rintro ⟨d, there, line, mem, used⟩ same
    have still := unsaid d (same.symm.trans there) line mem
    exact absurd (still.symm.trans used) nofun
  · intro differs
    cases there : w.dialogues.get? name with
    | none =>
        have sides := congrArg (fun r => r.get? name) (dialogues_of_plan plan)
        simp only [Roster.get?_map, there, Option.map_none] at sides
        exact absurd (there.trans (Option.map_eq_none_iff.mp sides.symm).symm) differs
    | some d =>
        obtain ⟨d₀, there₀, alike⟩ := dialogue_of_plan plan there
        refine ⟨d, rfl, ?_⟩
        by_contra nothing
        have silent : ∀ line ∈ d.lines, line.used = false := by
          intro line mem
          exact Bool.eq_false_iff.mpr fun used => nothing ⟨line, mem, used⟩
        refine differs ?_
        rw [there, there₀, ← Dialogue.bare_of_unsaid silent, ← alike,
          Dialogue.bare_of_unsaid (unsaid d₀ there₀)]

end Play

/-! ## 5. Worlds of which reports say the same -/

/-- **Two worlds agree** in all that play changes, and in the ids of the lines that have been said. -/
structure Agrees (w v : World) : Prop where
  current : v.current = w.current
  items : ∀ name i j, w.items.get? name = some i → v.items.get? name = some j →
    i.location.same j.location = true ∧ i.active = j.active
  rooms : v.rooms = w.rooms
  characters : v.characters = w.characters
  flags : v.flags = w.flags
  said : ∀ name d e, w.dialogues.get? name = some d → v.dialogues.get? name = some e →
    d.said = e.said

/-- Rosters that a function sees alike are the same if their entries are. -/
theorem roster_eq {α β : Type} {bare : α → β} {r r' : Roster α} (nears : r'.map bare = r.map bare)
    (agree : ∀ name a a', r.get? name = some a → r'.get? name = some a' → bare a = bare a' →
      a = a') : r' = r := by
  obtain ⟨names, found⟩ := nears_of_map nears
  refine (Roster.ext_get? names fun name => ?_).symm
  cases there : r.get? name with
  | some a =>
      obtain ⟨a', there', alike⟩ := found name a there
      rw [there', agree name a a' there there' alike]
  | none =>
      cases there' : r'.get? name with
      | none => rfl
      | some a' =>
          obtain ⟨a, there'', -⟩ := (nears_of_map nears.symm).2 name a' there'
          rw [there] at there''
          cases there''

/-- States of an item that are told alike. -/
theorem itemState_of_content {x y : ItemState} (h : x.toContent.same y.toContent = true) :
    x.location.same y.location = true ∧ x.active = y.active := by
  obtain ⟨location, active⟩ := x
  obtain ⟨location', active'⟩ := y
  cases active <;> cases active' <;>
    simp_all [ItemState.toContent, Content.same_mapping, Content.sameEntries, Content.same_bool,
      List.lookup_cons]

/-- States of a room that are told alike. -/
theorem roomState_of_content {x y : RoomState} (h : x.toContent.same y.toContent = true) :
    x = y := by
  obtain ⟨locked, updated⟩ := x
  obtain ⟨locked', updated'⟩ := y
  simp_all [RoomState.toContent, Content.same_mapping, Content.sameEntries, Content.same_bool,
    List.lookup_cons]

/-- States of a character that are told alike. -/
theorem characterState_of_content {x y : CharacterState}
    (h : x.toContent.same y.toContent = true) : x = y := by
  obtain ⟨health, interacted⟩ := x
  obtain ⟨health', interacted'⟩ := y
  simp_all [CharacterState.toContent, Content.same_mapping, Content.sameEntries,
    Content.same_bool, List.lookup_cons, figure_same]

section Pairs

variable (clean : w.flags.IsClean)
  (same : (Content.mapping w.toSaved).same (.mapping v.toSaved) = true)

include clean same

/-- Reports that compare equal mention the same. -/
theorem reports_same {part : SavedPart} (other : part ≠ .place) :
    w.Reports part name ↔ v.Reports part name := by
  rw [reports_iff other, reports_iff other]
  have told := reported_same clean same part name
  generalize (w.reported part).lookup name = x at told ⊢
  generalize (v.reported part).lookup name = y at told ⊢
  cases told with
  | none => exact .rfl
  | some => exact .rfl

variable (built : b.IsBuilt) (plan : w.plan = b.plan) (plan' : v.plan = b.plan)

include built plan plan'

theorem items_of_reports (sound : b.inconsistencies = .ok []) (located : w.HasNoWord)
    (located' : v.HasNoWord) {i j : Item} (there : w.items.get? name = some i)
    (there' : v.items.get? name = some j) :
    i.location.same j.location = true ∧ i.active = j.active := by
  obtain ⟨i₀, there₀, -⟩ := (nears_of_map (items_of_plan plan).symm).2 name i there
  have told := reported_same clean same .items name
  unfold reported at told
  simp only at told
  rw [origin_of_plan plan, origin_of_plan plan', built.origin] at told
  have places := Content.unmarked_same (located name i there) (located' name j there')
  have states : i.state.location.same j.state.location = true ∧ i.state.active = j.state.active := by
    refine agree_of_differences (R := fun x y => x.location.same y.location = true ∧
      x.active = y.active) there there' there₀ told (fun unchanged unchanged' => ?_)
      itemState_of_content
    rw [itemState_same built sound (located name i there) there₀] at unchanged
    rw [itemState_same built sound (located' name j there') there₀] at unchanged'
    refine ⟨places.trans ?_, unchanged.2.trans unchanged'.2.symm⟩
    rw [unchanged'.1]
    exact (same_begun sound there₀ _).mpr unchanged.1
  exact ⟨places ▸ states.1, states.2⟩

theorem rooms_of_reports : v.rooms = w.rooms := by
  refine roster_eq ((rooms_of_plan plan').trans (rooms_of_plan plan).symm)
    fun name r r' there there' alike => ?_
  obtain ⟨r₀, there₀, -⟩ := room_of_plan plan there
  have told := reported_same clean same .rooms name
  unfold reported at told
  simp only at told
  rw [origin_of_plan plan, origin_of_plan plan', built.origin] at told
  have states : r.state = r'.state :=
    agree_of_differences there there' there₀ told
      (fun unchanged unchanged' => (beq_iff_eq.mp unchanged).trans (beq_iff_eq.mp unchanged').symm)
      roomState_of_content
  simp only [Room.state, RoomState.mk.injEq] at states
  rw [← Room.eq_of_bare alike, ← states.1, ← states.2]

theorem characters_of_reports : v.characters = w.characters := by
  refine roster_eq ((characters_of_plan plan').trans (characters_of_plan plan).symm)
    fun name c c' there there' alike => ?_
  obtain ⟨c₀, there₀, -⟩ := character_of_plan plan there
  have told := reported_same clean same .characters name
  unfold reported at told
  simp only at told
  rw [origin_of_plan plan, origin_of_plan plan', built.origin] at told
  have states : c.state = c'.state :=
    agree_of_differences there there' there₀ told
      (fun unchanged unchanged' => (beq_iff_eq.mp unchanged).trans (beq_iff_eq.mp unchanged').symm)
      characterState_of_content
  simp only [Character.state, CharacterState.mk.injEq] at states
  rw [← Character.eq_of_bare alike, ← states.1, ← states.2]

theorem flags_of_reports (clean' : v.flags.IsClean) : v.flags = w.flags := by
  refine flags_eq clean' clean fun f => ?_
  have mentioned {u : World} (plan : u.plan = b.plan) (clean : u.flags.IsClean) :
      u.Reports .flags f.word ↔ u.flags.get f ≠ b.flags.get f := by
    rw [reports_flag built plan clean]
    constructor
    · rintro ⟨g, e, differs⟩
      obtain rfl : f = g := Option.some.inj ((Flag.ofWord?_word f).symm.trans
        (e ▸ Flag.ofWord?_word g))
      exact differs
    · exact fun differs => ⟨f, rfl, differs⟩
  have told : w.Reports .flags f.word ↔ v.Reports .flags f.word :=
    reports_same clean same (by decide)
  rw [mentioned plan clean, mentioned plan' clean'] at told
  revert told
  cases w.flags.get f <;> cases v.flags.get f <;> cases b.flags.get f <;> simp

omit built plan plan' in
theorem said_of_reports {d e : Dialogue} (there : w.dialogues.get? name = some d)
    (there' : v.dialogues.get? name = some e) : d.said = e.said := by
  have told := reported_same clean same .lines name
  rw [lookup_said, lookup_said, there, there'] at told
  simp only [Option.bind_some] at told
  by_cases silent : d.said = []
  · by_cases silent' : e.said = []
    · rw [silent, silent']
    · rw [if_pos silent, if_neg silent'] at told
      cases told
  · by_cases silent' : e.said = []
    · rw [if_neg silent, if_pos silent'] at told
      cases told
    · rw [if_neg silent, if_neg silent'] at told
      cases told with
      | some alike =>
          rw [Content.same] at alike
          exact (Content.sameList_figures _ _).mp alike

/-- **Worlds of an adventure whose reports compare equal agree.** -/
theorem agrees_of_reports (sound : b.inconsistencies = .ok []) (clean' : v.flags.IsClean)
    (placed : w.IsPlaced) (located : w.HasNoWord) (located' : v.HasNoWord) : w.Agrees v where
  current := by
    obtain ⟨name, here, -⟩ := placed
    have found (u : World) : u.toSaved.lookup "current" = some u.current := by simp [toSaved]
    have told := Content.lookup_same (keys_toSaved w) same "current"
    rw [found, found, here] at told
    cases told with
    | some alike => exact ((Content.same_text _ _).mp alike).trans here.symm
  items _ _ _ := items_of_reports clean same built plan plan' sound located located'
  rooms := rooms_of_reports clean same built plan plan'
  characters := characters_of_reports clean same built plan plan'
  flags := flags_of_reports clean same built plan plan' clean'
  said _ _ _ := said_of_reports clean same

end Pairs

/-- **Which lines have been said, the ids tell** if they tell the lines apart. -/
theorem lines_of_said {lines : List PlayerLine} (distinct : (lines.map PlayerLine.id).Nodup) :
    (lines.map PlayerLine.bare).map (fun line =>
      { line with used := decide (line.id ∈ (lines.filter PlayerLine.used).map PlayerLine.id) }) =
      lines := by
  rw [List.map_map]
  refine (List.map_congr_left fun line mem => ?_).trans (List.map_id lines)
  have told : line.id ∈ (lines.filter PlayerLine.used).map PlayerLine.id ↔ line.used = true := by
    constructor
    · intro among
      obtain ⟨other, among, same⟩ := List.mem_map.mp among
      obtain ⟨there, used⟩ := List.mem_filter.mp among
      rw [← List.inj_on_of_nodup_map distinct there mem same]
      exact used
    · exact fun used => List.mem_map_of_mem (List.mem_filter.mpr ⟨mem, used⟩)
  exact congrArg (fun used => { line with used })
    (Bool.eq_iff_iff.mpr (decide_eq_true_iff.trans told))

/-- **Worlds that agree are the same line by line** if the ids tell the lines of a dialogue apart. -/
theorem Agrees.dialogues (distinct : b.HasDistinctLines) (plan : w.plan = b.plan)
    (plan' : v.plan = b.plan) (agrees : w.Agrees v) : v.dialogues = w.dialogues := by
  refine roster_eq ((dialogues_of_plan plan').trans (dialogues_of_plan plan).symm)
    fun name d d' there there' alike => ?_
  obtain ⟨d₀, there₀, alike₀⟩ := dialogue_of_plan plan there
  have bare : d.lines.map PlayerLine.bare = d'.lines.map PlayerLine.bare :=
    congrArg Dialogue.lines alike
  have distinct₀ : (d₀.lines.map PlayerLine.id).Nodup :=
    distinct _ (b.dialogues.mem_entries_iff.mpr there₀)
  have apart {e : Dialogue} (alike : d₀.bare = e.bare) : (e.lines.map PlayerLine.id).Nodup := by
    have ids := congrArg (fun d => d.lines.map PlayerLine.id) alike
    simp only [Dialogue.bare, List.map_map] at ids
    have same : d₀.lines.map PlayerLine.id = e.lines.map PlayerLine.id := ids
    exact same ▸ distinct₀
  have said : (d.lines.filter PlayerLine.used).map PlayerLine.id =
      (d'.lines.filter PlayerLine.used).map PlayerLine.id := agrees.said name d d' there there'
  have lines : d.lines = d'.lines := by
    rw [← lines_of_said (apart alike₀), ← lines_of_said (apart (alike₀.trans alike)), bare, said]
  have replies : d.bare.replies = d'.bare.replies := congrArg Dialogue.replies alike
  cases d
  cases d'
  cases lines
  cases replies
  rfl

end World

end Adventure
