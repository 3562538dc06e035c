import Adventure.Proofs.Schema
import Adventure.Proofs.World.Documented

/-!
# Worlds as they are built from content

* `Content.IsMarked`: a content in which the written mark of the inventory is read as the mark;
* `World.IsBuilt`: what is known of a world that has just been built: its flags are clean, it is
  its own origin, the antagonist has its health, and neither the places of its items nor its consequences have a written mark;
* `isBuilt_of_ofFile`: **a world that a file describes is built so**.
-/

namespace Adventure

open Outcome

/-! ## 1. Marked content -/

namespace Content

/-- The written mark of the inventory is read as the mark. -/
def IsMarked (c : Content) : Prop := c.marked = c

mutual

theorem marked_marked : ∀ c : Content, c.marked.IsMarked
  | .null => rfl
  | .bool _ => rfl
  | .int _ => rfl
  | .float _ => rfl
  | .inventory => rfl
  | .text s => by
      by_cases word : s = inventoryWord
      · have e : (text s).marked = .inventory := if_pos word
        rw [e]
        rfl
      · have e : (text s).marked = .text s := if_neg word
        rw [e]
        exact e
  | .list xs => congrArg Content.list (markedList_marked xs)
  | .mapping es => congrArg Content.mapping (markedEntries_marked es)

theorem markedList_marked : ∀ xs : List Content, markedList (markedList xs) = markedList xs
  | [] => rfl
  | x :: xs => by
      have hx : x.marked.marked = x.marked := marked_marked x
      simp only [markedList, hx, markedList_marked xs]

theorem markedEntries_marked :
    ∀ es : List (String × Content), markedEntries (markedEntries es) = markedEntries es
  | [] => rfl
  | (k, x) :: es => by
      have hx : x.marked.marked = x.marked := marked_marked x
      simp only [markedEntries, hx, markedEntries_marked es]

end

theorem isMarked_of_mem_entries :
    ∀ {es : List (String × Content)}, markedEntries es = es → ∀ e ∈ es, e.2.IsMarked
  | [], _, _, he => absurd he List.not_mem_nil
  | (k, x) :: es, h, e, he => by
      simp only [markedEntries, List.cons.injEq, Prod.mk.injEq, true_and] at h
      rcases List.mem_cons.mp he with rfl | he
      · exact h.1
      · exact isMarked_of_mem_entries h.2 e he

theorem isMarked_of_mem_list :
    ∀ {xs : List Content}, markedList xs = xs → ∀ x ∈ xs, x.IsMarked
  | [], _, _, hx => absurd hx List.not_mem_nil
  | y :: xs, h, x, hx => by
      simp only [markedList, List.cons.injEq] at h
      rcases List.mem_cons.mp hx with rfl | hx
      · exact h.1
      · exact isMarked_of_mem_list h.2 x hx

/-- The parts of a marked mapping are marked. -/
theorem IsMarked.entry {es : List (String × Content)} (h : (Content.mapping es).IsMarked)
    {e : String × Content} (he : e ∈ es) : e.2.IsMarked :=
  isMarked_of_mem_entries (Content.mapping.inj h) e he

theorem IsMarked.lookup {es : List (String × Content)} (h : (Content.mapping es).IsMarked)
    {k : String} {x : Content} (hx : es.lookup k = some x) : x.IsMarked :=
  h.entry (mem_of_lookup hx)

theorem IsMarked.element {xs : List Content} (h : (Content.list xs).IsMarked) {x : Content}
    (hx : x ∈ xs) : x.IsMarked :=
  isMarked_of_mem_list (Content.list.inj h) x hx

/-- A mapping that a marked content is walked through by is marked. -/
theorem IsMarked.walked {c : Content} (h : c.IsMarked) {conds : List Content}
    (hc : c.elements = .ok conds) {cond : Content} (hm : cond ∈ conds)
    {es : List (String × Content)} (e : cond = .mapping es) : cond.IsMarked := by
  cases c with
  | list xs =>
      cases hc
      exact h.element hm
  | mapping fs =>
      cases hc
      obtain ⟨f, -, hf⟩ := List.mem_map.mp hm
      rw [e] at hf
      cases hf
  | text s =>
      cases hc
      obtain ⟨f, -, hf⟩ := List.mem_map.mp hm
      rw [e] at hf
      cases hf
  | null | bool | int | float | inventory => cases hc

theorem IsMarked.walkedFilled {c : Content} (h : c.IsMarked) {conds : List Content}
    (hc : c.filledElements = .ok conds) {cond : Content} (hm : cond ∈ conds)
    {es : List (String × Content)} (e : cond = .mapping es) : cond.IsMarked := by
  unfold filledElements at hc
  split at hc
  · exact h.walked hc hm e
  · cases hc
    exact absurd hm List.not_mem_nil

/-- No text of a marked content is the written mark. -/
theorem IsMarked.text_ne {s : String} (h : (Content.text s).IsMarked) : s ≠ inventoryWord := by
  rintro rfl
  cases h

/-- A marked consequence moves nothing to a place that is called like the mark. -/
theorem IsMarked.moves_ne {effect place : Content} {item : String} (h : effect.IsMarked)
    (moves : effect.Moves item place) : place ≠ .text inventoryWord := by
  obtain ⟨es, conds, cond, rfl, hc, hm, -, hp⟩ := moves
  obtain ⟨fs, rfl, found⟩ := demand_eq_ok hp
  have conditions : ((es.lookup "item_conditions").getD .null).IsMarked := by
    cases hl : es.lookup "item_conditions" with
    | none => rfl
    | some x => exact h.lookup hl
  rintro rfl
  exact ((conditions.walkedFilled hc hm rfl).lookup found).text_ne rfl

end Content

/-! ## 2. Built worlds -/

open Reader Checked Content

theorem isMarked_of_table {es : List (String × Content)} (marked : (Content.mapping es).IsMarked)
    {name : String} {a : Content} (h : Reader.optional es name Reader.table .null = .good a) :
    a.IsMarked := by
  rcases optional_eq_good h with ⟨x, found, hx⟩ | rfl
  · rw [table_eq_good hx]
    exact marked.lookup found
  · rfl

namespace World

/-- **What is known of a world that has just been built.** -/
structure IsBuilt (b : World) : Prop where
  clean : b.flags.IsClean
  origin : b.origin = b.snapshot
  health : ∀ a ch, b.scenario.antagonist = some a → b.characters.get? a.character = some ch →
    ch.health = a.health
  located : ∀ name i, b.items.get? name = some i → i.location ≠ .text inventoryWord
  marked : ∀ effect ∈ b.effects, effect.IsMarked

theorem gate_marked {c : Content} (marked : c.IsMarked) {gate : Gate}
    (h : Gate.read c = .good gate) :
    gate.effect.IsMarked := by
  unfold Gate.read at h
  obtain ⟨es, rfl, fields⟩ := record_eq_good h
  simp only [Gate.fields, seq_eq_good, map_eq_good] at fields
  obtain ⟨-, -, ⟨-, effect, ⟨pre, -, rfl⟩, he, rfl⟩, message, -, rfl⟩ := fields
  exact isMarked_of_table marked he

theorem room_marked {c : Content} (marked : c.IsMarked) {r : Room} (h : Room.read c = .good r) :
    ∀ effect ∈ r.effects, effect.IsMarked := by
  unfold Room.read at h
  obtain ⟨es, rfl, fields⟩ := record_eq_good h
  unfold Room.fields at fields
  obtain ⟨f, entry, hf, he, rfl⟩ := seq_eq_good.mp fields
  have kept : (f entry).entry = entry := by
    simp only [seq_eq_good, map_eq_good] at hf
    obtain ⟨_, _, ⟨_, _, ⟨_, _, ⟨_, _, ⟨_, _, ⟨_, _, ⟨_, _, ⟨_, _, ⟨_, _, ⟨_, _, rfl⟩, _, rfl⟩, _,
      rfl⟩, _, rfl⟩, _, rfl⟩, _, rfl⟩, _, rfl⟩, _, rfl⟩, _, rfl⟩, _, rfl⟩ := hf
    rfl
  intro effect hm
  unfold Room.effects at hm
  rw [kept] at hm
  split at hm
  · exact absurd hm List.not_mem_nil
  · next entry =>
      obtain ⟨gate, hg, rfl⟩ := List.mem_map.mp hm
      rcases optional_eq_good he with ⟨x, found, hx⟩ | e
      · have marked := marked.lookup found
        rcases nullable_eq_good hx with e | ⟨entry', e, hx⟩
        · cases e
        · cases e
          obtain ⟨fs, rfl, inner⟩ := record_eq_good hx
          simp only [Room.entryFields, seq_eq_good, map_eq_good] at inner
          obtain ⟨-, refusals, ⟨pre, -, rfl⟩, hr, rfl⟩ := inner
          rcases optional_eq_good hr with ⟨y, found, hy⟩ | e
          · have marked := marked.lookup found
            obtain ⟨ys, rfl, elements⟩ := listOf_eq_good hy
            obtain ⟨z, hz, read⟩ := elements gate hg
            exact gate_marked (marked.element hz) read
          · simp only at hg
            rw [e] at hg
            exact absurd hg List.not_mem_nil
      · cases e

theorem item_marked {c : Content} (marked : c.IsMarked) {i : Item} (h : Item.read c = .good i) :
    i.location ≠ .text inventoryWord ∧ ∀ effect ∈ i.effects, effect.IsMarked := by
  unfold Item.read at h
  obtain ⟨es, rfl, fields⟩ := record_eq_good h
  simp only [Item.fields, seq_eq_good, map_eq_good] at fields
  obtain ⟨_, take, ⟨_, _, ⟨_, _, ⟨_, _, ⟨_, _, ⟨_, location, ⟨_, _, ⟨_, _, ⟨_, _, rfl⟩, _, rfl⟩,
    _, rfl⟩, hl, rfl⟩, _, rfl⟩, _, rfl⟩, _, rfl⟩, _, rfl⟩, ht, rfl⟩ := fields
  refine ⟨?_, fun effect hm => ?_⟩
  · rcases optional_eq_good hl with ⟨x, found, hx⟩ | rfl
    · have marked := marked.lookup found
      unfold Item.readLocation at hx
      split at hx
      · cases hx
        exact nofun
      · cases hx
        exact fun e => marked.text_ne (Content.text.inj e)
      · cases hx
        exact nofun
      · cases hx
    · exact nofun
  · obtain ⟨gate, hg, rfl⟩ := List.mem_map.mp hm
    have taken : take = some gate := by simpa using hg
    rcases optional_eq_good ht with ⟨x, found, hx⟩ | e
    · rcases nullable_eq_good hx with e | ⟨gate', e, hx⟩
      · rw [taken] at e
        cases e
      · rw [taken] at e
        cases e
        exact gate_marked (marked.lookup found) hx
    · rw [taken] at e
      cases e

theorem dialogue_marked {c : Content} (marked : c.IsMarked) {d : Dialogue}
    (h : Dialogue.read c = .good d) : ∀ effect ∈ d.effects, effect.IsMarked := by
  unfold Dialogue.read at h
  obtain ⟨es, rfl, fields⟩ := record_eq_good h
  simp only [Dialogue.fields, seq_eq_good, map_eq_good] at fields
  obtain ⟨-, replies, ⟨lines, -, rfl⟩, hr, rfl⟩ := fields
  intro effect hm
  obtain ⟨reply, said, rfl⟩ := List.mem_map.mp hm
  rcases optional_eq_good hr with ⟨x, found, hx⟩ | e
  · have marked := marked.lookup found
    obtain ⟨xs, rfl, elements⟩ := listOf_eq_good hx
    obtain ⟨y, hy, read⟩ := elements reply said
    have marked := marked.element hy
    obtain ⟨fs, rfl, inner⟩ := record_eq_good read
    simp only [Dialogue.replyFields, seq_eq_good, map_eq_good] at inner
    obtain ⟨-, effect, ⟨-, _, ⟨-, _, ⟨_, -, rfl⟩, -, rfl⟩, -, rfl⟩, he, rfl⟩ := inner
    exact isMarked_of_table marked he
  · simp only at said
    rw [e] at said
    exact absurd said List.not_mem_nil

theorem action_marked {c : Content} (marked : c.IsMarked) {a : Action}
    (h : Action.read c = .good a) : a.effect.IsMarked := by
  unfold Action.read at h
  obtain ⟨es, rfl, fields⟩ := record_eq_good h
  simp only [Action.fields, seq_eq_good, map_eq_good] at fields
  obtain ⟨-, _, ⟨-, effect, ⟨-, _, ⟨-, _, ⟨_, -, rfl⟩, -, rfl⟩, -, rfl⟩, he, rfl⟩, -, rfl⟩ := fields
  exact isMarked_of_table marked he

theorem build_eq_ok {α : Type} {model : Model} {read : Reader α} {c : Content} {a : α}
    (h : build model read c = .ok a) : read c = .good a := by
  unfold build at h
  split at h
  · next es =>
      unfold Checked.orInvalid at h
      split at h
      · next found =>
          cases h
          exact found
      · cases h
  · cases h

theorem mem_of_buildAll {α : Type} {model : Model} {read : Reader α} :
    ∀ {es : List (String × Content)} {l : List (String × α)}, buildAll model read es = .ok l →
      ∀ {name : String} {a : α}, (name, a) ∈ l → ∃ c, (name, c) ∈ es ∧ read c = .good a
  | [], _, h, _, _, ha => by
      cases h
      exact absurd ha List.not_mem_nil
  | (k, c) :: es, _, h, name, a, ha => by
      simp only [buildAll, bind_eq_ok, pure_eq_ok] at h
      obtain ⟨first, hf, rest, hr, rfl⟩ := h
      rcases List.mem_cons.mp ha with e | ha
      · cases e
        exact ⟨c, List.mem_cons_self .., build_eq_ok hf⟩
      · obtain ⟨c', hc, read⟩ := mem_of_buildAll hr ha
        exact ⟨c', List.mem_cons_of_mem _ hc, read⟩

theorem mem_of_buildActions :
    ∀ {cs : List Content} {l : List Action}, buildActions cs = .ok l →
      ∀ a ∈ l, ∃ c ∈ cs, Action.read c = .good a
  | [], _, h, _, ha => by
      cases h
      exact absurd ha List.not_mem_nil
  | c :: cs, _, h, a, ha => by
      simp only [buildActions, bind_eq_ok, pure_eq_ok] at h
      obtain ⟨first, hf, rest, hr, rfl⟩ := h
      rcases List.mem_cons.mp ha with rfl | ha
      · exact ⟨c, List.mem_cons_self .., build_eq_ok hf⟩
      · obtain ⟨c', hc, read⟩ := mem_of_buildActions hr a ha
        exact ⟨c', List.mem_cons_of_mem _ hc, read⟩

/-- What stands in a roster that is built from a marked content is read from a marked content. -/
theorem read_of_buildRoster {α : Type} {model : Model} {read : Reader α}
    {es : List (String × Content)} (marked : (Content.mapping es).IsMarked) {key : String}
    {r : Roster α} (h : buildRoster model read es key = .ok r) {name : String} {a : α}
    (ha : r.get? name = some a) : ∃ c : Content, c.IsMarked ∧ read c = .good a := by
  unfold buildRoster at h
  cases found : es.lookup key with
  | none =>
      simp only [found, bind_eq_ok, pure_eq_ok] at h
      obtain ⟨-, rfl, l, hl, rfl⟩ := h
      cases hl
      exact absurd (Roster.mem_of_ofList ha) List.not_mem_nil
  | some x =>
      simp only [found, bind_eq_ok, pure_eq_ok] at h
      obtain ⟨fs, hfs, l, hl, rfl⟩ := h
      obtain ⟨c, hc, read⟩ := mem_of_buildAll hl (Roster.mem_of_ofList ha)
      have e : x = .mapping fs := entries_eq_ok.mp hfs
      subst e
      exact ⟨c, (marked.lookup found).entry hc, read⟩

theorem marked_filledOrEmpty {es : List (String × Content)}
    (marked : (Content.mapping es).IsMarked) (key : String) : (filledOrEmpty es key).IsMarked := by
  unfold filledOrEmpty
  simp only
  split
  · cases found : es.lookup key with
    | none => rfl
    | some x => exact marked.lookup found
  · rfl

theorem clean_of_read {c : Content} {fs : Flags} (h : Flags.read c = .good fs) : fs.IsClean := by
  unfold Flags.read at h
  obtain ⟨es, rfl, fields⟩ := record_eq_good h
  simp only [Flags.fields, seq_eq_good, map_eq_good] at fields
  obtain ⟨_, _, ⟨_, _, ⟨_, _, ⟨_, _, ⟨_, _, ⟨_, _, rfl⟩, _, rfl⟩, _, rfl⟩, _, rfl⟩, _, rfl⟩, _,
    rfl⟩ := fields
  exact ⟨⟨rfl, rfl⟩, rfl⟩

theorem marked_of_buildActions {c : Content} (marked : c.IsMarked) {actions : List Action}
    (h : c.elements >>= buildActions = .ok actions) : ∀ a ∈ actions, a.effect.IsMarked := by
  obtain ⟨cs, hcs, hb⟩ := bind_eq_ok.mp h
  intro a mem
  obtain ⟨c', hc, read⟩ := mem_of_buildActions hb a mem
  have record := read
  unfold Action.read at record
  obtain ⟨fs, e, -⟩ := record_eq_good record
  exact action_marked (marked.walked hcs hc e) read

/-- **What is known of a world that a content describes.** -/
theorem isBuilt_of_ofContent {data : Content} {b : World} (h : ofContent data = .ok b) :
    b.IsBuilt := by
  unfold ofContent at h
  simp only [bind_eq_ok] at h
  obtain ⟨es, hes, rooms, hr, items, hi, characters, -, dialogues, ⟨ds, hds, hd⟩, h⟩ := h
  have marked : (Content.mapping es).IsMarked := entries_eq_ok.mp hes ▸ marked_marked data
  have built : ∃ actions scenario flags current, (∀ a ∈ actions, a.effect.IsMarked) ∧
      flags.IsClean ∧ b = settled
        { rooms, items, characters := withAntagonistHealth scenario characters
          dialogues := Roster.ofList dialogues, actions, scenario, flags, current
          intro := (es.lookup "intro").getD (.text "")
          origin := ⟨[], [], [], flags⟩, notes := [] } := by
    cases found : es.lookup "actions" with
    | none =>
        simp only [found, bind_eq_ok, pure_eq_ok] at h
        obtain ⟨-, rfl, scenario, -, flags, hf, current, -, rfl⟩ := h
        exact ⟨[], scenario, flags, current, fun _ ha => absurd ha List.not_mem_nil,
          clean_of_read (build_eq_ok hf), rfl⟩
    | some x =>
        simp only [found] at h
        obtain ⟨actions, ha, h⟩ := bind_eq_ok.mp h
        simp only [bind_eq_ok, pure_eq_ok] at h
        obtain ⟨scenario, -, flags, hf, current, -, rfl⟩ := h
        exact ⟨actions, scenario, flags, current, marked_of_buildActions (marked.lookup found) ha,
          clean_of_read (build_eq_ok hf), rfl⟩
  obtain ⟨actions, scenario, flags, current, acts, clean, rfl⟩ := built
  refine ⟨clean, rfl, fun a ch antagonist there => ?_, fun name i found => ?_, fun effect hm => ?_⟩
  · have antagonist : scenario.antagonist = some a := antagonist
    have there : (withAntagonistHealth scenario characters).get? a.character = some ch := there
    unfold withAntagonistHealth at there
    rw [antagonist] at there
    rcases Roster.get?_update_cases there with ⟨-, ch', -, rfl⟩ | ⟨other, -⟩
    · rfl
    · exact absurd rfl other
  · obtain ⟨c, hc, read⟩ := read_of_buildRoster marked hi found
    exact (item_marked hc read).1
  · simp only [effects, settled, List.mem_append, List.mem_flatMap, List.mem_map] at hm
    rcases hm with ((⟨⟨name, r⟩, mem, hm⟩ | ⟨⟨name, i⟩, mem, hm⟩) | ⟨⟨name, d⟩, mem, hm⟩) |
      ⟨a, mem, rfl⟩
    · obtain ⟨c, hc, read⟩ := read_of_buildRoster marked hr (rooms.mem_entries_iff.mp mem)
      exact room_marked hc read effect hm
    · obtain ⟨c, hc, read⟩ := read_of_buildRoster marked hi (items.mem_entries_iff.mp mem)
      exact (item_marked hc read).2 effect hm
    · have mem := Roster.mem_of_ofList ((Roster.ofList dialogues).mem_entries_iff.mp mem)
      obtain ⟨c, hc, read⟩ := mem_of_buildAll hd mem
      have filled : (Content.mapping ds).IsMarked :=
        entries_eq_ok.mp hds ▸ marked_filledOrEmpty marked "dialogues"
      exact dialogue_marked (filled.entry hc) read effect hm
    · exact acts a mem

theorem isBuilt_of_ofFile {data : Content} {b : World} (h : ofFile data = .ok b) : b.IsBuilt :=
  isBuilt_of_ofContent h

end World

end Adventure
