import Adventure.Proofs.Outcome
import Adventure.Proofs.World.Plan
import Adventure.World.Integrity

/-!
# What a world without inconsistencies is good for

* `World.Grasps`: a world knows all that a condition or a consequence refers to;
* `grasps_precondition`, `grasps_effect`: a consistent world grasps all it has;
* `start_known`, `exit_known`, `room_coded`, `item_placed`, `dialogue_owned`, `reply_known`: what else
  it knows.
-/

namespace Adventure.World

open Outcome

/-! ## 1. Sentences that are not told -/

variable {α : Type}

theorem gather_eq_nil {f : α → Except Fault (List String)} :
    ∀ {l : List α}, gather f l = .ok [] → ∀ a ∈ l, f a = .ok []
  | [], _, a, ha => absurd ha List.not_mem_nil
  | b :: l, h, a, ha => by
      simp only [gather, bind_eq_ok, pure_eq_ok, List.append_eq_nil_iff] at h
      obtain ⟨here, hb, rest, hl, rfl, rfl⟩ := h
      rcases List.mem_cons.mp ha with rfl | ha
      · exact hb
      · exact gather_eq_nil hl a ha

/-- A consistent world has no sentence about any of its parts. -/
theorem inconsistencies_eq_nil {b : World} (h : b.inconsistencies = .ok []) :
    b.startIssues = .ok [] ∧ gather b.roomIssues b.rooms.entries = .ok [] ∧
      gather b.itemIssues b.items.entries = .ok [] ∧
      gather b.characterIssues b.characters.entries = .ok [] ∧
      gather b.dialogueIssues b.dialogues.entries = .ok [] ∧
      gather b.actionIssues b.actions = .ok [] ∧
      b.torchIssues = [] ∧ b.antagonistIssues = [] ∧ b.climaxIssues = [] := by
  simp only [inconsistencies, bind_eq_ok, pure_eq_ok, List.append_eq_nil_iff] at h
  obtain ⟨start, hs, rooms, hr, items, hi, chars, hc, dialogues, hd, actions, ha, h⟩ := h
  obtain ⟨⟨⟨⟨⟨⟨⟨⟨rfl, rfl⟩, rfl⟩, rfl⟩, rfl⟩, rfl⟩, ht⟩, hn⟩, hx⟩ := h
  exact ⟨hs, hr, hi, hc, hd, ha, ht, hn, hx⟩

/-! ## 2. Conditions and consequences -/

/-- A place that a world knows: the mark of the inventory, a room, or none at all. -/
def KnowsPlace (b : World) (place : Content) : Prop :=
  place = .inventory ∨ place.isFilled = false ∨
    ∃ name, place = .text name ∧ b.rooms.has name = true

/-- The world knows the item of an item condition, and the place if there is one. -/
def GraspsItem (b : World) (cond : Content) : Prop :=
  ∃ es name, cond = .mapping es ∧ es.lookup "item" = some (.text name) ∧
    b.items.has name = true ∧ b.KnowsPlace ((es.lookup "location").getD .null)

/-- **The world knows all that a condition or a consequence refers to.** -/
def Grasps (b : World) (c : Content) : Prop :=
  c.isFilled = false ∨ ∃ es conds names, c = .mapping es ∧
    ((es.lookup "item_conditions").getD .null).filledElements = .ok conds ∧
    (∀ cond ∈ conds, b.GraspsItem cond) ∧
    ((es.lookup "flags").getD .null).filledElements = .ok names ∧
    ∀ name ∈ names, ∃ f : Flag, name = .text f.word

theorem placeIssue_eq_nil {b : World} {place : Content} {sentence : String}
    (h : b.placeIssue place sentence = .ok []) :
    place.isFilled = false ∨ ∃ name, place = .text name ∧ b.rooms.has name = true := by
  unfold placeIssue at h
  split at h
  · next empty => exact .inl (by simpa using empty)
  · simp only [bind_eq_ok, pure_eq_ok] at h
    obtain ⟨known, hk, h⟩ := h
    cases known with
    | true => exact .inr (Roster.knows_eq_true hk)
    | false => cases h

theorem graspsItem_of {b : World} {subject : String} {cond : Content}
    (h : b.itemConditionIssues subject cond = .ok []) : b.GraspsItem cond := by
  unfold itemConditionIssues at h
  obtain ⟨es, hes, h⟩ := bind_eq_ok.mp h
  obtain ⟨known, hk, h⟩ := bind_eq_ok.mp h
  have placed : known = true ∧ b.KnowsPlace ((es.lookup "location").getD .null) := by
    by_cases inv : (es.lookup "location").getD .null = .inventory
    · simp only [inv, if_true, bind_eq_ok, pure_eq_ok, List.append_eq_nil_iff] at h
      obtain ⟨-, -, unknown, -⟩ := h
      exact ⟨by simpa using unknown, .inl inv⟩
    · simp only [inv, if_false, bind_eq_ok, pure_eq_ok, List.append_eq_nil_iff] at h
      obtain ⟨misplaced, hp, unknown, rfl⟩ := h
      exact ⟨by simpa using unknown, .inr (placeIssue_eq_nil hp)⟩
  obtain ⟨rfl, placed⟩ := placed
  obtain ⟨name, hn, has⟩ := Roster.knows_eq_true hk
  have item : es.lookup "item" = some (.text name) := by
    rcases e : es.lookup "item" with _ | x
    · rw [e] at hn
      cases hn
    · rw [e] at hn
      exact congrArg some hn
  exact ⟨es, name, Content.entries_eq_ok.mp hes, item, has, placed⟩

theorem flag_of_flagIssues {subject : String} {name : Content}
    (h : flagIssues subject name = .ok []) : ∃ f : Flag, name = .text f.word := by
  simp only [flagIssues, bind_eq_ok, pure_eq_ok] at h
  obtain ⟨s, hs, h⟩ := h
  split at h
  · next known =>
      obtain ⟨f, hf⟩ := Option.isSome_iff_exists.mp known
      obtain ⟨word, rfl, hw⟩ := Option.bind_eq_some_iff.mp hf
      refine ⟨f, ?_⟩
      cases name <;> simp [Content.asName] at hs
      rw [hs, Flag.word_of_ofWord? hw]
  · cases h

/-- **What gives rise to no sentence is grasped.** -/
theorem grasps_of {b : World} {subject : String} {c : Content}
    (h : b.conditionIssues subject c = .ok []) : b.Grasps c := by
  unfold conditionIssues at h
  split at h
  · next empty => exact .inl (by simpa using empty)
  · simp only [bind_eq_ok, pure_eq_ok, List.append_eq_nil_iff] at h
    obtain ⟨es, hes, misplaced, _, conds, hc, items, hi, names, hn, flags, hf, ⟨rfl, rfl⟩, rfl⟩ := h
    refine .inr ⟨es, conds, names, Content.entries_eq_ok.mp hes, hc, fun cond hm => ?_, hn,
      fun name hm => ?_⟩
    · exact graspsItem_of (gather_eq_nil hi cond hm)
    · exact flag_of_flagIssues (gather_eq_nil hf name hm)

theorem grasps_of_gate {b : World} {subject : String} {gate : Gate}
    (h : b.gateIssues subject gate = .ok []) :
    b.Grasps gate.preconditions ∧ b.Grasps gate.effect := by
  simp only [gateIssues, bind_eq_ok, pure_eq_ok, List.append_eq_nil_iff] at h
  obtain ⟨pre, hp, effect, he, rfl, rfl⟩ := h
  exact ⟨grasps_of hp, grasps_of he⟩

/-! ## 3. The parts of a consistent world -/

section Consistent

variable {b : World} (h : b.inconsistencies = .ok [])

include h

theorem roomIssues_eq_nil {name : String} {r : Room} (hr : b.rooms.get? name = some r) :
    b.roomIssues (name, r) = .ok [] :=
  gather_eq_nil (inconsistencies_eq_nil h).2.1 _ (b.rooms.mem_entries_iff.mpr hr)

theorem itemIssues_eq_nil {name : String} {i : Item} (hi : b.items.get? name = some i) :
    b.itemIssues (name, i) = .ok [] :=
  gather_eq_nil (inconsistencies_eq_nil h).2.2.1 _ (b.items.mem_entries_iff.mpr hi)

/-- The room in which the adventure starts is there. -/
theorem start_known : ∃ name, b.current = .text name ∧ b.rooms.has name = true := by
  have hs := (inconsistencies_eq_nil h).1
  simp only [startIssues, bind_eq_ok, pure_eq_ok] at hs
  obtain ⟨known, hk, e⟩ := hs
  cases known with
  | true => exact Roster.knows_eq_true hk
  | false => cases e

/-- There is no sentence about the exits of a room, nor about its lock. -/
theorem exits_and_lock {name : String} {r : Room} (hr : b.rooms.get? name = some r) :
    (∀ e ∈ r.exits, b.exitIssues name e = []) ∧
      (r.locked = true → (Room.filledText? r.code).isSome = true) := by
  have k := roomIssues_eq_nil h hr
  have coded {sentence : String} (lock : (if r.locked ∧ (Room.filledText? r.code).isNone then
      [sentence] else []) = []) (locked : r.locked = true) :
      (Room.filledText? r.code).isSome = true := by
    split at lock
    · cases lock
    · next coded => exact Option.isSome_iff_ne_none.mpr (by simpa [locked] using coded)
  cases entry : r.entry with
  | none =>
      simp only [roomIssues, entry, bind_eq_ok, pure_eq_ok, List.append_eq_nil_iff,
        List.flatMap_eq_nil_iff] at k
      obtain ⟨-, -, ⟨exits, lock⟩, -⟩ := k
      exact ⟨exits, coded lock⟩
  | some entry' =>
      simp only [roomIssues, entry, bind_eq_ok, pure_eq_ok, List.append_eq_nil_iff,
        List.flatMap_eq_nil_iff] at k
      obtain ⟨-, -, -, -, -, -, ⟨exits, lock⟩, -⟩ := k
      exact ⟨exits, coded lock⟩

/-- **An exit leads to a room, or out of the adventure.** -/
theorem exit_known {name target : String} {r : Room} {d : Direction}
    (hr : b.rooms.get? name = some r) (he : r.neighbour? d = some target) :
    target = exitTarget ∨ b.rooms.has target = true := by
  have e := (exits_and_lock h hr).1 _ (mem_of_lookup he)
  unfold exitIssues at e
  split at e
  · assumption
  · cases e

/-- **A room that is locked has a code.** -/
theorem room_coded {name : String} {r : Room} (hr : b.rooms.get? name = some r)
    (locked : r.locked = true) : (Room.filledText? r.code).isSome = true :=
  (exits_and_lock h hr).2 locked

/-- **An item lies in a room, is carried, or is nowhere.** -/
theorem item_placed {name : String} {i : Item} (hi : b.items.get? name = some i) :
    i.location = .null ∨ i.location = .inventory ∨
      ∃ room, i.location = .text room ∧ b.rooms.has room = true := by
  have k := itemIssues_eq_nil h hi
  simp only [itemIssues] at k
  split at k
  · next none => exact none.elim .inl (fun e => .inr (.inl e))
  · obtain ⟨known, hk, k⟩ := bind_eq_ok.mp k
    obtain ⟨place, hp, k⟩ := bind_eq_ok.mp k
    have empty : place = [] := by
      split at k
      all_goals
        simp only [bind_eq_ok, pure_eq_ok, List.append_eq_nil_iff] at k
        obtain ⟨-, -, e, -⟩ := k
        exact e
    rw [empty, pure_eq_ok] at hp
    cases known with
    | true => exact .inr (.inr (Roster.knows_eq_true hk))
    | false => cases hp

theorem grasps_entry {name : String} {r : Room} {entry : Entry}
    (hr : b.rooms.get? name = some r) (he : r.entry = some entry) :
    b.Grasps entry.preconditions ∧
      ∀ gate ∈ entry.refusals, b.Grasps gate.preconditions ∧ b.Grasps gate.effect := by
  have k := roomIssues_eq_nil h hr
  simp only [roomIssues, he, bind_eq_ok, pure_eq_ok, List.append_eq_nil_iff] at k
  obtain ⟨pre, hp, refusals, hg, entry', e, -, rfl⟩ := k
  rw [List.append_eq_nil_iff] at e
  obtain ⟨rfl, rfl⟩ := e
  exact ⟨grasps_of hp, fun gate hm => grasps_of_gate (gather_eq_nil hg gate hm)⟩

theorem grasps_take {name : String} {i : Item} {gate : Gate} (hi : b.items.get? name = some i)
    (hg : i.take = some gate) : b.Grasps gate.preconditions ∧ b.Grasps gate.effect := by
  have k := itemIssues_eq_nil h hi
  simp only [itemIssues, hg] at k
  split at k
  all_goals simp only [bind_eq_ok, pure_eq_ok, List.append_eq_nil_iff] at k
  · obtain ⟨-, -, take, ht, -, rfl⟩ := k
    exact grasps_of_gate ht
  · obtain ⟨-, -, -, -, take, ht, -, rfl⟩ := k
    exact grasps_of_gate ht

theorem grasps_talk {name : String} {c : Character} (hc : b.characters.get? name = some c) :
    b.Grasps c.talkPreconditions := by
  have k := gather_eq_nil (inconsistencies_eq_nil h).2.2.2.1 _ (b.characters.mem_entries_iff.mpr hc)
  simp only [characterIssues, bind_eq_ok, pure_eq_ok, List.append_eq_nil_iff] at k
  obtain ⟨talk, ht, -, rfl⟩ := k
  exact grasps_of ht

/-- There is no sentence about a dialogue. -/
theorem dialogueIssues_eq_nil {name : String} {d : Dialogue}
    (hd : b.dialogues.get? name = some d) : b.dialogueIssues (name, d) = .ok [] :=
  gather_eq_nil (inconsistencies_eq_nil h).2.2.2.2.1 _ (b.dialogues.mem_entries_iff.mpr hd)

/-- Whoever has a dialogue is there. -/
theorem dialogue_owned {name : String} {d : Dialogue} (hd : b.dialogues.get? name = some d) :
    b.characters.has name = true := by
  have k := dialogueIssues_eq_nil h hd
  simp only [dialogueIssues, bind_eq_ok, pure_eq_ok, List.append_eq_nil_iff] at k
  obtain ⟨-, -, ⟨owner, -⟩, -⟩ := k
  split at owner
  · next there => exact there
  · cases owner

/-- **There is a reply to every line.** -/
theorem reply_known {name : String} {d : Dialogue} {line : PlayerLine}
    (hd : b.dialogues.get? name = some d) (hl : line ∈ d.lines) :
    (d.reply? line.reply).isSome = true := by
  have k := dialogueIssues_eq_nil h hd
  simp only [dialogueIssues, bind_eq_ok, pure_eq_ok, List.append_eq_nil_iff] at k
  obtain ⟨-, -, ⟨-, lines⟩, -⟩ := k
  have none := List.flatMap_eq_nil_iff.mp lines line hl
  split at none
  · next there => exact there
  · cases none

theorem grasps_reply {name : String} {d : Dialogue} {reply : Reply}
    (hd : b.dialogues.get? name = some d) (hr : reply ∈ d.replies) : b.Grasps reply.effect := by
  have k := dialogueIssues_eq_nil h hd
  simp only [dialogueIssues, bind_eq_ok, pure_eq_ok, List.append_eq_nil_iff] at k
  obtain ⟨replies, hg, -, rfl⟩ := k
  have e := gather_eq_nil hg reply hr
  simp only [replyIssues, bind_eq_ok, pure_eq_ok, List.append_eq_nil_iff] at e
  obtain ⟨effect, he, -, rfl⟩ := e
  exact grasps_of he

theorem grasps_action {a : Action} (ha : a ∈ b.actions) :
    b.Grasps a.preconditions ∧ b.Grasps a.effect := by
  have k := gather_eq_nil (inconsistencies_eq_nil h).2.2.2.2.2.1 _ ha
  simp only [actionIssues, bind_eq_ok, pure_eq_ok, List.append_eq_nil_iff] at k
  obtain ⟨pre, hp, effect, he, ⟨-, rfl⟩, rfl⟩ := k
  exact ⟨grasps_of hp, grasps_of he⟩

/-- **A consistent world grasps all its conditions.** -/
theorem grasps_precondition {c : Content} (hc : c ∈ b.preconditions) : b.Grasps c := by
  simp only [preconditions, List.mem_append, List.mem_flatMap, List.mem_map] at hc
  rcases hc with ((⟨⟨name, r⟩, hr, hm⟩ | ⟨⟨name, i⟩, hi, hm⟩) | ⟨⟨name, ch⟩, hch, rfl⟩) | ⟨a, ha, rfl⟩
  · unfold Room.preconditions at hm
    split at hm
    · exact absurd hm List.not_mem_nil
    · next entry he =>
        have k := grasps_entry h (b.rooms.mem_entries_iff.mp hr) he
        rcases List.mem_cons.mp hm with rfl | hm
        · exact k.1
        · obtain ⟨gate, hg, rfl⟩ := List.mem_map.mp hm
          exact (k.2 gate hg).1
  · obtain ⟨gate, hg, rfl⟩ := List.mem_map.mp hm
    exact (grasps_take h (b.items.mem_entries_iff.mp hi) (Option.mem_toList.mp hg)).1
  · exact grasps_talk h (b.characters.mem_entries_iff.mp hch)
  · exact (grasps_action h ha).1

/-- **A consistent world grasps all its consequences.** -/
theorem grasps_effect {c : Content} (hc : c ∈ b.effects) : b.Grasps c := by
  simp only [effects, List.mem_append, List.mem_flatMap, List.mem_map] at hc
  rcases hc with ((⟨⟨name, r⟩, hr, hm⟩ | ⟨⟨name, i⟩, hi, hm⟩) | ⟨⟨name, d⟩, hd, hm⟩) | ⟨a, ha, rfl⟩
  · unfold Room.effects at hm
    split at hm
    · exact absurd hm List.not_mem_nil
    · next entry he =>
        obtain ⟨gate, hg, rfl⟩ := List.mem_map.mp hm
        exact ((grasps_entry h (b.rooms.mem_entries_iff.mp hr) he).2 gate hg).2
  · obtain ⟨gate, hg, rfl⟩ := List.mem_map.mp hm
    exact (grasps_take h (b.items.mem_entries_iff.mp hi) (Option.mem_toList.mp hg)).2
  · obtain ⟨reply, hr, rfl⟩ := List.mem_map.mp hm
    exact grasps_reply h (b.dialogues.mem_entries_iff.mp hd) hr
  · exact (grasps_action h ha).2

end Consistent

end Adventure.World
