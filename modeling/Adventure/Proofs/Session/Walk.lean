import Adventure.Proofs.Session.Anew

/-!
# Every change of room is licensed

* `World.lockOf?`: the lock of a room, which only its code opens;
* `Session.SetsOff`: a line with which the player sets off towards a room that lets the player in;
* `Session.GoesIn`, `Session.SaysCode`: what lets the player into a room;
* `Session.Strides`: what one line of the player has to do with rooms and locks;
* `walk_licensed`: **the player comes into a room through an open door, or with the code that was
  asked for by the line before**;
* `walk_unlicensed_vault`: messages with which an entry is not guarded.
-/

namespace Adventure

open Outcome

/-! ## 1. Locks and exits -/

namespace World

/-- The lock of a room, if there is such a room. -/
def lockOf? (w : World) (name : String) : Option Bool := (w.rooms.get? name).map Room.locked

/-- An exit of the room leads to the room `target`, not out of the adventure. -/
def HasExit (w : World) (target : String) : Prop :=
  ∃ d r, d ≠ Direction.invalid ∧ w.room = .ok r ∧ r.neighbour? d = some target ∧
    target ≠ exitTarget

section

variable {b w v : World} {c : Cause}

/-- **Only the code of a room opens its lock**, and nothing shuts it. -/
theorem lock_deed (h : Deed b c w v) (name : String) :
    v.lockOf? name = w.lockOf? name ∨ (v.lockOf? name = some false ∧ c.Unlocks w name) := by
  cases h with
  | refresh other =>
      have locks : (w.rooms.update other fun r => { r with updated := true }).map Room.locked =
          w.rooms.map Room.locked := Roster.map_update_of fun _ _ => rfl
      have found := congrArg (fun locks => locks.get? name) locks
      simp only [Roster.get?_map] at found
      exact .inl found
  | unlock target allowed =>
      by_cases same : name = target
      · subst same
        obtain ⟨line, r, -, there, -⟩ := id allowed
        refine .inr ⟨?_, allowed⟩
        have after := Roster.get?_update_self there (fun r => { r with locked := false })
        show ((w.rooms.update name _).get? name).map Room.locked = _
        rw [after]
        rfl
      · refine .inl ?_
        show ((w.rooms.update target _).get? name).map Room.locked = _
        rw [Roster.get?_update_ne _ same]
        rfl
  | note | wake | torch | flag | place | pick | switch | strike | defeat | say | part | enter =>
      exact .inl rfl

/-- **The player changes rooms by entering one that is not locked.** -/
theorem current_deed (h : Deed b c w v) :
    v.current = w.current ∨ ∃ target, v.current = .text target ∧ v.lockOf? target = some false ∧
      (c.Approaches w target ∨ c.Unlocks w target) := by
  rcases entered_deed h with same | ⟨target, r, entered, there, unlocked, allowed⟩
  · exact .inl same
  · refine .inr ⟨target, entered, ?_, allowed⟩
    unfold lockOf?
    rw [there, Option.map_some, unlocked]

end

/-- The exits of a room are part of the plan. -/
theorem hasExit_of_plan {w v : World} (plan : v.plan = w.plan) (here : v.current = w.current)
    {target : String} (h : w.HasExit target) : v.HasExit target := by
  obtain ⟨d, r, valid, hr, exit, inside⟩ := h
  obtain ⟨name, at_name, there⟩ := room_eq_ok hr
  obtain ⟨r', there', bare⟩ := room_of_plan plan.symm there
  refine ⟨d, r', valid, ?_, ?_, inside⟩
  · unfold room
    rw [here, at_name]
    exact Roster.demand_text there'
  · show r'.bare.neighbour? d = some target
    rw [bare]
    exact exit

end World

namespace Session

/-- **The player sets off towards a room**: nothing else waits for the line, which is read as a
    command to go through an exit, and the entry of the room, once the torch is put out, lets the
    player in. -/
def SetsOff (s : Session) (p : Play) (line target : String) : Prop :=
  p.router.waiting = none ∧ ∃ i, s.intent? p.world line = some i ∧ i.HeadsFor p.world target ∧
    p.world.darkened.Admits target

/-- **The player goes through an open door**: the line sets off towards a room that is not
    locked. -/
def GoesIn (s : Session) (p : Play) (line target : String) : Prop :=
  s.SetsOff p line target ∧ p.world.lockOf? target = some false

/-- **The player says the code of a locked door**: the line before has set off towards the room,
    from where the player still is. -/
def SaysCode (s : Session) (p₀ : Play) (lines : List String) (line target : String) : Prop :=
  ∃ before last, lines = before ++ [last] ∧
    s.SetsOff (s.after p₀ before) last target ∧
    (s.after p₀ before).world.lockOf? target = some true ∧
    (s.after p₀ lines).world.current = (s.after p₀ before).world.current ∧
    ∃ r, (s.after p₀ lines).world.rooms.get? target = some r ∧ Text.strip line = r.code.getD ""

/-! ## 2. One line of the player -/

/-- **What a line has to do with rooms and locks**, seen from the world `w` in which it is heard. -/
structure Strides (c : Cause) (w : World) (q : Play) : Prop where
  plan : q.world.plan = w.plan
  locks : ∀ name, q.world.lockOf? name = w.lockOf? name ∨
    (q.world.lockOf? name = some false ∧ ∃ line, c = .code name line)
  moved : q.world.current = w.current ∨ ∃ v target, q.world.current = .text target ∧
    v.plan = w.plan ∧ q.world.lockOf? target = some false ∧
    (c.Approaches v target ∨ c.Unlocks v target)
  asked : ∀ target, q.router.waiting = some (.doorCode target) →
    (∃ v, c.Approaches v target) ∧ q.world.lockOf? target = some true

variable {setup : Setup} {b w : World} {c : Cause} {s : Session} {p q : Play} {line : String}

/-- A command does not open locks. -/
theorem not_unlocks {w v : World} {target other : String} (h : c.Approaches w target) :
    ¬ c.Unlocks v other := by
  rintro ⟨line, r, rfl, -⟩
  exact h

theorem strides_deed (h : Strides c w p) (d : Play.Deed setup b c p q) : Strides c w q := by
  cases d with
  | world v deed =>
      have opened {name : String} (e : p.world.lockOf? name = some false) :
          v.lockOf? name = some false :=
        (World.lock_deed deed name).elim (fun k => k.trans e) fun k => k.1
      refine ⟨(World.plan_deed deed).trans h.plan, fun name => ?_, ?_, fun target waits => ?_⟩
      · rcases World.lock_deed deed name with e | ⟨e, line, -, hc, -⟩
        · rcases h.locks name with k | ⟨k, code⟩
          · exact .inl (e.trans k)
          · exact .inr ⟨e.trans k, code⟩
        · exact .inr ⟨e, line, hc⟩
      · rcases World.current_deed deed with e | ⟨target, e, unlocked, allowed⟩
        · rcases h.moved with k | ⟨u, target, k, plan, unlocked, allowed⟩
          · exact .inl (e.trans k)
          · exact .inr ⟨u, target, e.trans k, plan, opened unlocked, allowed⟩
        · exact .inr ⟨p.world, target, e, h.plan, unlocked, allowed⟩
      · obtain ⟨⟨u, approaches⟩, locked⟩ := h.asked target waits
        refine ⟨⟨u, approaches⟩, ?_⟩
        rcases World.lock_deed deed target with e | ⟨-, unlocks⟩
        · exact e.trans locked
        · exact absurd unlocks (not_unlocks approaches)
  | knock target allowed locked =>
      refine ⟨h.plan, h.locks, h.moved, fun target' waits => ?_⟩
      cases waits
      obtain ⟨r, there, shut⟩ := locked
      refine ⟨⟨_, allowed⟩, ?_⟩
      show (p.world.rooms.get? target).map Room.locked = _
      rw [there, Option.map_some, shut]
  | hush => exact ⟨h.plan, h.locks, h.moved, nofun⟩
  | listen => exact ⟨h.plan, h.locks, h.moved, nofun⟩
  | desk => exact ⟨h.plan, h.locks, h.moved, h.asked⟩
  | converse => exact ⟨h.plan, h.locks, h.moved, h.asked⟩
  | keep => exact ⟨h.plan, h.locks, h.moved, h.asked⟩
  | halt => exact ⟨h.plan, h.locks, h.moved, h.asked⟩

theorem strides_turn (sane : Play.Sane b p) (line : String) :
    Strides (s.cause p line) p.world (s.turn p line).2 := by
  refine Play.deeds_preserve strides_deed (turn_leads (s := s) sane line) ?_
  exact ⟨rfl, fun _ => .inl rfl, .inl rfl, nofun⟩

/-! ## 3. What brings the player to a door -/

/-- A command that brings the player to a door sets off towards the room, if the messages have
    something to say to a player who is not let in. -/
theorem setsOff_of_approaches (speaks : s.messages.plain .moveEntryRefused ≠ .ok .null)
    {target : String} (h : (s.cause p line).Approaches w target) : s.SetsOff p line target := by
  unfold cause at h
  split at h
  · exact h.elim
  · exact h.elim
  · next free =>
      split at h
      · next i read =>
          obtain ⟨heads, -, admits⟩ := h
          obtain ⟨⟨notes, rfl⟩, r, there, entry⟩ := admits speaks
          refine ⟨free, i, read, heads, r, there, fun e he => ?_⟩
          rw [← entry e he]
          exact (World.holds_notes p.world.darkened notes _).symm
      · exact h.elim

/-- A line that opens a lock was waited for at the door. -/
theorem waiting_of_unlocks {target : String} (h : (s.cause p line).Unlocks w target)
    (plan : w.plan = p.world.plan) :
    p.router.waiting = some (.doorCode target) ∧ ∃ r, p.world.rooms.get? target = some r ∧
      Text.strip line = r.code.getD "" := by
  obtain ⟨said, r, hc, there, code⟩ := h
  unfold cause at hc
  split at hc
  · next target' waits =>
      cases hc
      obtain ⟨r', there', bare⟩ := World.room_of_plan plan there
      refine ⟨waits, r', there', ?_⟩
      show _ = r'.bare.code.getD ""
      rw [bare]
      exact code
  · cases hc
  · split at hc
    · cases hc
    · cases hc

namespace SetsOff

/-- A line sets off towards one room. -/
theorem unique {target target' : String} (h : s.SetsOff p line target)
    (h' : s.SetsOff p line target') : target' = target := by
  obtain ⟨-, i, read, ⟨-, d, r, direction, -, hr, exit, -⟩, -⟩ := h
  obtain ⟨-, i', read', ⟨-, d', r', direction', -, hr', exit', -⟩, -⟩ := h'
  rw [read] at read'
  cases read'
  rw [direction] at direction'
  cases direction'
  rw [hr] at hr'
  cases hr'
  rw [exit] at exit'
  cases exit'
  rfl

theorem hasExit {target : String} (h : s.SetsOff p line target) : p.world.HasExit target := by
  obtain ⟨-, i, -, ⟨-, d, r, -, valid, hr, exit, inside⟩, -⟩ := h
  exact ⟨d, r, valid, hr, exit, inside⟩

end SetsOff

/-- **The line that is answered with the question for a code**: it has set off towards the room,
    which is locked, and has left the player where the player was. -/
theorem asked_turn (sane : Play.Sane b p)
    (speaks : s.messages.plain .moveEntryRefused ≠ .ok .null) {target : String}
    (waits : (s.turn p line).2.router.waiting = some (.doorCode target)) :
    s.SetsOff p line target ∧ p.world.lockOf? target = some true ∧
      (s.turn p line).2.world.current = p.world.current := by
  have strides := strides_turn (s := s) sane line
  obtain ⟨⟨v, approaches⟩, locked⟩ := strides.asked target waits
  have sets := setsOff_of_approaches speaks approaches
  refine ⟨sets, ?_, ?_⟩
  · rcases strides.locks target with e | ⟨e, -⟩
    · exact e.symm.trans locked
    · exact absurd (locked.symm.trans e) nofun
  · rcases strides.moved with e | ⟨u, target', -, -, unlocked, allowed⟩
    · exact e
    · have approaches' := allowed.resolve_right (not_unlocks approaches)
      rw [sets.unique (setsOff_of_approaches speaks approaches'), locked] at unlocked
      cases unlocked

/-! ## 4. Line after line -/

section Run

variable {shelf : Shelf} {archive : Archive} {p₀ : Play}

/-- A session begins with a play of the adventure, whatever saved game it goes on with. -/
theorem sane_opens (holds : shelf.Holds b) (opens : Opens setup shelf archive s p) :
    Play.Sane b p := by
  obtain ⟨b', saved, w, holds', -, -, accepted, restored, -, -, rfl⟩ := opens_iff.mp opens
  cases holds.unique holds'
  have clean : b.flags.IsClean := holds.built.clean
  obtain ⟨sound, accepted⟩ := allInconsistencies_eq_nil.mp accepted
  refine sane_first _ _ ?_
  rcases restored_eq_ok.mp restored with ⟨-, rfl⟩ | ⟨filled, es, rfl, restores⟩
  · exact ⟨clean, rfl, sound⟩
  · have preserved := World.restores_preserve clean (World.accepts_of (accepted filled)) restores
    exact ⟨preserved.2.1, preserved.1, sound⟩

theorem opens_sane (opens : Opens setup shelf archive s p) : ∃ b, Play.Sane b p := by
  obtain ⟨b, _, _, holds, -⟩ := opens_iff.mp opens
  exact ⟨b, sane_opens holds opens⟩

/-- A room that is locked is entered by nobody: the player has been there from the beginning. -/
theorem locked_run (sane : Play.Sane b p₀) (lines : List String) {name : String}
    (here : (s.after p₀ lines).world.current = .text name)
    (locked : (s.after p₀ lines).world.lockOf? name = some true) :
    (s.after p₀ lines).world.current = p₀.world.current := by
  induction lines using List.reverseRecOn with
  | nil => rfl
  | append_singleton lines line ih =>
      rw [after_append] at here locked ⊢
      have strides := strides_turn (s := s) (after_sane (s := s) sane lines) line
      rcases strides.moved with e | ⟨v, target, e, -, unlocked, -⟩
      · rcases strides.locks name with k | ⟨k, -⟩
        · exact e.trans (ih (e.symm.trans here) (k.symm.trans locked))
        · rw [locked] at k
          cases k
      · rw [here] at e
        cases e
        rw [locked] at unlocked
        cases unlocked

/-- **Every change of room is licensed.** The player goes through an exit into a room that is open,
    or has set off towards a locked room with the line before and says its code. No line leads out
    of the adventure, and a locked room is one in which the session has begun. -/
theorem walk_licensed (opens : Opens setup shelf archive s p₀)
    (speaks : s.messages.plain .moveEntryRefused ≠ .ok .null) (lines : List String)
    (line : String) :
    let p := s.after p₀ lines
    let q := (s.turn p line).2
    (q.world.current ≠ p.world.current → ∃ target, q.world.current = .text target ∧
      p.world.HasExit target ∧ q.world.lockOf? target = some false ∧
      (s.GoesIn p line target ∨ s.SaysCode p₀ lines line target)) ∧
    (∀ name, q.world.current = .text name → q.world.lockOf? name = some true →
      q.world.current = p₀.world.current) := by
  obtain ⟨b, sane₀⟩ := opens_sane opens
  intro p q
  have sane : Play.Sane b p := after_sane sane₀ lines
  have strides : Strides (s.cause p line) p.world q := strides_turn sane line
  refine ⟨fun changed => ?_, fun name here locked => ?_⟩
  · obtain ⟨v, target, here, plan, unlocked, allowed⟩ := strides.moved.resolve_left changed
    rcases allowed with approaches | unlocks
    · have sets := setsOff_of_approaches speaks approaches
      refine ⟨target, here, sets.hasExit, unlocked, .inl ⟨sets, ?_⟩⟩
      rcases strides.locks target with e | ⟨-, said, code⟩
      · exact e.symm.trans unlocked
      · rw [code] at approaches
        exact approaches.elim
    · obtain ⟨waits, code⟩ := waiting_of_unlocks unlocks plan
      rcases List.eq_nil_or_concat lines with rfl | ⟨before, last, rfl⟩
      · obtain ⟨_, _, _, -, -, -, -, -, -, -, rfl⟩ := opens_iff.mp opens
        cases waits
      · have split : p = (s.turn (s.after p₀ before) last).2 := by
          show s.after p₀ (before.concat last) = _
          rw [List.concat_eq_append, after_append]
        rw [split] at waits
        obtain ⟨sets, locked, stays⟩ := asked_turn (after_sane sane₀ before) speaks waits
        have same : p.world.current = (s.after p₀ before).world.current := by
          rw [split]
          exact stays
        have plan' : p.world.plan = (s.after p₀ before).world.plan :=
          sane.world.plan.trans (after_sane sane₀ before).world.plan.symm
        exact ⟨target, here, World.hasExit_of_plan plan' same sets.hasExit, unlocked,
          .inr ⟨before, last, List.concat_eq_append .., sets, locked, same, code⟩⟩
  · have run : s.after p₀ (lines ++ [line]) = q := after_append s p₀ lines line
    rw [← run] at here locked ⊢
    exact locked_run sane₀ (lines ++ [line]) here locked

end Run

/-- The player goes down into a cellar whose code was asked for. -/
theorem walk_licensed_cellar : ∃ shelf archive s p₀,
    Opens s.setup shelf archive s p₀ ∧ s.messages.plain .moveEntryRefused ≠ .ok .null ∧
      ∃ target, (s.after p₀ ["move nord", "1234"]).world.current = .text target ∧
        (s.GoesIn (s.after p₀ ["move nord"]) "1234" target ∨
          s.SaysCode p₀ ["move nord"] "1234" target) := by
  let s : Session := Cellar.session (.text "closed")
  obtain ⟨b, holds, sound, changed⟩ := Cellar.exists_holds (.int 2) (.text "closed")
    (fun b => b.inconsistencies = .ok [] ∧
      (s.turn (s.after (Cellar.first b) ["move nord"]) "1234").2.world.current ≠
        (s.after (Cellar.first b) ["move nord"]).world.current) (by decide +kernel)
  have opens := Cellar.opens holds sound
  have speaks : s.messages.plain .moveEntryRefused ≠ .ok .null := by decide +kernel
  obtain ⟨target, here, -, -, licence⟩ :=
    (walk_licensed opens speaks ["move nord"] "1234").1 changed
  exact ⟨_, _, s, _, opens, speaks, target, here, licence⟩

/-- **Messages without a refusal refuse nobody**: the player comes into a vault whose entry has a
    condition that does not hold. -/
theorem walk_unlicensed_vault : ∃ shelf archive s p₀, Opens s.setup shelf archive s p₀ ∧
    (s.turn p₀ "move est").2.world.current ≠ p₀.world.current ∧
      ¬ ∃ target, s.GoesIn p₀ "move est" target ∨ s.SaysCode p₀ [] "move est" target := by
  let s : Session := Cellar.session .null
  obtain ⟨b, holds, sound, changed, east, vault, refused⟩ := Cellar.exists_holds (.int 2) .null
    (fun b =>
      let w := (Cellar.first b).world
      b.inconsistencies = .ok [] ∧
        (s.turn (Cellar.first b) "move est").2.world.current ≠ w.current ∧
        (s.intent? w "move est").bind Intent.direction = some .east ∧
        w.room.toOption.bind (fun r => r.neighbour? .east) = some "vault" ∧
        (w.darkened.rooms.get? "vault").any (fun r => r.entry.any
          (fun entry => w.darkened.holds entry.preconditions = .ok false)) = true)
    (by decide +kernel)
  refine ⟨_, _, s, _, Cellar.opens holds sound, changed, ?_⟩
  rintro ⟨target, ⟨⟨-, i, read, ⟨-, d, r, direction, -, hr, exit, -⟩, r', there, admits⟩, -⟩ |
    ⟨before, last, none, -⟩⟩
  · rw [read, Option.bind_some, direction] at east
    cases east
    rw [hr] at vault
    have vault : r.neighbour? .east = some "vault" := vault
    rw [exit] at vault
    cases vault
    rw [there, Option.any_some] at refused
    cases entry : r'.entry with
    | none =>
        rw [entry] at refused
        cases refused
    | some e =>
        rw [entry, Option.any_some, admits e entry] at refused
        cases refused
  · simp at none

end Session

end Adventure
