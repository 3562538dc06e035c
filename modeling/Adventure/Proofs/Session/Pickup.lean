import Adventure.Proofs.Line
import Adventure.Proofs.Session.Refusals
import Adventure.Proofs.Turn.Runs
import Adventure.Proofs.World.Sound

/-!
# Things can be taken, once

* `World.LetsTake`: an item can be taken, and what follows from that moves nothing;
* `World.Pocketed`: an item is carried, and everything else about the items is as it was;
* `carry_pockets`, `take_pockets`: **an item that can be taken is taken**;
* `Session.toldTaken`, `Session.toldAbsent`, `Session.CanTake`: what is said, and the lines it is
  said to;
* `turn_takes`, `turn_misses`: a line takes the item and says so, or does not find it;
* `take_takes`: **things can be taken, once**, in every play that is reached;
* `take_stumbles`: a flag that cannot be set, and a verb without letters.

Whether a line finds an item is asked of the room first: what was taken is looked for among the
things that are carried, and then said not to be here.
-/

namespace Adventure

open Outcome

/-! ## 1. Items that are taken -/

namespace World

variable {b w v : World} {id : String} {item : Item}

/-- **An item can be taken**: nothing stands in its way, and what follows moves nothing. -/
structure LetsTake (w : World) (item : Item) : Prop where
  collectible : item.collectible = true
  gate : ∀ gate ∈ item.take, w.holds gate.preconditions = .ok true ∧ gate.effect.shifts = []

instance (w : World) (item : Item) : Decidable (w.LetsTake item) :=
  decidable_of_iff (item.collectible = true ∧
      ∀ gate ∈ item.take, w.holds gate.preconditions = .ok true ∧ gate.effect.shifts = [])
    ⟨fun h => ⟨h.1, h.2⟩, fun h => ⟨h.collectible, h.gate⟩⟩

/-- **The item is carried**, everything else about the items is as it was, and the player is where
    the player was. -/
structure Pocketed (id : String) (w v : World) : Prop where
  items : v.items = w.items.update id fun item => { item with location := .inventory }
  current : v.current = w.current

section

variable (pocketed : Pocketed id w v)

include pocketed

/-- The item is carried. -/
theorem Pocketed.carried (there : w.items.get? id = some item) :
    v.carried.get? id = some { item with location := .inventory } := by
  unfold World.carried
  rw [Roster.get?_filter, pocketed.items, Roster.get?_update_self there]
  rfl

/-- What lies in the room lay there before, and is another item. -/
theorem Pocketed.mem_itemsHere (placed : w.IsPlaced) {e : String × Item}
    (mem : e ∈ v.itemsHere.entries) : e.1 ≠ id ∧ e ∈ w.itemsHere.entries := by
  obtain ⟨other, found⟩ := e
  obtain ⟨room, current, -⟩ := placed
  obtain ⟨known, lies⟩ := Roster.get?_filter_iff.mp ((Roster.mem_entries_iff _).mp mem)
  have lies : found.location.same w.current = true := pocketed.current ▸ lies
  rw [pocketed.items, Roster.get?_update] at known
  obtain ⟨was, before, rfl⟩ := Option.map_eq_some_iff.mp known
  have different : other ≠ id := by
    rintro rfl
    rw [if_pos rfl, current] at lies
    exact Bool.false_ne_true lies
  rw [if_neg different] at lies ⊢
  exact ⟨different, (Roster.mem_entries_iff _).mpr (Roster.get?_filter_iff.mpr ⟨before, lies⟩)⟩

end

end World

/-! ## 2. The rule -/

namespace Setting

variable {σ : Type} (s : Setting σ) {b : World} {p : Stage σ} {id : String} {item : Item}

/-- **An item goes to the player** with what follows from it, if that moves nothing. -/
theorem carry_pockets {effect : Content} (sane : World.Sane b p.world) (placed : p.world.IsPlaced)
    (there : p.world.items.get? id = some item) (grasps : b.Grasps effect)
    (truths : effect.setsTruths = true) (unmoved : effect.shifts = []) :
    ∃ v, (s.carry id item effect).runOn p =
        ((s.messages.filled .takeDone [("name", .text item.name)]).map .text,
          { p with world := v }) ∧ World.Pocketed id p.world v := by
  obtain ⟨notes, moves⟩ := World.moveItem_run there .inventory
  obtain ⟨r, v, applies, items, current, comes⟩ := World.apply_unmoved
    (w := { p.world.updateItem id (fun i => { i with location := .inventory }) with notes })
    sane.clean.1 placed grasps unmoved
  obtain rfl := comes.mpr truths
  refine ⟨v, ?_, items, current⟩
  unfold carry
  rw [Act.runOn_bind_ok (Stage.onWorld_run moves), Act.runOn_bind_ok (Stage.onWorld_run applies)]
  rfl

/-- **An item that can be taken is taken**, if the flags that it sets can be set. -/
theorem take_pockets {i : Intent} (sane : World.Sane b p.world) (placed : p.world.IsPlaced)
    (aimed : i.roomItem = some id) (there : p.world.items.get? id = some item)
    (lets : p.world.LetsTake item)
    (truths : ∀ gate ∈ item.take, gate.effect.setsTruths = true) : ∃ v, (s.take i).runOn p =
        ((s.messages.filled .takeDone [("name", .text item.name)]).map .text,
          { p with world := v }) ∧ World.Pocketed id p.world v := by
  unfold take
  rw [aimed]
  simp only
  rw [Act.runOn_bind_ok (Stage.ask_run (Roster.demand_text there)), lets.collectible,
    Bool.not_true, if_neg Bool.false_ne_true]
  cases gated : item.take with
  | none => exact s.carry_pockets sane placed there (.inl rfl) rfl rfl
  | some gate =>
      obtain ⟨holds, unmoved⟩ := lets.gate gate gated
      have grasps : b.Grasps gate.effect := by
        refine World.grasps_effect sane.sound ?_
        rw [← World.effects_of_plan sane.plan]
        exact World.mem_effects_of_take there gated
      rw [Act.runOn_bind_ok (Stage.ask_run holds), if_pos rfl]
      exact s.carry_pockets sane placed there grasps (truths gate gated) unmoved

end Setting

/-! ## 3. Lines -/

namespace Session

variable {shelf : Shelf} {b : World} {s : Session} {p : Play} {verb noun id : String} {item : Item}

/-- **What the player is told about an item that was taken.** -/
def toldTaken (s : Session) (item : Item) : Except Fault (List Content) :=
  (s.messages.filled .takeDone [("name", .text item.name)]).map
    fun text => [.text text].filter Content.isFilled

/-- What the player is told about an item that is not here. -/
def toldAbsent (s : Session) : Except Fault (List Content) :=
  (s.messages.plain .takeNotHere).map fun saying => [saying].filter Content.isFilled

/-- **A line with which something is taken**: a verb that takes, and a word for the thing. -/
structure CanTake (s : Session) (verb noun : String) : Prop where
  asks : Line.IsWord s.stopwords verb
  names : Line.IsWord s.stopwords noun
  takes : ∃ c, (commandIndex? s.catalogue verb).bind (s.catalogue[·]?) = some c ∧ c.verb = .take

/-- **How such a line is read**: an item of the room is meant, or else one that is carried. -/
theorem CanTake.read (can : s.CanTake verb noun) (w : World) : ∃ i,
    s.intent? w (verb ++ " " ++ noun) = some i ∧ i.verb? = some .take ∧
      i.roomItem = (Pool.ofItems w.itemsHere).find? noun ∧
      (i.roomItem = none → i.carriedItem = (Pool.ofItems w.carried).find? noun) := by
  obtain ⟨c, command, takes⟩ := can.takes
  have tokens : Line.tokens s.stopwords (" ".intercalate [verb, noun]) = [verb, noun] :=
    Line.tokens_intercalate <| List.forall_mem_cons.mpr
      ⟨can.asks, List.forall_mem_singleton.mpr can.names⟩
  have aims : c.verb ∉ [Verb.move, .talk, .observe, .shoot] := by
    rw [takes]
    decide
  refine ⟨_, Intent.ofLine?_alone tokens command aims _ _ _, congrArg some takes, rfl, ?_⟩
  intro missed
  simp only at missed ⊢
  rw [missed]
  rfl

/-- **The item is taken**, and the player is told so. -/
theorem turn_takes (sane : Play.Sane b p) (placed : p.world.IsPlaced)
    (free : p.router.waiting = none) (can : s.CanTake verb noun)
    (found : (Pool.ofItems p.world.itemsHere).find? noun = some id)
    (there : p.world.items.get? id = some item) (lets : p.world.LetsTake item)
    (truths : ∀ gate ∈ item.take, gate.effect.setsTruths = true) :
    let line := verb ++ " " ++ noun
    (s.turn p line).1 = s.toldTaken item ∧ World.Pocketed id p.world (s.turn p line).2.world ∧
      (s.turn p line).2.router = {} := by
  intro line
  obtain ⟨i, read, takes, aimed, -⟩ := can.read p.world
  have still : (p.heard line).world.LetsTake item := by
    refine ⟨lets.collectible, fun gate gated => ?_⟩
    obtain ⟨holds, rest⟩ := lets.gate gate gated
    exact ⟨(World.holds_notes p.world _ gate.preconditions).trans holds, rest⟩
  obtain ⟨v, run, pocketed⟩ := s.setting.take_pockets (sane_heard sane line).world
    placed (aimed.trans found) there still truths
  have here : v.current.same p.world.current = true := by
    rw [pocketed.current]
    exact placed.here
  obtain ⟨answer, spoken, after⟩ := turn_answers free read takes rfl run here
  rw [answer, after]
  refine ⟨?_, ⟨pocketed.items, pocketed.current⟩, rfl⟩
  show ((s.messages.filled _ _).map _).map _ = _
  unfold toldTaken
  cases s.messages.filled .takeDone [("name", .text item.name)] <;> rfl

/-- **The item is not found**, since it is carried, and nothing changes. -/
theorem turn_misses (free : p.router.waiting = none) (named : p.world.items.has "" = false)
    (placed : p.world.IsPlaced) (can : s.CanTake verb noun)
    (gone : ¬ p.world.itemsHere.Names noun) (carried : p.world.carried.Names noun) :
    let line := verb ++ " " ++ noun
    (s.turn p line).1 = s.toldAbsent ∧
      ∃ spoken, (s.turn p line).2 = { p.heard line with host := { p.host with spoken } } := by
  intro line
  obtain ⟨i, read, takes, aimed, other⟩ := can.read p.world
  have missed : i.roomItem = none := aimed.trans (Roster.find?_eq_none.mpr gone)
  have unnamed : p.world.carried.has "" = false := Roster.has_filter_of named
  have meant : (givenId? i.carriedItem).isSome = true := by
    rw [other missed, Roster.givenId?_find? unnamed, Option.isSome_iff_ne_none, ne_eq,
      Roster.find?_eq_none, not_not]
    exact carried
  have run := s.setting.missTake_run (i := i) (p.heard line)
  rw [meant, Bool.true_or, if_pos rfl, ← Setting.take_of_miss _ missed] at run
  exact turn_answers free read takes rfl run placed.here

/-- **Things can be taken, once.** In a play that is reached, a line takes the first item of the
    room that answers to its word, if that can be taken: the player is told so, the item is carried,
    and nothing else about the items changes. If no other item of the room answers to the word, the
    same line finds it no more, and changes nothing but the notes and what was said. -/
theorem take_takes (holds : shelf.Holds b) (named : b.items.has "" = false)
    (reached : Reached shelf s p) (free : p.router.waiting = none) (can : s.CanTake verb noun)
    (found : (Pool.ofItems p.world.itemsHere).find? noun = some id)
    (there : p.world.items.get? id = some item) (lets : p.world.LetsTake item)
    (truths : ∀ gate ∈ item.take, gate.effect.setsTruths = true) :
    let line := verb ++ " " ++ noun
    let q := (s.turn p line).2
    (s.turn p line).1 = s.toldTaken item ∧
      q.world.carried.get? id = some { item with location := .inventory } ∧
      World.Pocketed id p.world q.world ∧
      ((∀ e ∈ p.world.itemsHere.entries, e.2.answersTo noun = true → e.1 = id) →
        (s.turn q line).1 = s.toldAbsent ∧
          ∃ notes spoken, (s.turn q line).2 =
            { q with world := { q.world with notes }, host := { q.host with spoken } }) := by
  intro line q
  obtain ⟨sane, placed⟩ := reached_sane holds reached
  obtain ⟨told, pocketed, idle⟩ := turn_takes sane placed free can found there lets truths
  refine ⟨told, pocketed.carried there, pocketed, fun only => ?_⟩
  obtain ⟨-, placed'⟩ := reached_sane holds (.line reached line)
  have unnamed : q.world.items.has "" = false := by
    rw [pocketed.items, Roster.has_update, World.has_item_of_plan sane.world.plan]
    exact named
  have gone : ¬ q.world.itemsHere.Names noun := by
    rintro ⟨e, mem, answers⟩
    obtain ⟨other, before⟩ := pocketed.mem_itemsHere placed mem
    exact other (only e before answers)
  have carried : q.world.carried.Names noun := by
    obtain ⟨was, known, answers⟩ := Roster.get?_of_find? found
    obtain rfl := Option.some.inj (there.symm.trans (Roster.get?_filter_iff.mp known).1)
    exact ⟨_, (Roster.mem_entries_iff _).mpr (pocketed.carried there), answers⟩
  obtain ⟨refused, spoken, after⟩ := turn_misses (congrArg _ idle) unnamed placed' can gone carried
  refine ⟨refused, ("input=" ++ line) :: q.world.notes, spoken, after.trans ?_⟩
  rw [show q.router = {} from idle]
  rfl

end Session

namespace Attic

/-- **An attic** with a lamp in it. Who has not dug yet can take it, and sets a flag with that. -/
def content (value : Content) : Content :=
  .mapping
    [("start", .text "hall"), ("rooms", .mapping [("hall", Cellar.room "Hall" [])]),
     ("items", .mapping
       [("lamp", .mapping
          [("name", .text "old lamp"), ("aliases", .list [.text "lamp"]),
           ("location", .text "hall"), ("collectible", .bool true),
           ("take", .mapping
             [("preconditions", .mapping [("flags", .mapping [("ground_dug", .bool false)])]),
              ("effect", .mapping [("flags", .mapping [("ground_dug", value)])])])])])]

/-- The shelf of the attic, where the verb that takes has no letters. -/
def shelf : Shelf where
  sheet
    | .world => .written (content (.bool true))
    | .messages => .written (Messages.bare (.text "closed")).content
    | .commands => .written (.list [.mapping [("name", .text ""), ("type", .text "take")]])
    | .stopwords => .written .null

/-- A session with this shelf. -/
def session : Session := { Cellar.session (.text "closed") with catalogue := [⟨⟨"", []⟩, .take⟩] }

theorem offers : shelf.Offers session where
  messages := ⟨_, ⟨_, rfl, rfl⟩, rfl⟩
  commands := ⟨_, ⟨_, rfl, rfl⟩, rfl⟩
  stopwords := ⟨_, [], ⟨_, rfl, rfl⟩, rfl, rfl⟩

/-- A word finds the lamp, which can be taken. -/
structure Lies (w : World) (item : Item) : Prop where
  found : (Pool.ofItems w.itemsHere).find? "lamp" = some "lamp"
  there : w.items.get? "lamp" = some item
  lets : w.LetsTake item

instance (w : World) (item : Item) : Decidable (Lies w item) :=
  decidable_of_iff ((Pool.ofItems w.itemsHere).find? "lamp" = some "lamp" ∧
      w.items.get? "lamp" = some item ∧ w.LetsTake item)
    ⟨fun h => ⟨h.1, h.2.1, h.2.2⟩, fun h => ⟨h.found, h.there, h.lets⟩⟩

/-- How the lamp can be asked for. -/
theorem canTake : (Cellar.session (.text "closed")).CanTake "take" "lamp" where
  asks := ⟨by decide, by decide +kernel, by decide +kernel, nofun⟩
  names := ⟨by decide, by decide +kernel, by decide +kernel, nofun⟩
  takes := ⟨⟨⟨"take", []⟩, .take⟩, by decide +kernel, rfl⟩

end Attic

namespace Session

/-- The lamp is taken once; the word for the flag is one for a truth value. -/
theorem take_takes_attic : ∃ shelf b s p item, Shelf.Holds shelf b ∧ b.items.has "" = false ∧
    Reached shelf s p ∧ p.router.waiting = none ∧ s.CanTake "take" "lamp" ∧
      Attic.Lies p.world item ∧ (∀ gate ∈ item.take, gate.effect.setsTruths = true) ∧
      (∀ e ∈ p.world.itemsHere.entries, e.2.answersTo "lamp" = true → e.1 = "lamp") ∧
      (s.turn p "take lamp").1 = .ok [.text "take_doneold lamp"] ∧
      (s.turn (s.turn p "take lamp").2 "take lamp").1 = .ok [.text "take_not_here"] := by
  let s : Session := Cellar.session (.text "closed")
  obtain ⟨b, holds, sound, named, item, -, lies, truths, only, done, missed⟩ :=
    Cellar.exists_holdsOf (Attic.content (.text "yes")) (.text "closed")
      (fun b =>
        let w := (Cellar.first b).world
        b.inconsistencies = .ok [] ∧ b.items.has "" = false ∧
          ∃ item ∈ w.items.get? "lamp", Attic.Lies w item ∧
            (∀ gate ∈ item.take, gate.effect.setsTruths = true) ∧
            (∀ e ∈ w.itemsHere.entries, e.2.answersTo "lamp" = true → e.1 = "lamp") ∧
            s.toldTaken item = .ok [.text "take_doneold lamp"] ∧
            s.toldAbsent = .ok [.text "take_not_here"])
      (by decide +kernel)
  have reached := Reached.anew (Cellar.opensOf holds sound) rfl
  have takes := take_takes holds named reached rfl Attic.canTake lies.found lies.there lies.lets
    truths
  rw [show "take" ++ " " ++ "lamp" = "take lamp" from rfl] at takes
  exact ⟨_, b, s, _, item, holds, named, reached, rfl, Attic.canTake, lies, truths, only,
    takes.1.trans done, (takes.2.2.2 only).1.trans missed⟩

/-- **Two lamps that cannot be taken.** A word that is no truth value stands for the flag that the
    lamp sets; and a verb has no letters, so that no line has it as its first word. -/
theorem take_stumbles :
    (∃ shelf b s p item, Shelf.Holds shelf b ∧ b.items.has "" = false ∧ Reached shelf s p ∧
      p.router.waiting = none ∧ s.CanTake "take" "lamp" ∧ Attic.Lies p.world item ∧
        (s.turn p "take lamp").1 ≠ s.toldTaken item) ∧
    ∃ shelf b s p item, Shelf.Holds shelf b ∧ b.items.has "" = false ∧ Reached shelf s p ∧
      p.router.waiting = none ∧ (commandIndex? s.catalogue "").bind (s.catalogue[·]?) =
        some ⟨⟨"", []⟩, .take⟩ ∧ "" ∉ s.stopwords ∧ Line.IsWord s.stopwords "lamp" ∧
      Attic.Lies p.world item ∧ (s.turn p " lamp").1 ≠ s.toldTaken item := by
  constructor
  · let s : Session := Cellar.session (.text "closed")
    obtain ⟨b, holds, sound, named, item, -, lies, other⟩ :=
      Cellar.exists_holdsOf (Attic.content (.text "perhaps")) (.text "closed")
        (fun b => b.inconsistencies = .ok [] ∧ b.items.has "" = false ∧
          ∃ item ∈ (Cellar.first b).world.items.get? "lamp", Attic.Lies (Cellar.first b).world item ∧
            (s.turn (Cellar.first b) "take lamp").1 ≠ s.toldTaken item)
        (by decide +kernel)
    exact ⟨_, b, s, _, item, holds, named, .anew (Cellar.opensOf holds sound) rfl, rfl,
      Attic.canTake, lies, other⟩
  · obtain ⟨b, ⟨content, sheet, built⟩, sound, named, item, -, lies, other⟩ :=
      Cellar.exists_holdsOf (Attic.content (.bool true)) (.text "closed")
        (fun b => b.inconsistencies = .ok [] ∧ b.items.has "" = false ∧
          ∃ item ∈ (Cellar.first b).world.items.get? "lamp", Attic.Lies (Cellar.first b).world item ∧
            (Attic.session.turn (Cellar.first b) " lamp").1 ≠ Attic.session.toldTaken item)
        (by decide +kernel)
    have holds : Attic.shelf.Holds b := ⟨content, sheet, built⟩
    have opens := opens_new holds Attic.offers sound Cellar.vacant rfl
    exact ⟨_, b, _, _, item, holds, named, .anew opens rfl, rfl, rfl, nofun,
      Attic.canTake.names, lies, other⟩

end Session

end Adventure
