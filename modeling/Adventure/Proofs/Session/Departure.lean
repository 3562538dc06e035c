import Adventure.Proofs.Session.Walk
import Adventure.Proofs.Turn.Writes

/-!
# Setting off puts the torch out

* `World.holds_congr`: **what a condition looks at**: the place, where items are, and the flags that
  it names;
* `Intent.SetsOff`: the player goes through an exit, and nobody holds the player back;
* `World.Bars`: the conditions for entering a room do not hold;
* `World.Departs`: **what comes of setting off**, case by case, in the world in which the torch is
  out;
* `move_decided`: nothing changes before the player sets off, and all is decided in the dark then;
* `torch_wasted`: so the torch goes out at a door that stays shut, and a room for whoever has light
  lets nobody in.
-/

namespace Adventure

open Outcome

/-! ## 1. What a condition looks at -/

namespace World

variable {u v w : World} {target : String}

theorem itemConditionHolds_congr
    (items : ∀ name, (v.items.get? name).map Item.location = (w.items.get? name).map Item.location)
    (cond : Content) : v.itemConditionHolds cond = w.itemConditionHolds cond := by
  unfold itemConditionHolds
  cases cond.entries with
  | error e => rfl
  | ok es =>
      simp only [bind, Except.bind, Roster.find]
      cases ((es.lookup "item").getD (.text "")).asName with
      | error e => rfl
      | ok key =>
          cases key with
          | none => rfl
          | some name =>
              have same := items name
              simp only [Except.map, Option.bind_some]
              cases hv : v.items.get? name with
              | none =>
                  cases hw : w.items.get? name with
                  | none => rfl
                  | some j => simp [hv, hw] at same
              | some i =>
                  cases hw : w.items.get? name with
                  | none => simp [hv, hw] at same
                  | some j =>
                      simp only [hv, hw, Option.map_some, Option.some.injEq] at same
                      simp only [same]

/-- **What a condition looks at**: the place of the player, where items are, and what stands under
    the names among its flags. -/
theorem holds_congr {pre : Content} (current : v.current = w.current)
    (items : ∀ name, (v.items.get? name).map Item.location = (w.items.get? name).map Item.location)
    (flags : ∀ e ∈ pre.settings, v.flags.holding e.1 = w.flags.holding e.1) :
    v.holds pre = w.holds pre := by
  have conds (conds : List Content) :
      v.itemConditionsHold conds = w.itemConditionsHold conds := by
    induction conds with
    | nil => rfl
    | cons cond conds ih =>
        unfold itemConditionsHold
        rw [itemConditionHolds_congr items, ih]
  have table (es : List (String × Content))
      (same : ∀ e ∈ es, v.flags.holding e.1 = w.flags.holding e.1) :
      v.flagsHold es = w.flagsHold es := by
    induction es with
    | nil => rfl
    | cons e es ih =>
        unfold flagsHold flagHolds
        rw [same e (List.mem_cons_self ..), ih fun e mem => same e (List.mem_cons_of_mem _ mem)]
  have place (place : Content) : v.placeHolds place = w.placeHolds place := by
    unfold placeHolds
    rw [current]
  unfold holds
  split
  · rfl
  · cases pre with
    | mapping es =>
        simp only [Content.entries, bind, Except.bind, place, conds]
        cases told : ((es.lookup "flags").getD .null).filledEntries with
        | error e => rfl
        | ok fs =>
            have settings : (Content.mapping es).settings = fs := by
              simp only [Content.settings, Content.get?, told, Except.toOption, Option.getD_some]
            rw [settings] at flags
            simp only [table fs flags]
    | null | bool | int | float | text | inventory | list => rfl

/-- A condition that does not ask for the torch holds in the dark as it does in the light. -/
theorem holds_darkened (plain : w.flags.IsPlain) {pre : Content}
    (other : ∀ e ∈ pre.settings, ∃ f : Flag, f ≠ .torchLit ∧ e.1 = f.word) :
    w.darkened.holds pre = w.holds pre := by
  unfold darkened
  split
  · refine holds_congr rfl (fun name => ?_) fun e mem => ?_
    · show ((w.items.update _ _).get? name).map Item.location = _
      rw [Roster.get?_update, Option.map_map]
      refine congrArg (fun f => Option.map f (w.items.get? name)) (funext fun i => ?_)
      simp only [Function.comp_apply]
      split
      · rfl
      · rfl
    · obtain ⟨f, ne, word⟩ := other e mem
      show (w.flags.set .torchLit false).holding e.1 = _
      rw [word, (plain.set _ _).holding f, plain.holding f, Flags.get_set, if_neg ne]
  · rfl

theorem torchLit_darkened (w : World) : w.darkened.flags.get .torchLit = false := by
  unfold darkened
  split
  · show (w.flags.set .torchLit false).get .torchLit = false
    rw [Flags.get_set, if_pos rfl]
  · next out => simpa using out

theorem darkened_of_out (out : w.flags.get .torchLit = false) : w.darkened = w := by
  unfold darkened
  rw [if_neg (by rw [out]; exact Bool.false_ne_true)]

/-! ## 2. What comes of setting off -/

/-- The conditions for entering a room do not hold. -/
def Bars (w : World) (target : String) : Prop :=
  ∃ r entry, w.rooms.get? target = some r ∧ r.entry = some entry ∧
    w.holds entry.preconditions = .ok false

/-- **What comes of setting off** towards a room, in a world `u` in which the torch is out; and with
    which result. -/
inductive Departs (target : String) (u : World) : Except Fault Content → World → Prop
  /-- The room lets the player in, and is open. -/
  | enters (admits : u.Admits target) (unlocked : u.lockOf? target = some false)
      (r : Except Fault Content) (notes : List String) :
      Departs target u r { u with current := .text target, notes }
  /-- The room lets the player in, but is locked: the player is asked for the code. -/
  | waits (admits : u.Admits target) (locked : u.lockOf? target = some true)
      (r : Except Fault Content) (notes : List String) : Departs target u r { u with notes }
  /-- The room does not let the player in, and a refusal has its effect. -/
  | refused (gate : Gate) (refuses : u.Refuses target gate) (r : Except Fault Content)
      (notes : List String) : Departs target u r ({ u with notes }.brought gate.effect)
  /-- The room does not let the player in, and no refusal has its say. -/
  | barred (bars : u.Bars target) (r : Except Fault Content) (notes : List String) :
      Departs target u r { u with notes }
  /-- It comes to a fault before it is decided whether the room lets the player in. -/
  | halted (e : Fault) (notes : List String) : Departs target u (.error e) { u with notes }

theorem admits_notes {notes : List String} (h : { w with notes }.Admits target) :
    w.Admits target := by
  unfold Admits at h ⊢
  simpa only [holds_notes] using h

theorem bars_notes {notes : List String} (h : { w with notes }.Bars target) : w.Bars target := by
  unfold Bars at h ⊢
  simpa only [holds_notes] using h

end World

/-- **The player sets off** towards a room: through an exit that leads there, and not held back by
    the antagonist. -/
def Intent.SetsOff (i : Intent) (w : World) (target : String) : Prop :=
  i.HeadsFor w target ∧ w.isCornered = .ok false

namespace Setting

variable {σ : Type} {s : Setting σ} {i : Intent} {p : Stage σ} {target : String}

/-! ## 3. The gate of a room -/

/-- A refusal that says nothing is one without a text of its own, where the messages have none. -/
theorem refuseBy_null {gate : Gate} {q : Stage σ}
    (run : (s.refuseBy gate).runOn p = (.ok .null, q)) :
    s.messages.plain .moveEntryRefused = .ok .null := by
  unfold refuseBy at run
  obtain ⟨_, t, -, spoken⟩ := Act.runOn_bind_eq_ok.mp run
  simp only at spoken
  split at spoken
  · exact congrArg Prod.fst spoken
  · cases congrArg Prod.fst spoken

theorem firstRefusal_null {gates : List Gate} {q : Stage σ}
    (run : (s.firstRefusal gates).runOn p = (.ok .null, q)) :
    s.messages.plain .moveEntryRefused = .ok .null := by
  induction gates with
  | nil => exact congrArg Prod.fst run
  | cons gate gates ih =>
      unfold firstRefusal at run
      obtain ⟨holds, t, asked, next⟩ := Act.runOn_bind_eq_ok.mp run
      obtain rfl : p = t := congrArg Prod.snd asked
      cases holds with
      | true => exact refuseBy_null next
      | false => exact ih next

/-- **How the gate of a room is decided**: by its conditions, in the world as it is then. -/
theorem entryRefusal_cases (speaks : s.messages.plain .moveEntryRefused ≠ .ok .null)
    (target : String) (p : Stage σ) :
    (∃ e, (s.entryRefusal target).runOn p = (.error e, p)) ∨
      (p.world.Admits target ∧ (s.entryRefusal target).runOn p = (.ok .null, p)) ∨
      (p.world.Bars target ∧ ∃ r q, (s.entryRefusal target).runOn p = (r, q) ∧ r ≠ .ok .null ∧
        (q = p ∨ ∃ gate, p.world.Refuses target gate ∧
          q = { p with world := p.world.brought gate.effect })) := by
  have state := s.entryRefusal_run target p
  have demanded : (Stage.ask fun w => w.rooms.demand (.text target)).runOn p =
      (p.world.rooms.demand (.text target), p) := rfl
  revert state
  unfold entryRefusal
  cases found : p.world.rooms.demand (.text target) with
  | error e =>
      rw [Act.runOn_bind_error (demanded.trans (by rw [found]))]
      exact fun _ => .inl ⟨e, rfl⟩
  | ok room =>
      obtain ⟨_, named, there⟩ := Roster.demand_eq_ok found
      cases named
      rw [Act.runOn_bind_ok (demanded.trans (by rw [found]))]
      cases gated : room.entry with
      | none => exact fun _ => .inr (.inl ⟨⟨room, there, fun entry e => by cases gated ▸ e⟩, rfl⟩)
      | some entry =>
          simp only
          have asked : (Stage.ask fun w => w.holds entry.preconditions).runOn p =
              (p.world.holds entry.preconditions, p) := rfl
          cases told : p.world.holds entry.preconditions with
          | error e =>
              rw [Act.runOn_bind_error (asked.trans (by rw [told]))]
              exact fun _ => .inl ⟨e, rfl⟩
          | ok holds =>
              rw [Act.runOn_bind_ok (asked.trans (by rw [told]))]
              cases holds with
              | true =>
                  refine fun _ => .inr (.inl ⟨⟨room, there, fun entry' e => ?_⟩, rfl⟩)
                  rw [gated] at e
                  cases e
                  exact told
              | false =>
                  rw [if_neg Bool.false_ne_true]
                  refine fun state => .inr (.inr ⟨⟨room, entry, there, gated, told⟩, _, _, rfl,
                    fun silent => speaks ?_, state⟩)
                  exact firstRefusal_null (Prod.ext silent rfl)

/-! ## 4. Setting off -/

/-- The player steps into an open room, or waits at the door of a locked one. -/
theorem step_departs {u : World} {notes : List String} (here : p.world = { u with notes })
    (admits : u.Admits target) (r : Except Fault Content) :
    u.Departs target r ((s.step target).runOn p).2.world := by
  obtain ⟨room, there, -⟩ := id admits
  have demanded : (Stage.ask fun w => w.rooms.demand (.text target)).runOn p = (.ok room, p) := by
    show (p.world.rooms.demand (.text target), p) = _
    rw [here, Roster.demand_text there]
  have lock : u.lockOf? target = some room.locked := by
    unfold World.lockOf?
    rw [there]
    rfl
  unfold step
  rw [Act.runOn_bind_ok demanded]
  cases locked : room.locked with
  | true =>
      rw [if_pos rfl]
      have stays : ((Stage.redirect (.doorCode target) >>= fun _ => s.say .doorLocked).runOn p).2.world
          = p.world := rfl
      rw [stays, here]
      exact .waits admits (lock.trans (by rw [locked])) r notes
  | false =>
      rw [if_neg Bool.false_ne_true]
      have moved : ((Stage.onWorld (World.moveTo (.text target)) >>= fun _ =>
          (pure (.text "") : Act (Stage σ) Content)).runOn p).2.world =
            { u with
              current := .text target
              notes := ("location " ++ (Content.text target).shown) :: notes } := by
        show (((World.moveTo (.text target)).runOn p.world).2) = _
        rw [here]
        rfl
      rw [moved]
      exact .enters admits (lock.trans (by rw [locked])) r _

/-- **What comes of setting off** is decided in the world in which the torch is out. -/
theorem setOff_departs (plain : p.world.flags.IsPlain)
    (speaks : s.messages.plain .moveEntryRefused ≠ .ok .null) (target : String) :
    p.world.darkened.Departs target ((s.setOff target).runOn p).1
      ((s.setOff target).runOn p).2.world := by
  obtain ⟨r, notes, darkened⟩ := s.darken_run plain
  obtain ⟨q, hq⟩ : ∃ q : Stage σ, q = { p with world := { p.world.darkened with notes } } :=
    ⟨_, rfl⟩
  have darkened : s.darken.runOn p = (r, q) := hq ▸ darkened
  have here : q.world = { p.world.darkened with notes } := by rw [hq]
  unfold setOff
  cases r with
  | error e =>
      rw [Act.runOn_bind_error darkened]
      exact here ▸ .halted e notes
  | ok before =>
      rw [Act.runOn_bind_ok darkened]
      rcases entryRefusal_cases speaks target q with ⟨e, run⟩ | ⟨admits, run⟩ |
        ⟨bars, r, t, run, spoken, way⟩
      · rw [Act.runOn_bind_error run]
        exact here ▸ .halted e notes
      · have admits : p.world.darkened.Admits target := World.admits_notes (here ▸ admits)
        rw [Act.runOn_bind_ok run]
        simp only
        rw [Act.runOn_bind_snd fun _ _ => rfl]
        exact step_departs here admits _
      · have shut : p.world.darkened.Bars target := World.bars_notes (here ▸ bars)
        have stays (r : Except Fault Content) : p.world.darkened.Departs target r t.world := by
          rcases way with rfl | ⟨gate, refuses, rfl⟩
          · rw [here]
            exact .barred shut r notes
          · rw [here] at refuses ⊢
            exact .refused gate (World.refuses_notes refuses) r notes
        cases r with
        | error e =>
            rw [Act.runOn_bind_error run]
            exact stays _
        | ok refusal =>
            rw [Act.runOn_bind_ok run]
            simp only
            split
            · exact absurd rfl spoken
            · exact stays _

/-! ## 5. Moves -/

/-- An intent that sets off does so. -/
theorem move_of_setsOff (sets : i.SetsOff p.world target) :
    (s.move i).runOn p = (s.setOff target).runOn p := by
  obtain ⟨⟨-, d, r, direction, valid, hr, exit, inside⟩, free⟩ := sets
  have room : (Stage.ask World.room).runOn p = (.ok r, p) := by
    show (p.world.room, p) = _
    rw [hr]
  have cornered : (Stage.ask World.isCornered).runOn p = (.ok false, p) := by
    show (p.world.isCornered, p) = _
    rw [free]
  unfold move
  rw [direction]
  cases d with
  | invalid => exact absurd rfl valid
  | north | south | east | west =>
      simp only
      rw [Act.runOn_bind_ok room]
      simp only [exit, if_neg inside]
      rw [Act.runOn_bind_ok cornered]
      rfl

/-- **Before the player sets off nothing changes.** -/
theorem move_stays (verb : i.verb? = some .move) (stays : ∀ target, ¬ i.SetsOff p.world target) :
    ((s.move i).runOn p).2 = p := by
  let C (q : Stage σ) : Prop := q = p
  show C _
  have same : C p := rfl
  unfold move
  split
  · exact same
  · exact same
  · next d valid direction =>
      refine Stage.ask_elim same fun room found => ?_
      split
      · exact same
      · next target exit =>
          split
          · exact same
          · next inside =>
              refine Stage.ask_elim same fun cornered told => ?_
              split
              · exact same
              · next free =>
                  have free : cornered = false := by simpa using free
                  subst free
                  exact absurd ⟨⟨verb, d, room, direction, valid, found, exit, inside⟩, told⟩
                    (stays target)

/-- **How a move is decided.** Nothing changes as long as the player does not set off. Then the torch
    goes out first, and whether the room lets the player in is asked in the world without its light:
    that is the world as it was if the torch was out, and for conditions that do not ask for the
    torch it makes no difference. -/
theorem move_decided (plain : p.world.flags.IsPlain)
    (speaks : s.messages.plain .moveEntryRefused ≠ .ok .null) (verb : i.verb? = some .move) :
    let u := p.world.darkened
    let after := (s.move i).runOn p
    ((∀ target, ¬ i.SetsOff p.world target) → after.2 = p) ∧
    (∀ target, i.SetsOff p.world target → u.Departs target after.1 after.2.world) ∧
    u.flags.get .torchLit = false ∧ (p.world.flags.get .torchLit = false → u = p.world) ∧
    ∀ pre : Content, (∀ e ∈ pre.settings, ∃ f : Flag, f ≠ .torchLit ∧ e.1 = f.word) →
      u.holds pre = p.world.holds pre := by
  intro u after
  refine ⟨move_stays verb, fun target sets => ?_, World.torchLit_darkened _,
    World.darkened_of_out, fun pre => World.holds_darkened plain⟩
  have run : after = (s.setOff target).runOn p := move_of_setsOff sets
  rw [run]
  exact setOff_departs plain speaks target

end Setting

/-! ## 6. A mine -/

namespace Mine

/-- **A mine**, in which the player has a lamp that is lit: to the north is a store, which is locked,
    and to the east a shaft for whoever has light. -/
def content : Content :=
  .mapping
    [("start", .text "hall"),
     ("rooms", .mapping
       [("hall", Cellar.room "Hall"
          [("exits", .mapping [("nord", .text "store"), ("est", .text "shaft")])]),
        ("store", Cellar.room "Store" [("locked", .bool true), ("code", .text "1234")]),
        ("shaft", Cellar.room "Shaft"
          [("entry", .mapping
             [("preconditions", .mapping [("flags", .mapping [("torch_lit", .bool true)])])])])]),
     ("items", .mapping
       [("lamp", .mapping
          [("name", .text "lamp"), ("location", .text Content.inventoryWord),
           ("activation", .mapping [("active", .bool true)])])]),
     ("flags", .mapping [("torch_lit", .bool true)]),
     ("scenario", .mapping [("torch", .text "lamp")])]

end Mine

namespace Session

/-- The player of the mine sets off towards the store, and the lamp is out. -/
theorem move_decided_mine : ∃ (p : Play) (i : Intent), p.world.flags.get .torchLit = true ∧
    i.SetsOff p.world "store" ∧ p.world.darkened.flags.get .torchLit = false ∧
      let after := ((Cellar.session (.text "closed")).setting.move i).runOn p
      p.world.darkened.Departs "store" after.1 after.2.world := by
  let s : Session := Cellar.session (.text "closed")
  obtain ⟨b, -, lit, plain, i, -, verb, north, ⟨r, there, exit⟩, free⟩ :=
    Cellar.exists_holdsOf Mine.content (.text "closed")
      (fun b =>
        let w := (Cellar.first b).world
        w.flags.get .torchLit = true ∧ (w.flags.instead = none ∧ w.flags.drawers = []) ∧
          ∃ i ∈ s.intent? w "move nord", i.verb? = some .move ∧ i.direction = some .north ∧
            (∃ r ∈ w.room.toOption, r.neighbour? .north = some "store") ∧
            w.isCornered = .ok false) (by decide +kernel)
  have speaks : s.messages.plain .moveEntryRefused ≠ .ok .null := by decide +kernel
  have room : (Cellar.first b).world.room = .ok r := by
    cases hr : (Cellar.first b).world.room with
    | error e =>
        rw [hr] at there
        cases there
    | ok r' =>
        rw [hr] at there
        cases there
        rfl
  have sets : i.SetsOff (Cellar.first b).world "store" :=
    ⟨⟨verb, .north, r, north, by decide, room, exit, by decide⟩, free⟩
  have decided := Setting.move_decided (s := s.setting) (p := Cellar.first b) plain speaks verb
  exact ⟨_, i, lit, sets, decided.2.2.1, decided.2.1 "store" sets⟩

/-- **The torch goes out at a door that stays shut**, and a room whose entry asks for its light lets
    nobody in, though its conditions hold when the player asks to go there. -/
theorem torch_wasted : ∃ shelf b s p, Shelf.Holds shelf b ∧ b.inconsistencies = .ok [] ∧
    Reached shelf s p ∧ p.world.flags.get .torchLit = true ∧
    (∃ i ∈ p.world.items.get? "lamp", i.active = some true) ∧ p.world.Admits "shaft" ∧
    (∀ line ∈ ["move nord", "move est"],
      let q := (s.turn p line).2
      q.world.current = p.world.current ∧ q.world.flags.get .torchLit = false ∧
        ∃ i ∈ q.world.items.get? "lamp", i.active = some false) := by
  let s : Session := Cellar.session (.text "closed")
  obtain ⟨b, holds, sound, lit, active, ⟨r, there, entry, gated, admits⟩, wasted⟩ :=
    Cellar.exists_holdsOf Mine.content (.text "closed")
      (fun b =>
        let p := Cellar.first b
        b.inconsistencies = .ok [] ∧ p.world.flags.get .torchLit = true ∧
          (∃ i ∈ p.world.items.get? "lamp", i.active = some true) ∧
          (∃ r ∈ p.world.rooms.get? "shaft", ∃ entry ∈ r.entry,
            p.world.holds entry.preconditions = .ok true) ∧
          ∀ line ∈ ["move nord", "move est"],
            let q := (s.turn p line).2
            q.world.current = p.world.current ∧ q.world.flags.get .torchLit = false ∧
              ∃ i ∈ q.world.items.get? "lamp", i.active = some false) (by decide +kernel)
  refine ⟨_, b, s, _, holds, sound, .anew (Cellar.opensOf holds sound) rfl, lit, active, ?_, wasted⟩
  refine ⟨r, there, fun other e => ?_⟩
  cases gated.symm.trans e
  exact admits

end Session

end Adventure
