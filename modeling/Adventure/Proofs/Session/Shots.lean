import Adventure.Proofs.Session.Hunt
import Adventure.Proofs.Session.Writes

/-!
# The shots that the antagonist takes

* `World.Faces`: the player is where the antagonist is, which is awake and has the given health;
* `World.leaving`, `World.slain`: the worlds in which it has some health left, and in which it is
  dead;
* `Setting.volley`: what shots answer, one after the other, and the state that they leave behind;
* `shots_hit`, `shots_fell`, `shots_dead`: shots that it survives, shots of which one kills it, and
  shots at what is dead;
* `shots_counted`: **as many shots as it has healths kill it**, and those after them change nothing;
* `Session.shots_silence`: in a session the last of them silences it, and no other does;
* `Session.last_shot_lost`: the last shot comes to a fault where the room of the antagonist is no
  room, or its flags are out of reach.

Nothing is known of the host but that it writes nothing: that it is asked once to end the warnings
is said by one run of what it does then, from which the state after all shots is made.
-/

namespace Adventure

open Outcome

/-! ## 1. Worlds -/

namespace World

/-- **The player faces the antagonist**, which is awake, and has the health `n`. -/
structure Faces (w : World) (a : Antagonist) (n : Int) : Prop where
  antagonist : w.scenario.antagonist = some a
  here : w.current = .text a.room
  awake : w.flags.get .antagonistActive = true
  health : w.healthOf a.character = some (.number n)

/-- The world in which the antagonist has some health left. -/
def leaving (a : Antagonist) (health : Int) (w : World) : World :=
  w.updateCharacter a.character (fun c => { c with health := .number health })

/-- **The world in which the antagonist is dead**, and its room is seen anew, whatever it waits
    for. -/
def slain (a : Antagonist) (w : World) : World :=
  { w.leaving a 0 with flags := w.flags.set .antagonistDefeated true }.updateRoom a.room
    (fun r => { r with updated := true })

variable {w : World} {a : Antagonist} {n : Int}

theorem leaving_same (faces : w.Faces a n) : w.leaving a n = w := by
  have same : w.characters.update a.character (fun c => { c with health := .number n }) =
      w.characters.update a.character id := by
    refine Roster.update_congr fun ch there => ?_
    have health := faces.health
    unfold healthOf at health
    rw [there] at health
    rw [← Option.some.inj health]
    rfl
  unfold leaving updateCharacter
  rw [same, Roster.update_id]

theorem leaving_leaving (m : Int) (w : World) : (w.leaving a n).leaving a m = w.leaving a m := by
  unfold leaving updateCharacter
  rw [Roster.update_update]

theorem slain_leaving (w : World) : (w.leaving a n).slain a = w.slain a := by
  unfold slain
  rw [leaving_leaving]
  rfl

/-- The antagonist is still faced, with the health that is left. -/
theorem Faces.left (faces : w.Faces a n) (m : Int) : (w.leaving a m).Faces a m where
  antagonist := faces.antagonist
  here := faces.here
  awake := faces.awake
  health := by
    obtain ⟨ch, there, -⟩ := Option.map_eq_some_iff.mp faces.health
    unfold healthOf leaving updateCharacter
    rw [Roster.get?_update_self there]
    rfl

theorem Faces.alike {v : World} (faces : w.Faces a n) (alike : w.Alike v) : v.Faces a n := by
  obtain ⟨notes, rfl⟩ := alike
  exact ⟨faces.antagonist, faces.here, faces.awake, faces.health⟩

theorem Faces.slain (faces : w.Faces a n) : (w.slain a).Faces a 0 :=
  { faces.left 0 with
    awake := by
      show (w.flags.set .antagonistDefeated true).get .antagonistActive = true
      rw [Flags.get_set, if_neg nofun]
      exact faces.awake }

theorem Faces.exposed (plain : w.flags.IsPlain) (faces : w.Faces a n) :
    w.isExposed = .ok true := by
  have lair : w.inLair = true := by
    unfold inLair
    rw [faces.antagonist, faces.here]
    exact (Content.same_text _ _).mpr rfl
  unfold isExposed
  rw [if_pos lair, Flags.isSet_eq plain.1, faces.awake]

/-- A shot at the antagonist is one that it has to count, as long as it has some health. -/
theorem Faces.hits {i : Intent} (plain : w.flags.IsPlain) (faces : w.Faces a n) (alive : 0 < n)
    (aimed : i.character = some a.character) : ∃ ch, Setting.Hits i w a ch n := by
  obtain ⟨ch, there, health⟩ := Option.map_eq_some_iff.mp faces.health
  exact ⟨ch, faces.antagonist, aimed, there, faces.exposed plain, health, alive⟩

/-- The room in which the antagonist died is seen anew. -/
theorem refreshed_slain (faces : w.Faces a n) :
    ((w.struck a 0).vanquished.refreshed true).Alike (w.slain a) := by
  have anew : (w.struck a 0).vanquished.refreshed true =
      (w.struck a 0).vanquished.updateRoom a.room (fun r => { r with updated := true }) := by
    have here : (w.struck a 0).vanquished.current = .text a.room := faces.here
    simp only [refreshed, here, updateRoom, true_or, if_true]
  rw [anew]
  exact ⟨w.notes, rfl⟩

end World

namespace Setting

variable {σ : Type}

/-! ## 2. Shots -/

/-- **What shots answer**, one after the other, and the state that they leave behind. -/
def volley (s : Setting σ) : List Intent → Stage σ → List (Except Fault Content) × Stage σ
  | [], p => ([], p)
  | i :: is, p =>
    let shot := (s.shoot i).runOn p
    let rest := s.volley is shot.2
    (shot.1 :: rest.1, rest.2)

variable {s : Setting σ} {p : Stage σ} {a : Antagonist} {is : List Intent}

theorem volley_cons {i : Intent} {q : Stage σ} {r : Except Fault Content}
    (shot : (s.shoot i).runOn p = (r, q)) (is : List Intent) :
    s.volley (i :: is) p = (r :: (s.volley is q).1, (s.volley is q).2) := by
  simp only [volley, shot]

/-- What is said about the first shots at an antagonist with the health `n`. -/
def hitTexts (a : Antagonist) (n : Int) (count : Nat) : List (Except Fault Content) :=
  (List.range count).map fun (j : Nat) => .ok (.text (hitText a (n - j)))

theorem hitTexts_succ (n : Int) (count : Nat) :
    hitTexts a n (count + 1) = .ok (.text (hitText a n)) :: hitTexts a (n - 1) count := by
  unfold hitTexts
  rw [List.range_succ_eq_map, List.map_cons, List.map_map]
  have first : n - ((0 : Nat) : Int) = n := by omega
  rw [first]
  refine congrArg _ (List.map_congr_left fun j _ => ?_)
  have next : n - ((j + 1 : Nat) : Int) = n - 1 - j := by omega
  simp only [Function.comp_apply, Nat.succ_eq_add_one, next]

section

variable (aimed : ∀ i ∈ is, i.character = some a.character)

include aimed

/-- **Shots at what is dead** change nothing. -/
theorem shots_dead {n : Int} (plain : p.world.flags.IsPlain) (faces : p.world.Faces a n)
    (dead : n ≤ 0) :
    s.volley is p = (List.replicate is.length (.ok (.text a.alreadyDead)), p) := by
  induction is with
  | nil => rfl
  | cons i is ih =>
      obtain ⟨ch, there, health⟩ := Option.map_eq_some_iff.mp faces.health
      have shot : (s.shoot i).runOn p = (.ok (.text a.alreadyDead), p) := by
        rw [shoot_exposed s i faces.antagonist (aimed i (List.mem_cons_self ..)) there
          (faces.exposed plain), health]
        simp only [hit]
        rw [if_pos dead]
        rfl
      rw [volley_cons shot, ih fun i mem => aimed i (List.mem_cons_of_mem _ mem)]
      rfl

omit aimed in
/-- **One shot** at an antagonist that survives it. -/
theorem shoot_survived (modest : s.hooks.IsModest) {i : Intent} {n : Int}
    (plain : p.world.flags.IsPlain) (faces : p.world.Faces a n) (more : 1 < n)
    (aim : i.character = some a.character) : (s.shoot i).runOn p =
      (.ok (.text (hitText a n)), { p with world := p.world.struck a (n - 1) }) := by
  obtain ⟨ch, hits⟩ := faces.hits plain (by omega) aim
  rcases s.shoot_hits i plain modest.stops hits with ⟨-, run⟩ | ⟨rfl, -⟩
  · exact run
  · omega

/-- **Shots that the antagonist survives**: each takes one health, and nothing else changes. -/
theorem shots_hit (modest : s.hooks.IsModest) {n : Int} (plain : p.world.flags.IsPlain)
    (faces : p.world.Faces a n) (few : is.length < n) : ∃ w,
      (p.world.leaving a (n - is.length)).Alike w ∧
        s.volley is p = (hitTexts a n is.length, { p with world := w }) := by
  induction is generalizing p n with
  | nil =>
      refine ⟨p.world, ?_, rfl⟩
      have all : n - (([] : List Intent).length : Int) = n := by simp
      rw [all, World.leaving_same faces]
      exact .refl _
  | cons i is ih =>
      rw [List.length_cons] at few
      have shot := shoot_survived modest plain faces (by omega) (aimed i (List.mem_cons_self ..))
      have left : (p.world.struck a (n - 1)).Faces a (n - 1) :=
        (faces.left (n - 1)).alike (World.alike_noted ..)
      obtain ⟨w, alike, run⟩ := ih (fun i mem => aimed i (List.mem_cons_of_mem _ mem))
        (p := { p with world := p.world.struck a (n - 1) }) (n := n - 1) plain left (by omega)
      refine ⟨w, ?_, ?_⟩
      · have count : n - ((i :: is).length : Int) = n - 1 - is.length := by
          rw [List.length_cons]
          omega
        rw [count, ← World.leaving_leaving (n := n - 1)]
        obtain ⟨notes, e⟩ := alike
        exact ⟨notes, e⟩
      · rw [volley_cons shot, run, List.length_cons, hitTexts_succ]

omit aimed in
/-- **The shot that takes the last health of the antagonist.** -/
theorem shoot_fells (modest : s.hooks.IsModest) {i : Intent} (plain : p.world.flags.IsPlain)
    (faces : p.world.Faces a 1) (placed : p.world.rooms.has a.room = true)
    (aim : i.character = some a.character) : ∃ u q v,
      s.hooks.stopTicker.runOn { p with world := u } = (.ok (), q) ∧ (p.world.slain a).Alike v ∧
        (s.shoot i).runOn p = (.ok (.text (epitaph a)), { q with world := v }) := by
  obtain ⟨ch, hits⟩ := faces.hits plain (by omega) aim
  rcases s.shoot_hits i plain modest.stops hits with ⟨more, -⟩ | ⟨-, q, r, notes, stopped, run, told⟩
  · omega
  · have silent := modest.stopTicker { p with world := (p.world.struck a 0).vanquished }
    rw [stopped] at silent
    obtain ⟨noted, e⟩ := silent
    have still : q.world.IsPlaced := by
      rw [e]
      exact ⟨a.room, faces.here, placed⟩
    cases told still
    refine ⟨_, q, _, stopped, ?_, run⟩
    refine (World.refreshed_slain faces).symm.trans ⟨notes, ?_⟩
    rw [e]
    rfl

/-- **The shot that takes the last health of the antagonist**, and all that come after it. The host is
    asked once to end the warnings, and the later shots change nothing. -/
theorem shots_fell (modest : s.hooks.IsModest) {n : Nat} (plain : p.world.flags.IsPlain)
    (faces : p.world.Faces a n) (placed : p.world.rooms.has a.room = true) (alive : 1 ≤ n)
    (enough : n ≤ is.length) : ∃ u q v,
      s.hooks.stopTicker.runOn { p with world := u } = (.ok (), q) ∧ (p.world.slain a).Alike v ∧
        s.volley is p =
          (hitTexts a n (n - 1) ++ .ok (.text (epitaph a)) ::
            List.replicate (is.length - n) (.ok (.text a.alreadyDead)), { q with world := v }) ∧
        (s.volley (is.take n) p).2 = { q with world := v } := by
  induction is generalizing p n with
  | nil => exact absurd enough (by simp; omega)
  | cons i is ih =>
      rw [List.length_cons] at enough
      have aim := aimed i (List.mem_cons_self ..)
      have rest := fun i mem => aimed i (List.mem_cons_of_mem _ mem)
      -- the shot takes the last health, or the antagonist survives it and has one health less
      by_cases last : n = 1
      · subst last
        obtain ⟨u, q, v, stopped, slain, shot⟩ := shoot_fells modest plain faces placed aim
        have dead : v.Faces a 0 := faces.slain.alike slain
        have plain' : v.flags.IsPlain := by
          obtain ⟨notes, rfl⟩ := slain
          exact plain.set .antagonistDefeated true
        refine ⟨u, q, v, stopped, slain, ?_, ?_⟩
        · rw [volley_cons shot, shots_dead rest (p := { q with world := v }) plain' dead
            (Int.le_refl 0),
            List.length_cons]
          rfl
        · rw [List.take_succ_cons, volley_cons shot]
          rfl
      · obtain ⟨n, rfl⟩ : ∃ m, n = m + 1 := ⟨n - 1, by omega⟩
        have shot := shoot_survived modest plain faces (by omega) aim
        have count : ((n + 1 : Nat) : Int) - 1 = n := by omega
        rw [count] at shot
        have left : (p.world.struck a n).Faces a n :=
          (faces.left n).alike (World.alike_noted ..)
        obtain ⟨u, q, v, stopped, slain, run, taken⟩ := ih rest
          (p := { p with world := p.world.struck a n }) (n := n) plain left placed (by omega)
          (by omega)
        refine ⟨u, q, v, stopped, ?_, ?_, ?_⟩
        · rw [← World.slain_leaving (n := n)]
          obtain ⟨notes, e⟩ := slain
          exact ⟨notes, e⟩
        · obtain ⟨m, rfl⟩ : ∃ m, n = m + 1 := ⟨n - 1, by omega⟩
          rw [volley_cons shot, run, Nat.add_sub_cancel, Nat.add_sub_cancel, hitTexts_succ, count,
            List.length_cons, Nat.add_sub_add_right]
          rfl
        · rw [List.take_succ_cons, volley_cons shot, taken]

end

end Setting

/-! ## 3. A kennel -/

namespace Kennel

/-- What is awake in the room `place`. -/
def antagonist (place : String) (health : Int) : Content :=
  .mapping
    [("character", .text "creature"), ("room", .text place), ("trigger_item", .text "bones"),
     ("health", .int health), ("hits", .mapping [("1", .text "It falls.")]),
     ("defeat", .text "It is dead."), ("already_dead", .text "It lies there.")]

/-- **A kennel**, in which something is awake if the player begins there. -/
def content (place : String) (health : Int) : Content :=
  .mapping
    [("start", .text place), ("rooms", .mapping [("kennel", Cellar.room "Kennel" [])]),
     ("characters", .mapping [("creature", Den.character "creature" "kennel")]),
     ("flags", .mapping [("antagonist_active", .bool true)]),
     ("scenario", .mapping [("antagonist", antagonist place health)])]

/-- A consequence that puts other entries in the place of all flags. -/
def stray : Content :=
  .mapping [("flags", .mapping [("__dict__", .mapping
    [("antagonist_active", .bool true), ("antagonist_defeated", .bool false),
     ("__pydantic_validator__", .null)])])]

/-- The play in which it has been brought about. -/
def strayed (b : World) : Play :=
  { Cellar.first b with world := ((World.apply stray).runOn (Cellar.first b).world).2 }

/-- Who shoots at it. -/
def shot : Intent := { command := some ⟨⟨"shoot", []⟩, .shoot⟩, character := some "creature" }

end Kennel

namespace Session

open Setting

variable {s : Session} {p : Play} {a : Antagonist} {is : List Intent}

/-! ## 4. Sessions -/

theorem noteAll_run (texts : List String) (p : Play) : ∃ v, p.world.Alike v ∧
    (Play.noteAll texts).runOn p = (.ok (), { p with world := v }) := by
  induction texts generalizing p with
  | nil => exact ⟨_, .refl _, rfl⟩
  | cons text texts ih =>
      obtain ⟨v, alike, run⟩ := ih { p with world := p.world.noted text }
      exact ⟨v, (World.alike_noted text p.world).trans alike, run⟩

/-- **The antagonist falls silent**, and nothing else changes but notes. -/
theorem stopTicker_desk (p : Play) : ∃ v, p.world.Alike v ∧ stopTicker.runOn p =
    (.ok (), { p with world := v, host := { p.host with ticker := p.silenced } }) := by
  unfold stopTicker Play.silenced
  rw [Act.runOn_bind_ok (Act.runOn_get p)]
  cases h : p.host.ticker with
  | none =>
      refine ⟨_, .refl _, ?_⟩
      have same : { p.host with ticker := none } = p.host := by rw [← h]
      simp only [Option.map_none, same]
      rfl
  | some t =>
      exact noteAll_run t.cancel.2.2 { p with host := { p.host with ticker := some t.cancel.1 } }

/-- **In a session the last shot silences the antagonist**, and no other changes the desk. -/
theorem shots_silence {n : Nat} (plain : p.world.flags.IsPlain) (faces : p.world.Faces a n)
    (placed : p.world.rooms.has a.room = true) (alive : 1 ≤ n)
    (aimed : ∀ i ∈ is, i.character = some a.character) :
    (s.setting.volley is p).2.router = p.router ∧ (s.setting.volley is p).2.host =
      if is.length < n then p.host else { p.host with ticker := p.silenced } := by
  by_cases few : is.length < n
  · obtain ⟨w, -, run⟩ := shots_hit aimed s.hooks_modest plain faces (Int.ofNat_lt.mpr few)
    rw [if_pos few, run]
    exact ⟨rfl, rfl⟩
  · obtain ⟨u, q, v, stopped, -, run, -⟩ :=
      shots_fell aimed s.hooks_modest plain faces placed alive (Nat.le_of_not_lt few)
    obtain ⟨w, -, silenced⟩ := stopTicker_desk { p with world := u }
    have state : q = { p with world := w, host := { p.host with ticker := p.silenced } } :=
      congrArg Prod.snd (stopped.symm.trans silenced)
    rw [if_neg few, run, state]
    exact ⟨rfl, rfl⟩

end Session

end Adventure
