import Adventure.Proofs.World.Built
import Adventure.Proofs.World.Deed
import Mathlib.Data.List.Forall2

/-!
# Worlds that have grown out of an adventure

* `World.Lodges`, `World.Houses`: where items can lie;
* `houses_self`, `houses_deed`: **the items of a documented adventure never lie anywhere else**;
* `PlayerLine.Follows`, `World.Follows`: lines of dialogues, of which more and more are said;
* `World.Grown`: all this together, which deeds preserve.
-/

namespace Adventure

open Outcome

/-! ## 1. Where items lie -/

namespace World

/-- **Where an item of the adventure `b` can lie**: with the player, in a room, or nowhere if that
    is allowed. -/
inductive Lodges (b : World) (nowhere : Prop) : Content → Prop where
  | inventory : Lodges b nowhere .inventory
  /-- A room whose name is not read as the inventory. -/
  | room (room : String) (known : b.rooms.has room = true)
      (other : room ≠ Content.inventoryWord) : Lodges b nowhere (.text room)
  | nowhere (allowed : nowhere) : Lodges b nowhere .null

/-- The adventure has the item nowhere. -/
def HasNowhere (b : World) (name : String) : Prop :=
  ∃ i, b.items.get? name = some i ∧ i.location = .null

/-- The items lie where they can. -/
def Houses (b : World) (nowhere : String → Prop) (w : World) : Prop :=
  ∀ name i, w.items.get? name = some i → b.Lodges (nowhere name) i.location

theorem Houses.weaken {b w : World} {nowhere nowhere' : String → Prop} (h : b.Houses nowhere w)
    (weaker : ∀ name, nowhere name → nowhere' name) : b.Houses nowhere' w := by
  intro name i there
  have lodges := h name i there
  generalize i.location = location at lodges ⊢
  cases lodges with
  | inventory => exact .inventory
  | room room known other => exact .room room known other
  | nowhere allowed => exact .nowhere (weaker name allowed)

section Houses

variable {b w v : World} {c : Cause} {nowhere : String → Prop}
variable (built : b.IsBuilt) (sound : b.inconsistencies = .ok [])

include built sound

theorem houses_self : b.Houses b.HasNowhere b := by
  intro name i there
  have other := built.located name i there
  rcases item_placed sound there with e | e | ⟨room, e, known⟩
  · rw [e]
    exact .nowhere ⟨i, there, e⟩
  · rw [e]
    exact .inventory
  · rw [e] at other ⊢
    exact .room room known fun same => other (by rw [same])

/-- A documented consequence moves items to where they can lie. -/
theorem lodges_of_moves (documented : b.IsDocumented) {effect location : Content} {name : String}
    (mem : effect ∈ b.effects) (moves : effect.Moves name location) (allowed : Prop) :
    b.Lodges allowed location := by
  have other := (built.marked effect mem).moves_ne moves
  have place := isPlace_of_moves documented mem moves
  rcases Content.isPlace_iff.mp place with rfl | ⟨room, rfl, filled⟩
  · exact .inventory
  · obtain ⟨es, conds, cond, rfl, hc, hm, -, hp⟩ := moves
    rcases grasps_effect sound mem with empty | ⟨es', conds', -, e, hc', items, -⟩
    · have none : es = [] := by simpa [Content.isFilled] using empty
      subst none
      cases hc
      exact absurd hm List.not_mem_nil
    · cases e
      rw [hc] at hc'
      cases hc'
      obtain ⟨fs, item, rfl, -, -, knows⟩ := items cond hm
      obtain ⟨fs', e, found⟩ := Content.demand_eq_ok hp
      cases e
      rw [found, Option.getD_some] at knows
      rcases knows with e | empty | ⟨room', e, known⟩
      · cases e
      · exact absurd (by simpa [Content.isFilled] using empty) filled
      · cases e
        exact .room room known fun same => other (by rw [same])

/-- **Items never lie anywhere else.** -/
theorem houses_deed (documented : b.IsDocumented) (houses : b.Houses nowhere w)
    (h : Deed b c w v) : b.Houses nowhere v := by
  intro name i there
  rcases location_deed h there with ⟨i', there', same⟩ | ⟨-, taken⟩ | ⟨effect, mem, moves⟩
  · rw [same]
    exact houses name i' there'
  · rw [taken]
    exact .inventory
  · exact lodges_of_moves built sound documented mem moves _

end Houses

theorem plain_of_houses {b w : World} {nowhere : String → Prop} (houses : b.Houses nowhere w) :
    w.HasPlainLocations := by
  intro name i there
  have lodges := houses name i there
  generalize i.location = location at lodges ⊢
  cases lodges with
  | inventory => rfl
  | room => rfl
  | nowhere => rfl

end World

/-! ## 2. Lines that are said -/

/-- The same line, which stays said if it was. -/
def PlayerLine.Follows (before l : PlayerLine) : Prop :=
  l.bare = before.bare ∧ (before.used = true → l.used = true)

theorem PlayerLine.Follows.refl (l : PlayerLine) : l.Follows l := ⟨rfl, fun used => used⟩

namespace Dialogue

/-- Saying one more line. -/
theorem follows_sayOpen (node : Option Figure) {before lines : List PlayerLine} (position : Nat)
    (follows : List.Forall₂ PlayerLine.Follows before lines) :
    List.Forall₂ PlayerLine.Follows before (sayOpen node position lines) := by
  induction follows generalizing position with
  | nil => exact .nil
  | cons here rest ih =>
      unfold sayOpen
      split
      · cases position with
        | zero => exact .cons ⟨here.1, fun _ => rfl⟩ rest
        | succ k => exact .cons here (ih k)
      · exact .cons here (ih position)

end Dialogue

namespace World

/-- **The same lines of dialogues**, of which some more may have been said. -/
def Follows (b w : World) : Prop :=
  ∀ name d, w.dialogues.get? name = some d → ∃ d₀, b.dialogues.get? name = some d₀ ∧
    List.Forall₂ PlayerLine.Follows d₀.lines d.lines

theorem follows_self (b : World) : b.Follows b :=
  fun _ d there => ⟨d, there, List.forall₂_same.mpr fun l _ => .refl l⟩

theorem follows_deed {b w v : World} {c : Cause} (follows : b.Follows w) (h : Deed b c w v) :
    b.Follows v := by
  cases h with
  | say subject node position =>
      intro name d hd
      rcases Roster.get?_update_cases hd with ⟨-, d', hd', rfl⟩ | ⟨-, hd⟩
      · obtain ⟨d₀, there, lines⟩ := follows _ d' hd'
        exact ⟨d₀, there, Dialogue.follows_sayOpen node position lines⟩
      · exact follows name d hd
  | note => exact follows
  | wake => exact follows
  | torch => exact follows
  | flag => exact follows
  | place => exact follows
  | pick => exact follows
  | switch => exact follows
  | refresh => exact follows
  | strike => exact follows
  | defeat => exact follows
  | part => exact follows
  | enter => exact follows
  | unlock => exact follows

/-! ## 3. Grown worlds -/

/-- **A world that play has made of the adventure `b`.** -/
structure Grown (b w : World) : Prop where
  housed : b.Houses b.HasNowhere w
  follows : b.Follows w

theorem grown_self {b : World} (built : b.IsBuilt) (sound : b.inconsistencies = .ok []) :
    b.Grown b :=
  ⟨houses_self built sound, follows_self b⟩

theorem grown_deed {b w v : World} {c : Cause} (built : b.IsBuilt)
    (sound : b.inconsistencies = .ok []) (documented : b.IsDocumented) (grown : b.Grown w)
    (h : Deed b c w v) : b.Grown v :=
  ⟨houses_deed built sound documented grown.housed h, follows_deed grown.follows h⟩

end World

end Adventure
