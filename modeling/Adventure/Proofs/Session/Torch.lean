import Adventure.Proofs.Session.Progress

/-!
# The torch and its flag

* `World.TorchInStep`: the torch is on exactly if its flag is set;
* `World.KeepsTorch`: files mix up the torch with no other item;
* `torchInStep_deed`: **whatever changes one changes the other**;
* `torchInStep_restored`: both come back from a saved game;
* `torch_in_step`: the torch and its flag agree in every play that is reached;
* `opens_kept`: a session goes on with what a file makes of the saved game;
* `torch_out_of_step`: they do not agree if a file gives the torch the name of another item.

Saved games have the torch among the items and the flag among the flags, and each is left out where it
is as it was. So both are left out or neither is.
-/

namespace Adventure

open Outcome

/-! ## 1. Worlds -/

namespace World

/-- **The torch is on exactly if its flag is set.** -/
def TorchInStep (w : World) : Prop :=
  ∀ torch, w.scenario.torch = some torch →
    ∃ i, w.items.get? torch = some i ∧ i.active = some (w.flags.get .torchLit)

/-- **Files mix up the torch with no other item.** -/
def KeepsTorch (b : World) : Prop :=
  ∀ torch, b.scenario.torch = some torch → ∀ name, b.items.has name = true →
    b.items.has (Text.kept name) = true → (Text.kept name = torch ↔ name = torch)

/-- No consequence is about the flag of the torch. -/
def LeavesTorch (b : World) : Prop := ∀ effect ∈ b.effects, effect.namesFlag .torchLit = false

variable {b w v : World} {c : Cause}

/-- Adventures whose names files keep are such ones. -/
theorem keepsTorch_of_keepsNames (keeps : b.KeepsNames) : b.KeepsTorch := by
  intro torch _ name has _
  rw [kept_item keeps has]

section Deeds

variable (inStep : w.TorchInStep)

include inStep

/-- A flag that is not that of the torch. -/
theorem TorchInStep.set {f : Flag} (other : f ≠ .torchLit) (value : Bool) :
    { w with flags := w.flags.set f value }.TorchInStep := by
  intro torch named
  obtain ⟨i, there, active⟩ := inStep torch named
  refine ⟨i, there, active.trans (congrArg some ?_)⟩
  show _ = (w.flags.set f value).get .torchLit
  rw [Flags.get_set, if_neg other.symm]

/-- What is done to an item and does not switch it, or not the torch. -/
theorem TorchInStep.updateItem {name : String} {f : Item → Item}
    (still : w.scenario.torch = some name → ∀ i, (f i).active = i.active) :
    (w.updateItem name f).TorchInStep := by
  intro torch named
  obtain ⟨i, there, active⟩ := inStep torch named
  by_cases here : torch = name
  · subst here
    exact ⟨f i, Roster.get?_update_self there f, (still named i).trans active⟩
  · exact ⟨i, (Roster.get?_update_ne _ here f).trans there, active⟩

/-- The torch goes on or out. -/
theorem TorchInStep.withTorch (lit : Bool) : (w.withTorch lit).TorchInStep := by
  intro torch named
  obtain ⟨i, there, active⟩ := inStep torch named
  have aim : w.scenario.torch.getD "" = torch := by
    rw [show w.scenario.torch = some torch from named]
    rfl
  refine ⟨{ i with active := i.active.map fun _ => lit }, ?_, ?_⟩
  · show (w.items.update (w.scenario.torch.getD "") _).get? torch = _
    rw [aim]
    exact Roster.get?_update_self there _
  · show i.active.map _ = some ((w.flags.set .torchLit lit).get .torchLit)
    rw [active, Flags.get_set, if_pos rfl]
    rfl

/-- **Whatever changes the torch changes its flag, and the other way round.** -/
theorem torchInStep_deed (leaves : b.LeavesTorch) (h : Deed b c w v) : v.TorchInStep := by
  cases h with
  | torch lit => exact inStep.withTorch lit
  | wake => exact inStep.set (by decide) true
  | defeat => exact inStep.set (by decide) true
  | flag f value effect mem names =>
      refine inStep.set (fun same => ?_) value
      rw [same, leaves effect mem] at names
      cases names
  | place => exact inStep.updateItem fun _ _ => rfl
  | pick => exact inStep.updateItem fun _ _ => rfl
  | switch name item active there switchable other =>
      exact inStep.updateItem fun named => absurd named other
  | note => exact inStep
  | refresh => exact inStep
  | strike => exact inStep
  | say => exact inStep
  | part => exact inStep
  | enter => exact inStep
  | unlock => exact inStep

end Deeds

/-! ## 2. Saved games -/

/-- A saved item that is accepted is one of the adventure. -/
theorem known_savedItem {e : String × Content} (h : b.savedItemIssues e = .ok []) :
    b.items.has e.1 = true := by
  unfold savedItemIssues at h
  simp only at h
  split at h
  · simp [unknownIssue, pure, Except.pure] at h
  · next known => simpa using known

/-- An item that can be on is as it was saved. -/
theorem resume_active {i c : Item} {lit : Bool} (active : i.active = some lit)
    (switchable : c.active.isSome = true) :
    (Item.resume (ItemState.toContent i.state).asKept c).active = some lit := by
  obtain ⟨es, kept, -, told⟩ := itemState_kept i
  obtain ⟨was, there⟩ := Option.isSome_iff_exists.mp switchable
  rw [kept]
  show c.active.map (fun lit => ((es.lookup "active").map Content.isFilled).getD lit) = some lit
  rw [there, told, active]
  rfl

/-- The items of the world that are not as they were. -/
def changedItems (w : World) : List (String × Content) :=
  differences ItemState.same ItemState.toContent w.snapshot.items w.origin.items

/-- An item that has been switched is saved. -/
theorem changed_of_switched (built : b.IsBuilt) (plan : w.plan = b.plan) {name : String} {i i₀ : Item}
    (there : w.items.get? name = some i) (there₀ : b.items.get? name = some i₀)
    (switched : i.active ≠ i₀.active) :
    (name, ItemState.toContent i.state) ∈ w.changedItems := by
  have now : (name, i.state) ∈ w.snapshot.items :=
    List.mem_map.mpr ⟨(name, i), w.items.mem_entries_iff.mpr there, rfl⟩
  have other : (w.origin.items.lookup name).any (ItemState.same i.state) = false := by
    rw [origin_of_plan plan, built.origin]
    show ((b.items.entries.map fun e => (e.1, e.2.state)).lookup name).any _ = false
    rw [lookup_states, there₀, Option.map_some, Option.any_some, Bool.eq_false_iff]
    intro same
    rw [ItemState.same, Bool.and_eq_true, beq_iff_eq] at same
    exact switched same.2
  exact mem_differences.mpr ⟨i.state, now, other, rfl⟩

/-- What is saved under a name that only one item has in files is the state of that item. -/
theorem saved_own {name : String} {x : Content} {i : Item} (there : w.items.get? name = some i)
    (own : ∀ other, w.items.has other = true → Text.kept other = name → other = name)
    (saved : (name, x) ∈ Content.keptEntries w.changedItems) :
    x = (ItemState.toContent i.state).asKept := by
  obtain ⟨⟨_, y⟩, changed, kept, rfl⟩ := Content.mem_keptEntries.mp saved
  obtain ⟨state, now, -, rfl⟩ := mem_differences.mp changed
  obtain ⟨⟨other, j⟩, among, e⟩ := List.mem_map.mp now
  obtain ⟨rfl, rfl⟩ := Prod.mk.inj e
  have there' := w.items.mem_entries_iff.mp among
  obtain rfl := own other (Roster.has_of_get? there') kept
  cases there.symm.trans there'
  rfl

/-- **The torch and its flag come back from a saved game** in which they agree. -/
theorem torchInStep_restored (built : b.IsBuilt) (plan : w.plan = b.plan) (clean : w.flags.IsClean)
    (keeps : b.KeepsTorch) (begun : b.TorchInStep) (inStep : w.TorchInStep) {language : Content}
    (accepts : b.Accepts (w.keptGame language)) (h : Restores b (w.keptGame language) v) :
    v.TorchInStep := by
  intro torch named
  have plan' := (restores_preserve built.clean accepts h).1
  rw [scenario_of_plan plan'] at named
  obtain ⟨i₀, there₀, active₀⟩ := begun torch named
  obtain ⟨i, there, active⟩ := inStep torch (by rw [scenario_of_plan plan]; exact named)
  have known : b.items.has torch = true := Roster.has_of_get? there₀
  obtain ⟨entries, u, u', game, begins, run, items⟩ :=
    restores_own .items World.items rfl items_mend built.clean (fun _ => accepts) h
  cases filled_items.symm.trans game
  rw [takeUp_of_loadItems run, begins] at items
  rw [flags_restored plan built clean h, items]
  rcases Roster.get?_takeUp Item.resume (Content.keptEntries w.changedItems) there₀ with
    ⟨at', fresh⟩ | ⟨x, c, saved, at', comes⟩
  · -- nothing is saved of the torch, so it is as it was
    have same : i.active = i₀.active := by
      by_contra switched
      have saved := Content.mem_keptEntries.mpr
        ⟨_, changed_of_switched built plan there there₀ switched, rfl, rfl⟩
      have accepted := known_savedItem (accepts.items _ filled_items _ saved)
      have kept := (keeps torch named torch known accepted).mpr rfl
      exact fresh _ (kept ▸ saved)
    exact ⟨i₀, at', same ▸ active⟩
  · -- what is saved under the name of the torch is its own state
    obtain rfl := saved_own there (fun other has kept => by
      rw [has_item_of_plan plan] at has
      exact (keeps torch named other has (kept ▸ known)).mp kept) saved
    have switchable : c.active.isSome = true := by
      refine comes (fun c => c.active.isSome = true) (by rw [active₀]; rfl) fun y c on => ?_
      obtain ⟨was, there⟩ := Option.isSome_iff_exists.mp on
      unfold Item.resume
      rw [there]
      rfl
    exact ⟨_, at', resume_active active switchable⟩

end World

/-! ## 3. A vigil -/

namespace Vigil

/-- **A vigil** in a crypt with a torch of the given name, and a stone whose name is what files make
    of a name that they do not keep. -/
def content (torch : String) : Content :=
  .mapping
    [("start", .text "crypt"), ("rooms", .mapping [("crypt", Cellar.room "Crypt" [])]),
     ("items", .mapping
       [(torch, .mapping
          [("name", .text "lamp"), ("location", .text Content.inventoryWord),
           ("activation", .mapping [("active", .bool false)])]),
        (Text.kept Crypt.name, .mapping [("name", .text "stone"), ("location", .text "crypt")])]),
     ("scenario", .mapping [("torch", .text torch)])]

/-- What is saved when the torch has been lit. -/
def lit : List (String × Content) :=
  [("current", .text "crypt"),
   ("items", .mapping [(Crypt.name, .mapping
     [("location", .text Content.inventoryWord), ("active", .bool true)])]),
   ("flags", .mapping [("torch_lit", .bool true)])]

/-- The game as a file keeps it. -/
def game : List (String × Content) :=
  [("current", .text "crypt"), ("flags", .mapping [("torch_lit", .bool true)]),
   ("items", .mapping [(Text.kept Crypt.name, .mapping
     [("active", .bool true), ("location", .text Content.inventoryWord)])]),
   ("language", .text "it")]

theorem kept_game : Content.keptEntries (lit ++ [("language", .text "it")]) = game := by
  have state : (Content.mapping
      [("location", .text Content.inventoryWord), ("active", .bool true)]).asKept =
      .mapping [("active", .bool true), ("location", .text Content.inventoryWord)] := by
    rw [Content.asKept_mapping, Content.keptEntries_of_perm (List.Perm.swap ..) (by decide)
      (by decide +kernel)]
    decide +kernel
  have perm : (lit ++ [("language", Content.text "it")]).Perm
      [("current", .text "crypt"), ("flags", .mapping [("torch_lit", .bool true)]),
       ("items", .mapping [(Crypt.name, .mapping
         [("location", .text Content.inventoryWord), ("active", .bool true)])]),
       ("language", .text "it")] := (List.Perm.swap ..).cons _
  rw [Content.keptEntries_of_perm perm (by decide) (by decide +kernel)]
  simp only [List.map_cons, List.map_nil, Content.asKept_single, state]
  decide +kernel

def session : Session := Cellar.session (.text "closed")

/-- The play in which the torch has been lit. -/
def litPlay (b : World) : Play := (session.turn (Cellar.first b) "activate lamp").2

/-- **The torch can be lit, and the game be saved then**, if the line does not save it, and one that
    saves it may. -/
theorem litPlay_saves {content : Content} {b : World}
    (holds : (Cellar.shelfOf content (.text "closed")).Holds b) (sound : b.inconsistencies = .ok [])
    (other : (session.cause (Cellar.first b) "activate lamp").verb? ≠ some .save)
    (may : session.MaySave (litPlay b) "save") :
    Session.Reached (Cellar.shelfOf content (.text "closed")) session (litPlay b) ∧
      session.Saves (litPlay b) "save" := by
  have opened : Session.Reached _ session (Cellar.first b) := .anew (Cellar.opensOf holds sound) rfl
  have reached := opened.line "activate lamp"
  obtain ⟨sane, placed⟩ := Session.reached_sane holds reached
  have archive : (litPlay b).host.archive = (Cellar.first b).host.archive :=
    Session.archive_turn (Session.reached_sane holds opened).1 other
  exact ⟨reached, Session.saves_of_place sane placed may (by rw [archive]; exact Cellar.place)⟩

end Vigil

namespace Session

variable {shelf : Shelf} {b : World} {s : Session} {p : Play}

/-! ## 4. Sessions -/

/-- **The torch and its flag agree in every play that is reached**, if they do in the beginning, no
    consequence is about the flag, and files mix up the torch with no other item. -/
theorem torch_in_step (holds : shelf.Holds b) (begun : b.TorchInStep) (leaves : b.LeavesTorch)
    (keeps : b.KeepsTorch) (h : Reached shelf s p) : p.world.TorchInStep := by
  induction h with
  | anew opens new =>
      obtain ⟨-, -, rfl⟩ := opens_anew holds opens new
      exact begun
  | line reached line ih =>
      exact turn_preserves (reached_sane holds reached).1
        (fun inStep => World.torchInStep_deed inStep leaves) ih
  | resumed reached saves kept opens ih =>
      obtain ⟨sane, placed⟩ := reached_sane holds reached
      obtain ⟨accepts, -, w, restores, rfl⟩ := opens_saved holds sane placed saves kept opens
      have inStep : w.TorchInStep := World.torchInStep_restored holds.built sane.world.plan
        sane.world.clean keeps begun ih accepts restores
      exact inStep

/-- The torch that was lit is on in a session that goes on with what was saved, and its flag is set. -/
theorem torch_in_step_vigil : ∃ shelf b s p, Shelf.Holds shelf b ∧ b.inconsistencies = .ok [] ∧
    b.scenario.torch = some "torch" ∧ b.TorchInStep ∧ b.LeavesTorch ∧ b.KeepsTorch ∧
      Reached shelf s p ∧ s.resumed = true ∧ p.world.flags.get .torchLit = true ∧
      ∃ i, p.world.items.get? "torch" = some i ∧ i.active = some true := by
  obtain ⟨b, holds, sound, documented, distinct, names, named, there, leaves, other, may, same,
    lit⟩ :=
    Cellar.exists_holdsOf (Vigil.content "torch") (.text "closed")
      (fun b =>
        let p := Vigil.litPlay b
        b.inconsistencies = .ok [] ∧ b.IsDocumented ∧ b.HasDistinctLines ∧
          b.KeepsNames ∧ b.scenario.torch = some "torch" ∧
          (∃ i ∈ b.items.get? "torch", i.active = some (b.flags.get .torchLit)) ∧
          (∀ effect ∈ b.effects, effect.namesFlag .torchLit = false) ∧
          (Vigil.session.cause (Cellar.first b) "activate lamp").verb? ≠ some .save ∧
          Vigil.session.MaySave p "save" ∧
          (∀ e ∈ p.world.characters.entries,
            (b.characters.get? e.1).map Character.state = some e.2.state) ∧
          p.world.flags.get .torchLit = true)
      (by decide +kernel)
  have begun : b.TorchInStep := by
    intro torch named'
    cases named.symm.trans named'
    exact there
  obtain ⟨reached, saves⟩ := Vigil.litPlay_saves holds sound other may
  have counts : b.Counts (Vigil.litPlay b).world :=
    fun name ch there => .inl (same (name, ch) ((Roster.mem_entries_iff _).mpr there))
  obtain ⟨p, opens, like⟩ := opens_again holds documented distinct names reached saves counts
  have resumed : Reached _ { Vigil.session with resumed := true } p :=
    .resumed reached saves rfl opens
  have flags : p.world.flags.get .torchLit = true := by
    obtain ⟨sane, placed⟩ := reached_sane holds reached
    obtain ⟨-, -, -, -, -, saved, -⟩ := saves_turn sane placed saves
    obtain ⟨notes, e⟩ := saved.trans like.world
    rw [e]
    exact lit
  have keeps := World.keepsTorch_of_keepsNames names
  obtain ⟨i, there', active⟩ := torch_in_step holds begun leaves keeps resumed "torch" (by
    rw [World.scenario_of_plan (reached_sane holds resumed).1.world.plan]
    exact named)
  exact ⟨_, b, _, p, holds, sound, named, begun, leaves, keeps, resumed, rfl, flags, i, there',
    flags ▸ active⟩

/-- **A session goes on with what a file makes** of the saved game. -/
theorem opens_kept {line : String} {w : World} {es : List (String × Content)}
    (holds : shelf.Holds b) (reached : Reached shelf s p) (saves : s.Saves p line)
    (kept : p.world.keptGame (.text s.setup.language) = es)
    (accepted : allInconsistencies b (.mapping es) = .ok [])
    (restores : (restored b (.mapping es)).toOption = some w)
    (filled : (Content.mapping es).isFilled = true) :
    let archive := (s.turn p line).2.host.archive
    Opens s.setup shelf archive { s with resumed := true } (firstPlay s.setup archive w) := by
  obtain ⟨sane, placed⟩ := reached_sane holds reached
  have load := load_saved sane placed saves rfl
  rw [kept] at load
  have offers := reached_offers reached
  have comes : restored b (.mapping es) = .ok w := by
    cases run : restored b (.mapping es) with
    | error e =>
        rw [run] at restores
        cases restores
    | ok v =>
        rw [run] at restores
        cases restores
        rfl
  exact opens_iff.mpr ⟨b, _, w, holds, ⟨offers.messages, offers.commands, offers.stopwords⟩, load,
    accepted, comes, rfl, filled.symm, rfl⟩

/-- **The torch goes out** in a session that goes on with what was saved, and its flag stays set: the
    file has the torch under the name of the stone. -/
theorem torch_out_of_step : ∃ shelf b s p, Shelf.Holds shelf b ∧ b.inconsistencies = .ok [] ∧
    b.scenario.torch = some Crypt.name ∧ b.TorchInStep ∧ b.LeavesTorch ∧
      Reached shelf s p ∧ p.world.flags.get .torchLit = true ∧
      ∃ i, p.world.items.get? Crypt.name = some i ∧ i.active = some false := by
  obtain ⟨b, holds, sound, named, there, leaves, other, may, saved, accepted, w, restores, lit,
    dark⟩ :=
    Cellar.exists_holdsOf (Vigil.content Crypt.name) (.text "closed")
      (fun b =>
        b.inconsistencies = .ok [] ∧ b.scenario.torch = some Crypt.name ∧
          (∃ i ∈ b.items.get? Crypt.name, i.active = some (b.flags.get .torchLit)) ∧
          (∀ effect ∈ b.effects, effect.namesFlag .torchLit = false) ∧
          (Vigil.session.cause (Cellar.first b) "activate lamp").verb? ≠ some .save ∧
          Vigil.session.MaySave (Vigil.litPlay b) "save" ∧
          (Vigil.litPlay b).world.toSaved = Vigil.lit ∧
          allInconsistencies b (.mapping Vigil.game) = .ok [] ∧
          ∃ w ∈ (restored b (.mapping Vigil.game)).toOption, w.flags.get .torchLit = true ∧
            ∃ i ∈ w.items.get? Crypt.name, i.active = some false)
      (by decide +kernel)
  have begun : b.TorchInStep := by
    intro torch named'
    cases named.symm.trans named'
    exact there
  obtain ⟨reached, saves⟩ := Vigil.litPlay_saves holds sound other may
  have kept : (Vigil.litPlay b).world.keptGame (.text Vigil.session.setup.language) =
      Vigil.game := by
    unfold World.keptGame
    rw [saved]
    exact Vigil.kept_game
  have opens := opens_kept holds reached saves kept accepted restores rfl
  exact ⟨_, b, _, _, holds, sound, named, begun, leaves, .resumed reached saves rfl opens, lit, dark⟩

end Session

end Adventure
