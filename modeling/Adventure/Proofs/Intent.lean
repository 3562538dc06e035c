import Adventure.Line.Intent
import Adventure.Proofs.Roster
import Adventure.World.Basic

/-!
# What a line names is there

* `Pool.NamesFirst`, `Pool.find?_eq_some_iff`: the first thing that a word names;
* `Intent.Fits`: the things of an intent are things of the pools;
* `fits_of_ofLine?`: **what a line asks for fits the pools it was read with**;
* `Intent.FitsIn`: the same for the pools of a world;
* `Roster.Names`: a word names one of the items; where no id is empty, just these words find one;
* `eq_ofCommand`, `ofCommand_aimless`, `ofCommand_aims`, `ofLine?_alone`: what a command asks for,
  in particular one whose verb is aimed at things.
-/

namespace Adventure

/-! ## 1. Pools -/

namespace Pool

theorem find?_mem {pool : Pool} {word id : String} (h : pool.find? word = some id) :
    id ∈ pool.map Prod.fst := by
  obtain ⟨e, he, rfl⟩ := Option.map_eq_some_iff.mp h
  exact List.mem_map_of_mem (List.mem_of_find?_eq_some he)

theorem findEither?_mem {pool : Pool} {second id : String} {third : Option String}
    (h : pool.findEither? second third = some id) : id ∈ pool.map Prod.fst := by
  unfold findEither? at h
  split at h
  · next found =>
      cases h
      exact find?_mem found
  · obtain ⟨word, -, found⟩ := Option.bind_eq_some_iff.mp h
    exact find?_mem found

variable {pool : Pool} {word id : String}

/-- The word names one of the things. -/
def Names (pool : Pool) (word : String) : Prop := ∃ e ∈ pool, e.2.answersTo word = true

/-- **The first thing of the pool that the word names.** -/
def NamesFirst (pool : Pool) (word id : String) : Prop :=
  ∃ before named after, pool = before ++ (id, named) :: after ∧ named.answersTo word = true ∧
    ¬ Names before word

theorem find?_eq_none_iff : pool.find? word = none ↔ ¬ pool.Names word := by
  simp [find?, Names]

theorem find?_eq_some_iff : pool.find? word = some id ↔ pool.NamesFirst word id := by
  unfold find?
  rw [Option.map_eq_some_iff]
  constructor
  · rintro ⟨⟨id, named⟩, found, rfl⟩
    obtain ⟨answers, before, after, split, clear⟩ := List.find?_eq_some_iff_append.mp found
    refine ⟨before, named, after, split, answers, ?_⟩
    rintro ⟨e, mem, hit⟩
    simpa [hit] using clear e mem
  · rintro ⟨before, named, after, split, answers, clear⟩
    refine ⟨(id, named), List.find?_eq_some_iff_append.mpr ⟨answers, before, after, split, ?_⟩, rfl⟩
    intro e mem
    rw [Bool.not_eq_true', Bool.eq_false_iff]
    exact fun hit => clear ⟨e, mem, hit⟩

/-- No id is empty. -/
def HasIds (pool : Pool) : Prop := ∀ e ∈ pool, e.1 ≠ ""

instance (pool : Pool) : Decidable pool.HasIds := by
  unfold HasIds
  infer_instance

/-- What is found is something of the pool. -/
theorem NamesFirst.mem (h : pool.NamesFirst word id) : ∃ named, (id, named) ∈ pool := by
  obtain ⟨before, named, after, rfl, -, -⟩ := h
  exact ⟨named, List.mem_append_right _ List.mem_cons_self⟩

/-- Where no id is empty, what is found is given. -/
theorem givenId?_find? (ids : pool.HasIds) (word : String) :
    givenId? (pool.find? word) = pool.find? word := by
  cases found : pool.find? word with
  | none => rfl
  | some id =>
      obtain ⟨named, mem⟩ := (find?_eq_some_iff.mp found).mem
      exact Option.filter_some_pos (decide_eq_true (ids _ mem))

end Pool

theorem givenId?_eq_some {id : Option String} {s : String} (h : givenId? id = some s) :
    id = some s := by
  obtain ⟨e, -⟩ := Option.filter_eq_some_iff.mp h
  exact e

/-! ## 2. Intents -/

namespace Intent

/-- The things of an intent are things of the pools. -/
structure Fits (roomItems carried characters : Pool) (i : Intent) : Prop where
  roomItem : ∀ id, i.roomItem = some id → id ∈ roomItems.map Prod.fst
  carriedItem : ∀ id, i.carriedItem = some id → id ∈ carried.map Prod.fst
  character : ∀ id, i.character = some id → id ∈ characters.map Prod.fst

section

variable {roomItems carried characters : Pool}

theorem scanCharacters_mem {id : String} :
    ∀ {words : List String}, scanCharacters characters words = some id →
      id ∈ characters.map Prod.fst
  | [], h => by cases h
  | word :: words, h => by
      unfold scanCharacters at h
      split at h
      · next found =>
          cases h
          exact Pool.find?_mem (givenId?_eq_some found)
      · exact scanCharacters_mem h

/-- An intent without things fits all pools. -/
theorem fits_of_bare {i : Intent} (hr : i.roomItem = none) (hc : i.carriedItem = none)
    (hp : i.character = none) : Fits roomItems carried characters i where
  roomItem id h := by rw [hr] at h; cases h
  carriedItem id h := by rw [hc] at h; cases h
  character id h := by rw [hp] at h; cases h

/-- An intent with nothing but a character. -/
theorem fits_of_character {i : Intent} (hr : i.roomItem = none) (hc : i.carriedItem = none)
    {words : List String} (hp : i.character = scanCharacters characters words) :
    Fits roomItems carried characters i where
  roomItem id h := by rw [hr] at h; cases h
  carriedItem id h := by rw [hc] at h; cases h
  character id h := by rw [hp] at h; exact scanCharacters_mem h

/-- The things that two words name. -/
theorem resolve_mem (roomItems carried characters : Pool) (second : String)
    (third : Option String) :
    (∀ id, (resolve roomItems carried characters second third).roomItem = some id →
      id ∈ roomItems.map Prod.fst) ∧
    (∀ id, (resolve roomItems carried characters second third).carriedItem = some id →
      id ∈ carried.map Prod.fst) ∧
    ∀ id, (resolve roomItems carried characters second third).character = some id →
      id ∈ characters.map Prod.fst := by
  refine ⟨fun id h => ?_, fun id h => ?_, fun id h => Pool.findEither?_mem h⟩
  · simp only [resolve] at h
    split at h
    · exact Pool.find?_mem h
    · exact Pool.find?_mem h
  · have e : (resolve roomItems carried characters second third).carriedItem =
        if (resolve roomItems carried characters second third).roomItem.isNone then
          carried.findEither? second third else none := rfl
    rw [e] at h
    split at h
    · exact Pool.findEither?_mem h
    · cases h

theorem fits_ofCommand (command : Command) (verb : String) (args : List String) :
    Fits roomItems carried characters
      (ofCommand roomItems carried characters command verb args) := by
  unfold ofCommand
  simp only
  split
  · exact fits_of_bare rfl rfl rfl
  · exact fits_of_bare rfl rfl rfl
  · exact fits_of_character rfl rfl rfl
  · exact fits_of_bare rfl rfl rfl
  · exact fits_of_character rfl rfl rfl
  · exact fits_of_bare rfl rfl rfl
  · obtain ⟨hr, hc, hp⟩ := resolve_mem roomItems carried characters _ _
    exact ⟨hr, hc, hp⟩

/-- **What a line asks for fits the pools it was read with.** -/
theorem fits_of_ofLine? {catalogue : List Command} {stopwords : List String} {line : String}
    {i : Intent}
    (h : ofLine? catalogue stopwords roomItems carried characters line = some i) :
    Fits roomItems carried characters i := by
  unfold ofLine? ofTokens? at h
  split at h
  · cases h
  · split at h
    · cases h
      exact fits_of_bare rfl rfl rfl
    · cases h
      exact fits_ofCommand ..

end

/-- The things of an intent are where the player can reach them. -/
structure FitsIn (w : World) (i : Intent) : Prop where
  roomItem : ∀ id, i.roomItem = some id → w.itemsHere.has id = true
  carriedItem : ∀ id, i.carriedItem = some id → w.carried.has id = true
  character : ∀ id, i.character = some id → w.charactersHere.has id = true

theorem fitsIn_of_fits {w : World} {i : Intent}
    (h : Fits (Pool.ofItems w.itemsHere) (Pool.ofItems w.carried)
      (Pool.ofCharacters w.charactersHere) i) : i.FitsIn w := by
  have names {α : Type} (r : Roster α) (f : α → Named) :
      (r.entries.map (fun e => (e.1, f e.2))).map Prod.fst = r.names := by
    rw [List.map_map]; rfl
  refine ⟨fun id e => ?_, fun id e => ?_, fun id e => ?_⟩
  · have mem := h.roomItem id e
    rw [Pool.ofItems, names] at mem
    exact (Roster.mem_names_iff _).mp mem
  · have mem := h.carriedItem id e
    rw [Pool.ofItems, names] at mem
    exact (Roster.mem_names_iff _).mp mem
  · have mem := h.character id e
    rw [Pool.ofCharacters, names] at mem
    exact (Roster.mem_names_iff _).mp mem

end Intent

/-! ## 3. What lies and stands around -/

namespace World

theorem get?_of_itemsHere {w : World} {id : String} (h : w.itemsHere.has id = true) :
    ∃ i, w.items.get? id = some i := by
  obtain ⟨i, hi⟩ := (Roster.has_iff _).mp h
  exact ⟨i, (Roster.get?_filter_iff.mp hi).1⟩

theorem get?_of_carried {w : World} {id : String} (h : w.carried.has id = true) :
    ∃ i, w.items.get? id = some i := by
  obtain ⟨i, hi⟩ := (Roster.has_iff _).mp h
  exact ⟨i, (Roster.get?_filter_iff.mp hi).1⟩

/-- What is among the carried items is the item of that name. -/
theorem get?_carried {w : World} {id : String} {i : Item} (h : w.carried.has id = true)
    (there : w.items.get? id = some i) : w.carried.get? id = some i := by
  obtain ⟨i', hi⟩ := (Roster.has_iff _).mp h
  obtain rfl := Option.some.inj (there.symm.trans (Roster.get?_filter_iff.mp hi).1)
  exact hi

/-- What is among the items of the room is the item of that name. -/
theorem get?_itemsHere {w : World} {id : String} {i : Item} (h : w.itemsHere.has id = true)
    (there : w.items.get? id = some i) : w.itemsHere.get? id = some i := by
  obtain ⟨i', hi⟩ := (Roster.has_iff _).mp h
  obtain rfl := Option.some.inj (there.symm.trans (Roster.get?_filter_iff.mp hi).1)
  exact hi

theorem get?_of_charactersHere {w : World} {id : String} (h : w.charactersHere.has id = true) :
    ∃ c, w.characters.get? id = some c := by
  obtain ⟨c, hc⟩ := (Roster.has_iff _).mp h
  exact ⟨c, (Roster.get?_filter_iff.mp hc).1⟩

end World

/-! ## 4. Words that name things -/

namespace Roster

variable {r : Roster Item} {word id : String}

/-- **A word names one of the items.** -/
def Names (r : Roster Item) (word : String) : Prop := ∃ e ∈ r.entries, e.2.answersTo word = true

instance (r : Roster Item) (word : String) : Decidable (r.Names word) := by
  unfold Names
  infer_instance

/-- A word that names none of the items finds none. -/
theorem find?_eq_none : (Pool.ofItems r).find? word = none ↔ ¬ r.Names word := by
  simp [Pool.find?, Pool.ofItems, Names]

/-- What a word finds is an item that answers to it. -/
theorem get?_of_find? (h : (Pool.ofItems r).find? word = some id) :
    ∃ item, r.get? id = some item ∧ item.answersTo word = true := by
  obtain ⟨e, he, rfl⟩ := Option.map_eq_some_iff.mp h
  have answers := List.find?_some he
  obtain ⟨⟨id, item⟩, hm, rfl⟩ := List.mem_map.mp (List.mem_of_find?_eq_some he)
  exact ⟨item, (r.mem_entries_iff).mp hm, answers⟩

/-- The items of a roster without an empty name have ids. -/
theorem hasIds_ofItems (named : r.has "" = false) : (Pool.ofItems r).HasIds := by
  intro e mem empty
  obtain ⟨⟨name, item⟩, known, rfl⟩ := List.mem_map.mp mem
  obtain rfl : name = "" := empty
  rw [has_of_get? ((r.mem_entries_iff).mp known)] at named
  cases named

theorem givenId?_find? (named : r.has "" = false) (word : String) :
    givenId? ((Pool.ofItems r).find? word) = (Pool.ofItems r).find? word :=
  Pool.givenId?_find? (hasIds_ofItems named) word

theorem Names.of_filter {p : Item → Bool} (h : (r.filter p).Names word) : r.Names word := by
  obtain ⟨e, mem, answers⟩ := h
  exact ⟨e, (List.mem_filter.mp mem).1, answers⟩

theorem has_filter_of {p : Item → Bool} (h : r.has id = false) : (r.filter p).has id = false := by
  rw [Bool.eq_false_iff] at h ⊢
  intro there
  obtain ⟨item, found⟩ := (has_iff _).mp there
  exact h (has_of_get? (get?_filter_iff.mp found).1)

end Roster

namespace Intent

variable {roomItems carried characters : Pool} {c : Command}

@[simp] theorem command_ofCommand (verb : String) (args : List String) :
    (ofCommand roomItems carried characters c verb args).command = some c := by
  unfold ofCommand
  split <;> rfl

/-- **An intent with a command** is what the command that answers to the first word asks for. -/
theorem eq_ofCommand {catalogue : List Command} {stopwords : List String} {line : String}
    {i : Intent} {kind : Verb}
    (read : ofLine? catalogue stopwords roomItems carried characters line = some i)
    (verb : i.verb? = some kind) : ∃ word words c, Line.tokens stopwords line = word :: words ∧
      (commandIndex? catalogue word).bind (catalogue[·]?) = some c ∧ c.verb = kind ∧
        i = ofCommand roomItems carried characters c word words := by
  unfold ofLine? ofTokens? at read
  split at read
  · cases read
  · next word words tokens =>
      split at read
      · cases read
        cases verb
      · next c found =>
          cases read
          refine ⟨word, words, c, tokens, found, ?_, rfl⟩
          unfold verb? at verb
          rw [command_ofCommand] at verb
          exact Option.some.inj verb

@[simp] theorem tokens_ofCommand (verb : String) (args : List String) :
    (ofCommand roomItems carried characters c verb args).tokens = verb :: args := by
  unfold ofCommand
  split <;> rfl

/-- A verb that is aimed at things, without words after it. -/
theorem ofCommand_aimless (aims : c.verb ∉ [Verb.move, .talk, .observe, .shoot]) (verb : String) :
    ofCommand roomItems carried characters c verb [] = { command := some c, tokens := [verb] } := by
  cases h : c.verb <;> simp_all [ofCommand]

/-- **A verb that is aimed at things** is aimed at what the two words after it name. -/
theorem ofCommand_aims (aims : c.verb ∉ [Verb.move, .talk, .observe, .shoot])
    (verb second : String) (rest : List String) :
    ofCommand roomItems carried characters c verb (second :: rest) =
      let found := resolve roomItems carried characters second rest.head?
      { command := some c, tokens := verb :: second :: rest, roomItem := found.roomItem
        carriedItem := found.carriedItem, character := found.character } := by
  cases h : c.verb <;> simp_all [ofCommand]

/-- **One word after the verb** names an item of the room before one that is carried. -/
theorem resolve_alone (roomItems carried characters : Pool) (word : String) :
    resolve roomItems carried characters word none =
      { roomItem := roomItems.find? word
        carriedItem := if (roomItems.find? word).isNone then carried.find? word else none
        character := characters.find? word } := by
  have either (pool : Pool) : pool.findEither? word none = pool.find? word := by
    unfold Pool.findEither?
    cases pool.find? word <;> rfl
  simp only [resolve, either]
  cases givenId? (roomItems.find? word) <;> rfl

/-- **A line of two words** whose verb is aimed at things. -/
theorem ofLine?_alone {catalogue : List Command} {stopwords : List String}
    {line word noun : String} (tokens : Line.tokens stopwords line = [word, noun])
    (command : (commandIndex? catalogue word).bind (catalogue[·]?) = some c)
    (aims : c.verb ∉ [Verb.move, .talk, .observe, .shoot]) (roomItems carried characters : Pool) :
    ofLine? catalogue stopwords roomItems carried characters line =
      some
        { command := some c, tokens := [word, noun], roomItem := roomItems.find? noun
          carriedItem := if (roomItems.find? noun).isNone then carried.find? noun else none
          character := characters.find? noun } := by
  unfold ofLine? ofTokens?
  rw [tokens]
  simp only [command]
  rw [ofCommand_aims aims, List.head?_nil, resolve_alone]

end Intent

end Adventure
