import Adventure.Proofs.Intent
import Adventure.Proofs.Letters

/-!
# How a line is read

* `Pool.NamedBy`: what several words name, told without looking it up;
* `AnswersFirst`: the first command of a catalogue that answers to a word;
* `Intent.IsAimed`: what an intent with a command is aimed at, as far as the verb and the words
  after it tell; `isAimed_ofCommand`: every intent that is read is aimed so;
* `line_understood`: **a line is read as what its words say**, or as nothing if it has none;
* `line_settles`: **a line is read as its words with single blanks between them**.
-/

namespace Adventure

/-! ## 1. What words name -/

namespace Pool

variable {pool : Pool} {id : String} {words : List String}

/-- **What the words name**: the first thing that is named by the first of the words that names
    anything. -/
def NamedBy (pool : Pool) (words : List String) (id : String) : Prop :=
  ∃ before word after, words = before ++ word :: after ∧ pool.NamesFirst word id ∧
    ∀ w ∈ before, ¬ pool.Names w

theorem findSome?_eq_some_iff :
    words.findSome? pool.find? = some id ↔ pool.NamedBy words id := by
  rw [List.findSome?_eq_some_iff]
  simp only [find?_eq_some_iff, find?_eq_none_iff]
  rfl

theorem findEither?_eq (second : String) (third : Option String) :
    pool.findEither? second third = (second :: third.toList).findSome? pool.find? := by
  unfold findEither?
  rw [List.findSome?_cons]
  cases pool.find? second with
  | some id => rfl
  | none => cases third <;> simp

theorem scanCharacters_eq (ids : pool.HasIds) (words : List String) :
    Intent.scanCharacters pool words = words.findSome? pool.find? := by
  induction words with
  | nil => rfl
  | cons word words ih =>
      unfold Intent.scanCharacters
      rw [givenId?_find? ids, List.findSome?_cons, ih]
      cases pool.find? word <;> rfl

end Pool

/-! ## 2. What things are looked for -/

section

variable (roomItems carried characters : Pool) {second id : String} {third : Option String}

/-- The item of the room: the second word names one, and the last word says which. -/
theorem resolve_roomItem {roomItems : Pool} (ids : roomItems.HasIds) :
    (resolve roomItems carried characters second third).roomItem = some id ↔
      roomItems.Names second ∧ roomItems.NamesFirst (third.getD second) id := by
  unfold resolve
  simp only [Pool.givenId?_find? ids]
  cases found : roomItems.find? second with
  | none => simp [Pool.find?_eq_none_iff.mp found]
  | some first =>
      have names : roomItems.Names second := by
        by_contra no
        rw [Pool.find?_eq_none_iff.mpr no] at found
        cases found
      cases third with
      | none =>
          show some first = some id ↔ roomItems.Names second ∧ roomItems.NamesFirst second id
          rw [← found, Pool.find?_eq_some_iff]
          exact (and_iff_right names).symm
      | some word =>
          show roomItems.find? word = some id ↔ _
          rw [Pool.find?_eq_some_iff]
          exact (and_iff_right names).symm

/-- A carried item is looked for only if there is no item of the room. -/
theorem resolve_carriedItem :
    (resolve roomItems carried characters second third).carriedItem = some id ↔
      (resolve roomItems carried characters second third).roomItem = none ∧
        carried.NamedBy (second :: third.toList) id := by
  have looked : (resolve roomItems carried characters second third).carriedItem =
      if (resolve roomItems carried characters second third).roomItem.isNone then
        carried.findEither? second third else none := rfl
  rw [looked, Pool.findEither?_eq, ← Pool.findSome?_eq_some_iff]
  cases (resolve roomItems carried characters second third).roomItem <;> simp

theorem resolve_character :
    (resolve roomItems carried characters second third).character = some id ↔
      characters.NamedBy (second :: third.toList) id := by
  rw [← Pool.findSome?_eq_some_iff, ← Pool.findEither?_eq]
  rfl

end

/-! ## 3. Commands -/

section

variable {catalogue : List Command} {word : String} {c : Command}

/-- **The first command of a catalogue that answers to a word.** -/
def AnswersFirst (catalogue : List Command) (word : String) (c : Command) : Prop :=
  ∃ k : Nat, catalogue[k]? = some c ∧ c.answersTo word = true ∧
    ∀ j < k, ∀ d : Command, catalogue[j]? = some d → d.answersTo word = false

theorem command_eq_some_iff : (commandIndex? catalogue word).bind (catalogue[·]?) = some c ↔
    AnswersFirst catalogue word c := by
  unfold commandIndex? AnswersFirst
  rw [Option.bind_eq_some_iff]
  constructor
  · rintro ⟨k, found, there⟩
    obtain ⟨inside, answers, earlier⟩ := List.findIdx?_eq_some_iff_getElem.mp found
    have same : catalogue[k] = c := (List.getElem?_eq_some_iff.mp there).2
    refine ⟨k, there, same ▸ answers, fun j less d known => ?_⟩
    obtain ⟨-, rfl⟩ := List.getElem?_eq_some_iff.mp known
    exact Bool.eq_false_iff.mpr (earlier j less)
  · rintro ⟨k, there, answers, earlier⟩
    obtain ⟨inside, same⟩ := List.getElem?_eq_some_iff.mp there
    refine ⟨k, List.findIdx?_eq_some_iff_getElem.mpr ⟨inside, same ▸ answers, ?_⟩, there⟩
    intro j less
    have known := List.getElem?_eq_getElem (l := catalogue) (Nat.lt_trans less inside)
    exact Bool.eq_false_iff.mp (earlier j less _ known)

theorem command_eq_none_iff : (commandIndex? catalogue word).bind (catalogue[·]?) = none ↔
    ∀ c ∈ catalogue, c.answersTo word = false := by
  unfold commandIndex?
  rw [← List.findIdx?_eq_none_iff]
  cases found : catalogue.findIdx? (·.answersTo word) with
  | none => simp
  | some k =>
      obtain ⟨inside, -, -⟩ := List.findIdx?_eq_some_iff_getElem.mp found
      simp [inside]

end

/-! ## 4. What an intent is aimed at -/

namespace Intent

variable {roomItems carried characters : Pool} {c : Command} {word : String} {args : List String}

/-- **What an intent is aimed at**, with a verb and the words after it. -/
structure IsAimed (roomItems carried characters : Pool) (verb : Verb) (args : List String)
    (i : Intent) : Prop where
  /-- An item of the room, or one that is carried. -/
  apart : i.roomItem = none ∨ i.carriedItem = none
  /-- A direction is read with these verbs, even where there is none. -/
  direction : i.direction ≠ none ↔ verb = .move ∧ args.length = 1 ∨ verb = .talk ∧ args = [] ∨
    verb = .observe ∧ args ≠ []
  /-- With a direction, nothing else is looked for. -/
  aimless : i.direction ≠ none → i.roomItem = none ∧ i.carriedItem = none ∧ i.character = none
  /-- To talk and to shoot, a character is looked for, with all words. -/
  addressed : verb = .talk ∨ verb = .shoot → i.roomItem = none ∧ i.carriedItem = none ∧
    ∀ id, i.character = some id ↔ characters.NamedBy args id
  /-- For all else, items and characters are looked for, with the two words after the verb. -/
  aimed : verb ≠ .talk → verb ≠ .shoot → i.direction = none →
    (∀ id, i.roomItem = some id ↔ (∃ w ∈ args.head?, roomItems.Names w) ∧
      ∃ w ∈ (args.take 2).getLast?, roomItems.NamesFirst w id) ∧
    (∀ id, i.carriedItem = some id ↔ i.roomItem = none ∧ carried.NamedBy (args.take 2) id) ∧
    ∀ id, i.character = some id ↔ characters.NamedBy (args.take 2) id

variable {verb : Verb} {command : Option Command} {tokens : List String}

/-- An intent with a direction. -/
theorem isAimed_directed (directed : verb = .move ∧ args.length = 1 ∨ verb = .talk ∧ args = [] ∨
      verb = .observe ∧ args ≠ []) (direction : Direction) :
    IsAimed roomItems carried characters verb args
      { command, direction := some direction, tokens } where
  apart := .inl rfl
  direction := iff_of_true nofun directed
  aimless _ := ⟨rfl, rfl, rfl⟩
  addressed speaks := by
    refine ⟨rfl, rfl, fun id => ?_⟩
    have empty : args = [] := by
      rcases directed with ⟨rfl, -⟩ | ⟨-, empty⟩ | ⟨rfl, -⟩
      · simp at speaks
      · exact empty
      · simp at speaks
    rw [empty, ← Pool.findSome?_eq_some_iff]
    rfl
  aimed _ _ none := nomatch none

/-- An intent to talk to somebody, or to shoot. -/
theorem isAimed_addressed (ids : characters.HasIds)
    (speaks : verb = .talk ∧ args ≠ [] ∨ verb = .shoot) :
    IsAimed roomItems carried characters verb args
      { command, character := scanCharacters characters args, tokens } where
  apart := .inl rfl
  direction := by
    refine iff_of_false (fun some => some rfl) ?_
    rcases speaks with ⟨rfl, filled⟩ | rfl
    · simp [filled]
    · simp
  aimless some := absurd rfl some
  addressed _ := by
    refine ⟨rfl, rfl, fun id => ?_⟩
    rw [Pool.scanCharacters_eq ids, Pool.findSome?_eq_some_iff]
  aimed talk shoot _ := by
    rcases speaks with ⟨rfl, -⟩ | rfl
    · exact absurd rfl talk
    · exact absurd rfl shoot

/-- An intent without any words after the verb. -/
theorem isAimed_bare (talk : verb ≠ .talk) :
    IsAimed roomItems carried characters verb [] { command, tokens } where
  apart := .inl rfl
  direction := iff_of_false (fun some => some rfl) (by simp [talk])
  aimless some := absurd rfl some
  addressed _ := by
    refine ⟨rfl, rfl, fun id => ?_⟩
    rw [← Pool.findSome?_eq_some_iff]
    rfl
  aimed _ _ _ := by
    refine ⟨fun id => ?_, fun id => ?_, fun id => ?_⟩
    · simp
    · rw [← Pool.findSome?_eq_some_iff]
      simp
    · rw [← Pool.findSome?_eq_some_iff]
      simp

/-- An intent that is aimed at what the words after the verb name. -/
theorem isAimed_resolved (ids : roomItems.HasIds) (second : String) (rest : List String)
    (talk : verb ≠ .talk) (shoot : verb ≠ .shoot) (observe : verb ≠ .observe)
    (move : verb = .move → rest ≠ []) :
    let found := resolve roomItems carried characters second rest.head?
    IsAimed roomItems carried characters verb (second :: rest)
      { command, roomItem := found.roomItem, carriedItem := found.carriedItem,
        character := found.character, tokens } where
  apart := by
    cases carries : (resolve roomItems carried characters second rest.head?).carriedItem with
    | none => exact .inr rfl
    | some id => exact .inl ((resolve_carriedItem ..).mp carries).1
  direction := by
    refine iff_of_false (fun some => some rfl) ?_
    rintro (⟨moves, single⟩ | ⟨talks, -⟩ | ⟨observes, -⟩)
    · exact move moves (List.length_eq_zero_iff.mp (Nat.succ.inj single))
    · exact talk talks
    · exact observe observes
  aimless some := absurd rfl some
  addressed speaks := (speaks.elim talk shoot).elim
  aimed _ _ _ := by
    have two : (second :: rest).take 2 = second :: rest.head?.toList := by cases rest <;> rfl
    have last : (second :: rest.head?.toList).getLast? = some (rest.head?.getD second) := by
      cases rest <;> rfl
    rw [two, last]
    refine ⟨fun id => ?_, fun id => resolve_carriedItem roomItems carried characters,
      fun id => resolve_character roomItems carried characters⟩
    simpa using resolve_roomItem carried characters ids

/-- **What a command with the words after it asks for** is aimed so. -/
theorem isAimed_ofCommand (roomIds : roomItems.HasIds) (characterIds : characters.HasIds) :
    IsAimed roomItems carried characters c.verb args
      (ofCommand roomItems carried characters c word args) := by
  unfold ofCommand
  simp only
  split
  · next verb => exact isAimed_directed (.inl ⟨verb, rfl⟩) _
  · next verb => exact isAimed_directed (.inr (.inl ⟨verb, rfl⟩)) _
  · next verb filled => exact isAimed_addressed characterIds (.inl ⟨verb, filled⟩)
  · next verb => exact isAimed_directed (.inr (.inr ⟨verb, List.cons_ne_nil _ _⟩)) _
  · next verb => exact isAimed_addressed characterIds (.inr verb)
  · next talk _ => exact isAimed_bare talk
  · next move talk observe shoot => exact isAimed_resolved roomIds _ _ talk shoot observe move

/-! ## 5. Lines -/

/-- The words of an intent are those of its line. -/
theorem tokens_of_ofLine? {catalogue : List Command} {stopwords : List String} {line : String}
    {i : Intent} (read : ofLine? catalogue stopwords roomItems carried characters line = some i) :
    i.tokens = Line.tokens stopwords line := by
  unfold ofLine? ofTokens? at read
  split at read
  · cases read
  · next tokens =>
      rw [tokens]
      split at read
      · cases read
        rfl
      · cases read
        exact tokens_ofCommand _ _

/-- **A line is read as what its words say**, in a catalogue and among things that have ids. It is
    read as nothing exactly if it has no words. Otherwise the command is the first of the catalogue
    that answers to the first word, if there is one; without a command nothing else is read, and
    with one the intent is aimed as its verb and the other words tell. -/
theorem line_understood {roomItems characters : Pool} (roomIds : roomItems.HasIds)
    (characterIds : characters.HasIds) (carried : Pool) (catalogue : List Command)
    (stopwords : List String) (line : String) :
    (ofLine? catalogue stopwords roomItems carried characters line = none ↔
      Line.tokens stopwords line = []) ∧
    ∀ i, ofLine? catalogue stopwords roomItems carried characters line = some i →
      ∃ word args, Line.tokens stopwords line = word :: args ∧ i.tokens = word :: args ∧
        (∀ c, i.command = some c ↔ AnswersFirst catalogue word c) ∧
        (i.command = none ↔ ∀ c ∈ catalogue, c.answersTo word = false) ∧
        (i.command = none → i = { command := none, tokens := word :: args }) ∧
        ∀ c, i.command = some c → i.IsAimed roomItems carried characters c.verb args := by
  unfold ofLine? ofTokens?
  cases tokens : Line.tokens stopwords line with
  | nil =>
      refine ⟨iff_of_true rfl rfl, fun i read => ?_⟩
      cases read
  | cons word args =>
      have known : ∀ c, _ = some c ↔ AnswersFirst catalogue word c := fun c => command_eq_some_iff
      have unknown : _ = none ↔ ∀ c ∈ catalogue, c.answersTo word = false := command_eq_none_iff
      cases found : (commandIndex? catalogue word).bind (catalogue[·]?) with
      | none =>
          rw [found] at known unknown
          simp only [found]
          refine ⟨iff_of_false nofun nofun, ?_⟩
          rintro i ⟨rfl⟩
          exact ⟨word, args, rfl, rfl, known, unknown, fun _ => rfl, nofun⟩
      | some c =>
          rw [found] at known unknown
          simp only [found]
          refine ⟨iff_of_false nofun nofun, ?_⟩
          rintro i ⟨rfl⟩
          rw [command_ofCommand, tokens_ofCommand]
          refine ⟨word, args, rfl, rfl, known, unknown, nofun, ?_⟩
          rintro c ⟨rfl⟩
          exact isAimed_ofCommand roomIds characterIds

end Intent

namespace Workshop

/-- Two commands that answer to the same word. -/
def catalogue : List Command := [⟨⟨"use", ["employ"]⟩, .use⟩, ⟨⟨"talk", ["employ"]⟩, .talk⟩]

/-- What lies in the workshop. -/
def floor : Pool := [("stone", ⟨"stone", []⟩)]

/-- What the player carries: two things with one name. -/
def pocket : Pool := [("torch", ⟨"lamp", ["torch"]⟩), ("candle", ⟨"lamp", []⟩)]

/-- Who is there. -/
def people : Pool := [("smith", ⟨"Anna", ["smith"]⟩)]

end Workshop

namespace Intent

/-- A line of four words in a workshop, one of them a stopword. -/
theorem line_understood_workshop : Workshop.floor.HasIds ∧ Workshop.people.HasIds ∧ ∃ i,
    ofLine? Workshop.catalogue ["the"] Workshop.floor Workshop.pocket Workshop.people
      "Employ the LAMP  smith" = some i ∧
    i.verb? = some .use ∧ i.carriedItem = some "torch" ∧ i.character = some "smith" ∧
    AnswersFirst Workshop.catalogue "employ" ⟨⟨"use", ["employ"]⟩, .use⟩ ∧
    Workshop.pocket.NamedBy ["lamp", "smith"] "torch" ∧
    Workshop.people.NamedBy ["lamp", "smith"] "smith" := by
  have roomIds : Workshop.floor.HasIds := by decide
  have characterIds : Workshop.people.HasIds := by decide
  let c : Command := ⟨⟨"use", ["employ"]⟩, .use⟩
  let i : Intent :=
    { command := some c, carriedItem := some "torch", character := some "smith"
      tokens := ["employ", "lamp", "smith"] }
  have read : ofLine? Workshop.catalogue ["the"] Workshop.floor Workshop.pocket Workshop.people
      "Employ the LAMP  smith" = some i := by decide +kernel
  obtain ⟨word, args, -, words, known, -, -, aims⟩ :=
    (line_understood roomIds characterIds Workshop.pocket Workshop.catalogue ["the"] _).2 i read
  obtain ⟨rfl, rfl⟩ : "employ" = word ∧ ["lamp", "smith"] = args := List.cons.inj words
  obtain ⟨-, carries, stands⟩ := (aims c rfl).aimed (by decide) (by decide) rfl
  exact ⟨roomIds, characterIds, i, read, rfl, rfl, rfl, (known c).mp rfl,
    ((carries "torch").mp rfl).2, (stands "smith").mp rfl⟩

end Intent

namespace Line

/-- **A line is read as its words with single blanks between them**: these words are found in it
    again, each of them is in small letters, without a blank and no stopword, and both lines ask for
    the same. -/
theorem line_settles (stopwords : List String) (line : String) :
    let settled := " ".intercalate (tokens stopwords line)
    tokens stopwords settled = tokens stopwords line ∧
    (∀ word ∈ tokens stopwords line, IsWord stopwords word) ∧
    ∀ catalogue roomItems carried characters,
      Intent.ofLine? catalogue stopwords roomItems carried characters settled =
        Intent.ofLine? catalogue stopwords roomItems carried characters line := by
  intro settled
  have sound : ∀ word ∈ tokens stopwords line, IsWord stopwords word :=
    fun _ mem => isWord_of_mem_tokens mem
  have again : tokens stopwords settled = tokens stopwords line := tokens_intercalate sound
  refine ⟨again, sound, fun catalogue roomItems carried characters => ?_⟩
  unfold Intent.ofLine?
  rw [again]

end Line

end Adventure
