import Adventure.Proofs.Messages
import Adventure.Proofs.Session.Reached

/-!
# New sessions

* `Archive.load_vacant`: a slot in which nothing stands has no saved game;
* `Session.opens_new`, `Session.saves_of_place`: **a consistent adventure can be begun, and its game
  be saved** as soon as the slot has a place;
* `Messages.bare`: messages in which every phrase says its own name;
* `Cellar.shelf`: a small adventure, with a locked room, one with a condition at its entry, and an
  antagonist of any health;
* `Den.content`: another one, with an antagonist that warns and two people to talk to.
-/

namespace Adventure

open Outcome

/-! ## 1. Beginning -/

/-- A slot in which nothing stands has no saved game. -/
theorem Archive.load_vacant {a : Archive} {slot : Content} {there : Path}
    (place : a.place slot = .ok there) (vacant : a.sheets.get? there.toText = none) :
    a.load slot = .ok (.mapping []) := by
  unfold load sheet
  rw [place]
  simp only [vacant, Option.getD_none]
  rfl

namespace Session

/-- **A consistent adventure can be begun**, if its slot has no saved game. -/
theorem opens_new {shelf : Shelf} {b : World} {s : Session} {archive : Archive}
    (holds : shelf.Holds b) (offers : shelf.Offers s) (sound : b.inconsistencies = .ok [])
    (vacant : archive.load s.setup.slot = .ok (.mapping [])) (new : s.resumed = false) :
    Opens s.setup shelf archive s (firstPlay s.setup archive b) := by
  have accepted : allInconsistencies b (.mapping []) = .ok [] :=
    allInconsistencies_eq_nil.mpr ⟨sound, nofun⟩
  exact opens_iff.mpr ⟨b, _, b, holds, offers, vacant, accepted, rfl, rfl, new, rfl⟩

/-- The line is a command to save that nothing but the file can stand in the way of. -/
def MaySave (s : Session) (p : Play) (line : String) : Prop :=
  p.router.waiting = none ∧
    (∃ i ∈ s.intent? p.world line, i.verb? = some .save ∧ i.hasArguments = false) ∧
      p.world.isCornered = .ok false ∧ (s.gameOf p.world).isWritable = true

instance (s : Session) (p : Play) (line : String) : Decidable (s.MaySave p line) := by
  unfold MaySave
  infer_instance

/-- **A command to save saves the game**, if the slot has a place. -/
theorem saves_of_place {b : World} {s : Session} {p : Play} {line : String} {there : Path}
    (sane : Play.Sane b p) (placed : p.world.IsPlaced) (may : s.MaySave p line)
    (place : p.host.archive.place s.setup.slot = .ok there) : s.Saves p line := by
  obtain ⟨free, ⟨i, read, verb, alone⟩, uncornered, writable⟩ := may
  have saved : (p.heard line).world.savedGame (.text s.setup.language) =
      .ok (s.gameOf p.world) := World.savedGame_eq sane.world.clean _
  have archive : (p.heard line).host.archive = p.host.archive := rfl
  have run := save_run s (p.heard line) saved
  rw [Archive.save_run, archive, place] at run
  simp only [writable, if_true] at run
  obtain ⟨spoken, turn⟩ := turn_save free read verb (s.save_rule_free alone uncornered) (by
    rw [run]
    exact placed.here)
  refine ⟨?_, ?_⟩
  · unfold cause
    rw [free]
    rw [Option.mem_def] at read
    simp only [read]
    exact verb
  · rw [turn, run]
    rfl

end Session

/-! ## 2. A small adventure -/

/-- Messages in which every phrase says its own name, and a refusal at an entry what is given. -/
def Messages.bare (refusal : Content) : Messages where
  content := .mapping (Phrase.all.map fun p =>
    (p.word, if p = .moveEntryRefused then refusal else .text (sentence p)))
where
  /-- The name of a phrase, with its fields after it. -/
  sentence (p : Phrase) : String :=
    String.join (p.word :: p.fields.map fun field => "\x7b" ++ field ++ "\x7d")

namespace Messages

/-- No two phrases have the same key. -/
theorem distinct_words : (Phrase.all.map Phrase.word).Nodup := by decide +kernel

theorem get?_bare (refusal : Content) (p : Phrase) : (bare refusal).content.get? p.word =
    some (if p = .moveEntryRefused then refusal else .text (bare.sentence p)) := by
  have keys : (Phrase.all.map fun p =>
      (p.word, if p = .moveEntryRefused then refusal else .text (bare.sentence p))).map Prod.fst =
        Phrase.all.map Phrase.word := by
    rw [List.map_map]
    rfl
  exact lookup_of_mem (keys ▸ distinct_words) (List.mem_map.mpr ⟨p, p.mem_all, rfl⟩)

/-- **The bare messages say all there is to say**, if they have a text to refuse with. -/
theorem bare_complete (refusal : String) : (bare (.text refusal)).IsComplete := by
  have simple : ∀ p ∈ Phrase.all, (p.fields.isEmpty ||
      (Text.pieces (bare.sentence p).toList).all (Text.Piece.isSimple p.fields)) = true := by
    decide +kernel
  intro p hp
  unfold covers
  rw [get?_bare]
  by_cases entry : p = .moveEntryRefused
  · subst entry
    rfl
  · rw [if_neg entry]
    exact simple p hp

end Messages

namespace Cellar

/-- A room without anything to look at. -/
def room (name : String) (more : List (String × Content)) : Content :=
  .mapping ([("name", .text name), ("description", .text "Nothing but walls.")] ++ more)

/-- A hall with three doors: to a cellar that is locked, to a vault for whoever has dug, and out. -/
def rooms : Content :=
  .mapping
    [("hall", room "Hall"
       [("exits", .mapping
          [("nord", .text "cellar"), ("est", .text "vault"), ("sud", .text exitTarget)])]),
     ("cellar", room "Cellar" [("locked", .bool true), ("code", .text "1234")]),
     ("vault", room "Vault"
       [("entry", .mapping
          [("preconditions", .mapping [("flags", .mapping [("ground_dug", .bool true)])])])])]

/-- What sleeps in the hall, until its bones are looked at. -/
def antagonist (health : Content) : Content :=
  .mapping
    [("character", .text "creature"), ("room", .text "hall"), ("trigger_item", .text "bones"),
     ("health", health)]

/-- **A small adventure** with an antagonist of the given health. -/
def content (health : Content) : Content :=
  .mapping
    [("start", .text "hall"), ("rooms", rooms),
     ("items", .mapping
       [("bones", .mapping [("name", .text "bones"), ("location", .text "hall")])]),
     ("characters", .mapping
       [("creature", .mapping [("name", .text "creature"), ("room", .text "hall")])]),
     ("scenario", .mapping [("antagonist", antagonist health)])]

/-- Every verb under its own name. -/
def words : Content :=
  .list (Verb.all.map fun v => .mapping [("name", .text v.word), ("type", .text v.word)])

/-- The shelf of the small adventure. -/
def shelf (health refusal : Content) : Shelf where
  sheet
    | .world => .written (content health)
    | .messages => .written (Messages.bare refusal).content
    | .commands => .written words
    | .stopwords => .written .null

def setup : Setup where
  language := "it"
  slot := .int 1

/-- A session with the small adventure. -/
def session (refusal : Content) : Session where
  setup := setup
  messages := .bare refusal
  catalogue := Verb.all.map fun v => ⟨⟨v.word, []⟩, v⟩
  stopwords := []
  resumed := false

/-- A folder for saved games, in which there is none. -/
def archive : Archive where
  folder := ⟨"", ["games"]⟩

/-- The play with which it begins. -/
def first (b : World) : Play := Session.firstPlay setup archive b

/-- The shelf of another adventure with the same messages and commands. -/
def shelfOf (content refusal : Content) : Shelf where
  sheet
    | .world => .written content
    | .messages => .written (Messages.bare refusal).content
    | .commands => .written words
    | .stopwords => .written .null

theorem offersOf (content refusal : Content) :
    (shelfOf content refusal).Offers (session refusal) where
  messages := ⟨_, ⟨_, rfl, rfl⟩, rfl⟩
  commands := by
    have read : Command.catalogue words =
        .ok (Verb.all.map fun v => (⟨⟨v.word, []⟩, v⟩ : Command)) := by decide +kernel
    exact ⟨words, ⟨_, rfl, rfl⟩, read⟩
  stopwords := ⟨_, [], ⟨_, rfl, rfl⟩, rfl, rfl⟩

/-- The slot has a place. -/
theorem place : archive.place (.int 1) = .ok ⟨"", ["games", "save_1.yaml"]⟩ := by
  have named : archive.path (.int 1) = "games/save_1.yaml" := by decide +kernel
  have zero : "games/save_1.yaml".contains '\x00' = false := by
    rw [String.contains_char_eq]
    decide +kernel
  unfold Archive.place
  rw [named, Ground.opening_eq_ok]
  exact ⟨zero, by decide, by decide +kernel, by decide +kernel, by decide +kernel,
    by decide +kernel⟩

/-- Nothing is saved in it. -/
theorem vacant : archive.load setup.slot = .ok (.mapping []) := by
  have nothing (there : Path) : archive.sheets.get? there.toText = none := rfl
  exact Archive.load_vacant place (nothing _)

/-- What can be told of the world of its content is told of an adventure. -/
theorem exists_holdsOf (content refusal : Content) (P : World → Prop) [DecidablePred P]
    (told : (World.ofFile content).toOption.any (fun b => P b) = true) :
    ∃ b, (shelfOf content refusal).Holds b ∧ P b := by
  cases built : World.ofFile content with
  | error e =>
      rw [built] at told
      cases told
  | ok b =>
      rw [built] at told
      exact ⟨b, ⟨content, rfl, built⟩, of_decide_eq_true told⟩

/-- What can be told of the world of its content is told of the small adventure. -/
theorem exists_holds (health refusal : Content) (P : World → Prop) [DecidablePred P]
    (told : (World.ofFile (content health)).toOption.any (fun b => P b) = true) :
    ∃ b, (shelf health refusal).Holds b ∧ P b :=
  exists_holdsOf (content health) refusal P told

section

variable {content health refusal : Content} {b : World}

/-- **An adventure that is consistent can be begun.** -/
theorem opensOf (holds : (shelfOf content refusal).Holds b) (sound : b.inconsistencies = .ok []) :
    Session.Opens setup (shelfOf content refusal) archive (session refusal) (first b) :=
  Session.opens_new (s := session refusal) holds (offersOf content refusal) sound vacant rfl

variable (holds : (shelf health refusal).Holds b) (sound : b.inconsistencies = .ok [])

include holds sound

/-- **The small adventure can be begun.** -/
theorem opens : Session.Opens setup (shelf health refusal) archive (session refusal) (first b) :=
  opensOf holds sound

/-- Its play after some lines is reached. -/
theorem reached (lines : List String) :
    Session.Reached (shelf health refusal) (session refusal)
      ((session refusal).after (first b) lines) := by
  induction lines using List.reverseRecOn with
  | nil => exact .anew (opens holds sound) rfl
  | append_singleton lines line ih =>
      rw [Session.after_append]
      exact .line ih line

end

end Cellar

/-! ## 3. A den -/

namespace Den

/-- Someone who stands in a room. -/
def character (name room : String) : Content :=
  .mapping [("name", .text name), ("room", .text room)]

/-- What sleeps in the hall, and warns when it has woken. -/
def antagonist : Content :=
  .mapping
    [("character", .text "creature"), ("room", .text "hall"), ("trigger_item", .text "bones"),
     ("health", .int 2), ("warnings", .list [.text "It stirs.", .text "It comes closer."])]

/-- A dialogue of one line. -/
def dialogue : Content :=
  .mapping
    [("lines", .list [.mapping
       [("id", .int 1), ("node", .int 1), ("text", .text "Who goes there?"), ("reply", .int 1)]]),
     ("replies", .list [.mapping [("id", .int 1), ("text", .text "Nobody.")]])]

/-- **A den**: a hall with bones in it, where the miner has something to say and the monk does not,
    and what sleeps, which stands in the room `place`. -/
def content (place : String) : Content :=
  .mapping
    [("start", .text "hall"),
     ("rooms", .mapping [("hall", Cellar.room "Hall" []), ("yard", Cellar.room "Yard" [])]),
     ("items", .mapping
       [("bones", .mapping [("name", .text "bones"), ("location", .text "hall")])]),
     ("characters", .mapping
       [("creature", character "creature" place), ("miner", character "miner" "hall"),
        ("monk", character "monk" "hall")]),
     ("dialogues", .mapping [("miner", dialogue)]),
     ("scenario", .mapping [("antagonist", antagonist)])]

end Den

end Adventure
