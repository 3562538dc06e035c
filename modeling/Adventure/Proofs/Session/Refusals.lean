import Adventure.Proofs.Session.Anew

/-!
# What is told about things that cannot be taken

* `Intent.misses_iff`, `Intent.knows_iff`: when a line finds nothing in the room, and when it names
  something of the world;
* `missTake_run`, `take_congr`: a refusal is one of two phrases, and neither is said about an item
  that was found;
* `Session.Answers`: a line is answered with a phrase, whatever the sentences are;
* `take_refusal_true`: **what the player is told about a thing that is not found is true**, as far
  as two words after the verb are looked at;
* `take_refusal_misleads`: the third word of a line, and an id that is empty.
-/

namespace Adventure

open Outcome

/-! ## 1. What a line finds -/

namespace Intent

variable {w : World} {c : Command} {characters : Pool}

/-- **A line finds no item of the room** if it has no words after the verb, or if one of the first
    two of them names none. -/
theorem misses_iff (named : w.items.has "" = false)
    (aims : c.verb ∉ [Verb.move, .talk, .observe, .shoot]) (verb : String) (words : List String) :
    (ofCommand (Pool.ofItems w.itemsHere) (Pool.ofItems w.carried) characters c verb
      words).roomItem = none ↔ words = [] ∨ ∃ word ∈ words.take 2, ¬ w.itemsHere.Names word := by
  have given (word : String) : givenId? ((Pool.ofItems w.itemsHere).find? word) =
      (Pool.ofItems w.itemsHere).find? word :=
    Roster.givenId?_find? (Roster.has_filter_of named) word
  cases words with
  | nil => simp [ofCommand_aimless aims]
  | cons second rest =>
      rw [ofCommand_aims aims]
      simp only [resolve, given]
      cases found : (Pool.ofItems w.itemsHere).find? second with
      | none => simp [Roster.find?_eq_none.mp found]
      | some id =>
          have names : w.itemsHere.Names second := by
            by_contra h
            rw [Roster.find?_eq_none.mpr h] at found
            cases found
          cases rest with
          | nil => simp [names]
          | cons third rest => simp [names, Roster.find?_eq_none]

/-- A carried item that a line finds is one that a word after the verb names. -/
theorem carried_named (aims : c.verb ∉ [Verb.move, .talk, .observe, .shoot]) {verb id : String}
    {words : List String} (found : (ofCommand (Pool.ofItems w.itemsHere) (Pool.ofItems w.carried)
      characters c verb words).carriedItem = some id) : ∃ word ∈ words, w.items.Names word := by
  have named {word : String} (h : (Pool.ofItems w.carried).find? word = some id) :
      w.items.Names word := by
    have names : w.carried.Names word := by
      by_contra n
      rw [Roster.find?_eq_none.mpr n] at h
      cases h
    exact names.of_filter
  cases words with
  | nil =>
      rw [ofCommand_aimless aims] at found
      cases found
  | cons second rest =>
      rw [ofCommand_aims aims] at found
      have either : (Pool.ofItems w.carried).findEither? second rest.head? = some id :=
        (Option.ite_none_right_eq_some.mp found).2
      unfold Pool.findEither? at either
      split at either
      · next h =>
          rw [either] at h
          exact ⟨second, List.mem_cons_self, named h⟩
      · obtain ⟨third, first, h⟩ := Option.bind_eq_some_iff.mp either
        exact ⟨third, List.mem_cons_of_mem _ (List.mem_of_head? first), named h⟩

/-- **A line names an item of the world** if one of its words after the verb does. -/
theorem knows_iff (named : w.items.has "" = false)
    (aims : c.verb ∉ [Verb.move, .talk, .observe, .shoot]) (verb : String) (words : List String) :
    let i := ofCommand (Pool.ofItems w.itemsHere) (Pool.ofItems w.carried) characters c verb words
    ((givenId? i.carriedItem).isSome || Setting.namesItem w i) = true ↔
      ∃ word ∈ words, w.items.Names word := by
  intro i
  have scanned : Setting.namesItem w i = true ↔ ∃ word ∈ words, w.items.Names word := by
    unfold Setting.namesItem
    rw [tokens_ofCommand, List.drop_one, List.tail_cons, List.any_eq_true]
    refine exists_congr fun word => and_congr_right fun _ => ?_
    rw [Roster.givenId?_find? named, Option.isSome_iff_ne_none, ne_eq, Roster.find?_eq_none, not_not]
  rw [Bool.or_eq_true, scanned]
  refine or_iff_right_of_imp fun carried => ?_
  obtain ⟨id, given⟩ := Option.isSome_iff_exists.mp carried
  exact carried_named aims (givenId?_eq_some given)

end Intent

/-! ## 2. The rule -/

namespace Setting

variable {σ : Type} (s : Setting σ) {i : Intent}

/-- Nothing of the room is meant: the answer is one of two phrases, and nothing changes. -/
theorem missTake_run (p : Stage σ) : (s.missTake i).runOn p =
    (s.messages.plain (if (givenId? i.carriedItem).isSome || namesItem p.world i then .takeNotHere
      else .takeUnknown), p) := by
  unfold missTake
  rw [Act.runOn_bind_ok (Act.runOn_get p)]
  split <;> rfl

theorem take_of_miss (missed : i.roomItem = none) : s.take i = s.missTake i := by
  unfold take
  rw [missed]

/-- **Nothing is refused as not there that was found in the room**: what is said about it does not
    depend on how such a refusal reads. -/
theorem take_congr {t : Setting σ} {id : String} (found : i.roomItem = some id)
    (uncollected : s.messages.plain .takeNotCollectible = t.messages.plain .takeNotCollectible)
    (refused : s.messages.plain .takeRefused = t.messages.plain .takeRefused)
    (done : s.messages.filled .takeDone = t.messages.filled .takeDone) : s.take i = t.take i := by
  unfold take carry say sayWith
  simp only [found, uncollected, refused, done]

end Setting

/-! ## 3. Answers -/

namespace Session

variable {s : Session} {p : Play} {line : String} {phrase : Phrase} {i : Intent}

/-- **A line is answered with a phrase**, whatever the sentences are. -/
def Answers (s : Session) (p : Play) (line : String) (phrase : Phrase) : Prop :=
  ∀ messages : Messages, (({ s with messages }).turn p line).1 =
    (messages.plain phrase).map fun saying => [saying].filter Content.isFilled

section

variable (free : p.router.waiting = none) (read : s.intent? p.world line = some i)
variable (takes : i.verb? = some .take)

include free read takes

/-- Nothing is refused that was found. -/
theorem not_answers_of_found {id : String} (found : i.roomItem = some id)
    (refusal : phrase = .takeNotHere ∨ phrase = .takeUnknown) : ¬ s.Answers p line phrase := by
  intro answers
  -- Two sessions that differ in the sentence of this refusal would differ in what they say.
  let told (text : String) : Session := { s with messages := .just phrase text }
  have sounds (text : String) : ((told text).turn p line).1 =
      .ok ([.text text].filter Content.isFilled) := by
    rw [answers, Messages.plain_just]
    rfl
  have mute (text : String) {other : Phrase} (h : other ≠ phrase) := Messages.just_mute h text
  have others : .takeNotCollectible ≠ phrase ∧ .takeRefused ≠ phrase ∧ .takeDone ≠ phrase := by
    rcases refusal with rfl | rfl <;> decide
  have same : (told "yes").setting.take i = (told "no").setting.take i :=
    Setting.take_congr _ found ((mute "yes" others.1).1.trans (mute "no" others.1).1.symm)
      ((mute "yes" others.2.1).1.trans (mute "no" others.2.1).1.symm)
      ((mute "yes" others.2.2).2.trans (mute "no" others.2.2).2.symm)
  have alike : (told "yes").turn p line = (told "no").turn p line := by
    rw [turn_follows (s := told "yes") free read takes rfl,
      turn_follows (s := told "no") free read takes rfl, same]
  have equal := (sounds "yes").symm.trans ((congrArg Prod.fst alike).trans (sounds "no"))
  exact absurd equal (by decide)

/-- A refusal is one of two phrases. -/
theorem answers_missed (missed : i.roomItem = none)
    (here : p.world.current.same p.world.current = true) :
    s.Answers p line (if (givenId? i.carriedItem).isSome || Setting.namesItem p.world i
      then .takeNotHere else .takeUnknown) := by
  intro messages
  have run : (({ s with messages }).setting.take i).runOn (p.heard line) = _ :=
    (congrArg (Act.runOn · _) (Setting.take_of_miss _ missed)).trans (Setting.missTake_run _ _)
  exact (turn_answers (s := { s with messages }) free read takes rfl run here).1

/-- One line is not answered with two phrases. -/
theorem refusal_of_missed (missed : i.roomItem = none) (answers : s.Answers p line phrase) :
    phrase = if (givenId? i.carriedItem).isSome || Setting.namesItem p.world i
      then .takeNotHere else .takeUnknown := by
  by_contra other
  let told : Session := { s with messages := .just phrase "yes" }
  have run : (told.setting.take i).runOn (p.heard line) = _ :=
    (congrArg (Act.runOn · _) (Setting.take_of_miss _ missed)).trans (Setting.missTake_run _ _)
  have mute := Messages.just_mute (Ne.symm other) "yes"
  have sounds := answers (.just phrase "yes")
  rw [Messages.plain_just] at sounds
  have fault : told.turn p line = _ := turn_follows (s := told) free read takes rfl
  rw [Act.runOn_bind_error (run.trans (Prod.ext mute.1 rfl))] at fault
  rw [fault] at sounds
  cases sounds

end

/-- **What the player is told about a thing that is not found is true.** Who wants to take something
    is told that it is not here only if a word after the verb names an item of the world, and one of
    the first two words after it names none that lies here; and that it is unknown only if no word
    after the verb names an item of the world. In a room of the world the player is told so, too. -/
theorem take_refusal_true (free : p.router.waiting = none) (named : p.world.items.has "" = false)
    (read : s.intent? p.world line = some i) (takes : i.verb? = some .take) :
    let words := (Line.tokens s.stopwords line).drop 1
    let absent := (∃ word ∈ words, p.world.items.Names word) ∧
      ∃ word ∈ words.take 2, ¬ p.world.itemsHere.Names word
    let unknown := ∀ word ∈ words, ¬ p.world.items.Names word
    (s.Answers p line .takeNotHere → absent) ∧ (s.Answers p line .takeUnknown → unknown) ∧
      (p.world.IsPlaced → (absent → s.Answers p line .takeNotHere) ∧
        (unknown → s.Answers p line .takeUnknown)) := by
  obtain ⟨verb, words, c, tokens, -, kind, rfl⟩ := Intent.eq_ofCommand read takes
  have aims : c.verb ∉ [Verb.move, .talk, .observe, .shoot] := by
    rw [kind]
    decide
  let i := Intent.ofCommand (Pool.ofItems p.world.itemsHere) (Pool.ofItems p.world.carried)
    (Pool.ofCharacters p.world.charactersHere) c verb words
  have misses : i.roomItem = none ↔ _ := Intent.misses_iff named aims verb words
  have knows : ((givenId? i.carriedItem).isSome || Setting.namesItem p.world i) = true ↔ _ :=
    Intent.knows_iff named aims verb words
  have missed {phrase : Phrase} (refusal : phrase = .takeNotHere ∨ phrase = .takeUnknown)
      (answers : s.Answers p line phrase) : i.roomItem = none := by
    by_contra found
    obtain ⟨id, found⟩ := Option.ne_none_iff_exists'.mp found
    exact not_answers_of_found free read takes found refusal answers
  rw [tokens, List.drop_one, List.tail_cons]
  refine ⟨fun answers => ?_, fun answers => ?_, fun placed => ⟨fun absent => ?_, fun unknown => ?_⟩⟩
  · have miss := missed (.inl rfl) answers
    have known := refusal_of_missed free read takes miss answers
    have known := knows.mp (by_contra fun h => absurd known (by rw [if_neg h]; decide))
    refine ⟨known, (misses.mp miss).resolve_left ?_⟩
    rintro rfl
    obtain ⟨_, none, -⟩ := known
    cases none
  · have strange := refusal_of_missed free read takes (missed (.inr rfl) answers) answers
    intro word mem names
    rw [if_pos (knows.mpr ⟨word, mem, names⟩)] at strange
    cases strange
  · have answers := answers_missed free read takes (misses.mpr (.inr absent.2)) (placed.here)
    rwa [if_pos (knows.mpr absent.1)] at answers
  · have miss : i.roomItem = none := misses.mpr <| by
      cases words with
      | nil => exact .inl rfl
      | cons word words =>
          exact .inr ⟨word, by simp, fun h => unknown word List.mem_cons_self h.of_filter⟩
    have answers := answers_missed free read takes miss placed.here
    rwa [if_neg fun h => (knows.mp h).elim fun word h => unknown word h.1 h.2] at answers

end Session

namespace Shed

/-- **A shed** with bones in it, and a lamp in the yard. -/
def content (lamp : String) : Content :=
  .mapping
    [("start", .text "hall"),
     ("rooms", .mapping [("hall", Cellar.room "Hall" []), ("yard", Cellar.room "Yard" [])]),
     ("items", .mapping
       [("bones", .mapping [("name", .text "bones"), ("location", .text "hall")]),
        (lamp, .mapping [("name", .text "lamp"), ("location", .text "yard")])])]

/-- A line that asks for taking something, and finds nothing. -/
def wish (words : List String) : Intent where
  command := some ⟨⟨"take", []⟩, .take⟩
  tokens := "take" :: words

end Shed

namespace Session

/-- The lamp is not here, and nobody knows a spoon. -/
theorem take_refusal_true_shed : ∃ shelf b s p, Shelf.Holds shelf b ∧ Reached shelf s p ∧
    p.router.waiting = none ∧ p.world.items.has "" = false ∧
      (∃ i, s.intent? p.world "take lamp" = some i ∧ i.verb? = some .take) ∧
      (∃ i, s.intent? p.world "take spoon" = some i ∧ i.verb? = some .take) ∧
      s.Answers p "take lamp" .takeNotHere ∧ s.Answers p "take spoon" .takeUnknown := by
  let s : Session := Cellar.session (.text "closed")
  obtain ⟨b, holds, sound, named, lamp, spoon, ⟨room, current, there⟩, absent, unknown⟩ :=
    Cellar.exists_holdsOf (Shed.content "lamp") (.text "closed")
      (fun b =>
        let w := (Cellar.first b).world
        let words (line : String) := (Line.tokens s.stopwords line).drop 1
        b.inconsistencies = .ok [] ∧ w.items.has "" = false ∧
          s.intent? w "take lamp" = some (Shed.wish ["lamp"]) ∧
          s.intent? w "take spoon" = some (Shed.wish ["spoon"]) ∧
          (∃ room ∈ ["hall"], w.current = .text room ∧ w.rooms.has room = true) ∧
          ((∃ word ∈ words "take lamp", w.items.Names word) ∧
            ∃ word ∈ (words "take lamp").take 2, ¬ w.itemsHere.Names word) ∧
          ∀ word ∈ words "take spoon", ¬ w.items.Names word)
      (by decide +kernel)
  have placed : (Cellar.first b).world.IsPlaced := ⟨room, there⟩
  have reached := Reached.anew (Cellar.opensOf holds sound) rfl
  exact ⟨_, b, s, _, holds, reached, rfl, named, ⟨_, lamp, rfl⟩, ⟨_, spoon, rfl⟩,
    ((take_refusal_true rfl named lamp rfl).2.2 placed).1 absent,
    ((take_refusal_true rfl named spoon rfl).2.2 placed).2 unknown⟩

/-- **Two refusals that mislead.** With a second word after the verb that names nothing, the bones
    that lie here are said not to be here; and a thing with an empty id is said to be unknown. -/
theorem take_refusal_misleads :
    (∃ shelf b s p, Shelf.Holds shelf b ∧ Reached shelf s p ∧
      s.Answers p "take bones spoon" .takeNotHere ∧
        ∃ word ∈ (Line.tokens s.stopwords "take bones spoon").drop 1,
          p.world.itemsHere.Names word) ∧
    ∃ shelf b s p, Shelf.Holds shelf b ∧ Reached shelf s p ∧
      s.Answers p "take lamp" .takeUnknown ∧
        ∃ word ∈ (Line.tokens s.stopwords "take lamp").drop 1, p.world.items.Names word := by
  let s : Session := Cellar.session (.text "closed")
  constructor
  · obtain ⟨b, holds, sound, read, known, here, names⟩ :=
      Cellar.exists_holdsOf (Shed.content "lamp") (.text "closed")
        (fun b =>
          let w := (Cellar.first b).world
          b.inconsistencies = .ok [] ∧
            s.intent? w "take bones spoon" = some (Shed.wish ["bones", "spoon"]) ∧
            Setting.namesItem w (Shed.wish ["bones", "spoon"]) = true ∧
            w.current.same w.current = true ∧
            ∃ word ∈ (Line.tokens s.stopwords "take bones spoon").drop 1, w.itemsHere.Names word)
        (by decide +kernel)
    have answers := answers_missed rfl read rfl rfl here
    rw [known, Bool.or_true, if_pos rfl] at answers
    exact ⟨_, b, s, _, holds, .anew (Cellar.opensOf holds sound) rfl, answers, names⟩
  · obtain ⟨b, holds, sound, read, strange, here, names⟩ :=
      Cellar.exists_holdsOf (Shed.content "") (.text "closed")
        (fun b =>
          let w := (Cellar.first b).world
          b.inconsistencies = .ok [] ∧ s.intent? w "take lamp" = some (Shed.wish ["lamp"]) ∧
            Setting.namesItem w (Shed.wish ["lamp"]) = false ∧
            w.current.same w.current = true ∧
            ∃ word ∈ (Line.tokens s.stopwords "take lamp").drop 1, w.items.Names word)
        (by decide +kernel)
    have answers := answers_missed rfl read rfl rfl here
    have none : (givenId? (Shed.wish ["lamp"]).carriedItem).isSome = false := rfl
    rw [strange, none, Bool.or_false, if_neg Bool.false_ne_true] at answers
    exact ⟨_, b, s, _, holds, .anew (Cellar.opensOf holds sound) rfl, answers, names⟩

end Session

end Adventure
