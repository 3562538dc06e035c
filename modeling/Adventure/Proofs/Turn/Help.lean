import Adventure.Proofs.Reading
import Adventure.Proofs.Terms
import Adventure.Turn.Look

/-!
# What help tells about the words of the player

* `Setting.helpText`, `help_run`: the text of the help, and that it is what help says;
* `resolves_iff`, `reads_alone_iff`: what a line has to be to ask for a command, and to be read as
  a single word that does;
* `help_lists_typable`: **the aliases that help shows are those that can be typed**, as far as
  letters go; what stands in the way otherwise is a blank, a stopword or an earlier command;
* `alias_mislisted`: a catalogue in which all of these do.
-/

namespace Adventure

/-! ## 1. The text of the help -/

namespace Setting

variable {σ : Type} (s : Setting σ)

/-- The text of the help: one row for each command, with its name and the aliases that are shown,
    between a header and instructions. -/
def helpText (catalogue : List Command) (header instructions : String) : String :=
  "\n".intercalate
    (header :: "" :: catalogue.map (helpRow (nameWidth catalogue)) ++ ["", Text.stripEnd instructions])

/-- **Help says its text** and changes nothing. -/
theorem help_run {header instructions : String} (i : Intent) (p : Stage σ)
    (begins : s.messages.plain .helpHeader = .ok (.text header))
    (ends : s.messages.plain .helpInstructions = .ok (.text instructions)) :
    (s.help i).runOn p = (.ok (.text (helpText s.catalogue header instructions)), p) := by
  have first : (s.say .helpHeader).runOn p = (.ok (.text header), p) := by
    unfold say
    rw [begins]
    rfl
  have last : (s.say .helpInstructions).runOn p = (.ok (.text instructions), p) := by
    unfold say
    rw [ends]
    rfl
  unfold help
  rw [Act.runOn_bind_ok first, Act.runOn_bind_ok last]
  simp only
  rw [← List.map_cons]
  unfold joined Content.joined
  rw [Content.allTexts_map_text]
  rfl

end Setting

/-! ## 2. Lines that ask for a command -/

namespace Intent

variable {catalogue : List Command} {stopwords : List String} {roomItems carried characters : Pool}
  {line word : String} {c : Command}

/-- A line asks for a command if it is the first one that answers to the first word. -/
theorem resolves_iff : (∃ i, ofLine? catalogue stopwords roomItems carried characters line = some i ∧
      i.command = some c) ↔
    ∃ w ∈ (Line.tokens stopwords line).head?, AnswersFirst catalogue w c := by
  unfold ofLine? ofTokens?
  cases Line.tokens stopwords line with
  | nil => simp
  | cons w args =>
      simp only [← command_eq_some_iff, List.head?_cons, Option.mem_some_iff, exists_eq_left']
      cases (commandIndex? catalogue w).bind (catalogue[·]?) with
      | none => simp
      | some d => simp

/-- **A word is read as itself, and asks for a command**, if a line can bring it and the command is
    the first one that answers to it. -/
theorem reads_alone_iff :
    (∃ i, ofLine? catalogue stopwords roomItems carried characters word = some i ∧
      i.tokens = [word] ∧ i.command = some c) ↔
    Line.IsWord stopwords word ∧ AnswersFirst catalogue word c := by
  constructor
  · rintro ⟨i, read, alone, asks⟩
    have tokens : Line.tokens stopwords word = [word] := (tokens_of_ofLine? read).symm.trans alone
    obtain ⟨w, first, answers⟩ := resolves_iff.mp ⟨i, read, asks⟩
    rw [tokens] at first
    obtain rfl : word = w := Option.some.inj first
    exact ⟨Line.tokens_eq_singleton_iff.mp tokens, answers⟩
  · rintro ⟨isWord, answers⟩
    have tokens := Line.tokens_eq_singleton_iff.mpr isWord
    have first : word ∈ (Line.tokens stopwords word).head? := by
      rw [tokens]
      rfl
    obtain ⟨i, read, asks⟩ := resolves_iff.mpr ⟨word, first, answers⟩
    exact ⟨i, read, (tokens_of_ofLine? read).trans tokens, asks⟩

end Intent

/-! ## 3. Aliases -/

namespace Setting

variable {c : Command} {a : String} {stopwords : List String}

theorem mem_shownAliases : a ∈ shownAliases c ↔
    a ∈ c.aliases ∧ Text.isAllSmall a.toList = true :=
  List.mem_filter

/-- An alias that is shown is read letter for letter. -/
theorem tokens_of_shown (shown : a ∈ shownAliases c) : Line.tokens stopwords a =
    ((Text.words a.toList).map String.ofList).filter (fun w => !stopwords.contains w) := by
  unfold Line.tokens
  rw [Text.lower_of_isAllSmall (mem_shownAliases.mp shown).2]

/-- An alias that shows its case can be typed exactly if it is shown, is a single word and is not
    passed over. -/
theorem isWord_iff_shown (known : a ∈ c.aliases) (shows : Text.ShowsCase a.toList) :
    Line.IsWord stopwords a ↔
      a ∈ shownAliases c ∧ a.toList.any Text.isBlank = false ∧ a ∉ stopwords := by
  have small : Text.lowercase a = a ↔ Text.lower a.toList = a.toList := by
    unfold Text.lowercase
    rw [← String.toList_inj, String.toList_ofList]
  rw [mem_shownAliases, and_iff_right known, Text.isAllSmall_iff shows, ← small]
  constructor
  · exact fun isWord => ⟨isWord.small, isWord.whole, isWord.kept⟩
  · rintro ⟨same, whole, kept⟩
    refine ⟨?_, same, whole, kept⟩
    rintro rfl
    obtain ⟨c, mem, -⟩ := shows.1
    exact absurd mem List.not_mem_nil

/-- **The aliases that help shows are those that can be typed**, as far as letters go. Help says one
    row for each command, with those aliases. A line that is just a shown alias is read letter for
    letter, and asks for the command if that is the first one that answers to the first of its words
    that is no stopword. An alias that shows its case is read as it stands and asks for its command
    exactly if it is shown, has no blank, is no stopword, and no command answers to it earlier. -/
theorem help_lists_typable {σ : Type} (s : Setting σ) (i : Intent) (p : Stage σ)
    (stopwords : List String) (roomItems carried characters : Pool) :
    (∀ header instructions, s.messages.plain .helpHeader = .ok (.text header) →
      s.messages.plain .helpInstructions = .ok (.text instructions) →
        (s.help i).runOn p = (.ok (.text (helpText s.catalogue header instructions)), p)) ∧
    ∀ c ∈ s.catalogue, ∀ a ∈ c.aliases,
      let read := Intent.ofLine? s.catalogue stopwords roomItems carried characters a
      let own := ((Text.words a.toList).map String.ofList).filter (!stopwords.contains ·)
      (a ∈ shownAliases c → Line.tokens stopwords a = own ∧
        ((∃ j, read = some j ∧ j.command = some c) ↔
          ∃ word ∈ own.head?, AnswersFirst s.catalogue word c)) ∧
      (Text.ShowsCase a.toList →
        ((∃ j, read = some j ∧ j.tokens = [a] ∧ j.command = some c) ↔
          a ∈ shownAliases c ∧ a.toList.any Text.isBlank = false ∧ a ∉ stopwords ∧
            AnswersFirst s.catalogue a c)) := by
  refine ⟨fun header instructions begins ends => s.help_run i p begins ends, ?_⟩
  intro c _ a known read own
  refine ⟨fun shown => ?_, fun shows => ?_⟩
  · have letters : Line.tokens stopwords a = own := tokens_of_shown shown
    exact ⟨letters, letters ▸ Intent.resolves_iff⟩
  · rw [Intent.reads_alone_iff, isWord_iff_shown known shows]
    tauto

end Setting

namespace Phrasebook

/-- A command with aliases of all kinds. -/
def talk : Command := ⟨⟨"talk", ["Talk", "chat", "speak up", "please"]⟩, .talk⟩

/-- A command that comes after it and has its name for an alias. -/
def aid : Command := ⟨⟨"help", ["talk"]⟩, .help⟩

/-- **A phrasebook** with two commands. -/
def catalogue : List Command := [talk, aid]

/-- Its only stopword. -/
def stopwords : List String := ["please"]

/-- A line asks for a command. -/
def Resolves (line : String) (c : Command) : Prop :=
  ∃ i, Intent.ofLine? catalogue stopwords [] [] [] line = some i ∧ i.command = some c

instance (line : String) (c : Command) : Decidable (Resolves line c) :=
  decidable_of_iff (Intent.ofLine? catalogue stopwords [] [] [] line |>.any (·.command = some c))
    (by simp [Resolves, Option.any_eq_true])

end Phrasebook

namespace Setting

/-- What the phrasebook says about itself, and who chats. -/
theorem help_lists_typable_chat : ∃ (s : Setting Unit) (i : Intent) (p : Stage Unit),
    s.catalogue = Phrasebook.catalogue ∧
    s.messages.plain .helpHeader = .ok (.text "Commands:") ∧
    s.messages.plain .helpInstructions = .ok (.text "Have fun!") ∧
    Phrasebook.talk ∈ s.catalogue ∧ "chat" ∈ Phrasebook.talk.aliases ∧
    "chat" ∈ shownAliases Phrasebook.talk ∧ Text.ShowsCase "chat".toList ∧
    (s.help i).runOn p =
      (.ok (.text "Commands:\n\n  talk  chat, speak up, please\n  help  talk\n\nHave fun!"), p) ∧
    ∃ j, Intent.ofLine? s.catalogue Phrasebook.stopwords [] [] [] "chat" = some j ∧
      j.tokens = ["chat"] ∧ j.command = some Phrasebook.talk := by
  let s : Setting Unit :=
    { messages := ⟨.mapping [(Phrase.helpHeader.word, .text "Commands:"),
        (Phrase.helpInstructions.word, .text "Have fun!")]⟩
      catalogue := Phrasebook.catalogue
      hooks := ⟨fun _ => pure .null, pure (), pure (), pure (), none⟩ }
  let world : World :=
    { rooms := .empty, items := .empty, characters := .empty, dialogues := .empty, actions := []
      scenario := {}, flags := {}, current := .text "nowhere", intro := .null
      origin := ⟨[], [], [], {}⟩, notes := [] }
  let i : Intent := { command := some Phrasebook.aid, tokens := ["help"] }
  let p : Stage Unit := ⟨world, {}, ()⟩
  obtain ⟨told, aliases⟩ := help_lists_typable s i p Phrasebook.stopwords [] [] []
  have begins : s.messages.plain .helpHeader = .ok (.text "Commands:") := by decide +kernel
  have ends : s.messages.plain .helpInstructions = .ok (.text "Have fun!") := by decide +kernel
  have shown : "chat" ∈ shownAliases Phrasebook.talk := by decide +kernel
  have shows : Text.ShowsCase "chat".toList :=
    Text.showsCase_of_isAllSmall (mem_shownAliases.mp shown).2
  have text : helpText s.catalogue "Commands:" "Have fun!" =
      "Commands:\n\n  talk  chat, speak up, please\n  help  talk\n\nHave fun!" := by decide +kernel
  have first : AnswersFirst s.catalogue "chat" Phrasebook.talk :=
    command_eq_some_iff.mp (by decide +kernel)
  refine ⟨s, i, p, rfl, begins, ends, by decide, by decide, shown, shows, ?_, ?_⟩
  · rw [told _ _ begins ends, text]
  · refine ((aliases Phrasebook.talk (by decide) "chat" (by decide)).2 shows).mpr ?_
    exact ⟨shown, by decide +kernel, by decide, first⟩

/-- **Help and the reading of a line do not agree on all aliases**: one that begins with a capital
    is not shown, while the line is read in small letters and asks for the command; and one of two
    words, one that is a stopword and one that is the name of an earlier command are shown, while
    the line asks for something else, or for nothing. -/
theorem alias_mislisted :
    ("Talk" ∈ Phrasebook.talk.aliases ∧ "Talk" ∉ shownAliases Phrasebook.talk ∧
      Phrasebook.Resolves "Talk" Phrasebook.talk) ∧
    (∀ a ∈ ["speak up", "please"], a ∈ shownAliases Phrasebook.talk ∧
      ¬ Phrasebook.Resolves a Phrasebook.talk) ∧
    ("talk" ∈ shownAliases Phrasebook.aid ∧ ¬ Phrasebook.Resolves "talk" Phrasebook.aid ∧
      Phrasebook.Resolves "talk" Phrasebook.talk) := by
  decide +kernel

end Setting

end Adventure
