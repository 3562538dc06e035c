import Adventure.Fault

/-!
# Phrases: what the adventure says of its own

* `Phrase`: the sentences that do not come with an adventure but with its language;
* `Phrase.word`, `Phrase.fields`: the key of a phrase in the messages and the fields it may have;
* `Messages`: the sentences of a language;
* `Messages.plain`, `Messages.filled`: a sentence as it stands, and with its fields filled.
-/

namespace Adventure

/-! ## 1. Phrases -/

/-- A sentence of the language that the adventure is played in. -/
inductive Phrase where
  | notUnderstood
  | farewell
  | quitRefused
  | moveNoDirection
  | moveInvalidDirection
  | moveNoRoom
  | moveExitGame
  | moveBlocked
  | moveEntryRefused
  | torchSwitchedOff
  | doorLocked
  | doorUnlocked
  | doorWrongCode
  | takeDone
  | takeNotCollectible
  | takeNotHere
  | takeUnknown
  | takeRefused
  | examineText
  | examineNothing
  | examineDark
  | examineUnknown
  | observeMalformed
  | observeDark
  | observeText
  | observeNothing
  | activateUnknown
  | activateNotActivatable
  | torchOnBright
  | torchOnDark
  | torchOn
  | torchAlreadyOn
  | itemActivated
  | itemAlreadyActive
  | deactivateUnknown
  | deactivateNotDeactivatable
  | torchOffRefused
  | torchOffDark
  | torchOff
  | torchNotOn
  | itemDeactivated
  | itemNotActive
  | shootNoTarget
  | shootUnknownTarget
  | shootForbidden
  | shootNotFound
  | useUnknown
  | useUnusable
  | readUnknown
  | readText
  | readNothing
  | inventoryMalformed
  | inventoryEmpty
  | inventoryHeader
  | inventoryItem
  | inventoryWeapon
  | helpHeader
  | helpInstructions
  | saveMalformed
  | saveRefused
  | saveUnavailable
  | saveDone
  | saveFailed
  | talkMissingTarget
  | talkUnknownTarget
  | talkHidden
  | talkExhausted
  | dialogueOptions
  | dialoguePrompt
  | dialogueNotANumber
  | dialogueOutOfRange
  | dialogueReply
  | dialogueEnd
deriving DecidableEq, Repr

namespace Phrase

/-- All phrases. -/
def all : List Phrase :=
  [.notUnderstood, .farewell, .quitRefused, .moveNoDirection, .moveInvalidDirection,
    .moveNoRoom, .moveExitGame, .moveBlocked, .moveEntryRefused, .torchSwitchedOff, .doorLocked,
    .doorUnlocked, .doorWrongCode, .takeDone, .takeNotCollectible, .takeNotHere, .takeUnknown,
    .takeRefused, .examineText, .examineNothing, .examineDark, .examineUnknown,
    .observeMalformed, .observeDark, .observeText, .observeNothing, .activateUnknown,
    .activateNotActivatable, .torchOnBright, .torchOnDark, .torchOn, .torchAlreadyOn,
    .itemActivated, .itemAlreadyActive, .deactivateUnknown, .deactivateNotDeactivatable,
    .torchOffRefused, .torchOffDark, .torchOff, .torchNotOn, .itemDeactivated, .itemNotActive,
    .shootNoTarget, .shootUnknownTarget, .shootForbidden, .shootNotFound, .useUnknown,
    .useUnusable, .readUnknown, .readText, .readNothing, .inventoryMalformed, .inventoryEmpty,
    .inventoryHeader, .inventoryItem, .inventoryWeapon, .helpHeader, .helpInstructions,
    .saveMalformed, .saveRefused, .saveUnavailable, .saveDone, .saveFailed, .talkMissingTarget,
    .talkUnknownTarget, .talkHidden, .talkExhausted, .dialogueOptions, .dialoguePrompt,
    .dialogueNotANumber, .dialogueOutOfRange, .dialogueReply, .dialogueEnd]

/-- The key of a phrase in the messages. -/
def word : Phrase → String
  | .notUnderstood => "not_understood"
  | .farewell => "farewell"
  | .quitRefused => "quit_refused"
  | .moveNoDirection => "move_no_direction"
  | .moveInvalidDirection => "move_invalid_direction"
  | .moveNoRoom => "move_no_room"
  | .moveExitGame => "move_exit_game"
  | .moveBlocked => "move_blocked"
  | .moveEntryRefused => "move_entry_refused"
  | .torchSwitchedOff => "torch_switched_off"
  | .doorLocked => "door_locked"
  | .doorUnlocked => "door_unlocked"
  | .doorWrongCode => "door_wrong_code"
  | .takeDone => "take_done"
  | .takeNotCollectible => "take_not_collectible"
  | .takeNotHere => "take_not_here"
  | .takeUnknown => "take_unknown"
  | .takeRefused => "take_refused"
  | .examineText => "examine_text"
  | .examineNothing => "examine_nothing"
  | .examineDark => "examine_dark"
  | .examineUnknown => "examine_unknown"
  | .observeMalformed => "observe_malformed"
  | .observeDark => "observe_dark"
  | .observeText => "observe_text"
  | .observeNothing => "observe_nothing"
  | .activateUnknown => "activate_unknown"
  | .activateNotActivatable => "activate_not_activatable"
  | .torchOnBright => "torch_on_bright"
  | .torchOnDark => "torch_on_dark"
  | .torchOn => "torch_on"
  | .torchAlreadyOn => "torch_already_on"
  | .itemActivated => "item_activated"
  | .itemAlreadyActive => "item_already_active"
  | .deactivateUnknown => "deactivate_unknown"
  | .deactivateNotDeactivatable => "deactivate_not_deactivatable"
  | .torchOffRefused => "torch_off_refused"
  | .torchOffDark => "torch_off_dark"
  | .torchOff => "torch_off"
  | .torchNotOn => "torch_not_on"
  | .itemDeactivated => "item_deactivated"
  | .itemNotActive => "item_not_active"
  | .shootNoTarget => "shoot_no_target"
  | .shootUnknownTarget => "shoot_unknown_target"
  | .shootForbidden => "shoot_forbidden"
  | .shootNotFound => "shoot_not_found"
  | .useUnknown => "use_unknown"
  | .useUnusable => "use_unusable"
  | .readUnknown => "read_unknown"
  | .readText => "read_text"
  | .readNothing => "read_nothing"
  | .inventoryMalformed => "inventory_malformed"
  | .inventoryEmpty => "inventory_empty"
  | .inventoryHeader => "inventory_header"
  | .inventoryItem => "inventory_item"
  | .inventoryWeapon => "inventory_weapon"
  | .helpHeader => "help_header"
  | .helpInstructions => "help_instructions"
  | .saveMalformed => "save_malformed"
  | .saveRefused => "save_refused"
  | .saveUnavailable => "save_unavailable"
  | .saveDone => "save_done"
  | .saveFailed => "save_failed"
  | .talkMissingTarget => "talk_missing_target"
  | .talkUnknownTarget => "talk_unknown_target"
  | .talkHidden => "talk_hidden"
  | .talkExhausted => "talk_exhausted"
  | .dialogueOptions => "dialogue_options"
  | .dialoguePrompt => "dialogue_prompt"
  | .dialogueNotANumber => "dialogue_not_a_number"
  | .dialogueOutOfRange => "dialogue_out_of_range"
  | .dialogueReply => "dialogue_reply"
  | .dialogueEnd => "dialogue_end"

/-- The fields that are filled when the phrase is said. -/
def fields : Phrase → List String
  | .takeDone => ["name"]
  | .examineText => ["text"]
  | .observeText => ["text"]
  | .itemActivated => ["name"]
  | .itemAlreadyActive => ["name"]
  | .itemDeactivated => ["name"]
  | .itemNotActive => ["name"]
  | .shootForbidden => ["name"]
  | .readText => ["name", "text"]
  | .inventoryItem => ["name"]
  | .inventoryWeapon => ["name", "ammo"]
  | .saveDone => ["slot"]
  | .saveFailed => ["error"]
  | .dialogueOutOfRange => ["count"]
  | .dialogueReply => ["name", "text"]
  | _ => []

end Phrase

/-! ## 2. Messages -/

/-- The sentences of a language: a mapping from the keys of phrases to texts. What is said as it
    stands may be any content; what has fields to be filled is a text. -/
structure Messages where
  content : Content
deriving DecidableEq

namespace Messages

/-- **The sentence of a phrase as it stands.** -/
def plain (m : Messages) (p : Phrase) : Except Fault Content := m.content.demand p.word

/-- **The sentence of a phrase with its fields filled.** -/
def filled (m : Messages) (p : Phrase) (values : List (String × Filling)) :
    Except Fault String := do
  match ← m.content.demand p.word with
  | .text s =>
    match fill s values with
    | .ok said => return said
    | .error e => throw (.ofTemplate e)
  | _ => throw .noSuchPart

end Messages

end Adventure
