import Adventure.Outpost.Lines
import Adventure.Phrase

/-!
# The sentences of the adventure in Italian

* `Sentences.all`: the messages, by the keys of their phrases.
-/

namespace Adventure.Outpost.Sentences

/-- The sentence of a phrase. -/
def sentence : Phrase → Content
  | .notUnderstood =>
    .text "Non ho capito cosa intendi fare. Riprova inserendo un altro comando."
  | .farewell => .text "Alla prossima!"
  | .quitRefused => .text "Non puoi uscire in questo momento!"
  | .moveNoDirection => .text "Devi specificare una direzione. Esempio: vai nord, vai sud, ecc."
  | .moveInvalidDirection => .text "Direzione non valida. Usa: nord, sud, est o ovest"
  | .moveNoRoom => .text "Non c'è nulla in quella direzione."
  | .moveExitGame =>
    .text
      "Non puoi andartene via. Il dottor Gasly e chiunque sia ancora vivo hanno bisogno di te..."
  | .moveBlocked =>
    .text "LA COSA blocca la porta. Non puoi uscire finché la creatura è ancora viva!"
  | .moveEntryRefused => .text "Qualcosa ti impedisce di entrare."
  | .torchSwitchedOff => .text "(La torcia è stata disattivata)"
  | .doorLocked => .text "La porta è bloccata. Inserisci il codice di apertura:"
  | .doorUnlocked => .text "La porta è stata sbloccata."
  | .doorWrongCode => .text "Codice errato. La porta rimane chiusa."
  | .takeDone => .text "Hai raccolto: \x7bname\x7d"
  | .takeNotCollectible => .text "Non puoi raccogliere questo oggetto."
  | .takeNotHere => .text "In questa stanza non c'è questo oggetto."
  | .takeUnknown => .text "Oggetto da raccogliere non identificato."
  | .takeRefused => .text "Al momento non puoi raccogliere questo oggetto"
  | .examineText => .text "🔎: \x7btext\x7d"
  | .examineNothing => .text "🔎: Non c'è nulla da esaminare qui."
  | .examineDark => .text "Non puoi esaminare oggetti al buio."
  | .examineUnknown => .text "Oggetto da esaminare non identificato."
  | .observeMalformed =>
    .text "Comando non valido. 'Osserva' è un comando semplice e non accetta parametri."
  | .observeDark => .text "👁️: Non si vede niente."
  | .observeText => .text "👁️: \x7btext\x7d"
  | .observeNothing => .text "👁️: Non c'è niente di interessante qui."
  | .activateUnknown => .text "Oggetto da attivare non identificato."
  | .activateNotActivatable => .text "Oggetto non 'attivabile'"
  | .torchOnBright =>
    .text
      ("Accendi la TORCIA ma tutto è lo stesso. \x7bAccendere la torcia non cambia nulla qui, la " ++
       "stanza è già abbastanza illuminata\x7d")
  | .torchOnDark =>
    .text "Hai attivato la TORCIA. Adesso puoi osservare chiaramente cosa c'è nella stanza."
  | .torchOn => .text "Hai attivato la TORCIA."
  | .torchAlreadyOn => .text "La torcia è già accesa"
  | .itemActivated => .text "Hai attivato: \x7bname\x7d"
  | .itemAlreadyActive => .text "\x7bname\x7d è già attivo."
  | .deactivateUnknown => .text "Oggetto da disattivare non identificato."
  | .deactivateNotDeactivatable => .text "Oggetto non disattivabile"
  | .torchOffRefused =>
    .text "\x7bNon posso spegere la torcia adesso! Questa creatura vuole uccidermi!!!\x7d"
  | .torchOffDark => .text "Torcia disattivata. \x7bAdesso non vedo più un accidenti\x7d."
  | .torchOff => .text "Torcia disattivata."
  | .torchNotOn => .text "La torcia non è accesa."
  | .itemDeactivated => .text "Hai disattivato: \x7bname\x7d"
  | .itemNotActive => .text "\x7bname\x7d non è attivo."
  | .shootNoTarget => .text "Bersaglio non identificato."
  | .shootUnknownTarget => .text "Bersaglio non identificato"
  | .shootForbidden => .text "Non puoi sparare a \x7bname\x7d!"
  | .shootNotFound => .text "Bersaglio non trovato"
  | .useUnknown => .text "Oggetto da usare non identificato."
  | .useUnusable =>
    .text
      ("L'oggetto specificato non può essere \"usato\". Ma forse è possibile interagirci in un " ++
       "altro modo.")
  | .readUnknown => .text "Oggetto da leggere non identificato."
  | .readText =>
    .text (lines
      ["Lettura di \x7bname\x7d...",
       "",
       "\x7btext\x7d"])
  | .readNothing => .text "Non c'è nulla da leggere."
  | .inventoryMalformed =>
    .text "Comando non valido. 'Inventario' è un comando semplice e non accetta parametri."
  | .inventoryEmpty => .text "Il tuo inventario è vuoto."
  | .inventoryHeader => .text "Nel tuo inventario ci sono:"
  | .inventoryItem =>
    .text (lines
      ["\x7bname\x7d",
       "----------------------------------"])
  | .inventoryWeapon =>
    .text (lines
      ["\x7bname\x7d (munizioni: \x7bammo\x7d)",
       "----------------------------------"])
  | .helpHeader =>
    .text (lines
      ["Lettura Istruzioni...",
       "",
       "Comandi disponibili (con i loro sinonimi):"])
  | .helpInstructions =>
    .text (lines
      ["Muoviti con \"vai\" seguito da una direzione: nord, sud, est, ovest.",
       "OSSERVA la stanza per notare i dettagli, ESAMINA gli oggetti che ti incuriosiscono.",
       "Le parole in MAIUSCOLO nelle descrizioni indicano oggetti o persone con cui interagire.",
       "I testi tra parentesi graffe \x7bcosì\x7d sono i pensieri del protagonista.",
       "Durante un dialogo rispondi digitando il numero dell'opzione scelta.",
       ""])
  | .saveMalformed =>
    .text "Comando non valido. 'salva' è un comando semplice e non accetta parametri aggiuntivi."
  | .saveRefused => .text "Salvataggio non consentito in questo momento"
  | .saveUnavailable => .text "Nessuno slot assegnato a questa partita."
  | .saveDone => .text "Partita salvata nello slot \x7bslot\x7d."
  | .saveFailed => .text "Errore durante il salvataggio: \x7berror\x7d"
  | .talkMissingTarget => .text "Specificare con chi vuoi parlare"
  | .talkUnknownTarget => .text "Interlocutore inserito non trovato"
  | .talkHidden => .text "Personaggio inserito non trovato"
  | .talkExhausted => .text "Questo personaggio non ha più nulla da dirti."
  | .dialogueOptions => .text "Opzioni di Dialogo:"
  | .dialoguePrompt => .text "Digita il numero della tua risposta:"
  | .dialogueNotANumber => .text "Input non valido. Inserisci un numero."
  | .dialogueOutOfRange => .text "Scelta non valida (scegli tra 1 e \x7bcount\x7d)."
  | .dialogueReply =>
    .text (lines
      ["\x7bname\x7d:",
       "\x7btext\x7d"])
  | .dialogueEnd => .text "Il dialogo è terminato."

/-- **The messages**: every phrase has its sentence. -/
def all : Content := .mapping (Phrase.all.map (fun p => (p.word, sentence p)))

end Adventure.Outpost.Sentences
