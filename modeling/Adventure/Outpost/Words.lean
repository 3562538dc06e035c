import Adventure.Content
import Adventure.Story.Command

/-!
# The words of the player in Italian

* `Words.commands`: the verbs with their names and aliases; the first one that has a word wins;
* `Words.stopwords`: the words that are passed over.
-/

namespace Adventure.Outpost.Words

/-- A verb with its name and aliases. -/
def command (verb : Verb) (name : String) (aliases : List String) : Content :=
  .mapping
    [("type", .text verb.word), ("name", .text name), ("aliases", .list (aliases.map .text))]

/-- The verbs with their names and aliases. -/
def commands : Content :=
  .list
    [command .inventory "inventario" ["Inventario"],
     command .talk "parla" ["Parla", "comunica", "dialoga", "discuti"],
     command .take "prendi" ["raccogli", "Prendi"],
     command .move "vai" [
      "Vai", "prosegui", "procedi", "dirigiti", "corri", "cammina", "muoviti"],
     command .quit "fine" ["Fine", "termina", "exit", "Exit", "esci", "Esci"],
     command .observe "osserva" ["Osserva", "guarda", "Guarda"],
     command .use "usa" ["Usa", "utilizza"],
     command .activate "attiva" ["Attiva", "aziona", "innesca", "premi", "accendi"],
     command .deactivate "disattiva" ["Disattiva", "spegni", "Spegni"],
     command .help "aiuto" ["Aiuto", "help", "Istruzioni", "istruzioni", "Help"],
     command .read "leggi" ["Leggi", "consulta", "Consulta"],
     command .examine "esamina" ["Esamina", "analizza", "Analizza"],
     command .shoot "spara" ["Spara"],
     command .save "salva" ["Salva", "Salvataggio"]]

/-- The words that are passed over. -/
def stopwords : Content :=
  .list (List.map .text
    ["il", "lo", "la", "i", "gli", "le", "l'", "un", "uno", "una", "un'", "di", "a", "da", "in",
     "con", "su", "per", "tra", "fra", "del", "dello", "della", "dei", "degli", "delle", "al",
     "allo", "alla", "ai", "agli", "alle", "dal", "dalla", "nel", "nella", "sul", "sulla", "e",
     "ed", "verso", "quel", "quella", "questo", "questa"])

end Adventure.Outpost.Words
