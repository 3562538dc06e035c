import Adventure.Outpost.Dialogues
import Adventure.Outpost.Items
import Adventure.Outpost.People
import Adventure.Outpost.Rooms

/-!
# The story of the outpost

* `Story.all`: the adventure, with its rooms, things, people and dialogues.
-/

namespace Adventure.Outpost.Story

/-- What is told before the first room is seen. -/
def intro : Content :=
  .text (lines
    ["Antartide, avamposto di ricerca 31.",
     "Il segnale di soccorso è arrivato tre giorni fa, poi più nulla.",
     "L'elicottero ti ha lasciato a poche centinaia di metri dall'ingresso: Mugs, il pilota, " ++
       "ti aspetta a bordo.",
     "Trova i superstiti e riportali indietro."])

/-- What using a thing brings about. -/
def actions : Content :=
  .list
    [.mapping
       [("trigger", .text "use"),
        ("item", .text "pala"),
        ("preconditions", .mapping
           [("is_location", .text "serra"),
            ("flags", .mapping [("ground_dug", .bool false)])]),
        ("effect", .mapping
           [("flags", .mapping [("ground_dug", .bool true)]),
            ("refresh_observation", .bool true)]),
        ("message", .text (lines
           ["Il terreno si smuove facilmente sotto la tua forza, ma dosi con attenzione ogni " ++
              "movimento.",
            "",
            "Con ogni colpo ponderato della pala, la terra si allenta sempre di più, finché " ++
              "non senti un suono inconfondibile: TONG!",
            "Ti abbassi e inizi a spostare la terra con le mani, rivelando lentamente la forma " ++
              "di un oggetto.",
            "",
            "Hai dissotterrato un LANCIAFIAMME!"]))],
     .mapping
       [("trigger", .text "use"),
        ("item", .text "ricetrasmettitore"),
        ("message", .text (lines
           ["Afferri il ricetrasmettitore e premi il pulsante di trasmissione.",
            "\"Mugs? Mugs, riesci a sentirmi? Passo-\" lo ripeti più volte ma nessuno risponde.",
            "\x7bPerché mai non risponde?\x7d"]))]]

/-- The creature of the outpost. -/
def antagonist : Content :=
  .mapping
    [("character", .text "canide"),
     ("room", .text "canile"),
     ("trigger_item", .text "poltiglia"),
     ("hint_item", .text "pala"),
     ("health", .int 4),
     ("period", .int 10),
     ("warnings", .list
        [.text
           ("!!QUELLA COSA si sta avvicinando a te… \x7bSe non agisco adesso, sarà la mia " ++
            "fine…\x7d!!"),
         .text
           ("!!Man mano che si avvicina, il ringhio della COSA si fa sempre più intenso e " ++
            "crudele…\x7bDevo fare qualcosa!!!\x7d!!"),
         .text
           "!!Vedi la bava gocciolare dalle sue fauci aperte. \x7bDevo usare la pistola!!!\x7d!!"]),
     ("reveal", .text (lines
        ["! ! ! ! ! ! ! ! ! ! ! ! ! !",
         "",
         "Non appena ti avvicini per esaminare quell'ammasso di peli, un movimento " ++
           "inequivocabile vi si agita dall'interno!",
         "Ti discosti prontamente.",
         "Una creatura canina, deformata e grottesca, fuoriesce dall'ammasso di putridume!",
         "È lì a fissarti negli occhi, con acido che gli gronda dalla bocca.",
         "Si è appostato davanti alla porta.",
         "Adesso non hai più via d'uscita...",
         "",
         "! ! ! ! ! ! ! ! ! ! ! ! ! !"])),
     ("hint", .text
        ("Tra i peli e il fango scorgi quello che sembra essere un manico di legno... una PALA!!! " ++
         "\x7bPotrebbe tornarmi utile\x7d")),
     ("exhausted", .text "Non sembra esserci nient'altro di utile, solo delle ossa umane."),
     ("hits", .mapping
        [("4", .text "Spari! La COSA barcolla ma avanza furiosa."),
         ("3", .text "Secondo colpo! La creatura zoppica ma resiste."),
         ("2", .text "Terzo colpo! La COSA sanguina ma non si arrende."),
         ("1", .text "Colpo finale! La creatura crolla al suolo, morta.")]),
     ("already_dead", .text "La creatura è già morta."),
     ("defeat", .text "La creatura giace a terra, il pericolo è passato.")]

/-- Torch, creature and end of the story. -/
def scenario : Content :=
  .mapping
    [("torch", .text "torcia"),
     ("antagonist", antagonist),
     ("climax", .mapping [("character", .text "gasly"), ("room", .text "sala_comunicazioni")])]

/-- **The adventure at the outpost.** -/
def all : Content :=
  .mapping
    [("start", .text "ingresso"), ("intro", intro), ("rooms", Rooms.all), ("items", Items.all),
     ("characters", People.all), ("dialogues", Dialogues.all), ("actions", actions),
     ("scenario", scenario)]

end Adventure.Outpost.Story
