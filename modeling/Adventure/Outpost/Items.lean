import Adventure.Outpost.Lines

/-!
# The things of the outpost

* `Items.all`: the things, one under each name.
-/

namespace Adventure.Outpost.Items

def pistola : Content :=
  .mapping
    [("name", .text "Pistola"),
     ("aliases", .list [.text "pistola"]),
     ("description", .text (lines
        ["Questa pistola è un'arma da fuoco di piccolo calibro, compatta e facile da " ++
           "maneggiare,",
         "utilizzata dal personale di sicurezza per autodifesa."])),
     ("location", .text "INVENTORY"),
     ("collectible", .bool true),
     ("weapon", .mapping [("ammo", .int 6)])]

def dossier : Content :=
  .mapping
    [("name", .text "Dossier"),
     ("aliases", .list [.text "dossier", .text "documento"]),
     ("description", .text (lines
        ["Il dossier giace aperto sul tavolo. Le pagine su cui è aperto riportano questo " ++
           "titolo:",
         "Analisi dei Corpi Mutati - Membri dell'Equipaggio John Carpenter e Ridley Scott. " ++
           "\x7bSarà meglio leggere ciò che dice...\x7d"])),
     ("location", .text "laboratorio"),
     ("reading", .mapping
        [("text", .text (lines
            ["DOSSIER - Dott. M. Gasly",
             "I campioni prelevati dai due membri dell'equipaggio mostrano cellule che imitano " ++
               "perfettamente quelle dell'ospite.",
             "L'organismo assimila, copia e sostituisce. Ogni tessuto infetto è in grado di " ++
               "sopravvivere da solo.",
             "Unica reazione osservata: le cellule si ritraggono violentemente a contatto con " ++
               "il CALORE."]))])]

def diario : Content :=
  .mapping
    [("name", .text "Diario"),
     ("aliases", .list [.text "diario", .text "quaderno", .text "quadernetto"]),
     ("description", .text (lines
        ["Questo diario è un quaderno dai bordi usurati e dalla copertina flessibile ma " ++
           "rovinata.",
         "Le pagine sono piene di frasi sconnesse, tutte ordinate dai giorni in cui sono state " ++
           "scritte."])),
     ("location", .text "serra"),
     ("collectible", .bool true),
     ("reading", .mapping
        [("text", .text (lines
            ["12 giugno. Le piante del terrario centrale non attecchiscono più. Clara direbbe " ++
               "che sono io a non avere pazienza.",
             "17 giugno. Ho nascosto il LANCIAFIAMME sotto la terra del terrario centrale. " ++
               "Nessuno deve usarlo prima del tempo.",
             "19 giugno. Qualcuno mi osserva. Ha la mia faccia."]))])]

def fotografia : Content :=
  .mapping
    [("name", .text "Fotografia"),
     ("aliases", .list [.text "fotografia", .text "foto"]),
     ("description", .text (lines
        ["La foto ritrae due uomini che ridono, abbracciati. Leggi i nomi cuciti sulle divise: " ++
           "Gasly e Sips.",
         "Sul retro della foto, un numero scritto a penna: 47187546. \x7bUn codice? Meglio " ++
           "ricordarlo...\x7d"])),
     ("location", .text "dormitorio"),
     ("collectible", .bool true),
     ("take", .mapping [("effect", .mapping [("refresh_observation", .bool true)])])]

def torcia : Content :=
  .mapping
    [("name", .text "Torcia"),
     ("aliases", .list [.text "torcia"]),
     ("description", .text (lines
        ["Una torcia resistente, con corpo in metallo e impugnatura antiscivolo.",
         "La sua luce è potente, perfetta per illuminare anche le aree più buie."])),
     ("location", .text "INVENTORY"),
     ("collectible", .bool true),
     ("activation", .mapping [("active", .bool false)])]

def lista : Content :=
  .mapping
    [("name", .text "Lista Dipendenti"),
     ("aliases", .list [.text "lista"]),
     ("description", .text (lines
        ["Una lista dei dipendenti fissata al muro con puntine, con nomi e ruoli elencati " ++
           "ordinatamente.",
         "\x7bSarà meglio darci un occhiata\x7d"])),
     ("location", .text "sala_comune"),
     ("reading", .mapping
        [("text", .text (lines
            ["Matthew Gasly - medico capo - nato il 20/05/1982",
             "Patrick Sips - botanico",
             "Leo Szilard - responsabile armeria",
             "Mugs - pilota di collegamento"]))])]

def pala : Content :=
  .mapping
    [("name", .text "Pala"),
     ("aliases", .list [.text "pala", .text "vanga"]),
     ("description", .text (lines
        ["Questa pala sembra essere uno strumento robusto, con una lama in metallo resistente " ++
           "e un manico lungo in legno.",
         "Adatta a scavare terra, sabbia o neve."])),
     ("location", .text "canile"),
     ("collectible", .bool true),
     ("take", .mapping
        [("preconditions", .mapping
            [("flags",
              .mapping [("antagonist_active", .bool true), ("antagonist_defeated", .bool true)])])])]

def lanciafiamme : Content :=
  .mapping
    [("name", .text "Lanciafiamme"),
     ("aliases", .list [.text "lanciafiamme"]),
     ("description", .text (lines
        ["Questo lanciafiamme è un'arma massiccia e rudimentale, con una canna lunga e nera.",
         "Dalla sua estremità spunta una fiamma vivida che emette un forte odore di benzina."])),
     ("location", .text "serra"),
     ("collectible", .bool true),
     ("weapon", .mapping [("ammo", .int 10)]),
     ("take",
      .mapping [("preconditions", .mapping [("flags", .mapping [("ground_dug", .bool true)])])])]

def analgesico : Content :=
  .mapping
    [("name", .text "Analgesico"),
     ("aliases", .list [.text "analgesico", .text "farmaco", .text "flacone"]),
     ("description", .text (lines
        ["Questo analgesico ipodermico è contenuto in un piccolo flacone di vetro trasparente,",
         "essenziale per alleviare il dolore di chiunque ne abbia bisogno."])),
     ("location", .text "infermeria"),
     ("collectible", .bool true),
     ("take", .mapping [("effect", .mapping [("refresh_observation", .bool true)])])]

def poltiglia : Content :=
  .mapping
    [("name", .text "Poltiglia"),
     ("aliases", .list [.text "poltiglia", .text "ammasso"]),
     ("description", .text ""),
     ("location", .text "canile")]

def terrario : Content :=
  .mapping
    [("name", .text "Terrario"),
     ("aliases", .list [.text "terrario", .text "terrari"]),
     ("description", .text (lines
        ["Dei tre terrari nella stanza, quello al centro è completamente spoglio e il terreno " ++
           "sembra strano, smosso.",
         "\x7bMi chiedo perché qualcuno abbia dissodato il terreno senza poi aver piantato " ++
           "nulla.\x7d"])),
     ("location", .text "serra")]

def ricetrasmettitore : Content :=
  .mapping
    [("name", .text "Ricetrasmettitore"),
     ("aliases", .list [.text "ricetrasmettitore", .text "radio"]),
     ("description", .text (lines
        ["Un dispositivo portatile con pochi pulsanti ed un'antenna. Tra le frequenze attive, " ++
           "solo una è operativa:",
         "quella collegata alla radiotrasmittente dell'elicottero. \x7bPosso usarla solo per " ++
           "comunicare con Mugs (Il pilota)\x7d"])),
     ("location", .text "INVENTORY"),
     ("collectible", .bool true),
     ("activation", .mapping [("active", .bool false)])]

/-- The things of the outpost. -/
def all : Content :=
  .mapping
    [("pistola", pistola), ("dossier", dossier), ("diario", diario), ("fotografia", fotografia),
     ("torcia", torcia), ("lista", lista), ("pala", pala), ("lanciafiamme", lanciafiamme),
     ("analgesico", analgesico), ("poltiglia", poltiglia), ("terrario", terrario),
     ("ricetrasmettitore", ricetrasmettitore)]

end Adventure.Outpost.Items
