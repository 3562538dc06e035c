import Adventure.Outpost.Lines

/-!
# The rooms of the outpost

* `Rooms.all`: the rooms, one under each name.
-/

namespace Adventure.Outpost.Rooms

def ingresso : Content :=
  .mapping
    [("name", .text "Ingresso"),
     ("description", .text (lines
        ["Ti trovi all'ingresso dell'avamposto.",
         "La porta è stata lasciata aperta, come se fosse stata dimenticata nel caos.",
         "Giacche e scarponi, abbandonati accanto all'entrata, sono sepolti sotto uno spesso " ++
           "strato di ghiaccio.",
         "Davanti a te si apre un'ampia stanza immersa nel silenzio."])),
     ("observation", .text "Non c'è niente d'interessante qui. Solo inutili indumenti."),
     ("exits", .mapping [("nord", .text "sala_comune"), ("sud", .text "EXIT")])]

def salaComune : Content :=
  .mapping
    [("name", .text "Sala Comune"),
     ("description", .text (lines
        ["Entri nella sala comune, accolto da un silenzio denso e inquietante.",
         "Divani e poltrone giacciono sparsi in disordine, alcuni rovesciati come se fossero " ++
           "stati usati per difendersi.",
         "Una televisione è ancora accesa, ma trasmette solo un ronzio statico."])),
     ("observation", .text (lines
        ["In un angolo, vicino alla porta, noti una bacheca affissa alla parete:",
         "una LISTA, che elenca nomi, dati personali ed incarichi di tutti i dipendenti " ++
           "dell'avamposto.",
         "\x7bForse vale la pena darle un'occhiata...\x7d"])),
     ("exits", .mapping
        [("nord", .text "sala_centrale"),
         ("sud", .text "ingresso"),
         ("est", .text "mensa")])]

def mensa : Content :=
  .mapping
    [("name", .text "Mensa"),
     ("description", .text (lines
        ["Entri nella mensa e vieni subito investito da un'atmosfera di desolazione e paura.",
         "Tavoli e sedie rovesciati, piatti e posate sparsi ovunque, come se tutti fossero " ++
           "fuggiti all'improvviso."])),
     ("observation", .text (lines
        ["Il silenzio è spezzato da un debole gemito.",
         "In un angolo, un UOMO giace a terra, disteso e tremante. Indossa la tua stessa " ++
           "divisa da GUARDIA, ora lacerata e macchiata di sangue.",
         "\x7bVuole dirmi qualcosa... Devo PARLARGLI\x7d"])),
     ("updated_observation", .text (lines
        ["Osservi la piccola pozza di sangue, proveniente dal corpo morto dell'uomo, che si " ++
           "spande lentamente verso l'altro lato della stanza.",
         "\x7bOrmai non c'è più nulla che io possa fare per lui. È morto\x7d"])),
     ("reason", .text "event"),
     ("exits", .mapping [("ovest", .text "sala_comune")])]

def salaCentrale : Content :=
  .mapping
    [("name", .text "Sala Centrale"),
     ("description", .text (lines
        ["Entri nella sala centrale dell'avamposto, un ambiente ampio e spoglio, illuminato da " ++
           "fredde lampade fluorescenti.",
         "Al centro, un lungo tavolo da conferenza è disseminato di mappe, fascicoli e appunti " ++
           "lasciati in disordine."])),
     ("observation", .text (lines
        ["Negli angoli della stanza, due corpi giacciono immobili.",
         "I volti sono pallidi, i loro occhi vitrei fissano il vuoto.",
         "\x7bNon c'è più nulla che io possa fare... sono morti.\x7d"])),
     ("exits", .mapping
        [("nord", .text "corridoio"),
         ("sud", .text "sala_comune"),
         ("est", .text "dormitorio"),
         ("ovest", .text "inizio_corridoio")])]

def dormitorio : Content :=
  .mapping
    [("name", .text "Dormitorio"),
     ("description", .text (lines
        ["Il dormitorio è una stanza fredda e austera, con letti a castello disposti lungo le " ++
           "pareti.",
         "Un'unica lampada al neon sfarfalla debolmente, gettando ombre inquietanti sugli " ++
           "armadietti metallici."])),
     ("observation", .text (lines
        ["Mentre osservi la stanza, senti un leggero scricchiolio sotto lo scarpone.",
         "Abbassi lo sguardo: hai calpestato qualcosa. Una FOTOGRAFIA, piegata e logora.",
         "\x7bDovrei ESAMINARLA meglio...\x7d"])),
     ("updated_observation", .text "Non c'è più niente d'interessante qui."),
     ("reason", .text "event"),
     ("exits", .mapping [("ovest", .text "sala_centrale")])]

def canile : Content :=
  .mapping
    [("name", .text "Canile"),
     ("description", .text (lines
        ["Non appena varchi la soglia, vieni investito da un tanfo acre e nauseante che " ++
           "impregna ogni angolo della stanza.",
         "Istintivamente ti porti una mano al naso, mentre cerchi di individuare l'origine " ++
           "dell'odore.",
         "Ma è impossibile: la stanza è avvolta nel buio più totale."])),
     ("observation", .text (lines
        ["Il pavimento è disseminato di ciuffi di peli bianchi e neri, eppure qui non c'è " ++
           "ombra di animale.",
         "In un angolo, noti una massa informe: una POLTIGLIA viscida, composta da peli, " ++
           "paglia e qualcosa che emana un odore rancido.",
         "\x7bDovrei ESAMINARLA meglio...\x7d"])),
     ("updated_observation", .text (lines
        ["Osservi la carcassa della creatura, già in stato di decomposizione.",
         "Tra i peli incrostati e il fango vischioso, intravedi delle sagome indistinte.",
         "\x7bPotrebbe esserci qualcosa di utile... meglio ESAMINARE di nuovo la POLTIGLIA.\x7d"])),
     ("reason", .text "torch"),
     ("visible", .bool false),
     ("exits", .mapping [("ovest", .text "corridoio")])]

def armeria : Content :=
  .mapping
    [("name", .text "Armeria"),
     ("description", .text (lines
        ["Entri nell'armeria, ma il caos regna sovrano.",
         "Gli scaffali sono vuoti e le rastrelliere per le armi sono state depredate.",
         "\x7bSembra non essere rimasto più nulla che io possa usare\x7d"])),
     ("observation", .text (lines
        ["In un angolo, noti un registro delle armi, aperto e pieno di annotazioni frettolose:",
         "\"Il LANCIAFIAMME è mancante. Qualcuno lo ha preso senza autorizzazione. 18 giugno - " ++
           "Szilard\"",
         "\x7bIl LANCIAFIAMME è stato sottratto prima che tutto precipitasse. Ma da chi? E " ++
           "perché?\x7d"])),
     ("exits", .mapping [("est", .text "corridoio")])]

def infermeria : Content :=
  .mapping
    [("name", .text "Infermeria"),
     ("description", .text (lines
        ["Entri nell'infermeria e ti ritrovi immerso in uno scenario di caos e devastazione.",
         "Gli armadietti metallici sono stati forzati e lasciati spalancati, flaconi di " ++
           "medicinali sparsi qua e là."])),
     ("observation", .text (lines
        ["Una fievole luce proveniente dalla finestra illumina un angolo della stanza dove, " ++
           "sotto una scrivania rovesciata,",
         "intravedi un flacone di ANALGESICO ancora intatto.",
         "\x7bQuesto potrebbe decisamente servirmi\x7d"])),
     ("updated_observation", .text "Qui non c'è più niente d'interessante"),
     ("reason", .text "event"),
     ("locked", .bool true),
     ("code", .text "20051982"),
     ("exits", .mapping [("est", .text "fine_corridoio")])]

def laboratorio : Content :=
  .mapping
    [("name", .text "Laboratorio"),
     ("description", .text (lines
        ["Entri in quello che sembra essere il laboratorio dell'avamposto.",
         "Al centro della stanza ci sono due lettini da operazione vuoti disposti uno accanto " ++
           "all'altro."])),
     ("observation", .text (lines
        ["Microscopi, provette e computer continuano a funzionare, mostrando analisi sui " ++
           "campioni prelevati da due corpi.",
         "Su uno dei tavoli, tra appunti sparsi, noti un DOSSIER ordinato con cura.",
         "\x7bPotrebbe contenere informazioni fondamentali. Meglio dargli un'occhiata.\x7d"])),
     ("exits", .mapping [("est", .text "inizio_corridoio")])]

def serra : Content :=
  .mapping
    [("name", .text "Serra"),
     ("description", .text (lines
        ["Appena entri, una visione insolita ti colpisce: il verde delle piante. Non lo vedevi " ++
           "da mesi.",
         "Al centro della stanza, tre lunghi terrari dominano lo spazio, ma appaiono " ++
           "abbandonati."])),
     ("observation", .text (lines
        ["Davanti a te, un corpo senza testa giace disteso sul pavimento!",
         "A poca distanza dal cadavere, hai notato un QUADERNETTO abbandonato per terra.",
         "\x7bMi chiedo chi possa essere stata questa persona. Forse da quel QUADERNO scoprirò " ++
           "qualcosa\x7d"])),
     ("updated_observation", .text (lines
        ["La stanza è adesso disseminata di terriccio sparso ovunque.",
         "Hai lasciato la serra in uno stato ben più inquietante di come l'avevi trovata."])),
     ("reason", .text "event"),
     ("locked", .bool true),
     ("code", .text "47187546"),
     ("exits", .mapping [("est", .text "meta_corridoio")])]

def inizioCorridoio : Content :=
  .mapping
    [("name", .text "Inizio Corridoio"),
     ("description", .text (lines
        ["Ti addentri in una nuova ala dell'avamposto.",
         "L'architettura qui appare diversa: più essenziale, più ordinata... eppure non meno " ++
           "inquietante."])),
     ("observation", .text "Non c'è nulla d'interessante"),
     ("exits", .mapping
        [("nord", .text "meta_corridoio"),
         ("est", .text "sala_centrale"),
         ("ovest", .text "laboratorio")])]

def metaCorridoio : Content :=
  .mapping
    [("name", .text "Metà del Corridoio"),
     ("description", .text (lines
        ["Il corridoio si estende sia a nord che a sud, perdendosi nell'oscurità.",
         "A ovest, una porta blindata porta una targa metallica consumata dal tempo: \"SERRA\"."])),
     ("observation", .text "Non c'è nulla d'interessante qui"),
     ("exits", .mapping
        [("nord", .text "fine_corridoio"),
         ("sud", .text "inizio_corridoio"),
         ("ovest", .text "serra")])]

def fineCorridoio : Content :=
  .mapping
    [("name", .text "Fine del Corridoio"),
     ("description", .text
        "Sei al termine del corridoio e a ovest vedi una porta blindata con la targa: INFERMERIA"),
     ("observation", .text "Non c'è nulla d'interessante qui"),
     ("exits", .mapping [("sud", .text "meta_corridoio"), ("ovest", .text "infermeria")])]

def corridoio : Content :=
  .mapping
    [("name", .text "Corridoio"),
     ("description", .text "Ti trovi nella sezione organizzativa dell'avamposto."),
     ("observation", .text "Non c'è nulla d'interessante qui, solo porte."),
     ("exits", .mapping
        [("nord", .text "sala_comunicazioni"),
         ("sud", .text "sala_centrale"),
         ("est", .text "canile"),
         ("ovest", .text "armeria")])]

def salaComunicazioni : Content :=
  .mapping
    [("name", .text "Sala Comunicazioni"),
     ("description", .text (lines
        ["Una grande radiotrasmittente domina la stanza, circondata da monitor che trasmettono " ++
           "solo un canale morto.",
         "Ma è lì, a terra, che il tuo sguardo si blocca:",
         "Gasly, disteso sul pavimento, ti punta una pistola contro. La mano gli trema... ma " ++
           "l'arma rimane sollevata."])),
     ("observation", .text (lines
        ["Il dottor Gasly è steso sul pavimento, il volto contratto dal dolore.",
         "\x7bQualunque cosa abbia visto... l'ha visibilmente destabilizzato. Devo calmarlo, " ++
           "devo PARLARGLI.\x7d"])),
     ("exits", .mapping [("sud", .text "corridoio")]),
     ("entry", .mapping
        [("preconditions", .mapping
            [("item_conditions", .list
                [.mapping [("item", .text "lanciafiamme"), ("location", .text "INVENTORY")],
                 .mapping [("item", .text "analgesico"), ("location", .text "INVENTORY")]])]),
         ("refusals", .list
            [.mapping
               [("preconditions",
                 .mapping [("flags", .mapping [("survivor_heard", .bool true)])]),
                ("message", .text
                   ("\x7bEntrerò quando avrò trovato sia il lanciafiamme che le medicine. Meglio " ++
                    "cercare un'Armeria e l'Infermeria\x7d"))],
             .mapping
               [("preconditions",
                 .mapping [("flags", .mapping [("survivor_warned", .bool false)])]),
                ("effect", .mapping [("flags", .mapping [("survivor_warned", .bool true)])]),
                ("message", .text (lines
                   ["Mentre giri la maniglia, senti un forte fragore dall'interno:",
                    "BAMM!!!.",
                    "Le tue orecchie iniziano a fischiare quando ti accorgi di un foro nella " ++
                      "porta.",
                    "Ti stanno sparando contro!!",
                    "Indietreggi rapidamente, illeso, mentre un altro proiettile colpisce il " ++
                      "muro.",
                    "Dalla stanza proviene una voce maschile che grida: \"STAI INDIETRO!!!\"",
                    "\x7bUn superstite! Quest'UOMO è armato e terrorizzato. Devo farlo " ++
                      "ragionare prima di entrare, devo PARLARGLI.\x7d"]))],
             .mapping
               [("message", .text
                   ("\x7bL'UOMO è armato, non posso rischiare di farmi uccidere. Devo PARLARGLI " ++
                    "prima di entrare.\x7d"))]])])]

/-- The rooms of the outpost. -/
def all : Content :=
  .mapping
    [("ingresso", ingresso),
     ("sala_comune", salaComune),
     ("mensa", mensa),
     ("sala_centrale", salaCentrale),
     ("dormitorio", dormitorio),
     ("canile", canile),
     ("armeria", armeria),
     ("infermeria", infermeria),
     ("laboratorio", laboratorio),
     ("serra", serra),
     ("inizio_corridoio", inizioCorridoio),
     ("meta_corridoio", metaCorridoio),
     ("fine_corridoio", fineCorridoio),
     ("corridoio", corridoio),
     ("sala_comunicazioni", salaComunicazioni)]

end Adventure.Outpost.Rooms
