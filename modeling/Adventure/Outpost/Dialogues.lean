import Adventure.Outpost.Lines

/-!
# What can be said at the outpost

* `Dialogues.all`: the dialogues, one under the name of each person.
-/

namespace Adventure.Outpost.Dialogues

def guardia : Content :=
  .mapping
    [("lines", .list
        [.mapping
           [("id", .int 1),
            ("node", .int 1),
            ("reply", .int 1),
            ("text", .text "'Cos'è successo qui?'")],
         .mapping
           [("id", .int 2),
            ("node", .int 1),
            ("reply", .int 1),
            ("text", .text "'Chi ti ha fatto questo?'")],
         .mapping
           [("id", .int 3),
            ("node", .int 1),
            ("reply", .int 1),
            ("text", .text "'Ci sono altri superstiti?'")]]),
     ("replies",
      .list [.mapping [("id", .int 1), ("next_node", .int 1), ("text", .text "«Siiipsss...»")]])]

def sconosciuto : Content :=
  .mapping
    [("lines", .list
        [.mapping
           [("id", .int 4),
            ("node", .int 1),
            ("reply", .int 2),
            ("text", .text "Spiega chi sei.")],
         .mapping
           [("id", .int 5),
            ("node", .int 1),
            ("reply", .int 3),
            ("text", .text "Chiedi di smettere di sparare.")],
         .mapping
           [("id", .int 6),
            ("node", .int 1),
            ("reply", .int 4),
            ("text", .text "Spiega perché sei venuto.")],
         .mapping
           [("id", .int 7),
            ("node", .int 2),
            ("reply", .int 5),
            ("text", .text "'Non puoi. Devi soltanto fidarti di me.'")],
         .mapping
           [("id", .int 8),
            ("node", .int 2),
            ("reply", .int 5),
            ("text", .text "'Se lo fossi di certo non starei qui a parlarti...'")]]),
     ("replies", .list
        [.mapping
           [("id", .int 2),
            ("next_node", .int 1),
            ("effect", .mapping [("flags", .mapping [("survivor_heard", .bool true)])]),
            ("text", .text (lines
               ["«Basta!!!»",
                "[BAMM!!!]",
                "- Un altro proiettile fuoriesce dalla porta..."]))],
         .mapping
           [("id", .int 3),
            ("next_node", .int 1),
            ("effect", .mapping [("flags", .mapping [("survivor_heard", .bool true)])]),
            ("text", .text (lines
               ["«Solo dopo averti centrato in testa!!»",
                "[BAMM!!!]",
                "- Un altro proiettile fuoriesce dalla porta."]))],
         .mapping
           [("id", .int 4),
            ("next_node", .int 2),
            ("effect", .mapping [("flags", .mapping [("survivor_heard", .bool true)])]),
            ("text", .text (lines
               ["«...»",
                "«Tu...»",
                "«...ma come faccio a sapere che non sei uno di QUELLI?»"]))],
         .mapping
           [("id", .int 5),
            ("next_node", .null),
            ("effect", .mapping [("flags", .mapping [("survivor_heard", .bool true)])]),
            ("text", .text (lines
               ["«Sono io... Matthew Gasly. Ho inviato io il segnale di soccorso.",
                "Ma non posso lasciarti entrare... non posso rischiare. Questa COSA è " ++
                  "intelligente, astuta.",
                "Si rigenera, si adatta... è praticamente invulnerabile. Eccetto per una " ++
                  "cosa... il CALORE.",
                "Da qualche parte nell'avamposto deve esserci un LANCIAFIAMME. Trovalo e torna " ++
                  "da me.",
                "E ho bisogno di MEDICINE. Vai in infermeria, portami qualunque cosa che " ++
                  "riesci a trovare...»"]))]])]

def canide : Content :=
  .mapping
    [("lines", .list
        [.mapping
           [("id", .int 9),
            ("node", .int 1),
            ("reply", .int 6),
            ("text", .text "Fermo lì... FERMO!!! NON TI AVVICINARE!")],
         .mapping
           [("id", .int 10),
            ("node", .int 1),
            ("reply", .int 7),
            ("text", .text "Via... VIA!!!")],
         .mapping
           [("id", .int 11),
            ("node", .int 1),
            ("reply", .int 6),
            ("text", .text "ALLONTANATI!!!")]]),
     ("replies", .list
        [.mapping
           [("id", .int 6),
            ("next_node", .int 1),
            ("text", .text "GRRRRROOOOAAAARRRR ! ! !  ~wrrrrhhhhhh~ WROOOOFFF-WROOOOFFF")],
         .mapping
           [("id", .int 7),
            ("next_node", .int 1),
            ("text", .text "RROOOOAAARRRRRRRRRRRR")]])]

def gasly : Content :=
  .mapping
    [("lines", .list
        [.mapping
           [("id", .int 12),
            ("node", .int 1),
            ("reply", .int 8),
            ("text", .text "'Gasly, calmati. Metti giù la pistola, non sono tuo nemico.'")],
         .mapping
           [("id", .int 13),
            ("node", .int 1),
            ("reply", .int 9),
            ("text", .text
               ("'Non ho intenzione di farti del male. Guarda. [Tiri fuori l'analgesico] Ecco, " ++
                "prendi.'"))],
         .mapping
           [("id", .int 14),
            ("node", .int 2),
            ("reply", .int 12),
            ("text",
             .text "'No, Gasly... Temo che tu sia l'unico superstite di questo avamposto.'")],
         .mapping
           [("id", .int 15),
            ("node", .int 2),
            ("reply", .int 10),
            ("text",
             .text "'Gasly, devi concentrarti. Prendi l'analgesico, ti farà stare meglio...'")],
         .mapping
           [("id", .int 16),
            ("node", .int 2),
            ("reply", .int 11),
            ("text", .text "'Credimi, meno sai e meglio è...'")],
         .mapping
           [("id", .int 17),
            ("node", .int 2),
            ("reply", .int 12),
            ("text", .text "'Mi dispiace tanto... ho trovato qualcuno ma, nessuno di vivo.'")],
         .mapping
           [("id", .int 18),
            ("node", .int 3),
            ("reply", .int 14),
            ("text", .text
               "'Non ci resta più tempo per cercare, Gasly. C'è un elicottero che ci aspetta.'")],
         .mapping
           [("id", .int 19),
            ("node", .int 3),
            ("reply", .int 13),
            ("text",
             .text "'Ci ho quasi rimesso la pelle per trovarti. DOBBIAMO. ANDARE. ADESSO.'")],
         .mapping
           [("id", .int 20),
            ("node", .int 4),
            ("reply", .int 13),
            ("text",
             .text "'Non abbiamo altra scelta. Se ci fossero stati superstiti, li avrei trovati.'")],
         .mapping
           [("id", .int 21),
            ("node", .int 4),
            ("reply", .int 13),
            ("text", .text
               "'O vieni adesso, o me ne vado senza di te. Che ne pensi di QUESTO dubbio invece?'")]]),
     ("replies", .list
        [.mapping
           [("id", .int 8),
            ("next_node", .int 1),
            ("text", .text (lines
               ["«...»",
                "- Le tue parole sembrano non avere effetto... Gasly è impassibile e la " ++
                  "pistola è ancora puntata su di te."]))],
         .mapping
           [("id", .int 9),
            ("next_node", .int 2),
            ("text", .text (lines
               ["«...»",
                "- Gasly osserva a lungo l'analgesico che gli protendi; ad un certo punto " ++
                  "abbassa la pistola e, con uno scatto, lo prende.",
                "«Chi altro hai trovato? Quanti sono i superstiti?»"]))],
         .mapping
           [("id", .int 10),
            ("next_node", .int 2),
            ("text", .text (lines
               ["«...»",
                "- Travolto dalla rabbia, getta via il barattolo di analgesico, ritornando a " ++
                  "premere sulla sua domanda."]))],
         .mapping
           [("id", .int 11),
            ("next_node", .int 2),
            ("text", .text
               ("«Non sei tu a decidere cosa posso e non posso sapere!!! Adesso devi dirmi dove " ++
                "sono gli altri.»"))],
         .mapping
           [("id", .int 12),
            ("next_node", .int 3),
            ("text", .text (lines
               ["«...»",
                "- Gasly è visibilmente sconvolto, quasi sull'orlo di una crisi di nervi.",
                "«Non... non posso essere l'unico. Oddio, Sips... oh, Sips! Ci devono essere " ++
                  "altri là fuori! Torna a cercarli!!»"]))],
         .mapping
           [("id", .int 13),
            ("next_node", .null),
            ("text", .text (lines
               ["«...»",
                "- Gasly sembra aver finalmente accettato la realtà dei fatti: ormai non c'è " ++
                  "più nulla che lui possa fare.",
                "Finché ne ha la possibilità, deve mettersi in salvo."]))],
         .mapping
           [("id", .int 14),
            ("next_node", .int 4),
            ("text", .text (lines
               ["«...»",
                "- Gasly è tormentato dal dubbio e incapace di accettare la possibilità di " ++
                  "lasciare qualcuno indietro:",
                "«E se ti sbagliassi? E se altri fossero ancora vivi? Non posso vivere con " ++
                  "questo dubbio.»"]))]])]

def sips : Content :=
  .mapping
    [("lines", .list
        [.mapping
           [("id", .int 22),
            ("node", .int 1),
            ("reply", .int 15),
            ("text", .text
               ("'Ho setacciato ogni angolo dell'avamposto, ma di te nessuna traccia. Dove ti " ++
                "nascondevi?'"))],
         .mapping
           [("id", .int 23),
            ("node", .int 1),
            ("reply", .int 16),
            ("text", .text
               ("'Prima di morire, una delle guardie ha pronunciato il tuo nome, Sips. Hai idea " ++
                "del perché?'"))],
         .mapping
           [("id", .int 24),
            ("node", .int 1),
            ("reply", .int 17),
            ("text", .text
               "'Nella serra ho trovato il tuo quaderno. Ora dimmi, come si chiama tua moglie?'")],
         .mapping
           [("id", .int 25),
            ("node", .int 1),
            ("reply", .int 18),
            ("text", .text
               ("'Nella serra ho scoperto un corpo... senza testa. Sulla giacca c'era il nome " ++
                "Sips. Come me lo spieghi?'"))],
         .mapping
           [("id", .int 26),
            ("node", .int 1),
            ("reply", .int 19),
            ("text", .text "Usa il lanciafiamme")]]),
     ("replies", .list
        [.mapping
           [("id", .int 15),
            ("next_node", .int 1),
            ("text", .text (lines
               ["«Ero... ero nascosto in uno dei vani della cucina.»",
                "- Il suo corpo è completamente madido di sudore."]))],
         .mapping
           [("id", .int 16),
            ("next_node", .int 1),
            ("text", .text
               ("«Ero lì con lui, ma quando ho sentito dei passi avvicinarsi sono scappato a " ++
                "nascondermi.»"))],
         .mapping
           [("id", .int 17),
            ("next_node", .int 1),
            ("text", .text (lines
               ["«Il quaderno? Sì... sì, il quaderno. Clara... il suo nome è Clara.»",
                "- È come se stesse recitando una parte."]))],
         .mapping
           [("id", .int 18),
            ("next_node", .int 1),
            ("text", .text
               ("«Era uno di loro! Mi trovavo nella serra e all'improvviso... ho visto me stesso! " ++
                "Devi credermi!»"))],
         .mapping
           [("id", .int 19),
            ("next_node", .null),
            ("text", .text "«no-No-NO!, aspetta... ASPETTA!!!!»")]])]

def mugs : Content :=
  .mapping
    [("lines", .list
        [.mapping
           [("id", .int 27),
            ("node", .int 1),
            ("reply", .int 20),
            ("text", .text "'Mugs! Perché accidenti non hai risposto al ricetrasmettitore?'")],
         .mapping
           [("id", .int 28),
            ("node", .int 1),
            ("reply", .int 21),
            ("text", .text
               ("'Mugs! Perché non sei entrato a darmi una mano? Avrai sentito i miei colpi di " ++
                "pistola, no?!'"))],
         .mapping
           [("id", .int 29),
            ("node", .int 1),
            ("reply", .int 22),
            ("text", .text "'Mugs? Tutto bene amico...'")]]),
     ("replies", .list
        [.mapping
           [("id", .int 20),
            ("next_node", .int 1),
            ("text", .text (lines
               ["«...»",
                "Ancora silenzio... I suoi occhi vitrei rimangono fissi sull'orizzonte."]))],
         .mapping
           [("id", .int 21),
            ("next_node", .int 1),
            ("text", .text (lines
               ["«...»",
                "Mugs rimane immobile, le mani strette sul volante dell'elicottero."]))],
         .mapping
           [("id", .int 22),
            ("next_node", .null),
            ("text", .text (lines
               ["«...»",
                "Non c'è risposta... Lentamente, dentro di te, inizia a svelarsi un dubbio..."]))]])]

/-- The dialogues. -/
def all : Content :=
  .mapping
    [("guardia", guardia), ("sconosciuto", sconosciuto), ("canide", canide), ("gasly", gasly),
     ("sips", sips), ("mugs", mugs)]

end Adventure.Outpost.Dialogues
