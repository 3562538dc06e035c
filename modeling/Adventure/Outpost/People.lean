import Adventure.Outpost.Lines

/-!
# The people of the outpost

* `People.all`: the people, and what has become of some of them.
-/

namespace Adventure.Outpost.People

def guardia : Content :=
  .mapping
    [("name", .text "Guardia"),
     ("aliases", .list [.text "uomo", .text "sorvegliante", .text "guardia"]),
     ("room", .text "mensa")]

def sconosciuto : Content :=
  .mapping
    [("name", .text "Sconosciuto"),
     ("aliases", .list [.text "sconosciuto", .text "superstite", .text "uomo"]),
     ("room", .text "corridoio"),
     ("talk_preconditions", .mapping [("flags", .mapping [("survivor_warned", .bool true)])])]

def sips : Content :=
  .mapping [("name", .text "Sips"), ("aliases", .list [.text "sips"]), ("room", .null)]

def canide : Content :=
  .mapping
    [("name", .text "Canide"),
     ("aliases", .list [.text "cane", .text "cosa", .text "creatura"]),
     ("room", .text "canile"),
     ("talk_preconditions", .mapping
        [("flags",
          .mapping [("antagonist_active", .bool true), ("antagonist_defeated", .bool false)])])]

def gasly : Content :=
  .mapping
    [("name", .text "Gasly"),
     ("aliases", .list [.text "Gasly", .text "Dottore", .text "gasly"]),
     ("room", .text "sala_comunicazioni")]

def mugs : Content :=
  .mapping [("name", .text "Mugs"), ("aliases", .list [.text "mugs"]), ("room", .null)]

/-- The people of the outpost. -/
def all : Content :=
  .mapping
    [("guardia", guardia), ("sconosciuto", sconosciuto), ("sips", sips), ("canide", canide),
     ("gasly", gasly), ("mugs", mugs)]

end Adventure.Outpost.People
