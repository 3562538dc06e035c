import Adventure.Main
import Adventure.Proofs.Session.Aim
import Adventure.Proofs.Session.Alarm
import Adventure.Proofs.Session.Arrival
import Adventure.Proofs.Session.Containment
import Adventure.Proofs.Session.Departure
import Adventure.Proofs.Session.Dialogues
import Adventure.Proofs.Session.Exactness
import Adventure.Proofs.Session.Hunt
import Adventure.Proofs.Session.Loading
import Adventure.Proofs.Session.Pickup
import Adventure.Proofs.Session.Progress
import Adventure.Proofs.Session.Refusals
import Adventure.Proofs.Session.Safety
import Adventure.Proofs.Session.Shots
import Adventure.Proofs.Session.Torch
import Adventure.Proofs.Session.Walk
import Adventure.Proofs.Talk.Ends
import Adventure.Proofs.Ticker
import Adventure.Proofs.Turn.Help
import Adventure.Proofs.World.Established
