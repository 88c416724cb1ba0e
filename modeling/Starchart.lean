import Starchart.Main
import Starchart.Random.Scripted
import Starchart.Proofs.Answers
import Starchart.Proofs.Digits
import Starchart.Proofs.Outcome
import Starchart.Proofs.Settlement
import Starchart.Proofs.Bodies
import Starchart.Proofs.Decisions
import Starchart.Proofs.Fillings
import Starchart.Proofs.Orbits
import Starchart.Proofs.Moons
import Starchart.Proofs.Growth
import Starchart.Proofs.Layout
import Starchart.Proofs.Journals
import Starchart.Proofs.Yields
import Starchart.Proofs.Effects
import Starchart.Proofs.Seat
import Starchart.Proofs.Companions
import Starchart.Proofs.Fresh
import Starchart.Proofs.Separation
import Starchart.Proofs.Phases
import Starchart.Proofs.Arrival
import Starchart.Proofs.Traversal
import Starchart.Proofs.Generation
import Starchart.Proofs.Systems
import Starchart.Proofs.TradeClasses
import Starchart.Proofs.Legibility
import Starchart.Proofs.Habitable
import Starchart.Proofs.Occupants
import Starchart.Proofs.Furnishing
import Starchart.Proofs.SatelliteLists
import Starchart.Proofs.LesserWorlds
import Starchart.Proofs.MainMoon
import Starchart.Proofs.Surveys
import Starchart.Proofs.Agreement
import Starchart.Proofs.RetryLimit
import Starchart.Proofs.Keeping
import Starchart.Proofs.Displacement
import Starchart.Proofs.Ledger
import Starchart.Proofs.Clearings
import Starchart.Proofs.Constellations
import Starchart.Proofs.Calls
import Starchart.Proofs.FiniteTrees
import Starchart.Proofs.Listings
import Starchart.Proofs.Faults
import Starchart.Proofs.Steps
import Starchart.Proofs.Frames
import Starchart.Proofs.Constancy
import Starchart.Proofs.PhaseCalls
import Starchart.Proofs.Echoes
import Starchart.Proofs.Twins
import Starchart.Proofs.Renaming
import Starchart.Proofs.Placing
import Starchart.Proofs.ListedTexts
import Starchart.Proofs.Sessions
import Starchart.Proofs.Stages
import Starchart.Proofs.Naming
import Starchart.Proofs.Vacancies
import Starchart.Proofs.Attaching
import Starchart.Proofs.Hosts
import Starchart.Proofs.Spelling
import Starchart.Proofs.OrbitSearch
import Starchart.Proofs.Tidying
import Starchart.Proofs.SurfaceCover
import Starchart.Proofs.Tokens
import Starchart.Proofs.FileObjects
import Starchart.Proofs.StoredSettings
