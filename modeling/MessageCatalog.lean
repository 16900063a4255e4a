import MessageCatalog.Main
import MessageCatalog.Traversal.Schedule
import MessageCatalog.Proofs.Schedule.Invariant
import MessageCatalog.Proofs.Schedule.Delivery
import MessageCatalog.Proofs.Call.Closing
import MessageCatalog.Proofs.Call.Selection
import MessageCatalog.Proofs.Call.Respacing
import MessageCatalog.Proofs.Literal.Captured
import MessageCatalog.Proofs.Listing.Order
import MessageCatalog.Proofs.Listing.Entries
import MessageCatalog.Proofs.Walk.Route
import MessageCatalog.Proofs.Listing.Below
import MessageCatalog.Proofs.Listing.Ignored
import MessageCatalog.Proofs.Listing.SpelledOut
import MessageCatalog.Proofs.Listing.NewFile
import MessageCatalog.Extraction.Pipeline
import MessageCatalog.Proofs.Schedule.Completion
import MessageCatalog.Proofs.Pipeline.Traversing
import MessageCatalog.Proofs.Pipeline.Invariant
import MessageCatalog.Proofs.Pipeline.Writing
import MessageCatalog.Proofs.Pipeline.Completion
import MessageCatalog.Proofs.Pipeline.Outcome
import MessageCatalog.Proofs.Pipeline.SpelledOut
import MessageCatalog.Proofs.Pipeline.Simulation
import MessageCatalog.Proofs.Settings.Init
import MessageCatalog.Proofs.Catalog.Reading
import MessageCatalog.Proofs.Catalog.Spelling
import MessageCatalog.Proofs.Schedule.Ending
import MessageCatalog.Proofs.Schedule.Locations
import MessageCatalog.Proofs.Schedule.Accounts
import MessageCatalog.Proofs.Path.Relative
import MessageCatalog.Proofs.Source.Returns
import MessageCatalog.Proofs.Path.Clean
import MessageCatalog.Proofs.Path.Location
import MessageCatalog.Proofs.Catalog.Limited
import MessageCatalog.Proofs.Json.Tokens
import MessageCatalog.Proofs.Json.Values
import MessageCatalog.Proofs.Json.Objects
import MessageCatalog.Proofs.Settings.Printed
import MessageCatalog.Proofs.Call.Rounds
import MessageCatalog.Proofs.Settings.Nearest
import MessageCatalog.Proofs.Progress
