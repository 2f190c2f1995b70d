import JourneyCost.Service.Server
import JourneyCost.Text.Shorten
import JourneyCost.Upkeep.Command
import JourneyCost.Proofs.Data.Staleness
import JourneyCost.Proofs.Map.Reading
import JourneyCost.Proofs.Route.Resolution
import JourneyCost.Proofs.Polyline.Grammar
import JourneyCost.Proofs.Polyline.RoundTrip
import JourneyCost.Proofs.Map.Remembering
import JourneyCost.Proofs.Decimal.WholeValue
import JourneyCost.Proofs.Toll.Identity
import JourneyCost.Proofs.Decimal.Rounding
import JourneyCost.Proofs.Decimal.Order
import JourneyCost.Proofs.Toll.Charging
import JourneyCost.Proofs.Json.Path
import JourneyCost.Proofs.Upkeep.Cheapest
import JourneyCost.Proofs.Upkeep.Merging
import JourneyCost.Proofs.Data.Written
import JourneyCost.Proofs.Upkeep.Dataset
import JourneyCost.Proofs.Upkeep.Building
import JourneyCost.Proofs.Fuel.Entries
import JourneyCost.Proofs.Upkeep.ReadBack
import JourneyCost.Proofs.Json.Lexeme
import JourneyCost.Proofs.Json.Nesting
import JourneyCost.Proofs.Json.Refusal
import JourneyCost.Proofs.Json.Number
import JourneyCost.Proofs.Json.Distinct
import JourneyCost.Proofs.Geo.Position
import JourneyCost.Proofs.Fault
import JourneyCost.Proofs.Map.Failing
import JourneyCost.Proofs.Polyline.Overrun
import JourneyCost.Proofs.Route.Geometry
import JourneyCost.Proofs.Route.Parsing
import JourneyCost.Proofs.Service.Running
import JourneyCost.Proofs.Trip.Reading
import JourneyCost.Proofs.Service.Answers
import JourneyCost.Proofs.Net.Session
import JourneyCost.Proofs.Route.Repeating
import JourneyCost.Proofs.Trip.Repeating
import JourneyCost.Proofs.Service.Independence
import JourneyCost.Proofs.Geo.Distance
import JourneyCost.Proofs.Toll.Isolation
import JourneyCost.Proofs.Toll.Reading
import JourneyCost.Proofs.Fuel.Reading
import JourneyCost.Proofs.Fuel.Cities
import JourneyCost.Proofs.Data.Loading
import JourneyCost.Proofs.Decimal.Sign
import JourneyCost.Proofs.Route.Validity
import JourneyCost.Proofs.Trip.Globe
import JourneyCost.Proofs.Route.Blame
import JourneyCost.Proofs.Route.Course
import JourneyCost.Proofs.Route.Outcome
import JourneyCost.Proofs.Trip.Fields
import JourneyCost.Proofs.Trip.Computing
import JourneyCost.Proofs.Trip.Reporting
import JourneyCost.Proofs.Service.Frame
import JourneyCost.Proofs.Upkeep.Lookup
import JourneyCost.Proofs.Upkeep.Locating
import JourneyCost.Proofs.Fuel.Reordered
import JourneyCost.Proofs.Upkeep.Repricing
import JourneyCost.Proofs.Decimal.Shortest
import JourneyCost.Proofs.Decimal.RoundTrip
import JourneyCost.Proofs.Decimal.Digits
import JourneyCost.Proofs.Json.NumberText
import JourneyCost.Proofs.Json.Quoted
import JourneyCost.Proofs.Json.RoundTrip
import JourneyCost.Proofs.Upkeep.Rebuilding
import JourneyCost.Proofs.Upkeep.Failing
import JourneyCost.Proofs.Trip.Accepted
import JourneyCost.Proofs.Service.Refusing
import JourneyCost.Proofs.Service.Standard
import JourneyCost.Proofs.Toll.Priority
import JourneyCost.Proofs.Toll.Merging
import JourneyCost.Proofs.Json.Spelling
import JourneyCost.Proofs.Text.Splitting
import JourneyCost.Proofs.Service.Encoded
import JourneyCost.Proofs.Service.Carriers
import JourneyCost.Proofs.Fuel.Pricing
import JourneyCost.Proofs.Route.Placed
import JourneyCost.Proofs.Geo.Thinning
import JourneyCost.Proofs.Route.Legs
import JourneyCost.Proofs.Service.Operations
import JourneyCost.Proofs.Service.Keeping
import JourneyCost.Proofs.Toll.Offers
import JourneyCost.Proofs.Decimal.Written
import JourneyCost.Proofs.Trip.Coordinates
import JourneyCost.Proofs.Service.Bodiless
import JourneyCost.Proofs.Trip.Naming
import JourneyCost.Proofs.Decimal.Places
import JourneyCost.Proofs.Upkeep.Usable
