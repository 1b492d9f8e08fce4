import ContactHistory.Main
import ContactHistory.Http.Layers
import ContactHistory.Http.Target
import ContactHistory.Proofs.ByteOrder
import ContactHistory.Proofs.ContactOrder
import ContactHistory.Proofs.Grouping
import ContactHistory.Proofs.Intake
import ContactHistory.Proofs.Rearrangement
import ContactHistory.Proofs.PollingEnd
import ContactHistory.Proofs.Outcomes
import ContactHistory.Proofs.InTurn
import ContactHistory.Proofs.FailFast
import ContactHistory.Proofs.FilteredHistory
import ContactHistory.Proofs.LoadedSettings
import ContactHistory.Proofs.SourceNames
import ContactHistory.Proofs.Registration
import ContactHistory.Proofs.LoadedHistory
import ContactHistory.Proofs.Json.Quoted
import ContactHistory.Proofs.Json.Number
import ContactHistory.Proofs.Json.Taking
import ContactHistory.Proofs.Json.Members
import ContactHistory.Proofs.PayloadRoundTrip
import ContactHistory.Proofs.PayloadIdentity
import ContactHistory.Proofs.PercentRoundTrip
import ContactHistory.Proofs.CommaLists
import ContactHistory.Proofs.AddressFilters
import ContactHistory.Proofs.FormRoundTrip
import ContactHistory.Proofs.FrontEnds.Arguments
import ContactHistory.Proofs.Answers
import ContactHistory.Proofs.FrontEnds.Posted
import ContactHistory.Proofs.FrontEnds.Asked
import ContactHistory.Proofs.FrontEnds.Agreement
import ContactHistory.Proofs.RowDecoding
import ContactHistory.Proofs.DatabaseRuns
import ContactHistory.Proofs.LastUpdate
import ContactHistory.Proofs.Exchanges
import ContactHistory.Proofs.FrontEnds.Requests
import ContactHistory.Proofs.Queries
import ContactHistory.Proofs.RequestCounts
import ContactHistory.Proofs.RunCounts
import ContactHistory.Proofs.RouteLabels
import ContactHistory.Proofs.Time.Numerals
import ContactHistory.Proofs.Time.CalendarTexts
import ContactHistory.Proofs.Backfill
import ContactHistory.Proofs.DisplayNames
import ContactHistory.Proofs.FrontEnds.SingleContact
import ContactHistory.Proofs.FrontEnds.DefaultSources
import ContactHistory.Proofs.FrontEnds.Handlers
import ContactHistory.Proofs.HostNames
import ContactHistory.Proofs.Locators
