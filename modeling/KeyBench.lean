import KeyBench.Bag
import KeyBench.Bench
import KeyBench.Bench.Echo
import KeyBench.Campaign
import KeyBench.Case
import KeyBench.Checker
import KeyBench.Command.Options
import KeyBench.Command.Rehearsal
import KeyBench.Command.Session
import KeyBench.Decimal.Shortest
import KeyBench.Event
import KeyBench.Event.Notation
import KeyBench.Event.Sequence
import KeyBench.Files
import KeyBench.Forecast
import KeyBench.Frame
import KeyBench.HostError
import KeyBench.Interleaving
import KeyBench.Json.Error
import KeyBench.Json.Number
import KeyBench.Json.Skip
import KeyBench.Json.Text
import KeyBench.Json.Wanted
import KeyBench.Key
import KeyBench.Key.Lookup
import KeyBench.Main
import KeyBench.Observation
import KeyBench.ObservationQueue
import KeyBench.ObservationQueue.Lines
import KeyBench.Proofs.Bench.Conformance
import KeyBench.Proofs.Bench.Leftovers
import KeyBench.Proofs.Bench.Reactions
import KeyBench.Proofs.Bench.Sending
import KeyBench.Proofs.Bench.Verdict
import KeyBench.Proofs.Bench.Writes
import KeyBench.Proofs.Campaign.Agenda
import KeyBench.Proofs.Campaign.Course
import KeyBench.Proofs.Case.Planning
import KeyBench.Proofs.Checker.Acceptance
import KeyBench.Proofs.Checker.Books
import KeyBench.Proofs.Checker.Calls
import KeyBench.Proofs.Checker.Continuations
import KeyBench.Proofs.Checker.Distinction
import KeyBench.Proofs.Checker.Histories
import KeyBench.Proofs.Checker.Likeness
import KeyBench.Proofs.Checker.Sightings
import KeyBench.Proofs.Command.Course
import KeyBench.Proofs.Event.Faults
import KeyBench.Proofs.Event.Grammar
import KeyBench.Proofs.Event.Histories
import KeyBench.Proofs.Event.Order
import KeyBench.Proofs.Event.Singles
import KeyBench.Proofs.Event.Strokes
import KeyBench.Proofs.Forecast.Openers
import KeyBench.Proofs.Forecast.Playable
import KeyBench.Proofs.Forecast.Positions
import KeyBench.Proofs.Forecast.Renaming
import KeyBench.Proofs.Frame.ByteReader
import KeyBench.Proofs.Frame.Codec
import KeyBench.Proofs.Frame.Flaws
import KeyBench.Proofs.Frame.Stream
import KeyBench.Proofs.Interleaving.Balance
import KeyBench.Proofs.Interleaving.Chances
import KeyBench.Proofs.Interleaving.Reach
import KeyBench.Proofs.Interleaving.Renaming
import KeyBench.Proofs.Interleaving.Turns
import KeyBench.Proofs.Json.Accepted
import KeyBench.Proofs.Json.Numbers
import KeyBench.Proofs.Json.ReadBack
import KeyBench.Proofs.Json.Strings
import KeyBench.Proofs.Json.Values
import KeyBench.Proofs.Key.Lookup
import KeyBench.Proofs.Key.Vocabularies
import KeyBench.Proofs.ObservationQueue.Hearing
import KeyBench.Proofs.ObservationQueue.Traffic
import KeyBench.Proofs.Random.Selection
import KeyBench.Proofs.Report.Delivery
import KeyBench.Proofs.Report.Members
import KeyBench.Proofs.Scenario.RoundTrip
import KeyBench.Proofs.Settings.Assignment
import KeyBench.Proofs.Settings.Members
import KeyBench.Proofs.Settings.Objects
import KeyBench.Proofs.Settings.RoundTrip
import KeyBench.Proofs.Settings.Setting
import KeyBench.Proofs.Sink.Prefixes
import KeyBench.Proofs.Text.Case
import KeyBench.Proofs.Text.Edges
import KeyBench.Proofs.Text.Pieces
import KeyBench.Proofs.Text.Words
import KeyBench.Random.Bounded
import KeyBench.Random.ChaCha
import KeyBench.Report
import KeyBench.Scenario
import KeyBench.Settings
import KeyBench.Settings.File
import KeyBench.Settings.Reader
import KeyBench.Settings.Writer
import KeyBench.Sink
import KeyBench.Text.Blank
import KeyBench.Text.Hex
import KeyBench.Text.Quoted
import KeyBench.Text.Shown
import KeyBench.Usage
