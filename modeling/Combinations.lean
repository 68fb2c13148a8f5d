import Combinations.Limits
import Combinations.Error
import Combinations.SizeRange
import Combinations.Statistics
import Combinations.Version
import Combinations.Binomial
import Combinations.IndexVector.Successor
import Combinations.IndexVector.Unrank
import Combinations.IndexVector.Listing
import Combinations.Decimal.Shortest
import Combinations.Text.CharClass
import Combinations.Text.CharClass.Unprintable
import Combinations.Text.CharClass.Extending
import Combinations.Text.Quoted
import Combinations.Text.Style
import Combinations.Value
import Combinations.Value.Numeral
import Combinations.Value.Reading
import Combinations.Config.Basic
import Combinations.Config.Total
import Combinations.Config.Listing
import Combinations.Config.Script
import Combinations.Config.Field
import Combinations.Config.Reading
import Combinations.Config.Writing
import Combinations.Event
import Combinations.Items
import Combinations.Walk
import Combinations.Sink
import Combinations.Enumerate
import Combinations.Text.Device
import Combinations.Text.Buffer
import Combinations.Text.Sink
import Combinations.Partition
import Combinations.Words.Calculation
import Combinations.Words.Counting
import Combinations.Words.Walk
import Combinations.Words.Partition
import Combinations.Proofs.Sorted
import Combinations.Proofs.Binomial
import Combinations.Proofs.Binomial.Rounds
import Combinations.Proofs.IndexVector.Listing
import Combinations.Proofs.IndexVector.Unrank
import Combinations.Proofs.IndexVector.Successor
import Combinations.Proofs.IndexVector.Traversal
import Combinations.Proofs.IndexVector.Pivot
import Combinations.Proofs.Config.Listing
import Combinations.Proofs.Walk.Landing
import Combinations.Proofs.Walk.Step
import Combinations.Proofs.Walk.Position
import Combinations.Proofs.Walk.SkipAhead
import Combinations.Proofs.Config.Total
import Combinations.Proofs.Sink
import Combinations.Proofs.Window
import Combinations.Proofs.Enumerate
import Combinations.Proofs.Text.Buffer
import Combinations.Proofs.Text.Sink
import Combinations.Proofs.Text.Delivery
import Combinations.Proofs.Partition
import Combinations.Proofs.Subdivision
import Combinations.Proofs.Restriction
import Combinations.Proofs.Uses
import Combinations.Proofs.Text.Progress
import Combinations.Proofs.Text.Failures
import Combinations.Proofs.Text.Bytes
import Combinations.Proofs.Text.Unambiguous
import Combinations.Proofs.Validation
import Combinations.Proofs.Config.Shape
import Combinations.Proofs.Config.Draft
import Combinations.Proofs.Config.Reading
import Combinations.Proofs.Config.RoundTrip
import Combinations.Proofs.Config.Succession
import Combinations.Proofs.Walk.Counters
import Combinations.Proofs.Walk.Course
import Combinations.Proofs.Config.Script
import Combinations.Proofs.Statistics
import Combinations.Proofs.Log
import Combinations.Proofs.Words.Calculation
import Combinations.Proofs.Words.Counting
import Combinations.Proofs.Words.Step
import Combinations.Proofs.Words.Walk
import Combinations.Proofs.Words.Partition
