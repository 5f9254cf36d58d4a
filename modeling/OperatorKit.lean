import OperatorKit.Channel.Comparison
import OperatorKit.Channel.Version
import OperatorKit.CommandLine.Run
import OperatorKit.Discovery.Lookup
import OperatorKit.Json.Nesting
import OperatorKit.Json.Path
import OperatorKit.Main
import OperatorKit.Roster
import OperatorKit.Settings
import OperatorKit.Spec.Layers
import OperatorKit.Spec.Relation
import OperatorKit.TaskGroup
import OperatorKit.Proofs.Json.Lookup
import OperatorKit.Proofs.Spec.Entry
import OperatorKit.Proofs.Spec.Overlay
import OperatorKit.Proofs.Spec.PathSemantics
import OperatorKit.Proofs.Spec.Composition
import OperatorKit.Proofs.Spec.Absorption
import OperatorKit.Proofs.Spec.Extension
import OperatorKit.Proofs.Json.Reads
import OperatorKit.Proofs.Text.Utf8
import OperatorKit.Proofs.Json.StringText
import OperatorKit.Proofs.Decimal.Digits
import OperatorKit.Proofs.Decimal.Shortest
import OperatorKit.Proofs.Json.IntegerText
import OperatorKit.Proofs.Json.NumberText
import OperatorKit.Proofs.Json.ReadsValue
import OperatorKit.Proofs.Json.WrittenBytes
import OperatorKit.Proofs.Json.Written
import OperatorKit.Proofs.Json.RoundTrip
import OperatorKit.Proofs.Json.SkippingScalars
import OperatorKit.Proofs.Json.Skipping
import OperatorKit.Proofs.Json.RecordText
import OperatorKit.Proofs.Json.Levels
import OperatorKit.Proofs.Json.Sorting
import OperatorKit.Proofs.Spec.Restorable
import OperatorKit.Proofs.Spec.TextMerge
import OperatorKit.Proofs.Spec.Runs
import OperatorKit.Proofs.Spec.Reordering
import OperatorKit.Proofs.Channel.Readings
import OperatorKit.Proofs.Channel.Outcomes
import OperatorKit.Proofs.Channel.Order
import OperatorKit.Proofs.Channel.Agreement
import OperatorKit.Proofs.Channel.Numeral
import OperatorKit.Proofs.Channel.Grammar
import OperatorKit.Proofs.TaskGroup.Wait
import OperatorKit.Proofs.TaskGroup.Accounting
import OperatorKit.Proofs.Spec.StrictMerge
import OperatorKit.Proofs.CommandLine.MergeAgain
import OperatorKit.Proofs.Discovery.Document
import OperatorKit.Proofs.Channel.Reach
import OperatorKit.Proofs.Spec.Notes
import OperatorKit.Proofs.Text.ByteOrder
import OperatorKit.Proofs.Spec.MergeLog
import OperatorKit.Proofs.Channel.CanonicalName
import OperatorKit.Proofs.Discovery.FirstMatch
import OperatorKit.Proofs.Roster
import OperatorKit.Proofs.TaskGroup.SplitWait
import OperatorKit.Proofs.CommandLine.Precedence
