import TicMeter.Main
import TicMeter.Proofs.Interior
import TicMeter.Proofs.Transmission
import TicMeter.Proofs.Concatenation
import TicMeter.Proofs.Ascii
import TicMeter.Proofs.Reading
import TicMeter.Proofs.Fields
import TicMeter.Proofs.WellFormed
import TicMeter.Proofs.Writing
import TicMeter.Proofs.Encoding
import TicMeter.Proofs.RoundTrip
import TicMeter.Proofs.Statistics
import TicMeter.Proofs.Balance
import TicMeter.Proofs.Repair
import TicMeter.Proofs.Tiling
import TicMeter.Proofs.Path
import TicMeter.Proofs.Tree
import TicMeter.Proofs.Overwriting
import TicMeter.Proofs.Request
import TicMeter.Proofs.Fragmentation
import TicMeter.Proofs.Failure
import TicMeter.Proofs.Sum
import TicMeter.Proofs.Corruption
import TicMeter.Proofs.Reencoding
import TicMeter.Proofs.Classification
import TicMeter.Proofs.Resumption
import TicMeter.Proofs.KeyMap
import TicMeter.Proofs.Accounting
import TicMeter.Proofs.Document
import TicMeter.Proofs.Record
import TicMeter.Proofs.Report
import TicMeter.Proofs.Grammar
import TicMeter.Proofs.Sensitivity
import TicMeter.Proofs.Spelling
import TicMeter.Proofs.Normalization
import TicMeter.Proofs.Repetition
import TicMeter.Proofs.Handover
import TicMeter.Proofs.LineEnding
import TicMeter.Proofs.Reordering
import TicMeter.Proofs.Display
import TicMeter.Proofs.Agreement
import TicMeter.Proofs.Unambiguous
import TicMeter.Proofs.Summary
import TicMeter.Proofs.Holding
import TicMeter.Proofs.Utf8
import TicMeter.Proofs.Storing
import TicMeter.Proofs.Place
import TicMeter.Proofs.Regeneration
import TicMeter.Proofs.Presentation
import TicMeter.Proofs.Selection
