import DropLedger.Main
import DropLedger.Store.Queue
import DropLedger.Proofs.Basic
import DropLedger.Proofs.Json.Agreement
import DropLedger.Proofs.Json.Fields
import DropLedger.Proofs.Json.Layout
import DropLedger.Proofs.Json.Literal
import DropLedger.Proofs.Json.Number
import DropLedger.Proofs.Json.Numeral
import DropLedger.Proofs.Decimal
import DropLedger.Proofs.Json.Rereading
import DropLedger.Proofs.Json.Sequence
import DropLedger.Proofs.Lines
import DropLedger.Proofs.Utf8
import DropLedger.Proofs.Json.Value
import DropLedger.Proofs.Json.Soundness
import DropLedger.Proofs.Json.Skipping
import DropLedger.Proofs.Json.Spelling
import DropLedger.Proofs.Json.Pretty
import DropLedger.Proofs.Blank
import DropLedger.Proofs.Kill.Agreement
import DropLedger.Proofs.Kill.Layout
import DropLedger.Proofs.Kill.Line
import DropLedger.Proofs.Kill.Log
import DropLedger.Proofs.Kill.Older
import DropLedger.Proofs.Kill.Range
import DropLedger.Proofs.Key
import DropLedger.Proofs.Disk.Tree
import DropLedger.Proofs.Disk.Walk
import DropLedger.Proofs.Disk.Path
import DropLedger.Proofs.Disk.Lookup
import DropLedger.Proofs.Disk.Changed
import DropLedger.Proofs.Disk.Writing
import DropLedger.Proofs.Selection
import DropLedger.Proofs.Store.Requests
import DropLedger.Proofs.Store.Ledger
import DropLedger.Proofs.Store.Crash
import DropLedger.Proofs.Disk.Keys
import DropLedger.Proofs.Store.History
import DropLedger.Proofs.Store.Canonical
import DropLedger.Proofs.Disk.Listing
import DropLedger.Proofs.Store.Loading
import DropLedger.Proofs.Store.Migration
import DropLedger.Proofs.Store.Failure
import DropLedger.Proofs.Disk.Alike
import DropLedger.Proofs.Disk.AlikeWriting
import DropLedger.Proofs.Disk.Journal
import DropLedger.Proofs.Component
import DropLedger.Proofs.Key.Respelled
import DropLedger.Proofs.Store.Footprint
import DropLedger.Proofs.Store.Twin
import DropLedger.Proofs.Store.Containment
import DropLedger.Proofs.Disk.Steps
import DropLedger.Proofs.Disk.Turns
import DropLedger.Proofs.Disk.Writable
import DropLedger.Proofs.Disk.Blocked
import DropLedger.Proofs.Store.Queue
import DropLedger.Proofs.Store.Interruption
import DropLedger.Proofs.Store.Growth
import DropLedger.Proofs.Store.LateDrops
import DropLedger.Proofs.Store.Amendment
import DropLedger.Proofs.Tally
import DropLedger.Proofs.Summary
import DropLedger.Proofs.Tally.Totals
import DropLedger.Proofs.Tally.Merge
import DropLedger.Proofs.Tally.Order
import DropLedger.Proofs.Store.Tallies
import DropLedger.Proofs.Store.LineByLine
import DropLedger.Proofs.Store.Views
import DropLedger.Proofs.Store.Players
import DropLedger.Proofs.Settings
import DropLedger.Proofs.Settings.File
import DropLedger.Proofs.Command.DropArgument
import DropLedger.Proofs.Command.Invocation
import DropLedger.Proofs.Command.Record
