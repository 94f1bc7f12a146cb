import Interconnect.Binding
import Interconnect.Bytes.Word
import Interconnect.Chip.Builder
import Interconnect.Chip.Database
import Interconnect.Chip.Error
import Interconnect.Chip.File
import Interconnect.Chip.Payload
import Interconnect.Chip.Record
import Interconnect.Codec
import Interconnect.CommandLine.Arguments
import Interconnect.CommandLine.FileTree
import Interconnect.CommandLine.Report
import Interconnect.CommandLine.Run
import Interconnect.Constraint.Basic
import Interconnect.Constraint.Words
import Interconnect.ContentHash
import Interconnect.Context.Basic
import Interconnect.Context.Placement
import Interconnect.Context.Routing
import Interconnect.Delay
import Interconnect.Device.Basic
import Interconnect.Device.Blacklist
import Interconnect.Device.ClockRegion
import Interconnect.Device.Names
import Interconnect.Diagnostic
import Interconnect.Estimate
import Interconnect.Family
import Interconnect.Fault
import Interconnect.Flow
import Interconnect.Grid
import Interconnect.Gzip.Container
import Interconnect.Gzip.Crc32
import Interconnect.Gzip.Huffman
import Interconnect.Gzip.Inflate
import Interconnect.Ident.Known
import Interconnect.Ident.Table
import Interconnect.Main
import Interconnect.Netlist
import Interconnect.Proofs.Building.Delays
import Interconnect.Proofs.Building.Finish
import Interconnect.Proofs.Building.Names
import Interconnect.Proofs.Building.Nodes
import Interconnect.Proofs.Building.Step
import Interconnect.Proofs.Building.Tiles
import Interconnect.Proofs.Building.Wiring
import Interconnect.Proofs.Constraint.Brackets
import Interconnect.Proofs.Constraint.Lines
import Interconnect.Proofs.Constraint.Words
import Interconnect.Proofs.Constraint.Written
import Interconnect.Proofs.Device.Accepted
import Interconnect.Proofs.Device.Adjacency
import Interconnect.Proofs.Device.ClockRow
import Interconnect.Proofs.Device.Identifiers
import Interconnect.Proofs.Device.Lookup
import Interconnect.Proofs.Device.Member
import Interconnect.Proofs.Device.Open
import Interconnect.Proofs.Device.Range
import Interconnect.Proofs.Estimate.Anchor
import Interconnect.Proofs.Estimate.Box
import Interconnect.Proofs.Estimate.Cluster
import Interconnect.Proofs.Estimate.Distance
import Interconnect.Proofs.Estimate.Nearest
import Interconnect.Proofs.Estimate.Penalty
import Interconnect.Proofs.Estimate.Rectangle
import Interconnect.Proofs.Estimate.Separation
import Interconnect.Proofs.Flow.Recorded
import Interconnect.Proofs.Format.Codec
import Interconnect.Proofs.Format.Delimited
import Interconnect.Proofs.Format.File
import Interconnect.Proofs.Format.Gzip
import Interconnect.Proofs.Format.Payload
import Interconnect.Proofs.Names.Bel
import Interconnect.Proofs.Names.Index
import Interconnect.Proofs.Names.Number
import Interconnect.Proofs.Names.PackagePin
import Interconnect.Proofs.Names.Pip
import Interconnect.Proofs.Names.Registered
import Interconnect.Proofs.Names.Wire
import Interconnect.Proofs.Netlist.Connected
import Interconnect.Proofs.Netlist.Edited
import Interconnect.Proofs.Ownership.Change
import Interconnect.Proofs.Ownership.Effect
import Interconnect.Proofs.Ownership.Lock
import Interconnect.Proofs.Ownership.Operation
import Interconnect.Proofs.Ownership.Record
import Interconnect.Proofs.Ownership.Rise
import Interconnect.Proofs.Ownership.Run
import Interconnect.Proofs.Placement.Available
import Interconnect.Proofs.Placement.Locked
import Interconnect.Proofs.Placement.Seating
import Interconnect.Proofs.Placement.Users
import Interconnect.Proofs.Renumbering.Alike
import Interconnect.Proofs.Renumbering.Binding
import Interconnect.Proofs.Renumbering.Chip
import Interconnect.Proofs.Renumbering.Order
import Interconnect.Proofs.Renumbering.Pass
import Interconnect.Proofs.Renumbering.Passes
import Interconnect.Proofs.Renumbering.Relation
import Interconnect.Proofs.Renumbering.Search
import Interconnect.Proofs.Renumbering.Sinks
import Interconnect.Proofs.Routing.Again
import Interconnect.Proofs.Routing.Count
import Interconnect.Proofs.Routing.Dedicated
import Interconnect.Proofs.Routing.Ending
import Interconnect.Proofs.Routing.Ends
import Interconnect.Proofs.Routing.Eviction
import Interconnect.Proofs.Routing.Granted
import Interconnect.Proofs.Routing.Growth
import Interconnect.Proofs.Routing.Locked
import Interconnect.Proofs.Routing.Pass
import Interconnect.Proofs.Routing.Path
import Interconnect.Proofs.Routing.Search
import Interconnect.Proofs.Routing.Shortest
import Interconnect.Proofs.Routing.Tree
import Interconnect.Proofs.Settings.Accepted
import Interconnect.Proofs.SinkLocation.Discovery
import Interconnect.Proofs.SinkLocation.Nearest
import Interconnect.Proofs.SinkLocation.OnTiles
import Interconnect.Proofs.Timing.CellDelay
import Interconnect.Proofs.Timing.Lookup
import Interconnect.Proofs.Timing.Recorded
import Interconnect.Routing.Dedicated
import Interconnect.Routing.Search
import Interconnect.Routing.SinkLocation
import Interconnect.Settings.Basic
import Interconnect.Settings.Document
import Interconnect.Text.Blank
import Interconnect.Text.Columns
import Interconnect.Text.Json
import Interconnect.Text.Lines
import Interconnect.Text.Number
import Interconnect.Text.Quoted
import Interconnect.Text.Search
import Interconnect.Text.Visible
import Interconnect.Timing
import Interconnect.Toml.Document
import Interconnect.Toml.Moment
import Interconnect.Toml.Number
import Interconnect.Toml.Quoted
import Interconnect.Toml.Space
import Interconnect.Toml.Value
