import JitHost.Address
import JitHost.Command.Arguments
import JitHost.Command.Error
import JitHost.Command.Option
import JitHost.Command.Program
import JitHost.Command.Report
import JitHost.Command.Usage
import JitHost.Config.Reader
import JitHost.Config.Settings
import JitHost.Diagnostic
import JitHost.Engine.Basic
import JitHost.Engine.CodeBuffer
import JitHost.Engine.Error
import JitHost.Engine.Jit
import JitHost.Engine.Routine
import JitHost.Engine.Scripted
import JitHost.Files.FileSystem
import JitHost.Files.Path
import JitHost.Host.Api
import JitHost.Host.Call
import JitHost.Host.Error
import JitHost.Host.Stack
import JitHost.Ir.Code
import JitHost.Ir.Cursor
import JitHost.Ir.Evaluation
import JitHost.Ir.Flow
import JitHost.Ir.Function
import JitHost.Ir.Machine
import JitHost.Ir.Memory
import JitHost.Ir.Native
import JitHost.Ir.Opcode
import JitHost.Ir.Reader
import JitHost.Ir.Token
import JitHost.Ir.Verification
import JitHost.Link.Checked
import JitHost.Link.Patch
import JitHost.Link.Plan
import JitHost.Link.Relocation
import JitHost.Main
import JitHost.Number.Arithmetic
import JitHost.Number.Binary
import JitHost.Number.Decimal
import JitHost.Number.Double
import JitHost.Number.Literal
import JitHost.Session.Basic
import JitHost.Session.Error
import JitHost.Session.ErrorLog
import JitHost.Session.Symbols
import JitHost.Session.Values
import JitHost.Text.Blank
import JitHost.Text.Bytes
import JitHost.Text.Digits
import JitHost.Text.Hex
import JitHost.Text.Lines
import JitHost.Text.Quoted
import JitHost.Text.Unshown
import JitHost.Toml.Reader
import JitHost.Toml.Scalar
import JitHost.Toml.Scan
import JitHost.Toml.Value
import JitHost.Value.Basic
import JitHost.Value.Display
import JitHost.Value.Heap
import JitHost.Value.Table
import JitHost.Word
import JitHost.Proofs.Host.Isolation
import JitHost.Proofs.Host.Attribution
import JitHost.Proofs.Link.Bytes
import JitHost.Proofs.Link.Sites
import JitHost.Proofs.Link.Layout
import JitHost.Proofs.Link.Image
import JitHost.Proofs.Link.NameOrder
import JitHost.Proofs.Link.Reports
import JitHost.Proofs.Link.Rebasing
import JitHost.Proofs.Session.Requests
import JitHost.Proofs.Session.Lifecycle
import JitHost.Proofs.Session.Resources
import JitHost.Proofs.Session.HostRequests
import JitHost.Proofs.Session.EngineCalls
import JitHost.Proofs.Engine.PlanCache
import JitHost.Proofs.Engine.Steps
import JitHost.Proofs.Value.Keys
import JitHost.Proofs.Value.Entries
import JitHost.Proofs.Value.InsertionOrder
import JitHost.Proofs.Engine.NameResolution
import JitHost.Proofs.Engine.Visibility
import JitHost.Proofs.Session.Collected
import JitHost.Proofs.Session.Alike
import JitHost.Proofs.Session.Linked
import JitHost.Proofs.Session.Exports
import JitHost.Proofs.Session.Interleaving
import JitHost.Proofs.Session.TableExports
import JitHost.Proofs.Session.Gates
import JitHost.Proofs.Session.Imports
import JitHost.Proofs.Session.Messages
import JitHost.Proofs.Engine.Batches
import JitHost.Proofs.Link.Ranges
import JitHost.Proofs.Link.Placement
import JitHost.Proofs.Host.Accounting
import JitHost.Proofs.Host.Indices
import JitHost.Proofs.Host.StackEffects
import JitHost.Proofs.Number.Rounding
import JitHost.Proofs.Number.Decimals
import JitHost.Proofs.Text.Digits
import JitHost.Proofs.Number.Quantity
import JitHost.Proofs.Number.Reading
import JitHost.Proofs.Host.Conversion
import JitHost.Proofs.Value.Equality
import JitHost.Proofs.Host.Observation
import JitHost.Proofs.Host.FieldStores
import JitHost.Proofs.Command.Lines
import JitHost.Proofs.Command.Labels
import JitHost.Proofs.Text.LineSpans
import JitHost.Proofs.Host.Arguments
import JitHost.Proofs.Value.Compaction
import JitHost.Proofs.Engine.FailureCount
import JitHost.Proofs.Host.Resizing
import JitHost.Proofs.Link.Overflow
