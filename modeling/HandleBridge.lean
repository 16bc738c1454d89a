import HandleBridge.Binding.Objection
import HandleBridge.Binding.Plan
import HandleBridge.Binding.Written
import HandleBridge.Buffer
import HandleBridge.Bytes
import HandleBridge.Config
import HandleBridge.Decimal.Binary64
import HandleBridge.Decimal.Shortest
import HandleBridge.Event
import HandleBridge.Export.Script
import HandleBridge.Export.World
import HandleBridge.Fault
import HandleBridge.Guest.Constant
import HandleBridge.Guest.Module
import HandleBridge.Guest.Record
import HandleBridge.Handle
import HandleBridge.Heap
import HandleBridge.Host
import HandleBridge.Host.Load
import HandleBridge.Json.Fields
import HandleBridge.Json.Number
import HandleBridge.Json.Problem
import HandleBridge.Json.Skip
import HandleBridge.Json.Text
import HandleBridge.LogBridge
import HandleBridge.Proofs.Store.Runs
import HandleBridge.Proofs.Store.Slots
import HandleBridge.Proofs.Store.WellFormed
import HandleBridge.Record
import HandleBridge.Region
import HandleBridge.Sample.Counter
import HandleBridge.Sample.Node
import HandleBridge.Sample.Types
import HandleBridge.Scalar
import HandleBridge.Source.Attribute
import HandleBridge.Source.ImplBlock
import HandleBridge.Source.Lexer
import HandleBridge.Source.Literal
import HandleBridge.Source.ParseFault
import HandleBridge.Source.Parser
import HandleBridge.Source.Pattern
import HandleBridge.Source.Tree
import HandleBridge.Source.TypeExpr
import HandleBridge.Store
import HandleBridge.Store.Bulk
import HandleBridge.Text.Extending
import HandleBridge.Text.Identifier
import HandleBridge.Text.LowerCase
import HandleBridge.Text.Quoted
import HandleBridge.Text.Unprintable
import HandleBridge.Text.Utf8
import HandleBridge.Proofs.Store.Lifetimes
import HandleBridge.Proofs.Store.Contents
import HandleBridge.Proofs.Export.Calls
import HandleBridge.Proofs.Buffer
import HandleBridge.Proofs.Record.Memory
import HandleBridge.Proofs.Record.Calls
import HandleBridge.Proofs.Record.Session
import HandleBridge.Proofs.Json.Written
import HandleBridge.Proofs.Config.RoundTrip
import HandleBridge.Proofs.Region
import HandleBridge.Proofs.Guest.Layout
import HandleBridge.Proofs.Guest.Calls
import HandleBridge.Proofs.Host.RecordGuest
import HandleBridge.Proofs.Store.Ledger
import HandleBridge.Proofs.Store.Turns
import HandleBridge.Proofs.Store.Counting
import HandleBridge.Proofs.Store.Reuse
import HandleBridge.Proofs.Export.Courses
import HandleBridge.Proofs.Export.Within
import HandleBridge.Proofs.Export.Aborts
import HandleBridge.Proofs.Export.Borrowing
import HandleBridge.Proofs.Export.Ownership
import HandleBridge.Proofs.Guest.Convention
import HandleBridge.Proofs.Host.Copies
import HandleBridge.Proofs.Store.Insertion
import HandleBridge.Proofs.Host.Sentinels
import HandleBridge.Proofs.Json.Grammar
import HandleBridge.Proofs.Json.Records
import HandleBridge.Proofs.Config.Fields
import HandleBridge.Proofs.Json.Crossing
import HandleBridge.Proofs.Binding.Names
import HandleBridge.Proofs.Binding.Acceptance
import HandleBridge.Proofs.Binding.Wrappers
import HandleBridge.Proofs.Binding.Protocol
import HandleBridge.Proofs.Buffer.Refills
import HandleBridge.Proofs.Export.Reentrancy
import HandleBridge.Proofs.Export.Rejection
import HandleBridge.Proofs.Buffer.Widths
import HandleBridge.Proofs.Record.Sentinels
import HandleBridge.Proofs.Source.Words
import HandleBridge.Proofs.Source.Lexing
import HandleBridge.Proofs.Binding.Totality
import HandleBridge.Proofs.Source.Keeps
import HandleBridge.Proofs.Store.Clearing
import HandleBridge.Proofs.Store.Churning
import HandleBridge.Proofs.Json.Recognized
import HandleBridge.Proofs.Json.Nesting
import HandleBridge.Proofs.Json.Exact
import HandleBridge.Proofs.Json.Paths
import HandleBridge.Proofs.Json.Cuts
import HandleBridge.Proofs.Json.Stopping
import HandleBridge.Proofs.Json.Broken
import HandleBridge.Proofs.Config.Places
import HandleBridge.Proofs.Config.Cuts
import HandleBridge.Proofs.Json.Respelled
import HandleBridge.Proofs.Json.Spelling
import HandleBridge.Proofs.Config.Spelling
import HandleBridge.Proofs.Config.Numbers
import HandleBridge.Proofs.Host.Requests
import HandleBridge.Proofs.Log.Sessions
import HandleBridge.Proofs.Log.Stores
import HandleBridge.Proofs.Log.Runtime
import HandleBridge.Proofs.Text.Utf8
import HandleBridge.Proofs.Log.Bridge
import HandleBridge.Proofs.Host.Texts
import HandleBridge.Proofs.Region.Access
import HandleBridge.Proofs.ReturnType
import HandleBridge.Proofs.Handle
