import Bindery.Accessor
import Bindery.Association
import Bindery.Bytes
import Bindery.Cache
import Bindery.Callback.Registry
import Bindery.Callback.Script
import Bindery.Check.Types
import Bindery.Check.Filter
import Bindery.Check.Output
import Bindery.ClassModule
import Bindery.CommandLine
import Bindery.Config
import Bindery.Container.Codec
import Bindery.Container.Method
import Bindery.Container.Temporary
import Bindery.Container.View
import Bindery.Context
import Bindery.Default
import Bindery.Delegate
import Bindery.Document.Basic
import Bindery.Document.Convert
import Bindery.Document.Json
import Bindery.Document.Toml
import Bindery.DynamicCall
import Bindery.Effect
import Bindery.Element
import Bindery.Engine.Basic
import Bindery.Engine.Primitives
import Bindery.Engine.Storage
import Bindery.Enum.Class
import Bindery.Enum.Layout
import Bindery.Fault
import Bindery.FileTree
import Bindery.Filter
import Bindery.FuncTable
import Bindery.Generator
import Bindery.Guest.Linker
import Bindery.Guest.Memory
import Bindery.Handle.Lookup
import Bindery.Handle.Member
import Bindery.Handle.Reference
import Bindery.Host.Call
import Bindery.Host.Code
import Bindery.Host.Error
import Bindery.Host.Layout
import Bindery.Host.Primitives
import Bindery.Host.Table
import Bindery.Host.Word
import Bindery.Main
import Bindery.Mapping
import Bindery.Member
import Bindery.Memory
import Bindery.Naming
import Bindery.Number.Binary
import Bindery.Number.Shortest
import Bindery.Order
import Bindery.Output
import Bindery.Plan.Basic
import Bindery.Plan.Body
import Bindery.Plan.Native
import Bindery.Plan.Sandbox
import Bindery.References
import Bindery.Render.AccessorMethods
import Bindery.Render.ClassFile
import Bindery.Render.EnumFile
import Bindery.Render.TableFile
import Bindery.Schema.Entity
import Bindery.Schema.Label
import Bindery.Schema.Normal
import Bindery.Schema.Record
import Bindery.Script.Block
import Bindery.Script.Builtin
import Bindery.Script.Call
import Bindery.Script.Passage
import Bindery.Script.Datum
import Bindery.Script.Literal
import Bindery.Script.Evaluation
import Bindery.Script.Execution
import Bindery.Script.Expr
import Bindery.Script.Format
import Bindery.Script.Grammar
import Bindery.Script.Header
import Bindery.Script.Item
import Bindery.Script.Numeral
import Bindery.Script.Operation
import Bindery.Script.Scope
import Bindery.Script.Term
import Bindery.Script.Statement
import Bindery.Session.Cell
import Bindery.Session.Command
import Bindery.Session.Command.Container
import Bindery.Session.Command.Fields
import Bindery.Session.Command.Guest
import Bindery.Session.Connection
import Bindery.Session.Delegate
import Bindery.Session.Guest
import Bindery.Session.State
import Bindery.Text.CharacterName
import Bindery.Text.CharacterNames
import Bindery.Text.CodePoint
import Bindery.Text.Normal
import Bindery.Text.Numeral
import Bindery.Text.Encoding
import Bindery.Text.Hex
import Bindery.Text.Identifier
import Bindery.Text.Quoted
import Bindery.Text.Template
import Bindery.Text.Upper
import Bindery.Value.Basic
import Bindery.Value.Display
import Bindery.Value.Document
import Bindery.Value.Equality
import Bindery.Value.Order
import Bindery.Verify
import Bindery.Wire.Basic
import Bindery.Wire.Call
import Bindery.Wire.Pack
import Bindery.Proofs.Effect
import Bindery.Proofs.Association
import Bindery.Proofs.Container.Temporaries
import Bindery.Proofs.Callback.Ledger
import Bindery.Proofs.Callback.Discipline
import Bindery.Proofs.Filter.Overloads
import Bindery.Proofs.FuncTable.Fates
import Bindery.Proofs.Plan.Alignment
import Bindery.Proofs.Schema.LabelOrder
import Bindery.Proofs.Preparation
import Bindery.Proofs.FuncTable.Positions
import Bindery.Proofs.Wire.Paths
import Bindery.Proofs.Callback.Binding
import Bindery.Proofs.Enum.Class
import Bindery.Proofs.Reorder.Output
import Bindery.Proofs.Filter.Availability
import Bindery.Proofs.FuncTable.Exportable
import Bindery.Proofs.FuncTable.BlockedStructs
import Bindery.Proofs.Enum.Crossing
import Bindery.Proofs.Verification
import Bindery.Proofs.FuncTable.Wrappers
import Bindery.Proofs.Guest.Staging
import Bindery.Proofs.Container.BulkCopies
import Bindery.Proofs.Render.OwnFiles
import Bindery.Proofs.Accessor.Accounts
import Bindery.Proofs.FuncTable.Widening
import Bindery.Proofs.Container.RoundTrip
import Bindery.Proofs.Call.Observation
import Bindery.Proofs.Call.Lifetime
import Bindery.Proofs.Text.Utf8
import Bindery.Proofs.Number.Single
import Bindery.Proofs.Host.Calls
import Bindery.Proofs.Host.Forwarding
import Bindery.Proofs.Session.Cells
import Bindery.Proofs.Handle.Answers
import Bindery.Proofs.Render.Imports
import Bindery.Proofs.Filter.OverloadNames
import Bindery.Proofs.Enum.Survivors
import Bindery.Proofs.FuncTable.OverloadOrder
import Bindery.Proofs.Callback.Registration
import Bindery.Proofs.Container.CutTexts
import Bindery.Proofs.Container.Keys
import Bindery.Proofs.Accessor.MethodNames
import Bindery.Proofs.Render.Methods
import Bindery.Proofs.Render.BaseMembers
import Bindery.Proofs.Text.Words
import Bindery.Proofs.Plan.ParameterNames
import Bindery.Proofs.Plan.Captures
import Bindery.Proofs.Filter.Counterparts
import Bindery.Proofs.Accessor.Signatures
import Bindery.Proofs.FuncTable.HostPackages
import Bindery.Proofs.Container.Indices
import Bindery.Proofs.Container.NativeCopies
import Bindery.Proofs.Call.Parameters
import Bindery.Proofs.Outcome
import Bindery.Proofs.Document
import Bindery.Proofs.Plan.Defaults
import Bindery.Proofs.Enum.Defaults
import Bindery.Proofs.Config
import Bindery.Proofs.Schema.Records
import Bindery.Proofs.Schema.Gaps
import Bindery.Proofs.Text.SnakeCase
import Bindery.Proofs.FuncTable.Constants
import Bindery.Proofs.Enum.MemberNames
