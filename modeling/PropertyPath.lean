import PropertyPath.Config.Basic
import PropertyPath.Config.Reading
import PropertyPath.Evaluation.Compiled
import PropertyPath.Evaluation.Context
import PropertyPath.Evaluation.Core
import PropertyPath.Evaluation.Function
import PropertyPath.Evaluation.Path
import PropertyPath.Fault
import PropertyPath.Host.Monitor
import PropertyPath.Numeric.Binary64
import PropertyPath.Numeric.Layout
import PropertyPath.Numeric.Reading
import PropertyPath.Numeric.Shortest
import PropertyPath.Proofs.Absence
import PropertyPath.Proofs.Agreement
import PropertyPath.Proofs.Arrangement
import PropertyPath.Proofs.Assembled
import PropertyPath.Proofs.Assembly
import PropertyPath.Proofs.BetweenWrites
import PropertyPath.Proofs.Bindings
import PropertyPath.Proofs.Building
import PropertyPath.Proofs.ByteOrder
import PropertyPath.Proofs.Capture
import PropertyPath.Proofs.ClassNamespace
import PropertyPath.Proofs.Classification
import PropertyPath.Proofs.Coherence
import PropertyPath.Proofs.Compilation
import PropertyPath.Proofs.Confinement
import PropertyPath.Proofs.Conservation
import PropertyPath.Proofs.Decimals
import PropertyPath.Proofs.Delegation
import PropertyPath.Proofs.Dependence
import PropertyPath.Proofs.Descent
import PropertyPath.Proofs.Diagnosing
import PropertyPath.Proofs.Domains
import PropertyPath.Proofs.Drawing
import PropertyPath.Proofs.Exactness
import PropertyPath.Proofs.Footprint
import PropertyPath.Proofs.Frame
import PropertyPath.Proofs.Interchange
import PropertyPath.Proofs.Joining
import PropertyPath.Proofs.KeyedWrites
import PropertyPath.Proofs.Landing
import PropertyPath.Proofs.Leaves
import PropertyPath.Proofs.Likeness
import PropertyPath.Proofs.Listing
import PropertyPath.Proofs.Literals
import PropertyPath.Proofs.Lockstep
import PropertyPath.Proofs.MapPaths
import PropertyPath.Proofs.MapRequests
import PropertyPath.Proofs.NestedChains
import PropertyPath.Proofs.Occurrence
import PropertyPath.Proofs.Order
import PropertyPath.Proofs.Outcome
import PropertyPath.Proofs.Pairing
import PropertyPath.Proofs.Precedence
import PropertyPath.Proofs.Printing
import PropertyPath.Proofs.Quotation
import PropertyPath.Proofs.Reach
import PropertyPath.Proofs.Recognition
import PropertyPath.Proofs.Redefinition
import PropertyPath.Proofs.Rendering
import PropertyPath.Proofs.Session
import PropertyPath.Proofs.Slots
import PropertyPath.Proofs.Substitution
import PropertyPath.Proofs.Tokens
import PropertyPath.Proofs.Traversal
import PropertyPath.Proofs.Turns
import PropertyPath.Proofs.Twins
import PropertyPath.Proofs.TypeQuery
import PropertyPath.Proofs.Walk
import PropertyPath.Proofs.Writability
import PropertyPath.Proofs.WriteRead
import PropertyPath.Resolver.Basic
import PropertyPath.Resolver.Chain
import PropertyPath.Resolver.Collections
import PropertyPath.Resolver.Roots
import PropertyPath.Resolver.Stock
import PropertyPath.Store.Basic
import PropertyPath.Store.Display
import PropertyPath.Store.Lemmas
import PropertyPath.Syntax.Diagnosis
import PropertyPath.Syntax.Expr
import PropertyPath.Syntax.Failure
import PropertyPath.Syntax.Grammar
import PropertyPath.Syntax.Nesting
import PropertyPath.Syntax.Source
import PropertyPath.Syntax.Token
import PropertyPath.Syntax.Tree
import PropertyPath.Table.Arena
import PropertyPath.Table.Dictionary
import PropertyPath.Table.Entries
import PropertyPath.Table.Roster
import PropertyPath.Text.Blank
import PropertyPath.Text.Case
import PropertyPath.Text.CaseClasses
import PropertyPath.Text.CaseTable
import PropertyPath.Text.Quoted
import PropertyPath.Text.Ranges
import PropertyPath.Text.Reader
import PropertyPath.Text.Visibility
import PropertyPath.Toml.Document
import PropertyPath.Toml.Item
import PropertyPath.Toml.Token
import PropertyPath.Value.Basic
import PropertyPath.Value.Color
import PropertyPath.Value.Number
