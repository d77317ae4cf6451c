import BlockCode.Config.Search
import BlockCode.Console
import BlockCode.Json
import BlockCode.KindTable
import BlockCode.Proofs.Block.Routes
import BlockCode.Proofs.Expression.Fragments
import BlockCode.Proofs.Expression.ReadBack
import BlockCode.Proofs.Loop.Emitted
import BlockCode.Proofs.Name.Image
import BlockCode.Proofs.Name.Lead
import BlockCode.Proofs.Number.Guard
import BlockCode.Proofs.Rule.Kinds
import BlockCode.Proofs.Rule.Tables
import BlockCode.Proofs.Run.BrokenLines
import BlockCode.Proofs.Run.Chains
import BlockCode.Proofs.Run.Comments
import BlockCode.Proofs.Run.Comparison
import BlockCode.Proofs.Run.Declarations
import BlockCode.Proofs.Run.Erasure
import BlockCode.Proofs.Run.Exhaustion
import BlockCode.Proofs.Run.Helpers
import BlockCode.Proofs.Run.Hoisting
import BlockCode.Proofs.Run.Independence
import BlockCode.Proofs.Run.Instrumentation
import BlockCode.Proofs.Run.LineEnds
import BlockCode.Proofs.Run.Programs
import BlockCode.Proofs.Run.Reporting
import BlockCode.Proofs.Run.Reserved
import BlockCode.Proofs.Run.Shedding
import BlockCode.Proofs.Run.Sorts
import BlockCode.Proofs.Run.Taxonomy
import BlockCode.Proofs.Text.Closing
import BlockCode.Proofs.Text.Leading
import BlockCode.Proofs.Text.Quoting
import BlockCode.Proofs.Text.Tidy
import BlockCode.Session
import BlockCode.Loose
import BlockCode.Proofs.Run.Loose
