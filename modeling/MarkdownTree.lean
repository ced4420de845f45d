import MarkdownTree.Json.Reader
import MarkdownTree.Json.Edit
import MarkdownTree.Kind.Decode
import MarkdownTree.Check
import MarkdownTree.Failure.History
import MarkdownTree.Proofs.KindNames
import MarkdownTree.Proofs.ChildPath
import MarkdownTree.Proofs.Descent
import MarkdownTree.Proofs.FirstFailure
import MarkdownTree.Proofs.NumberBounds
import MarkdownTree.Proofs.Validity
import MarkdownTree.Proofs.RelevantFields
import MarkdownTree.Proofs.Replacement
import MarkdownTree.Proofs.VisitEvents
import MarkdownTree.Proofs.FailurePrefix
import MarkdownTree.Proofs.PostOrder
import MarkdownTree.Proofs.Repair
import MarkdownTree.Proofs.CategoryChecks
import MarkdownTree.Proofs.EntryDescent
import MarkdownTree.Proofs.Refinement
import MarkdownTree.Proofs.ParentContext
import MarkdownTree.Proofs.TreeLikeness
import MarkdownTree.Proofs.NodeLikeness
import MarkdownTree.Proofs.SchemaFields
import MarkdownTree.Proofs.NullFields
import MarkdownTree.Proofs.TagRenaming
import MarkdownTree.Proofs.DelimitedText
import MarkdownTree.Proofs.FailureText
import MarkdownTree.Proofs.ComposedChecks
import MarkdownTree.Proofs.FailureLineage
import MarkdownTree.Proofs.RuleTable
import MarkdownTree.Proofs.ShapeTable
import MarkdownTree.Proofs.KindTable
import MarkdownTree.Proofs.NearestNumber
import MarkdownTree.Proofs.PlaceIdentity
import MarkdownTree.Proofs.BoundDecisions
