import ShapeQuery.Json.Reader
import ShapeQuery.Pattern.Parser
import ShapeQuery.Proofs.Query.Alternatives
import ShapeQuery.Proofs.Query.CallNesting
import ShapeQuery.Proofs.Query.CallSearch
import ShapeQuery.Proofs.Query.Capture
import ShapeQuery.Proofs.Query.ContentCheck
import ShapeQuery.Proofs.Query.ContentWalk
import ShapeQuery.Proofs.Query.Context
import ShapeQuery.Proofs.Query.Diagnosis
import ShapeQuery.Proofs.Query.Induction
import ShapeQuery.Proofs.Query.Meaning
import ShapeQuery.Proofs.Query.Narrowing
import ShapeQuery.Proofs.Query.Noninterference
import ShapeQuery.Proofs.Query.Recasting
import ShapeQuery.Proofs.Query.Relaxation
import ShapeQuery.Proofs.Query.Replacement
import ShapeQuery.Proofs.Query.Sides
import ShapeQuery.Proofs.Query.Statement
import ShapeQuery.Proofs.Query.StatementFold
import ShapeQuery.Proofs.Query.Threshold
import ShapeQuery.Proofs.Tree.CanonicalNaN
import ShapeQuery.Proofs.Tree.FirstFault
import ShapeQuery.Proofs.Tree.Induction
import ShapeQuery.Proofs.Tree.Normalization
import ShapeQuery.Proofs.Tree.RoundTrip
import ShapeQuery.Proofs.Walk.Finders
import ShapeQuery.Proofs.Walk.Reports
import ShapeQuery.Query.Session
import ShapeQuery.Tree.Encoding
import ShapeQuery.Tree.Equality
import ShapeQuery.Tree.Reading
import ShapeQuery.Proofs.Query.Occurrences
import ShapeQuery.Proofs.Query.Reordering
import ShapeQuery.Proofs.Tree.UnreadFields
import ShapeQuery.Proofs.Json.NumberText
import ShapeQuery.Proofs.Json.TextRoundTrip
import ShapeQuery.Proofs.Tree.Rendering
import ShapeQuery.Proofs.Query.Messages
import ShapeQuery.Proofs.Walk.OpenPath
import ShapeQuery.Proofs.Query.LogComposition
import ShapeQuery.Proofs.Text.Legibility
import ShapeQuery.Proofs.Query.ErrorShape
