import CorpusSearch.Unicode.Category
import CorpusSearch.Unicode.Table.Case
import CorpusSearch.Unicode.Table.Composition
import CorpusSearch.Unicode.Table.Property
import CorpusSearch.Unicode.Table.Script
import CorpusSearch.Unicode.Case
import CorpusSearch.Unicode.Normal
import CorpusSearch.Bound
import CorpusSearch.Code
import CorpusSearch.FieldName
import CorpusSearch.Span
import CorpusSearch.Text.Expression
import CorpusSearch.Text.Integer
import CorpusSearch.Regex.CharSet
import CorpusSearch.Regex.Expr
import CorpusSearch.Regex.Reader
import CorpusSearch.Regex.Core
import CorpusSearch.Regex.Match
import CorpusSearch.Decimal.Binary64
import CorpusSearch.Decimal.Shortest
import CorpusSearch.Json.Reader
import CorpusSearch.Json.Writer
import CorpusSearch.Error
import CorpusSearch.Filter
import CorpusSearch.Pattern.Basic
import CorpusSearch.Filter.Json
import CorpusSearch.Pattern.Build
import CorpusSearch.Pattern.Json
import CorpusSearch.Pattern.Simplify
import CorpusSearch.CaptureNames
import CorpusSearch.Catalog
import CorpusSearch.Config
import CorpusSearch.Context
import CorpusSearch.Constraint.Basic
import CorpusSearch.Constraint.OfFilter
import CorpusSearch.Plan.Basic
import CorpusSearch.Plan.Text
import CorpusSearch.Extension
import CorpusSearch.Relations.Function
import CorpusSearch.Plan.OfPattern
import CorpusSearch.Filter.QueryText
import CorpusSearch.Pattern.QueryText
import CorpusSearch.Evaluation
import CorpusSearch.Constraint.Json
import CorpusSearch.Plan.Json
import CorpusSearch.Catalog.Toml
import CorpusSearch.Config.Toml
import CorpusSearch.Proofs.NameMaps
import CorpusSearch.Proofs.PatternSoundness
import CorpusSearch.Proofs.PatternReading
import CorpusSearch.Proofs.PatternInvariant
import CorpusSearch.Proofs.PatternWalk
import CorpusSearch.Proofs.NodeFields
import CorpusSearch.Proofs.FilterRoundTrip
import CorpusSearch.Proofs.PatternRoundTrip
import CorpusSearch.Proofs.IndexFields
import CorpusSearch.Proofs.PlanLookups
import CorpusSearch.Proofs.PlanningSteps
import CorpusSearch.Proofs.CallArguments
import CorpusSearch.Proofs.PlanChecked
import CorpusSearch.Proofs.Agreement
import CorpusSearch.Proofs.HitOrder
import CorpusSearch.Proofs.HitRules
import CorpusSearch.Proofs.HitSpans
import CorpusSearch.Proofs.PlanAgreement
import CorpusSearch.Proofs.Simplification
import CorpusSearch.Proofs.ExpressionCharacters
import CorpusSearch.Proofs.LiteralExpression
import CorpusSearch.Proofs.RelationAgreement
import CorpusSearch.Proofs.HarmlessRules
import CorpusSearch.Proofs.TokenClauses
import CorpusSearch.Proofs.SimplifiedSearch
import CorpusSearch.Proofs.PlannedNodes
import CorpusSearch.Proofs.PlanMentions
import CorpusSearch.Proofs.VisitedNodes
import CorpusSearch.Proofs.CatalogNames
import CorpusSearch.Proofs.ConstraintReads
import CorpusSearch.Proofs.TokenConditions
import CorpusSearch.Proofs.HitJoins
import CorpusSearch.Proofs.HitPositions
import CorpusSearch.Proofs.HitLengths
import CorpusSearch.Proofs.RelationMatches
import CorpusSearch.Proofs.HitCaptures
import CorpusSearch.Proofs.NestedJoins
import CorpusSearch.Proofs.RepeatedHits
import CorpusSearch.Proofs.ExactArithmetic
import CorpusSearch.Proofs.IssuedNames
import CorpusSearch.Proofs.NodeCaptures
import CorpusSearch.Proofs.PlanCaptureNames
import CorpusSearch.Proofs.NameRequests
import CorpusSearch.Proofs.FreeNames
import CorpusSearch.Proofs.ReaderLocality
import CorpusSearch.Proofs.ClassReading
import CorpusSearch.Proofs.GroupReading
import CorpusSearch.Proofs.ExpressionReading
import CorpusSearch.Proofs.StandaloneExpressions
import CorpusSearch.Proofs.RelationTypes
import CorpusSearch.Proofs.RelationCalls
import CorpusSearch.Proofs.TextItems
import CorpusSearch.Proofs.TextPieces
import CorpusSearch.Proofs.FilterText
import CorpusSearch.Proofs.TokenText
import CorpusSearch.Proofs.NodeText
import CorpusSearch.Proofs.RelationText
import CorpusSearch.Proofs.ChunkKinds
import CorpusSearch.Proofs.PatternText
import CorpusSearch.Proofs.LegibleText
import CorpusSearch.Proofs.RefusedText
import CorpusSearch.Proofs.UnambiguousText
import CorpusSearch.Proofs.ExpandedHits
import CorpusSearch.Proofs.RelationHits
import CorpusSearch.Proofs.TextRuns
import CorpusSearch.Proofs.EscapedValues
import CorpusSearch.Proofs.Matching
import CorpusSearch.Proofs.WholeMatches
import CorpusSearch.Proofs.SeamMatching
import CorpusSearch.Proofs.OnwardReading
import CorpusSearch.Proofs.FullRelationTypes
import CorpusSearch.Proofs.OperatorReading
import CorpusSearch.Proofs.UnambiguousFilters
import CorpusSearch.Proofs.IntegerTexts
import CorpusSearch.Proofs.EqualityFilters
import CorpusSearch.Proofs.PlanningErrors
import CorpusSearch.Proofs.ErrorKinds
import CorpusSearch.Proofs.TypedArguments
import CorpusSearch.Proofs.NestingLimit
import CorpusSearch.Proofs.JsonText
import CorpusSearch.Proofs.SavedPatterns
import CorpusSearch.Proofs.ShorterReading
import CorpusSearch.Proofs.ShorterExpressions
import CorpusSearch.Proofs.BalancedExpressions
import CorpusSearch.Proofs.LastItems
import CorpusSearch.Proofs.TrimmedExpressions
import CorpusSearch.Proofs.StrippedAnchors
import CorpusSearch.Proofs.FieldVersions
import CorpusSearch.Proofs.SaturatedBounds
import CorpusSearch.Proofs.DecodedFields
import CorpusSearch.Proofs.PlanningRecursion
