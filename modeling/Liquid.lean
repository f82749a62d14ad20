import Liquid.Bindings
import Liquid.Condition.Basic
import Liquid.Condition.Parse
import Liquid.Config.Basic
import Liquid.Config.Kdl.Datum
import Liquid.Config.Kdl.Document
import Liquid.Config.Kdl.Space
import Liquid.Config.Kdl.Text
import Liquid.Document.Block
import Liquid.Document.Node
import Liquid.Document.Parse
import Liquid.Environment
import Liquid.Error
import Liquid.Evaluate
import Liquid.Filter.Arithmetic
import Liquid.Filter.Basic
import Liquid.Filter.Collection
import Liquid.Filter.Standard
import Liquid.Filter.Text
import Liquid.Heap
import Liquid.Host.Adapter
import Liquid.Host.Member
import Liquid.Host.Schema
import Liquid.Markup.Expr
import Liquid.Markup.Parse
import Liquid.Markup.Scanner
import Liquid.Number.Basic
import Liquid.Number.Digits
import Liquid.Number.Double
import Liquid.Number.Reading
import Liquid.Number.Shortest
import Liquid.Number.Written
import Liquid.Proofs.AlikeTokens
import Liquid.Proofs.ArrayIndexes
import Liquid.Proofs.AssignedNames
import Liquid.Proofs.BlindEvaluation
import Liquid.Proofs.BlindFilters
import Liquid.Proofs.Blindness
import Liquid.Proofs.Comparisons
import Liquid.Proofs.ConditionChains
import Liquid.Proofs.ConditionFold
import Liquid.Proofs.ConditionOperands
import Liquid.Proofs.ConditionOutlines
import Liquid.Proofs.ConditionWords
import Liquid.Proofs.Congruence
import Liquid.Proofs.CoveredText
import Liquid.Proofs.CutExpressions
import Liquid.Proofs.ElsifChains
import Liquid.Proofs.ErrorModes
import Liquid.Proofs.EscapedTexts
import Liquid.Proofs.ExactArithmetic
import Liquid.Proofs.ExactRanges
import Liquid.Proofs.FailedNodes
import Liquid.Proofs.Families
import Liquid.Proofs.FatalVisits
import Liquid.Proofs.FaultPlaces
import Liquid.Proofs.FilterNames
import Liquid.Proofs.FilterRuns
import Liquid.Proofs.Following
import Liquid.Proofs.Forcing
import Liquid.Proofs.Given
import Liquid.Proofs.Grammar
import Liquid.Proofs.HiddenMembers
import Liquid.Proofs.ImpartialSamples
import Liquid.Proofs.ImpartialTags
import Liquid.Proofs.Isolation
import Liquid.Proofs.JoinedTemplates
import Liquid.Proofs.JoinedTokens
import Liquid.Proofs.Laziness
import Liquid.Proofs.LookupOrder
import Liquid.Proofs.LoopControl
import Liquid.Proofs.MarkupGrammar
import Liquid.Proofs.MarkupImage
import Liquid.Proofs.MarkupReading
import Liquid.Proofs.MarkupScanning
import Liquid.Proofs.MemberFilters
import Liquid.Proofs.MissingArguments
import Liquid.Proofs.Moves
import Liquid.Proofs.NestedBranches
import Liquid.Proofs.PairedEvaluation
import Liquid.Proofs.PairedFilters
import Liquid.Proofs.PairedRenders
import Liquid.Proofs.PairedRuns
import Liquid.Proofs.PairedTemplates
import Liquid.Proofs.Parsing
import Liquid.Proofs.Parts
import Liquid.Proofs.Pointwise
import Liquid.Proofs.Renumbering
import Liquid.Proofs.RepeatedExposure
import Liquid.Proofs.RespelledConditions
import Liquid.Proofs.RespelledMarkup
import Liquid.Proofs.RowLayout
import Liquid.Proofs.SchemaCache
import Liquid.Proofs.SchemaRuns
import Liquid.Proofs.ScopeDiscipline
import Liquid.Proofs.ScopeRuns
import Liquid.Proofs.Segmentation
import Liquid.Proofs.SiblingRules
import Liquid.Proofs.Simulation
import Liquid.Proofs.SpareFrames
import Liquid.Proofs.SplitEvaluation
import Liquid.Proofs.SplitTexts
import Liquid.Proofs.Steadiness
import Liquid.Proofs.Steps
import Liquid.Proofs.StructuralEquality
import Liquid.Proofs.Transforms
import Liquid.Proofs.Transitivity
import Liquid.Proofs.TrimmedText
import Liquid.Proofs.TruncatedTexts
import Liquid.Proofs.Visits
import Liquid.Proofs.WholeDoubles
import Liquid.Proofs.WholeUse
import Liquid.Render.Basic
import Liquid.Render.Nodes
import Liquid.Sample.Filters
import Liquid.Sample.Objects
import Liquid.Sample.Tags
import Liquid.Scope
import Liquid.Tag.Standard
import Liquid.Tag.TableRow
import Liquid.Template.Basic
import Liquid.Template.Options
import Liquid.Template.Shelf
import Liquid.Text.Blank
import Liquid.Text.Case
import Liquid.Text.Case.Table
import Liquid.Text.Letter
import Liquid.Text.Quoted
import Liquid.Text.Search
import Liquid.Text.Table
import Liquid.Token.Basic
import Liquid.Token.Scan
import Liquid.Token.Trim
import Liquid.Value.Basic
import Liquid.Value.Cells
import Liquid.Value.Compare
import Liquid.Value.Datum
import Liquid.Value.Inspect
import Liquid.Value.Write
