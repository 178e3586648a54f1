import SpannerDdl.Main
import SpannerDdl.Request
import SpannerDdl.Schema.Gap
import SpannerDdl.Proofs.Draft.ColumnHistory
import SpannerDdl.Proofs.Draft.KeyHistory
import SpannerDdl.Proofs.Draft.Refusal
import SpannerDdl.Proofs.Draft.Presentable
import SpannerDdl.Proofs.Schema.Exchange
import SpannerDdl.Proofs.Schema.TableNames
import SpannerDdl.Proofs.Schema.DdlOutcome
import SpannerDdl.Proofs.Schema.DocumentOutcome
import SpannerDdl.Proofs.Schema.Normalization
import SpannerDdl.Proofs.Grammar.Completeness
import SpannerDdl.Proofs.Schema.Nullability
import SpannerDdl.Proofs.Schema.Streams
import SpannerDdl.Proofs.Schema.OtherStatements
import SpannerDdl.Proofs.Token.Case
import SpannerDdl.Proofs.Statement.Case
import SpannerDdl.Proofs.Grammar.Case
import SpannerDdl.Proofs.Grammar.CaseStatements
import SpannerDdl.Proofs.Schema.Merging
import SpannerDdl.Proofs.Settings.Acceptance
import SpannerDdl.Proofs.Yaml.Showing
import SpannerDdl.Proofs.Settings.Layers
import SpannerDdl.Proofs.Settings.Faults
import SpannerDdl.Proofs.Text.Lines
import SpannerDdl.Proofs.Token.Shapes
import SpannerDdl.Proofs.Grammar.Demands
import SpannerDdl.Proofs.CommandLine.Failure
import SpannerDdl.Proofs.Draft.Frame
import SpannerDdl.Proofs.Draft.Commutation
import SpannerDdl.Proofs.Draft.KeyNames
import SpannerDdl.Proofs.Draft.LastWrites
import SpannerDdl.Proofs.Diagram.Endpoints
import SpannerDdl.Proofs.Grammar.TypeRoundTrip
import SpannerDdl.Proofs.Diagram.MermaidText
import SpannerDdl.Proofs.Diagram.Identifiers
import SpannerDdl.Proofs.Grammar.Parentheses
import SpannerDdl.Proofs.Cursor.Statements
