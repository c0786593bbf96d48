import ErDiagram.Canvas.Basic
import ErDiagram.Canvas.Writing
import ErDiagram.Cardinality
import ErDiagram.Command.Arguments
import ErDiagram.Command.Files
import ErDiagram.Command.Run
import ErDiagram.Connectivity.Adjacency
import ErDiagram.Connectivity.Analysis
import ErDiagram.Connectivity.Backbone
import ErDiagram.Connectivity.Graph
import ErDiagram.Connectivity.Pattern
import ErDiagram.Connectivity.Structure
import ErDiagram.Decimal.Dyadic
import ErDiagram.Decimal.Reading
import ErDiagram.Decimal.Shortest
import ErDiagram.Diagram.Basic
import ErDiagram.Diagram.Record
import ErDiagram.Document.Entities
import ErDiagram.Document.Error
import ErDiagram.Document.Outline
import ErDiagram.Document.Reading
import ErDiagram.Document.Relationships
import ErDiagram.Generation
import ErDiagram.Geometry.FloatScalar
import ErDiagram.Geometry.Norm
import ErDiagram.Geometry.Point
import ErDiagram.Geometry.Scalar
import ErDiagram.Geometry.Segment
import ErDiagram.Identifier
import ErDiagram.Json.Basic
import ErDiagram.Json.Reader
import ErDiagram.Json.Writer
import ErDiagram.Layout.Chain
import ErDiagram.Layout.Engine
import ErDiagram.Layout.Error
import ErDiagram.Layout.Force
import ErDiagram.Layout.Grid
import ErDiagram.Layout.Layered
import ErDiagram.Layout.Missing
import ErDiagram.Layout.Placement
import ErDiagram.Layout.Radial
import ErDiagram.Layout.Ring
import ErDiagram.Line.Reading
import ErDiagram.Line.Shape
import ErDiagram.Line.Token
import ErDiagram.Main
import ErDiagram.OrderedMap
import ErDiagram.Proofs.Canvas.Attachments
import ErDiagram.Proofs.Canvas.Connections
import ErDiagram.Proofs.Canvas.Drawing
import ErDiagram.Proofs.Canvas.Names
import ErDiagram.Proofs.Connectivity.Adjacency
import ErDiagram.Proofs.Connectivity.Backbone
import ErDiagram.Proofs.Connectivity.Chains
import ErDiagram.Proofs.Connectivity.Declared
import ErDiagram.Proofs.Connectivity.Farthest
import ErDiagram.Proofs.Connectivity.Invariance
import ErDiagram.Proofs.Connectivity.Isolated
import ErDiagram.Proofs.Connectivity.Leaves
import ErDiagram.Proofs.Connectivity.Reach
import ErDiagram.Proofs.Diagram.Append
import ErDiagram.Proofs.Diagram.Json
import ErDiagram.Proofs.Diagram.Positions
import ErDiagram.Proofs.Diagram.WellFormed
import ErDiagram.Proofs.Document.Attribute
import ErDiagram.Proofs.Document.Entity
import ErDiagram.Proofs.Document.Faults
import ErDiagram.Proofs.Document.Folded
import ErDiagram.Proofs.Document.Kept
import ErDiagram.Proofs.Document.Listed
import ErDiagram.Proofs.Document.Outline
import ErDiagram.Proofs.Document.Parsed
import ErDiagram.Proofs.Document.Readable
import ErDiagram.Proofs.Document.Relationship
import ErDiagram.Proofs.Document.RoundTrip
import ErDiagram.Proofs.Document.SectionOrder
import ErDiagram.Proofs.Document.Sections
import ErDiagram.Proofs.Document.Spellings
import ErDiagram.Proofs.Document.Title
import ErDiagram.Proofs.Document.Torn
import ErDiagram.Proofs.Document.WellFormed
import ErDiagram.Proofs.FirstOccurrences
import ErDiagram.Proofs.Generation
import ErDiagram.Proofs.Geometry.Real
import ErDiagram.Proofs.Geometry.Segment
import ErDiagram.Proofs.Identifier
import ErDiagram.Proofs.Layout.Faults
import ErDiagram.Proofs.Layout.Finite
import ErDiagram.Proofs.Layout.Grid
import ErDiagram.Proofs.Layout.Independence
import ErDiagram.Proofs.Layout.Keys
import ErDiagram.Proofs.Layout.Layered
import ErDiagram.Proofs.Layout.Radial
import ErDiagram.Proofs.Layout.Separation
import ErDiagram.Proofs.Line.Cleaned
import ErDiagram.Proofs.Line.Faults
import ErDiagram.Proofs.Line.Label
import ErDiagram.Proofs.Line.Names
import ErDiagram.Proofs.Line.Padding
import ErDiagram.Proofs.Line.Precedence
import ErDiagram.Proofs.Line.Recognition
import ErDiagram.Proofs.Line.Relationship
import ErDiagram.Proofs.Line.Script
import ErDiagram.Proofs.Line.Spans
import ErDiagram.Proofs.OrderedMap
import ErDiagram.Proofs.Record.Field
import ErDiagram.Proofs.Refinement.Apart
import ErDiagram.Proofs.Refinement.Bounds
import ErDiagram.Proofs.Refinement.Collisions
import ErDiagram.Proofs.Refinement.Keys
import ErDiagram.Proofs.Refinement.Spacing
import ErDiagram.Proofs.Text.Lines
import ErDiagram.Proofs.Text.Words
import ErDiagram.Proofs.Validation
import ErDiagram.Proofs.Yaml.Meaning
import ErDiagram.Random.Twister
import ErDiagram.Record.Field
import ErDiagram.Record.Issue
import ErDiagram.Refinement.Bounds
import ErDiagram.Refinement.Lines
import ErDiagram.Refinement.Passes
import ErDiagram.Refinement.Proximity
import ErDiagram.Refinement.Spacing
import ErDiagram.Report
import ErDiagram.Service
import ErDiagram.Settings.Basic
import ErDiagram.Settings.Dotenv
import ErDiagram.Settings.Reading
import ErDiagram.SyntaxError
import ErDiagram.Text.Case
import ErDiagram.Text.CaseRanges
import ErDiagram.Text.CasedRanges
import ErDiagram.Text.CharClass
import ErDiagram.Text.Quoted
import ErDiagram.Text.Split
import ErDiagram.Text.Surrogate
import ErDiagram.Text.VisibleRanges
import ErDiagram.Text.WordRanges
import ErDiagram.Validation
import ErDiagram.Yaml.Cursor
import ErDiagram.Yaml.Node.Basic
import ErDiagram.Yaml.Node.OfTokens
import ErDiagram.Yaml.Tag
import ErDiagram.Yaml.Token.Basic
import ErDiagram.Yaml.Token.OfText
import ErDiagram.Yaml.Token.Property
import ErDiagram.Yaml.Token.Scalar
import ErDiagram.Yaml.Value.Basic
import ErDiagram.Yaml.Value.Scalar
import ErDiagram.Yaml.Value.Text
