import RecordCheck.Text.Blank
import RecordCheck.Text.Digit
import RecordCheck.Text.Printable
import RecordCheck.Text.Upper
import RecordCheck.Text.Word
import RecordCheck.Number.Binary64
import RecordCheck.Number.Notation
import RecordCheck.Number.Numeral
import RecordCheck.Text.Pattern
import RecordCheck.Text.Quoted
import RecordCheck.Entries
import RecordCheck.Value.Basic
import RecordCheck.Value.Kind
import RecordCheck.Value.Literal
import RecordCheck.Value.Same
import RecordCheck.Directive.Basic
import RecordCheck.Directive.Reader
import RecordCheck.Path
import RecordCheck.Schema.Basic
import RecordCheck.Schema.Draft
import RecordCheck.Schema.Identity
import RecordCheck.Schema.Compile
import RecordCheck.Cast
import RecordCheck.Json.Reader
import RecordCheck.Rule.Basic
import RecordCheck.Rule.DateTime
import RecordCheck.Rule.Email
import RecordCheck.Rule.Phone
import RecordCheck.Rule.Registry
import RecordCheck.Rule.Standard
import RecordCheck.Report
import RecordCheck.Source
import RecordCheck.Table
import RecordCheck.Proofs.Schema.Tree
import RecordCheck.Proofs.Value.Hop
import RecordCheck.Proofs.Walk.Passes
import RecordCheck.Proofs.Walk.Locations
import RecordCheck.Proofs.Rendering
import RecordCheck.Proofs.Report.Check
import RecordCheck.Proofs.Report.Failures
import RecordCheck.Proofs.Value.Tree
import RecordCheck.Proofs.Outcome
import RecordCheck.Proofs.Schema.Compiled
import RecordCheck.Proofs.Schema.Spelled
import RecordCheck.Proofs.Schema.RoundTrip
import RecordCheck.Proofs.Schema.Reuse
import RecordCheck.Proofs.Walk.Modes
import RecordCheck.Proofs.Walk.Strays
import RecordCheck.Proofs.Report.Modes
import RecordCheck.Proofs.Number.Numeric
import RecordCheck.Proofs.Number.Rounding
import RecordCheck.Proofs.Number.Written
import RecordCheck.Proofs.Value.Same
import RecordCheck.Proofs.Cast
import RecordCheck.Proofs.Value.Integers
import RecordCheck.Proofs.Report.Casting
import RecordCheck.Proofs.Walk.Asked
import RecordCheck.Proofs.Walk.WithoutRules
import RecordCheck.Proofs.Report.Rules
import RecordCheck.Proofs.Walk.Rebuilt
import RecordCheck.Proofs.Walk.Settled
import RecordCheck.Proofs.Walk.Places
import RecordCheck.Proofs.Walk.Recast
import RecordCheck.Proofs.Walk.Defaults
import RecordCheck.Proofs.Walk.Leaves
import RecordCheck.Proofs.Rule.Standard
import RecordCheck.Proofs.Rule.Registry
import RecordCheck.Proofs.Rule.History
import RecordCheck.Proofs.Rule.Template
import RecordCheck.Proofs.Rule.Message
import RecordCheck.Proofs.Rule.Email
import RecordCheck.Proofs.Rule.Arguments
import RecordCheck.Proofs.Rule.Between
import RecordCheck.Proofs.Rule.Conditions
import RecordCheck.Proofs.Rule.WholeFloats
import RecordCheck.Proofs.Rule.Phone
import RecordCheck.Proofs.Rule.DateTime
import RecordCheck.Proofs.Report.Data
import RecordCheck.Proofs.Value.Alike
import RecordCheck.Proofs.Walk.Untouched
import RecordCheck.Proofs.Walk.Trace
import RecordCheck.Proofs.Walk.Sequence
import RecordCheck.Proofs.Walk.Relocated
import RecordCheck.Proofs.Text.Cut
import RecordCheck.Proofs.Text.Classes
import RecordCheck.Proofs.Rule.ErrorId
import RecordCheck.Proofs.Directive.Arguments
import RecordCheck.Proofs.Directive.Grammar
import RecordCheck.Proofs.Directive.Printing
import RecordCheck.Proofs.Directive.Joined
import RecordCheck.Proofs.Schema.Definitions
import RecordCheck.Proofs.Schema.Acceptance
import RecordCheck.Proofs.Schema.Nodes
import RecordCheck.Proofs.Schema.Arrays
import RecordCheck.Proofs.Report.Required
import RecordCheck.Proofs.Report.Records
import RecordCheck.Proofs.Report.Recast
import RecordCheck.Proofs.Report.Defaults
import RecordCheck.Proofs.Report.Equality
import RecordCheck.Proofs.Report.Lookup
import RecordCheck.Proofs.Json.Strings
import RecordCheck.Proofs.Json.Integers
import RecordCheck.Proofs.Json.RoundTrip
import RecordCheck.Proofs.Source
import RecordCheck.Proofs.Table
