import DiscreetLog.Arguments
import DiscreetLog.Chain
import DiscreetLog.Cloud
import DiscreetLog.Delivery
import DiscreetLog.Disk
import DiscreetLog.Failure
import DiscreetLog.Foreign
import DiscreetLog.Foreign.Digits
import DiscreetLog.Foreign.Template
import DiscreetLog.Host
import DiscreetLog.Json
import DiscreetLog.Level
import DiscreetLog.Line
import DiscreetLog.Logging
import DiscreetLog.Masking
import DiscreetLog.Noted
import DiscreetLog.Number.Binary64
import DiscreetLog.Number.Decimal
import DiscreetLog.Number.Reading
import DiscreetLog.Ordered
import DiscreetLog.Output
import DiscreetLog.Payload
import DiscreetLog.Proofs.Arguments
import DiscreetLog.Proofs.Chain.Derivation
import DiscreetLog.Proofs.Chain.Flat
import DiscreetLog.Proofs.Chain.Leaves
import DiscreetLog.Proofs.Chain.Line
import DiscreetLog.Proofs.Chain.Reports
import DiscreetLog.Proofs.Chain.Secrecy
import DiscreetLog.Proofs.Chain.Shipping
import DiscreetLog.Proofs.Chain.Stage
import DiscreetLog.Proofs.Chain.Standard
import DiscreetLog.Proofs.Chain.Twice
import DiscreetLog.Proofs.Chain.Visits
import DiscreetLog.Proofs.Choices
import DiscreetLog.Proofs.Host.Actions
import DiscreetLog.Proofs.Host.Calls
import DiscreetLog.Proofs.Host.Likeness
import DiscreetLog.Proofs.Host.Nesting
import DiscreetLog.Proofs.Host.Objects
import DiscreetLog.Proofs.Host.Orderly
import DiscreetLog.Proofs.Host.Passing
import DiscreetLog.Proofs.Line.Values
import DiscreetLog.Proofs.Masking.Agreement
import DiscreetLog.Proofs.Masking.Attributes
import DiscreetLog.Proofs.Masking.Container
import DiscreetLog.Proofs.Masking.Coverage
import DiscreetLog.Proofs.Masking.Frame
import DiscreetLog.Proofs.Masking.Places
import DiscreetLog.Proofs.Masking.Refusal
import DiscreetLog.Proofs.Masking.Rendered
import DiscreetLog.Proofs.Masking.Twice
import DiscreetLog.Proofs.Masking.Walk
import DiscreetLog.Proofs.Ordered
import DiscreetLog.Proofs.Payload.BuiltIns
import DiscreetLog.Proofs.Payload.Layout
import DiscreetLog.Proofs.Payload.Masked
import DiscreetLog.Proofs.Payload.Nesting
import DiscreetLog.Proofs.Payload.Rendered
import DiscreetLog.Proofs.Payload.Survival
import DiscreetLog.Proofs.Payload.Writes
import DiscreetLog.Proofs.Rendering.Cycles
import DiscreetLog.Proofs.Rendering.Depth
import DiscreetLog.Proofs.Rendering.Members
import DiscreetLog.Proofs.Rendering.Rows
import DiscreetLog.Proofs.Results
import DiscreetLog.Proofs.Settings
import DiscreetLog.Proofs.Setup.Alike
import DiscreetLog.Proofs.Setup.Failure
import DiscreetLog.Proofs.Setup.Installation
import DiscreetLog.Proofs.Setup.LifeCycle
import DiscreetLog.Proofs.Setup.Preparation
import DiscreetLog.Proofs.Setup.Service
import DiscreetLog.Proofs.Tokens
import DiscreetLog.Scope
import DiscreetLog.Script
import DiscreetLog.Scrubber
import DiscreetLog.Settings
import DiscreetLog.Setup
import DiscreetLog.Text.Blank
import DiscreetLog.Text.Case
import DiscreetLog.Text.Case.Table
import DiscreetLog.Text.CharSet
import DiscreetLog.Text.Clip
import DiscreetLog.Text.Printable
import DiscreetLog.Text.Printable.Table
import DiscreetLog.Text.Quoted
import DiscreetLog.Text.Search
import DiscreetLog.Time.Calendar
import DiscreetLog.Time.Moment
import DiscreetLog.Time.Timestamp
import DiscreetLog.Tokens
import DiscreetLog.Value
import DiscreetLog.Value.Blank
import DiscreetLog.Value.Display
import DiscreetLog.Value.Entries
import DiscreetLog.Value.Height
import DiscreetLog.Value.Items
import DiscreetLog.Value.Rendering
