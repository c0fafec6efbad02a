import Automation.Aborts
import Automation.Action.Attempt
import Automation.Action.Call
import Automation.Action.Check
import Automation.Action.Failure
import Automation.Action.Url
import Automation.Condition.Eval
import Automation.Condition.Parser
import Automation.Condition.Token
import Automation.Context
import Automation.Context.Stack
import Automation.Definition.Basic
import Automation.Definition.Codec
import Automation.Definition.Examples
import Automation.Definition.Graph
import Automation.Definition.Problems
import Automation.Definition.Reading
import Automation.Entries
import Automation.Event
import Automation.Form
import Automation.Jobs
import Automation.Json.Reader
import Automation.Json.Writer
import Automation.Number.Shortest
import Automation.Number.Text
import Automation.Proofs.Action.Address
import Automation.Proofs.Action.Attempts
import Automation.Proofs.Action.Checked
import Automation.Proofs.Action.Defects
import Automation.Proofs.Action.Phone
import Automation.Proofs.Action.Retries
import Automation.Proofs.Condition.Comparing
import Automation.Proofs.Condition.Grammar
import Automation.Proofs.Condition.Writing
import Automation.Proofs.Definition.Filling
import Automation.Proofs.Definition.Plain
import Automation.Proofs.Definition.Reach
import Automation.Proofs.Definition.Reading
import Automation.Proofs.Definition.Refusal
import Automation.Proofs.Definition.RoundTrip
import Automation.Proofs.Definition.Text
import Automation.Proofs.Definition.Valid
import Automation.Proofs.Json.Limits
import Automation.Proofs.Json.Number
import Automation.Proofs.Json.Reading
import Automation.Proofs.Json.RoundTrip
import Automation.Proofs.Json.Text
import Automation.Proofs.Number.Rounding
import Automation.Proofs.Number.Scaling
import Automation.Proofs.Number.Shortest
import Automation.Proofs.Number.Unpacked
import Automation.Proofs.Run.Active
import Automation.Proofs.Run.Address
import Automation.Proofs.Run.Budget
import Automation.Proofs.Run.Check
import Automation.Proofs.Run.Course
import Automation.Proofs.Run.Cut
import Automation.Proofs.Run.Escape
import Automation.Proofs.Run.ExactTime
import Automation.Proofs.Run.Executor
import Automation.Proofs.Run.Fields
import Automation.Proofs.Run.Halting
import Automation.Proofs.Run.Key
import Automation.Proofs.Run.Lifetime
import Automation.Proofs.Run.Lockstep
import Automation.Proofs.Run.Machine
import Automation.Proofs.Run.Outputs
import Automation.Proofs.Run.Performed
import Automation.Proofs.Run.Reach
import Automation.Proofs.Run.Record
import Automation.Proofs.Run.Reference
import Automation.Proofs.Run.Restore
import Automation.Proofs.Run.Rounds
import Automation.Proofs.Run.Segment
import Automation.Proofs.Run.Stored
import Automation.Proofs.Run.Story
import Automation.Proofs.Run.Suspension
import Automation.Proofs.Run.Tenant
import Automation.Proofs.Run.Told
import Automation.Proofs.Run.Visit
import Automation.Proofs.Run.World
import Automation.Proofs.Schedule.Due
import Automation.Proofs.Schedule.Search
import Automation.Proofs.Schema.Plain
import Automation.Proofs.Schema.Reading
import Automation.Proofs.Schema.RoundTrip
import Automation.Proofs.Schema.Texts
import Automation.Proofs.Server.Abort
import Automation.Proofs.Server.Apart
import Automation.Proofs.Server.Books
import Automation.Proofs.Server.Events
import Automation.Proofs.Server.Fate
import Automation.Proofs.Server.History
import Automation.Proofs.Server.Interleaving
import Automation.Proofs.Server.Live
import Automation.Proofs.Server.Moves
import Automation.Proofs.Server.Resumed
import Automation.Proofs.Server.Service
import Automation.Proofs.Server.Tenants
import Automation.Proofs.Server.Trace
import Automation.Proofs.Server.Turn
import Automation.Proofs.Server.Twins
import Automation.Proofs.Store.Alike
import Automation.Proofs.Store.Operations
import Automation.Proofs.Store.Requests
import Automation.Proofs.Store.Row
import Automation.Proofs.Store.Tallies
import Automation.Proofs.Store.Tenants
import Automation.Proofs.Template.Cut
import Automation.Proofs.Template.Resolving
import Automation.Proofs.Text.Class
import Automation.Proofs.Text.Digits
import Automation.Proofs.Text.Forward
import Automation.Proofs.Text.Splitting
import Automation.Proofs.Time.Calendar
import Automation.Proofs.Time.Digits
import Automation.Proofs.Time.Wire
import Automation.Proofs.Time.WireReading
import Automation.Proofs.Value.Compare
import Automation.Proofs.Value.Part
import Automation.Proofs.Value.Texts
import Automation.Proofs.Yaml.Cursor
import Automation.Proofs.Yaml.Data
import Automation.Proofs.Yaml.Integer
import Automation.Proofs.Yaml.Node
import Automation.Proofs.Yaml.Number
import Automation.Proofs.Yaml.Scalar
import Automation.Proofs.Yaml.Token
import Automation.Rehearsal
import Automation.Rehearsal.Script
import Automation.Rehearsal.Transcript
import Automation.Remote.Http
import Automation.Remote.Publisher
import Automation.Remote.Service
import Automation.Remote.Transcript
import Automation.Run.ActiveTime
import Automation.Run.Dialogue
import Automation.Run.Engine
import Automation.Run.Result
import Automation.Run.Start
import Automation.Schedule.Cron
import Automation.Schedule.Due
import Automation.Schedule.Fire
import Automation.Schema.Codec
import Automation.Schema.Issue
import Automation.Schema.Source
import Automation.Server.Basic
import Automation.Server.Dispatch
import Automation.Server.Transcript
import Automation.Server.Turn
import Automation.Settings
import Automation.Store.Basic
import Automation.Store.Column
import Automation.Store.Failure
import Automation.Store.Mean
import Automation.Store.Report
import Automation.Store.Request
import Automation.Store.Row
import Automation.Store.Runs
import Automation.Store.Workflows
import Automation.Template
import Automation.Text.Class
import Automation.Text.Ranges
import Automation.Text.UpperRuns
import Automation.Time.Calendar
import Automation.Time.IsoReader
import Automation.Time.Span
import Automation.Time.Stamp
import Automation.Time.WireReader
import Automation.Time.Zone.Africa
import Automation.Time.Zone.America
import Automation.Time.Zone.Asia
import Automation.Time.Zone.Basic
import Automation.Time.Zone.Europe
import Automation.Time.Zone.Find
import Automation.Time.Zone.Ocean
import Automation.Time.Zone.Other
import Automation.Trigger.Matching
import Automation.Value.Basic
import Automation.Value.Compare
import Automation.Value.Display
import Automation.Value.Sorted
import Automation.Web.Handler
import Automation.Web.Message
import Automation.Web.Route
import Automation.Web.Token
import Automation.Yaml.Cursor
import Automation.Yaml.Data
import Automation.Yaml.Node
import Automation.Yaml.Scalar
import Automation.Yaml.Token
import Automation.Yaml.Writer
import Automation.Proofs.Remote.Publisher
import Automation.Proofs.Run.Iteration
