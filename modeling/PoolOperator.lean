import PoolOperator.Address.Block
import PoolOperator.Address.Ip
import PoolOperator.Address.Socket
import PoolOperator.Api.Client
import PoolOperator.Api.Failure
import PoolOperator.Api.Request
import PoolOperator.Api.Response
import PoolOperator.Api.Watch
import PoolOperator.Artifact
import PoolOperator.Artifact.Text
import PoolOperator.Backoff
import PoolOperator.Condition
import PoolOperator.Definition
import PoolOperator.Definition.Schema
import PoolOperator.Error
import PoolOperator.Health
import PoolOperator.Identity
import PoolOperator.Json
import PoolOperator.Json.MergePatch
import PoolOperator.Json.Printer
import PoolOperator.Json.Reader
import PoolOperator.Json.Record
import PoolOperator.Main
import PoolOperator.Metrics
import PoolOperator.Object.ConfigMap
import PoolOperator.Object.Instance
import PoolOperator.Object.Meta
import PoolOperator.Object.Namespace
import PoolOperator.Object.Pool
import PoolOperator.Object.Timestamp
import PoolOperator.Object.Wire
import PoolOperator.Operator
import PoolOperator.Pipeline.Agenda
import PoolOperator.Pipeline.Result
import PoolOperator.Pipeline.Run
import PoolOperator.Reconcile.Aggregate
import PoolOperator.Reconcile.Report
import PoolOperator.Reconcile.Validate
import PoolOperator.Settings
import PoolOperator.SortedMap
import PoolOperator.Store.Answer
import PoolOperator.Store.Basic
import PoolOperator.Store.Call
import PoolOperator.Store.Error
import PoolOperator.Store.Event
import PoolOperator.Store.Watch
import PoolOperator.Store.Write
import PoolOperator.Task
import PoolOperator.Text.Blank
import PoolOperator.Text.Invisible
import PoolOperator.Text.Numeral
import PoolOperator.Text.Quoted
import PoolOperator.Turn
import PoolOperator.Verdict
import PoolOperator.Yaml.Character
import PoolOperator.Yaml.Folding
import PoolOperator.Yaml.Node
import PoolOperator.Yaml.Node.Reader
import PoolOperator.Yaml.Printer
import PoolOperator.Yaml.Record
import PoolOperator.Yaml.Style
import PoolOperator.Yaml.Token
import PoolOperator.Yaml.Token.Block
import PoolOperator.Yaml.Token.Lexer
import PoolOperator.Yaml.Token.Plain
import PoolOperator.Yaml.Token.Quoted
import PoolOperator.Yaml.Token.Tag
import PoolOperator.Yaml.Untagged
import PoolOperator.Proofs.Yaml.Character
import PoolOperator.Proofs.Yaml.Quoted
import PoolOperator.Proofs.Yaml.Plain
import PoolOperator.Proofs.Yaml.Block
import PoolOperator.Proofs.Yaml.Lexer
import PoolOperator.Proofs.Yaml.Tokens
import PoolOperator.Proofs.Yaml.Nodes
import PoolOperator.Proofs.Artifact.RoundTrip
import PoolOperator.Proofs.SortedMap
import PoolOperator.Proofs.Store.Change
import PoolOperator.Proofs.Artifact.Merge
import PoolOperator.Proofs.Condition
import PoolOperator.Proofs.Reconcile.Serve
import PoolOperator.Proofs.Store.ConfigMap
import PoolOperator.Proofs.Reconcile.Write
import PoolOperator.Proofs.Reconcile.Report
import PoolOperator.Proofs.Reconcile.Aggregate
import PoolOperator.Proofs.Reconcile.Convergence
import PoolOperator.Proofs.Race
import PoolOperator.Proofs.Store.Version
import PoolOperator.Proofs.Store.Status
import PoolOperator.Proofs.Condition.Merge
import PoolOperator.Proofs.Reconcile.Phases
import PoolOperator.Proofs.Scene
import PoolOperator.Proofs.Reconcile.Guard
import PoolOperator.Proofs.Reconcile.Tell
import PoolOperator.Proofs.Reconcile.Faults
import PoolOperator.Proofs.Reconcile.Verdicts
import PoolOperator.Proofs.Identity
import PoolOperator.Proofs.Store.Instance
import PoolOperator.Proofs.Reconcile.Validate
import PoolOperator.Proofs.Validations
import PoolOperator.Proofs.Backoff
import PoolOperator.Proofs.Retries
import PoolOperator.Proofs.Store.Outcome
import PoolOperator.Proofs.Store.Place
import PoolOperator.Proofs.Store.History
import PoolOperator.Proofs.Store.Kind
import PoolOperator.Proofs.Reconcile.Alone
import PoolOperator.Proofs.Reconcile.Frame
import PoolOperator.Proofs.Reconcile.Sight
import PoolOperator.Proofs.Reconcile.Company
import PoolOperator.Proofs.Reconcile.Alike
import PoolOperator.Proofs.Reconcile.Isolation
import PoolOperator.Proofs.Store.Atomic
import PoolOperator.Proofs.Store.Announce
import PoolOperator.Proofs.Store.Watch
import PoolOperator.Proofs.Api.Reply
import PoolOperator.Proofs.Api.Dialogue
import PoolOperator.Proofs.Reconcile.Fatal
import PoolOperator.Proofs.Pipeline.Deletion
import PoolOperator.Proofs.Json
import PoolOperator.Proofs.Object.Wire
import PoolOperator.Proofs.Api.StatusPatch
import PoolOperator.Proofs.Metrics
import PoolOperator.Proofs.Reconcile.Reporter
import PoolOperator.Proofs.Reconcile.Conflicts
import PoolOperator.Proofs.Text.Blank
import PoolOperator.Proofs.Text.Numeral
import PoolOperator.Proofs.Address.Ip
import PoolOperator.Proofs.Address.Block
import PoolOperator.Proofs.Artifact.Entry
import PoolOperator.Proofs.Reconcile.Record
import PoolOperator.Proofs.Reconcile.Ownership
import PoolOperator.Proofs.Condition.Position
import PoolOperator.Proofs.Pipeline.Ending
import PoolOperator.Proofs.Settings
import PoolOperator.Proofs.Reconcile.Attempts
import PoolOperator.Proofs.Pace
