import JobImages.Binary64.Basic
import JobImages.Binary64.Shortest
import JobImages.Catalog
import JobImages.CommandLine.Complaint
import JobImages.CommandLine.Flag
import JobImages.CommandLine.Help
import JobImages.CommandLine.Program
import JobImages.CommandLine.Reader
import JobImages.Coordinator
import JobImages.Engine.Basic
import JobImages.Engine.Call
import JobImages.Engine.Ending
import JobImages.Engine.Program
import JobImages.Error
import JobImages.FileTree.Basic
import JobImages.FileTree.Edit
import JobImages.FileTree.Resolve
import JobImages.Http.Client
import JobImages.Http.Failure
import JobImages.Http.Library
import JobImages.Http.Network
import JobImages.Http.Request
import JobImages.Image
import JobImages.JobDirectory
import JobImages.Json.Access
import JobImages.Json.Basic
import JobImages.Json.Fault
import JobImages.Json.Number
import JobImages.Json.Printer
import JobImages.Json.Reader
import JobImages.Log.Basic
import JobImages.Log.Filter
import JobImages.Main
import JobImages.Metadata
import JobImages.Notify
import JobImages.Path
import JobImages.Proofs.Agreement
import JobImages.Proofs.Binary64.Factor
import JobImages.Proofs.Binary64.FewDigits
import JobImages.Proofs.Binary64.Rounding
import JobImages.Proofs.Binary64.Shortest
import JobImages.Proofs.Catalog.Listing
import JobImages.Proofs.Catalog.Reading
import JobImages.Proofs.Catalog.Respelling
import JobImages.Proofs.CommandLine.Arguments
import JobImages.Proofs.CommandLine.Choice
import JobImages.Proofs.CommandLine.Resolution
import JobImages.Proofs.Engine.Commands
import JobImages.Proofs.Engine.Launches
import JobImages.Proofs.Engine.Session
import JobImages.Proofs.FileTree.Ending
import JobImages.Proofs.FileTree.Entry
import JobImages.Proofs.FileTree.Respelling
import JobImages.Proofs.FileTree.Walk
import JobImages.Proofs.Http.Body
import JobImages.Proofs.Http.Exchange
import JobImages.Proofs.Http.Session
import JobImages.Proofs.Insertion
import JobImages.Proofs.Json.Grammar
import JobImages.Proofs.Json.Integer
import JobImages.Proofs.Json.Meaning
import JobImages.Proofs.Json.NumberLiteral
import JobImages.Proofs.Json.NumberRange
import JobImages.Proofs.Json.NumberRule
import JobImages.Proofs.Json.Places
import JobImages.Proofs.Json.Recognition
import JobImages.Proofs.Json.RoundTrip
import JobImages.Proofs.Json.Scan
import JobImages.Proofs.Json.ShortNumber
import JobImages.Proofs.Json.Spelling
import JobImages.Proofs.Json.StringLiteral
import JobImages.Proofs.Json.StringRule
import JobImages.Proofs.Json.WellFormed
import JobImages.Proofs.Metadata.ImageField
import JobImages.Proofs.Metadata.Language
import JobImages.Proofs.Metadata.NumberField
import JobImages.Proofs.Metadata.ReadBack
import JobImages.Proofs.Notify.Batch
import JobImages.Proofs.Notify.Login
import JobImages.Proofs.Notify.Submission
import JobImages.Proofs.Notify.Verdict
import JobImages.Proofs.Program.Exit
import JobImages.Proofs.Publish.Accounting
import JobImages.Proofs.Publish.Answers
import JobImages.Proofs.Publish.Context
import JobImages.Proofs.Publish.Law
import JobImages.Proofs.Publish.Outcome
import JobImages.Proofs.Publish.Password
import JobImages.Proofs.Publish.Plan
import JobImages.Proofs.Publish.Success
import JobImages.Proofs.Publish.Transfer
import JobImages.Proofs.Readings
import JobImages.Proofs.Respelling
import JobImages.Proofs.Runs
import JobImages.Proofs.Sessions
import JobImages.Proofs.Settings.FileName
import JobImages.Proofs.Text.ByteOrder
import JobImages.Proofs.Wiring
import JobImages.Publish
import JobImages.Run
import JobImages.Scenario
import JobImages.Settings
import JobImages.SystemError
import JobImages.Text.Alphanumeric
import JobImages.Text.Base64
import JobImages.Text.Bytes
import JobImages.Text.Lossy
import JobImages.Text.Obscure
import JobImages.Text.Quoted
import JobImages.Text.Split
import JobImages.Text.Terminal
import JobImages.Text.WhiteSpace
import JobImages.Trace
import JobImages.Url.Basic
import JobImages.Url.Host
import JobImages.Url.PercentEncoding
import JobImages.Url.Punycode
import JobImages.Url.Reader
