import Reconcile.Main
import Reconcile.Http.Script
import Reconcile.Recipe.ToJson
import Reconcile.Proofs.Run.Paths
import Reconcile.Proofs.Credential.Attaching
import Reconcile.Proofs.Run.Requests
import Reconcile.Proofs.Run.Cancellation
import Reconcile.Proofs.Run.StrategyTable
import Reconcile.Proofs.Run.TwoRuns
import Reconcile.Proofs.Run.Announcements
import Reconcile.Proofs.Run.Secrecy
import Reconcile.Proofs.Run.HeaderLines
import Reconcile.Proofs.Credential.Calls
import Reconcile.Proofs.Run.OwnTokens
import Reconcile.Proofs.Credential.Obtaining
import Reconcile.Proofs.Run.Course
import Reconcile.Proofs.Run.Reports
import Reconcile.Proofs.Run.Variables
import Reconcile.Proofs.Run.Schedule
import Reconcile.Proofs.Run.Templates
import Reconcile.Proofs.Http.Layers
import Reconcile.Proofs.Run.RequestHeaders
import Reconcile.Proofs.Run.Enactment
import Reconcile.Proofs.Run.Finding
import Reconcile.Proofs.Run.Contents
import Reconcile.Proofs.Run.Creation
import Reconcile.Proofs.Cli.OutputFlags
import Reconcile.Proofs.Cli.Agreement
import Reconcile.Proofs.Json.Scalars
import Reconcile.Proofs.Json.Locality
import Reconcile.Proofs.Json.Parts
import Reconcile.Proofs.Json.Texts
import Reconcile.Proofs.Json.Values
import Reconcile.Proofs.Recipe.Reading
import Reconcile.Proofs.Recipe.RoundTrip
import Reconcile.Proofs.Recipe.Detection
import Reconcile.Proofs.Run.Independence
import Reconcile.Proofs.Url.Schemes
import Reconcile.Proofs.Run.Addresses
import Reconcile.Proofs.Text.Percent
import Reconcile.Proofs.Url.Segments
import Reconcile.Proofs.Run.FoundResources
import Reconcile.Proofs.Template.Grammar
import Reconcile.Proofs.Template.Rendering
import Reconcile.Proofs.Template.Concatenation
import Reconcile.Proofs.Query.Spelling
import Reconcile.Proofs.Query.Normalization
import Reconcile.Proofs.Run.Alternatives
import Reconcile.Proofs.Text.Utf8
import Reconcile.Proofs.Run.QuotedBodies
import Reconcile.Proofs.Json.Numbers
import Reconcile.Proofs.Run.Recollection
import Reconcile.Proofs.Json.Places
import Reconcile.Proofs.Query.Findings
import Reconcile.Proofs.Run.NumericIds
import Reconcile.Proofs.Text.Forms
import Reconcile.Proofs.Text.Base64
import Reconcile.Proofs.Text.SmallLetters
import Reconcile.Proofs.Credential.TokenForms
import Reconcile.Proofs.Credential.LoginBodies
import Reconcile.Proofs.Credential.TokenReplies
import Reconcile.Proofs.Recipe.Rules
import Reconcile.Proofs.Credential.Lifetimes
import Reconcile.Proofs.Recipe.AuthDocuments
import Reconcile.Proofs.Run.ReachableStores
import Reconcile.Proofs.Json.Objects
import Reconcile.Proofs.Recipe.FieldOrder
import Reconcile.Proofs.Recipe.Reprinting
import Reconcile.Proofs.Http.Lookups
import Reconcile.Proofs.Run.Warnings
import Reconcile.Proofs.Json.Lines
import Reconcile.Proofs.Cli.RunReports
