import LiveLesson.ApiDoc.Interface
import LiveLesson.Config.ConnectionOptions
import LiveLesson.Config.Load
import LiveLesson.Http.Conversation
import LiveLesson.Json.Pointer
import LiveLesson.Media.Client
import LiveLesson.Message
import LiveLesson.Quiz.Payload
import LiveLesson.Service.Database
import LiveLesson.Service.Interleaving
import LiveLesson.Session.Payload
import LiveLesson.Session.StreamPath
import LiveLesson.Store.Command
import LiveLesson.Url.Form
import LiveLesson.Url.Join
import LiveLesson.Proofs.Session.Life
import LiveLesson.Proofs.Store.SessionTable
import LiveLesson.Proofs.Store.TableStep
import LiveLesson.Proofs.Store.TableHistory
import LiveLesson.Proofs.Service.Protocol
import LiveLesson.Proofs.Service.Runs
import LiveLesson.Proofs.Service.Acknowledgement
import LiveLesson.Proofs.Service.RollBack
import LiveLesson.Proofs.Service.SameAnswers
import LiveLesson.Proofs.Service.AlikeAnswers
import LiveLesson.Proofs.Service.AlikePrograms
import LiveLesson.Proofs.Service.Agreement
import LiveLesson.Proofs.Session.View
import LiveLesson.Proofs.Service.Sequence
import LiveLesson.Proofs.Service.Views
import LiveLesson.Proofs.Service.Redelivery
import LiveLesson.Proofs.Text.Utf8
import LiveLesson.Proofs.Json.Text
import LiveLesson.Proofs.Http.Serve
import LiveLesson.Proofs.Http.Path
import LiveLesson.Proofs.Http.Forwarding
import LiveLesson.Proofs.Quiz.Table
import LiveLesson.Proofs.Quiz.Untouched
import LiveLesson.Proofs.Quiz.Changes
import LiveLesson.Proofs.Quiz.Visits
import LiveLesson.Proofs.Quiz.History
import LiveLesson.Proofs.Quiz.Tally
import LiveLesson.Proofs.Service.Exchanges
import LiveLesson.Proofs.Http.Protocol
import LiveLesson.Proofs.Http.Taxonomy
import LiveLesson.Proofs.Http.Refusal
import LiveLesson.Proofs.Service.Concealment
import LiveLesson.Proofs.Http.Concealment
import LiveLesson.Proofs.Quiz.Push
import LiveLesson.Proofs.Service.Independence
import LiveLesson.Proofs.Session.Addresses
import LiveLesson.Proofs.Http.Callback
import LiveLesson.Proofs.Quiz.Catalogue
import LiveLesson.Proofs.Store.Joins
import LiveLesson.Proofs.Store.QuizStatements
import LiveLesson.Proofs.Service.QuizAgreement
import LiveLesson.Proofs.Store.StaleSessions
import LiveLesson.Proofs.Service.CleanUp
import LiveLesson.Proofs.Service.Creation
import LiveLesson.Proofs.Text.Trim
import LiveLesson.Proofs.Validation.Rules
import LiveLesson.Proofs.Quiz.Rules
import LiveLesson.Proofs.Validation.Payloads
import LiveLesson.Proofs.Http.BrokenRules
import LiveLesson.Proofs.Quiz.Selections
import LiveLesson.Proofs.Quiz.Normal
import LiveLesson.Proofs.Text.Percent
import LiveLesson.Proofs.Url.Ipv6
import LiveLesson.Proofs.Url.Path
import LiveLesson.Proofs.Url.PathSpelling
import LiveLesson.Proofs.Url.Place
import LiveLesson.Proofs.Config.Credentials
import LiveLesson.Proofs.Config.Redaction
import LiveLesson.Proofs.Text.Decoding
import LiveLesson.Proofs.Url.Form
import LiveLesson.Proofs.Url.Web
import LiveLesson.Proofs.Media.Endpoint
import LiveLesson.Proofs.Media.Client
import LiveLesson.Proofs.Config.Validity
import LiveLesson.Proofs.Text.Integer
import LiveLesson.Proofs.Config.Tree
import LiveLesson.Proofs.Config.Slots
import LiveLesson.Proofs.Config.Variables
import LiveLesson.Proofs.Service.Logs
import LiveLesson.Proofs.Http.RequestId
import LiveLesson.Proofs.Session.Reports
import LiveLesson.Proofs.Store.Reachable
import LiveLesson.Proofs.Http.StatusReport
import LiveLesson.Proofs.Quiz.RightAnswers
import LiveLesson.Proofs.Time.Calendar
import LiveLesson.Proofs.Time.Rfc3339
import LiveLesson.Proofs.Json.Strings
import LiveLesson.Proofs.Json.Numbers
import LiveLesson.Proofs.Number.Shortest
import LiveLesson.Proofs.Json.Bytes
import LiveLesson.Proofs.Json.Skip
import LiveLesson.Proofs.Wire.Takes
import LiveLesson.Proofs.Wire.Members
import LiveLesson.Proofs.Wire.Rearranged
import LiveLesson.Proofs.Wire.Values
import LiveLesson.Proofs.Config.RoundTrip
import LiveLesson.Proofs.Wire.RoundTrip
import LiveLesson.Proofs.Text.Word
import LiveLesson.Proofs.Identifier
import LiveLesson.Proofs.Http.Origins
