import Backlog.Rehearsal
import Backlog.Json.Reader
import Backlog.Number.Literal
import Backlog.Redis.Resp
import Backlog.Redis.Address
import Backlog.Redis.Session
import Backlog.Main
import Backlog.Proofs.Moments
import Backlog.Proofs.JoinRun
import Backlog.Proofs.ReadAll
import Backlog.Proofs.Lifecycle
import Backlog.Proofs.JsonScalars
import Backlog.Proofs.JsonText
import Backlog.Proofs.Consistency
import Backlog.Proofs.Report
import Backlog.Proofs.Trimming
import Backlog.Proofs.Numerals
import Backlog.Proofs.QueueList
import Backlog.Proofs.Lowercase
import Backlog.Proofs.Utf8
import Backlog.Proofs.Loading
import Backlog.Proofs.Exporting
import Backlog.Proofs.Secrecy
import Backlog.Proofs.Rehearsing
import Backlog.Proofs.EnvelopeText
import Backlog.Proofs.Publishing
import Backlog.Proofs.EventLog
import Backlog.Proofs.FaultKinds
import Backlog.Proofs.ProgramRun
import Backlog.Proofs.Authority
import Backlog.Proofs.Dialing
import Backlog.Proofs.Exchange
import Backlog.Proofs.Handshake
import Backlog.Proofs.Conversation
import Backlog.Proofs.ReplyFraming
import Backlog.Proofs.Pairing
import Backlog.Proofs.FailedReads
import Backlog.Proofs.Rounding
import Backlog.Proofs.ShortestDecimal
import Backlog.Proofs.DecimalText
import Backlog.Proofs.Calendar
import Backlog.Proofs.Timestamps
import Backlog.Proofs.Payload
import Backlog.Proofs.LengthReplies
import Backlog.Proofs.Drafting
import Backlog.Proofs.QueueSpelling
import Backlog.Proofs.NearestDouble
import Backlog.Proofs.PublishedCounts
import Backlog.Proofs.RequestLimits
import Backlog.Proofs.ConfigText
import Backlog.Proofs.NumberSettings
