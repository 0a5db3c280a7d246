import HttpCall.Calendar
import HttpCall.Call.Basic
import HttpCall.Call.Bench
import HttpCall.Call.Event
import HttpCall.Call.Handling
import HttpCall.Call.HopLoop
import HttpCall.Call.Journal
import HttpCall.Call.Plan
import HttpCall.Call.Session
import HttpCall.Call.Timeline
import HttpCall.Call.World
import HttpCall.Client
import HttpCall.Clock
import HttpCall.Cookie.Attribute
import HttpCall.Cookie.Basic
import HttpCall.Cookie.Parser
import HttpCall.Decimal.Shortest
import HttpCall.Duration
import HttpCall.Error
import HttpCall.Failure
import HttpCall.Fault
import HttpCall.HttpDate
import HttpCall.Idna.Direction
import HttpCall.Idna.Domain
import HttpCall.Idna.Folding
import HttpCall.Idna.Joiner
import HttpCall.Idna.Label
import HttpCall.Idna.Punycode
import HttpCall.Json.Basic
import HttpCall.Json.Parser
import HttpCall.Json.Printer
import HttpCall.Message.Charset
import HttpCall.Message.ContentType
import HttpCall.Message.Header
import HttpCall.Message.Method
import HttpCall.Message.Response
import HttpCall.Message.Status
import HttpCall.Pool.Basic
import HttpCall.Pool.Usage
import HttpCall.Redirect.NextHop
import HttpCall.Redirect.Policy
import HttpCall.Request.Basic
import HttpCall.Request.Draft
import HttpCall.Text.Blank
import HttpCall.Text.CodeTable
import HttpCall.Text.Combining
import HttpCall.Text.Decomposition
import HttpCall.Text.Extender
import HttpCall.Text.Hangul
import HttpCall.Text.Mark
import HttpCall.Text.Normal
import HttpCall.Text.Numeral
import HttpCall.Text.Printable
import HttpCall.Text.Quoted
import HttpCall.Text.RangeTable
import HttpCall.Text.Search
import HttpCall.Text.Split
import HttpCall.Text.Utf16
import HttpCall.Text.Utf8
import HttpCall.Token
import HttpCall.Url.Basic
import HttpCall.Url.Host
import HttpCall.Url.Ipv4
import HttpCall.Url.Ipv6
import HttpCall.Url.Parser
import HttpCall.Url.Percent
import HttpCall.Url.Printer
import HttpCall.Proofs.Handling.Conduct
import HttpCall.Proofs.Handling.Outline
import HttpCall.Proofs.Handling.Course
import HttpCall.Proofs.Connection.Conservation
import HttpCall.Proofs.Call.Access
import HttpCall.Proofs.Call.Interleaving
import HttpCall.Proofs.Call.Nesting
import HttpCall.Proofs.Call.FirstSettlement
import HttpCall.Proofs.Connection.Release
import HttpCall.Proofs.Connection.Sound
import HttpCall.Proofs.Connection.Publication
import HttpCall.Proofs.Redirect.Itinerary
import HttpCall.Proofs.Redirect.Position
import HttpCall.Proofs.Redirect.Journey
import HttpCall.Proofs.Redirect.Refinement
import HttpCall.Proofs.Hooks.Rounds
import HttpCall.Proofs.Hooks.Service
import HttpCall.Proofs.Hooks.CalledOnce
import HttpCall.Proofs.Redirect.Chain
import HttpCall.Proofs.Redirect.Credentials
import HttpCall.Proofs.Trace.Segment
import HttpCall.Proofs.Trace.Telling
import HttpCall.Proofs.Trace.Order
import HttpCall.Proofs.Trace.Exception
import HttpCall.Proofs.Call.Lasting
import HttpCall.Proofs.Deadline.Spell
import HttpCall.Proofs.Deadline.Expiry
import HttpCall.Proofs.Deadline.Representable
import HttpCall.Proofs.Deadline.Timing
import HttpCall.Proofs.Deadline.Unreached
import HttpCall.Proofs.Deadline.Budget
import HttpCall.Proofs.Handling.Instant
import HttpCall.Proofs.Handling.Retelling
import HttpCall.Proofs.Handling.Drift
import HttpCall.Proofs.Redirect.Limit
import HttpCall.Proofs.Redirect.HopBound
import HttpCall.Proofs.Redirect.Overlap
import HttpCall.Proofs.Redirect.Destination
import HttpCall.Proofs.Cookies.Lull
import HttpCall.Proofs.Cookies.Gathering
import HttpCall.Proofs.Cookies.Accumulation
import HttpCall.Proofs.Call.Breakdown
import HttpCall.Proofs.Trace.Series
import HttpCall.Proofs.Pool.Accounting
import HttpCall.Proofs.Pool.Answers
import HttpCall.Proofs.Pool.Story
import HttpCall.Proofs.Pool.Chronicle
import HttpCall.Proofs.Pool.Sharing
import HttpCall.Proofs.Redirect.Rewriting
import HttpCall.Proofs.Handling.Notices
import HttpCall.Proofs.Handling.ListenerFault
import HttpCall.Proofs.Connection.Disposal
import HttpCall.Proofs.Date.Days
import HttpCall.Proofs.Date.Formatted
import HttpCall.Proofs.Cookies.Attributes
import HttpCall.Proofs.Cookies.Segment
import HttpCall.Proofs.Cookies.Encoding
import HttpCall.Proofs.Cookies.Grammar
import HttpCall.Proofs.Cookies.Malformed
import HttpCall.Proofs.Cookies.Rearrangement
import HttpCall.Proofs.Cookies.Form
import HttpCall.Proofs.Text.Unicode
import HttpCall.Proofs.Body.Charset
import HttpCall.Proofs.Body.MediaType
import HttpCall.Proofs.Body.Declaration
import HttpCall.Proofs.Handling.Meaning
import HttpCall.Proofs.Hooks.Future
import HttpCall.Proofs.Request.Settings
import HttpCall.Proofs.Request.Fields
import HttpCall.Proofs.Body.Agreement
import HttpCall.Proofs.Redirect.EntityHeaders
import HttpCall.Proofs.Url.Hosted
import HttpCall.Proofs.Request.Sendable
import HttpCall.Proofs.Request.TimeLimit
import HttpCall.Proofs.Pool.Creation
