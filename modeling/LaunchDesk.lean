import LaunchDesk.Call
import LaunchDesk.Client
import LaunchDesk.CommandLine.Grammar
import LaunchDesk.CommandLine.Parser
import LaunchDesk.CommandLine.Word
import LaunchDesk.Decimal.Digits
import LaunchDesk.Decimal.Numeral
import LaunchDesk.Decimal.Shortest
import LaunchDesk.Folder
import LaunchDesk.Http.ForeignUrl
import LaunchDesk.Http.Host
import LaunchDesk.Http.HostName
import LaunchDesk.Http.HostName.Direction
import LaunchDesk.Http.HostName.DirectionTable
import LaunchDesk.Http.HostName.JoiningTable
import LaunchDesk.Http.HostName.SpellingTable
import LaunchDesk.Http.Login
import LaunchDesk.Http.MediaType
import LaunchDesk.Http.Message
import LaunchDesk.Http.Url
import LaunchDesk.Invocation
import LaunchDesk.Job.Basic
import LaunchDesk.Job.Report
import LaunchDesk.Job.Wire
import LaunchDesk.Json.Basic
import LaunchDesk.Json.Lexer
import LaunchDesk.Json.Parser
import LaunchDesk.Json.Printer
import LaunchDesk.Launch
import LaunchDesk.LogFilter
import LaunchDesk.Main
import LaunchDesk.Negotiation
import LaunchDesk.Path
import LaunchDesk.Program
import LaunchDesk.Proofs.Agreement
import LaunchDesk.Proofs.CallLanguage
import LaunchDesk.Proofs.Cancellation
import LaunchDesk.Proofs.Consent
import LaunchDesk.Proofs.Course
import LaunchDesk.Proofs.ExitStatus
import LaunchDesk.Proofs.Files
import LaunchDesk.Proofs.Http.Addresses
import LaunchDesk.Proofs.Json.Documents
import LaunchDesk.Proofs.Json.Numerals
import LaunchDesk.Proofs.Json.Tokens
import LaunchDesk.Proofs.Launch
import LaunchDesk.Proofs.Negotiation
import LaunchDesk.Proofs.Refinement
import LaunchDesk.Proofs.Requests
import LaunchDesk.Proofs.UnreadAnswer
import LaunchDesk.Proofs.Wire.Acceptance
import LaunchDesk.Proofs.Wire.Entries
import LaunchDesk.Proofs.Wire.Rearrangement
import LaunchDesk.Proofs.Wire.Records
import LaunchDesk.Proofs.Wire.RoundTrip
import LaunchDesk.Rehearsal
import LaunchDesk.Session
import LaunchDesk.Settings
import LaunchDesk.Table
import LaunchDesk.Terminal
import LaunchDesk.Text.Base64
import LaunchDesk.Text.Blank
import LaunchDesk.Text.Charset
import LaunchDesk.Text.Charset.Big5
import LaunchDesk.Text.Charset.Big5Chart
import LaunchDesk.Text.Charset.Chart
import LaunchDesk.Text.Charset.Gb18030
import LaunchDesk.Text.Charset.Gb18030Chart
import LaunchDesk.Text.Charset.Japanese
import LaunchDesk.Text.Charset.JisChart
import LaunchDesk.Text.Charset.JisSupplementChart
import LaunchDesk.Text.Charset.Korean
import LaunchDesk.Text.Charset.KoreanChart
import LaunchDesk.Text.Charset.OneByte
import LaunchDesk.Text.Charset.Sequence
import LaunchDesk.Text.Charset.Utf16
import LaunchDesk.Text.Composed
import LaunchDesk.Text.CompositionTable
import LaunchDesk.Text.EmojiTable
import LaunchDesk.Text.Hex
import LaunchDesk.Text.HiddenTable
import LaunchDesk.Text.Infix
import LaunchDesk.Text.LetterTable
import LaunchDesk.Text.Ligature
import LaunchDesk.Text.LowerCase
import LaunchDesk.Text.Punycode
import LaunchDesk.Text.Quoted
import LaunchDesk.Text.Split
import LaunchDesk.Text.Utf8
import LaunchDesk.Text.Width
import LaunchDesk.Text.WidthTable
import LaunchDesk.Trace
import LaunchDesk.Wire.Codec
import LaunchDesk.Wire.Layout
import LaunchDesk.Proofs.DecisionTable
import LaunchDesk.Proofs.Impartiality
import LaunchDesk.Proofs.CommandLine.Blindness
import LaunchDesk.Proofs.CommandLine.Implied
import LaunchDesk.Proofs.CommandLine.Keys
import LaunchDesk.Proofs.CommandLine.Spelling
import LaunchDesk.Proofs.Conversation
import LaunchDesk.Proofs.Deliveries
import LaunchDesk.Proofs.DisplayWidth
import LaunchDesk.Proofs.Replies
import LaunchDesk.Proofs.Secrecy
import LaunchDesk.Proofs.Status
import LaunchDesk.Proofs.Submission
import LaunchDesk.Proofs.Relevance
import LaunchDesk.Proofs.Tables
import LaunchDesk.Proofs.BaseAddress
import LaunchDesk.Proofs.Unscheduled
import LaunchDesk.Proofs.Json.Literals
import LaunchDesk.Proofs.Wire.Counts
import LaunchDesk.Proofs.Wire.Positions
import LaunchDesk.Proofs.Decimal.Nearest
import LaunchDesk.Proofs.Amounts
import LaunchDesk.Proofs.NegotiationLoop
