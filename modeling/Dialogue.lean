import Dialogue.Demo.KnowledgeBase
import Dialogue.Demo.Leads
import Dialogue.Demo.Samples
import Dialogue.Desk
import Dialogue.Dict
import Dialogue.Engine
import Dialogue.Fallback
import Dialogue.Goal
import Dialogue.Handler
import Dialogue.Http.Body
import Dialogue.Http.Cors
import Dialogue.Http.MediaType
import Dialogue.Http.Message
import Dialogue.Http.Route
import Dialogue.InputType
import Dialogue.Json.Decode
import Dialogue.Json.Parser
import Dialogue.Json.Text
import Dialogue.Json.Value
import Dialogue.Model
import Dialogue.Number.Binary64
import Dialogue.Number.Digits
import Dialogue.Number.Powers
import Dialogue.Number.Reading
import Dialogue.Number.Shortest
import Dialogue.Projection
import Dialogue.Proofs.Demo.KnowledgeBase
import Dialogue.Proofs.Demo.Leads
import Dialogue.Proofs.Demo.Model
import Dialogue.Proofs.Desk.Locks
import Dialogue.Proofs.Desk.Serialization
import Dialogue.Proofs.Desk.Steps
import Dialogue.Proofs.Dict
import Dialogue.Proofs.Engine.Atomicity
import Dialogue.Proofs.Engine.GoalStack
import Dialogue.Proofs.Engine.Isolation
import Dialogue.Proofs.Engine.Prompts
import Dialogue.Proofs.Engine.Reachable
import Dialogue.Proofs.Engine.RecordLog
import Dialogue.Proofs.Engine.ReliableStores
import Dialogue.Proofs.Engine.Retention
import Dialogue.Proofs.Engine.SlotFrame
import Dialogue.Proofs.Engine.Sources
import Dialogue.Proofs.Engine.Turns
import Dialogue.Proofs.Fallback
import Dialogue.Proofs.FieldsOfInterest
import Dialogue.Proofs.Handler.Announcements
import Dialogue.Proofs.Handler.Cuts
import Dialogue.Proofs.Handler.Lists
import Dialogue.Proofs.Handler.Lockstep
import Dialogue.Proofs.Handler.Pieces
import Dialogue.Proofs.Handler.Placeholders
import Dialogue.Proofs.Handler.Running
import Dialogue.Proofs.Handler.SlotNumbers
import Dialogue.Proofs.Handler.Slots
import Dialogue.Proofs.Handler.SourceCalls
import Dialogue.Proofs.Handler.SpokenIntegers
import Dialogue.Proofs.Handler.Trace
import Dialogue.Proofs.Json.Skipping
import Dialogue.Proofs.Lists
import Dialogue.Proofs.Number.Decimals
import Dialogue.Proofs.Number.Integers
import Dialogue.Proofs.Number.Rounding
import Dialogue.Proofs.Projection
import Dialogue.Proofs.Resolution.Bindings
import Dialogue.Proofs.Resolution.Building
import Dialogue.Proofs.Resolution.Compiled
import Dialogue.Proofs.Resolution.Distinct
import Dialogue.Proofs.Resolution.FinalSlots
import Dialogue.Proofs.Resolution.LetterCase
import Dialogue.Proofs.Resolution.Occurrences
import Dialogue.Proofs.Resolution.OptionalWords
import Dialogue.Proofs.Resolution.Precedence
import Dialogue.Proofs.Resolution.Registration
import Dialogue.Proofs.Resolution.SingleSlots
import Dialogue.Proofs.Resolution.SpelledModels
import Dialogue.Proofs.Resolution.SpokenNumbers
import Dialogue.Proofs.Resolution.TrailingPunctuation
import Dialogue.Proofs.Resolution.Values
import Dialogue.Proofs.Service.Requests
import Dialogue.Proofs.Service.Sessions
import Dialogue.Proofs.Service.TimeLimit
import Dialogue.Proofs.Session.Persistence
import Dialogue.Proofs.Template.Agreement
import Dialogue.Proofs.Template.Alignment
import Dialogue.Proofs.Template.Captures
import Dialogue.Proofs.Template.Choices
import Dialogue.Proofs.Template.Compiling
import Dialogue.Proofs.Template.Expansion
import Dialogue.Proofs.Template.Grammar
import Dialogue.Proofs.Template.LetterCase
import Dialogue.Proofs.Template.LiteralText
import Dialogue.Proofs.Template.Parsing
import Dialogue.Proofs.Template.Spans
import Dialogue.Proofs.Template.Spelling
import Dialogue.Proofs.Template.TrailingPunctuation
import Dialogue.Proofs.Template.WellFormed
import Dialogue.Proofs.Text.Fields
import Dialogue.Proofs.Text.LetterCase
import Dialogue.Proofs.Text.Trimming
import Dialogue.Proofs.Text.WordEnds
import Dialogue.Proofs.Text.Words
import Dialogue.Proofs.Timestamp
import Dialogue.RecordSource
import Dialogue.Resolution
import Dialogue.ResultsList
import Dialogue.Service
import Dialogue.Session.Basic
import Dialogue.Session.Store
import Dialogue.Settings.Basic
import Dialogue.Settings.File
import Dialogue.Settings.Format
import Dialogue.Settings.Layers
import Dialogue.Spoken
import Dialogue.Template.Basic
import Dialogue.Template.Matcher
import Dialogue.Template.Parser
import Dialogue.Template.Pattern
import Dialogue.Template.Phrasing
import Dialogue.Text.Alphabetic
import Dialogue.Text.Blank
import Dialogue.Text.Case
import Dialogue.Text.CaseTables
import Dialogue.Text.CodePoints
import Dialogue.Text.Spacing
import Dialogue.Text.WordBreak
import Dialogue.Text.WordBreakTables
import Dialogue.Text.WordCharacter
import Dialogue.Timestamp
import Dialogue.Turn.Basic
import Dialogue.Turn.Interpolation
