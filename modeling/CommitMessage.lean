import CommitMessage.Api.Service
import CommitMessage.Board.Session
import CommitMessage.Fetch.Client
import CommitMessage.Log.Entry
import CommitMessage.Main
import CommitMessage.Schedule.DebounceSession
import CommitMessage.Schedule.LimiterSession
import CommitMessage.Text.Multibyte
import CommitMessage.Proofs.Board.Steady
import CommitMessage.Proofs.Board.NewPass
import CommitMessage.Proofs.Board.Attended
import CommitMessage.Proofs.Board.Tracks
import CommitMessage.Proofs.Board.Ledger
import CommitMessage.Proofs.Board.Turns
import CommitMessage.Proofs.Board.Runs
import CommitMessage.Proofs.Board.Commits
import CommitMessage.Proofs.Board.Convergence
import CommitMessage.Proofs.Page.Extraction
import CommitMessage.Proofs.ExactTime
import CommitMessage.Proofs.Lookup.Pages
import CommitMessage.Proofs.Lookup.Line
import CommitMessage.Proofs.Lookup.Fetches
import CommitMessage.Proofs.Lookup.Turns
import CommitMessage.Proofs.Lookup.Answers
import CommitMessage.Proofs.Lookup.Effort
import CommitMessage.Proofs.Workspace.Effects
import CommitMessage.Proofs.Workspace.Going
import CommitMessage.Proofs.Workspace.Jobs
import CommitMessage.Proofs.Workspace.Instants
import CommitMessage.Proofs.Workspace.Start
import CommitMessage.Proofs.Message.Occurrences
import CommitMessage.Proofs.Workspace.Annotated
import CommitMessage.Proofs.Lookup.Traffic
import CommitMessage.Proofs.Lookup.History
import CommitMessage.Proofs.Lookup.Waiting
import CommitMessage.Proofs.Board.Opening
import CommitMessage.Proofs.Workspace.Asides
import CommitMessage.Proofs.Workspace.Moves
import CommitMessage.Proofs.Workspace.Leaving
import CommitMessage.Proofs.Workspace.Orderly
import CommitMessage.Proofs.Workspace.Runs
import CommitMessage.Proofs.Workspace.SingleFlight
import CommitMessage.Proofs.Workspace.Cached
import CommitMessage.Proofs.Workspace.Chores
import CommitMessage.Proofs.Workspace.Solo
import CommitMessage.Proofs.Workspace.Dispatch
import CommitMessage.Proofs.Workspace.Inquiries
import CommitMessage.Proofs.Workspace.Answering
import CommitMessage.Proofs.Lookup.Eviction
import CommitMessage.Proofs.Lookup.Identifiers
import CommitMessage.Proofs.Message.Scans
import CommitMessage.Proofs.Message.Rules
import CommitMessage.Proofs.Message.Agreement
import CommitMessage.Proofs.Schedule.Grants
import CommitMessage.Proofs.Schedule.Places
import CommitMessage.Proofs.Schedule.Moves
import CommitMessage.Proofs.Schedule.Upkeep
import CommitMessage.Proofs.Schedule.Jobs
import CommitMessage.Proofs.Schedule.Conduct
import CommitMessage.Proofs.Schedule.Passing
import CommitMessage.Proofs.Schedule.Service
import CommitMessage.Proofs.Message.Forms
import CommitMessage.Proofs.Message.Layout
import CommitMessage.Proofs.Message.References
import CommitMessage.Proofs.Board.Mirror
import CommitMessage.Proofs.Schedule.Timers
import CommitMessage.Proofs.Schedule.Calls
import CommitMessage.Proofs.Schedule.Waiting
import CommitMessage.Proofs.Schedule.Callbacks
import CommitMessage.Proofs.Schedule.Debouncing
import CommitMessage.Proofs.Schedule.Called
import CommitMessage.Proofs.Schedule.Elapsing
import CommitMessage.Proofs.Schedule.Timeline
import CommitMessage.Proofs.Board.Ending
import CommitMessage.Proofs.Workspace.Beside
import CommitMessage.Proofs.Workspace.Timers
import CommitMessage.Proofs.Workspace.Newest
import CommitMessage.Proofs.Lookup.Stopping
import CommitMessage.Proofs.Lookup.Tending
import CommitMessage.Proofs.Lookup.CallingOff
import CommitMessage.Proofs.Workspace.Tended
import CommitMessage.Proofs.Workspace.Keeping
import CommitMessage.Proofs.Workspace.Calling
import CommitMessage.Proofs.Workspace.Tending
import CommitMessage.Proofs.Workspace.Passive
import CommitMessage.Proofs.Workspace.Released
import CommitMessage.Proofs.Workspace.Disposing
import CommitMessage.Proofs.Workspace.Disposed
import CommitMessage.Proofs.Settings.Numbers
import CommitMessage.Proofs.Settings.Reading
import CommitMessage.Proofs.Settings.Usable
import CommitMessage.Proofs.Text.Written
import CommitMessage.Proofs.CommandLine.Complaints
import CommitMessage.Proofs.CommandLine.Surfaces
import CommitMessage.Proofs.Log.Fields
import CommitMessage.Proofs.CommandLine.Records
import CommitMessage.Proofs.Board.Kept
import CommitMessage.Proofs.Board.Heeded
import CommitMessage.Proofs.Board.Lasting
import CommitMessage.Proofs.Board.Foretold
import CommitMessage.Proofs.Board.Untouched
import CommitMessage.Proofs.Workspace.Elsewhere
import CommitMessage.Proofs.Workspace.Heeding
import CommitMessage.Proofs.Workspace.Watching
import CommitMessage.Proofs.Workspace.Foretelling
import CommitMessage.Proofs.Workspace.Untouched
import CommitMessage.Proofs.Workspace.Concerns
import CommitMessage.Proofs.Workspace.Apart
import CommitMessage.Proofs.Workspace.Together
import CommitMessage.Proofs.Message.Placement
import CommitMessage.Proofs.Page.Tickets
import CommitMessage.Proofs.Page.Changesets
import CommitMessage.Proofs.Message.Summaries
import CommitMessage.Proofs.Message.Spans
import CommitMessage.Proofs.Message.LineEnds
import CommitMessage.Proofs.Message.Usernames
import CommitMessage.Proofs.Message.Trailers
import CommitMessage.Proofs.Page.Details
import CommitMessage.Proofs.Text.Escapes
import CommitMessage.Proofs.Lookup.Requests
import CommitMessage.Proofs.Workspace.Sources
