import DungeonPortfolio.Library.Execution
import DungeonPortfolio.Protocol
import DungeonPortfolio.Library.HashSet
import DungeonPortfolio.World
import DungeonPortfolio.Library.Mailbox
import DungeonPortfolio.Library.Wrapping
import DungeonPortfolio.WorldIndex
import DungeonPortfolio.WorldViews
import DungeonPortfolio.Dispatcher
import DungeonPortfolio.Server
import DungeonPortfolio.ServerActs
import DungeonPortfolio.ServerSteps
import DungeonPortfolio.Sessions
import DungeonPortfolio.ClientLines
import DungeonPortfolio.Library.Ledger
import DungeonPortfolio.Library.Trace
import DungeonPortfolio.Requests
import DungeonPortfolio.Isolation
import DungeonPortfolio.Streams
import DungeonPortfolio.GracefulClose
import DungeonPortfolio.PositionSaves
import DungeonPortfolio.NoStall
import DungeonPortfolio.LineFraming
import DungeonPortfolio.Library.Script
import DungeonPortfolio.Schema
import DungeonPortfolio.Statements
import DungeonPortfolio.Connection
import DungeonPortfolio.Commands
import DungeonPortfolio.Atomicity
import DungeonPortfolio.Executions
import DungeonPortfolio.Decimals
import DungeonPortfolio.StoredNumbers
import DungeonPortfolio.ReadBack
import DungeonPortfolio.Replaying
import DungeonPortfolio.CharacterTable
import DungeonPortfolio.Inventory
import DungeonPortfolio.Library.Printing
import DungeonPortfolio.LoadReplies
import DungeonPortfolio.Workers
import DungeonPortfolio.ExactlyOnce
import DungeonPortfolio.Library.Roster
import DungeonPortfolio.WatcherLines
import DungeonPortfolio.Library.Linearization
import DungeonPortfolio.Linearized
import DungeonPortfolio.Broadcasts
import DungeonPortfolio.OwnCalls
import DungeonPortfolio.Grammar
import DungeonPortfolio.Library.Words
import DungeonPortfolio.Library.Formats
import DungeonPortfolio.WireFormat
import DungeonPortfolio.LineIntegrity
import DungeonPortfolio.LineLimit
import DungeonPortfolio.Library.Doorbell
import DungeonPortfolio.Wakeups
import DungeonPortfolio.Faults
import DungeonPortfolio.Reconnects
import DungeonPortfolio.LastWrites
import DungeonPortfolio.Library.Cells
import DungeonPortfolio.Library.SignedArithmetic
import DungeonPortfolio.Positions
import DungeonPortfolio.Answers
import DungeonPortfolio.Dispatching
import DungeonPortfolio.Program
import DungeonPortfolio.EndToEnd
import DungeonPortfolio.Readings
import DungeonPortfolio.Locks
import DungeonPortfolio.Library.Progress
import DungeonPortfolio.Progress
import DungeonPortfolio.Shutdown
import DungeonPortfolio.PlainWorld
import DungeonPortfolio.Conversations
import DungeonPortfolio.Turns
import DungeonPortfolio.Admissions
import DungeonPortfolio.Settling
import DungeonPortfolio.Startup
import DungeonPortfolio.Integrity
