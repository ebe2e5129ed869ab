import Tafl.Board.Survey
import Tafl.Guest.Recognition
import Tafl.Guest.Rights
import Tafl.Hall.Events
import Tafl.Hall.Timer
import Tafl.Move.Digits
import Tafl.Proofs.Wire.Decode
import Tafl.Roster
import Tafl.Service
import Tafl.Settings
import Tafl.Table
import Tafl.Tables.Matchmaking
import Tafl.Text.Blank
import Tafl.Text.Cut
import Tafl.Text.Quoted
import Tafl.Text.Unsigned
import Tafl.Text.WordChar
import Tafl.Wire.Notice
import Tafl.Wire.Request
import Tafl.Proofs.Hall.Order
import Tafl.Proofs.Hall.Games
import Tafl.Proofs.Hall.Changes
import Tafl.Proofs.Hall.Commands
import Tafl.Proofs.Hall.Matchmaking
import Tafl.Proofs.Hall.Runs
import Tafl.Proofs.Hall.Seating
import Tafl.Proofs.Hall.Screens
import Tafl.Proofs.Hall.Lines
import Tafl.Proofs.Hall.Incidents
import Tafl.Proofs.Board.Moves
import Tafl.Proofs.Board.Captures
import Tafl.Proofs.Board.Outcome
import Tafl.Proofs.Game.KingCapture
import Tafl.Proofs.Hall.Pings
import Tafl.Proofs.Hall.Records
import Tafl.Proofs.Hall.Names
import Tafl.Proofs.Hall.Leftovers
import Tafl.Proofs.Hall.Reconnections
import Tafl.Proofs.Hall.Countdown
import Tafl.Proofs.Hall.Edges
import Tafl.Proofs.Hall.Silence
import Tafl.Proofs.Hall.Parties
import Tafl.Proofs.Hall.Commuting
import Tafl.Proofs.Hall.Batches
import Tafl.Proofs.Hall.Reads
import Tafl.Proofs.Hall.Accounts
import Tafl.Proofs.Hall.Counting
import Tafl.Proofs.Hall.Violations
import Tafl.Proofs.Board.Neighbours
import Tafl.Proofs.Board.Simultaneous
import Tafl.Proofs.Wire.Notices
import Tafl.Proofs.Hall.Letters
import Tafl.Proofs.Hall.Guises
import Tafl.Proofs.Hall.LateEvents
import Tafl.Proofs.Board.Glides
import Tafl.Proofs.Hall.Simultaneous
import Tafl.Proofs.Tables.Pairings
import Tafl.Proofs.Hall.Rights
import Tafl.Proofs.Hall.Victories
import Tafl.Proofs.Wire.Spelling
import Tafl.Proofs.Wire.Leniency
import Tafl.Proofs.Hall.Reclaiming
import Tafl.Proofs.Board.Playfield
import Tafl.Proofs.Settings.Lookup
import Tafl.Proofs.Wire.FrameSizes
