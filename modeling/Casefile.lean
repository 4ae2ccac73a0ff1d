import Casefile.Data.Table
import Casefile.Json.Printer
import Casefile.Json.Reader
import Casefile.Text.Blank
import Casefile.Text.LowerCase
import Casefile.Text.WordClass
import Casefile.Json.Record
import Casefile.Game.Message
import Casefile.Game.Outcome
import Casefile.Game.Progress
import Casefile.Game.State
import Casefile.Story.Contact
import Casefile.Game.Command
import Casefile.Game.Keywords
import Casefile.Game.Picker
import Casefile.Game.Toast
import Casefile.Disk.Basic
import Casefile.Disk.Replacement
import Casefile.Game.Resolver
import Casefile.Save.Store
import Casefile.Story.Lint
import Casefile.Story.Load
import Casefile.Chat.Line
import Casefile.Chat.Loop
import Casefile.Text.Line
import Casefile.Settings.Template
import Casefile.Toml.Document
import Casefile.Toml.Quoted
import Casefile.Toml.Moment
import Casefile.Toml.Number
import Casefile.Toml.Token
import Casefile.Settings.Basic
import Casefile.LockScreen
import Casefile.Sitting
import Casefile.Disk.Change
import Casefile.Main
import Casefile.Proofs.Json.Layout
import Casefile.Proofs.Json.RoundTrip
import Casefile.Proofs.Data.Table
import Casefile.Proofs.Wire.Faithful
import Casefile.Proofs.Wire.Saved
import Casefile.Proofs.Wire.Authored
import Casefile.Proofs.Disk.View
import Casefile.Proofs.Disk.Walk
import Casefile.Proofs.Disk.Operations
import Casefile.Proofs.Disk.Spelling
import Casefile.Proofs.Disk.Files
import Casefile.Proofs.Disk.TempName
import Casefile.Proofs.Disk.Saving
import Casefile.Proofs.Disk.Recovery
import Casefile.Proofs.Disk.CrashSafety
import Casefile.Proofs.Save.Vault
import Casefile.Save.Request
import Casefile.Proofs.Save.Restart
import Casefile.Save.Outage
import Casefile.Proofs.Save.Outage
import Casefile.Game.Play
import Casefile.Proofs.Game.Edits
import Casefile.Proofs.Game.Keys
import Casefile.Proofs.Game.Ruling
import Casefile.Proofs.Game.Record
import Casefile.Proofs.Game.Lockout
import Casefile.Proofs.Game.Attempts
import Casefile.Proofs.Game.Effects
import Casefile.Proofs.Game.Independence
import Casefile.Save.Ledger
import Casefile.Game.Endurance
import Casefile.Game.Conversation
import Casefile.Proofs.Save.Ledger
import Casefile.Proofs.Game.Endurance
import Casefile.Proofs.Game.Transcript
import Casefile.Proofs.Text.LowerCase
import Casefile.Proofs.Text.Runs
import Casefile.Proofs.Game.Keywords
import Casefile.Proofs.Game.Command
import Casefile.Proofs.Story.Lint
import Casefile.Proofs.Story.Breakage
import Casefile.Proofs.Story.Playable
import Casefile.Proofs.Game.Picker
import Casefile.Proofs.Game.Wording
import Casefile.Proofs.Game.Question
import Casefile.Proofs.Game.Phase
import Casefile.Game.Activity
import Casefile.Proofs.Game.Unread
import Casefile.Game.Course
import Casefile.Proofs.Game.Course
import Casefile.Game.Screen
import Casefile.Proofs.Game.Screen
import Casefile.Proofs.Game.StartOver
import Casefile.Game.Interruption
import Casefile.Proofs.Game.Interruption
import Casefile.Json.Spelling
import Casefile.Json.Form
import Casefile.Game.Form
import Casefile.Proofs.Json.Scanning
import Casefile.Proofs.Json.Assembly
import Casefile.Proofs.Json.Spelling
import Casefile.Proofs.Wire.Form
import Casefile.Proofs.Wire.Presentation
import Casefile.Chat.Run
import Casefile.Proofs.Chat.Run
import Casefile.Proofs.Story.Load
import Casefile.Proofs.Chat.Active
import Casefile.Proofs.Chat.Toasts
import Casefile.Proofs.Game.Interval
import Casefile.Proofs.Text.Pattern
import Casefile.Game.Grammar
import Casefile.Proofs.Game.Grammar
import Casefile.Proofs.Text.Sigma
import Casefile.Proofs.Game.WholeWord
import Casefile.Proofs.Game.WordSet
import Casefile.Proofs.Disk.Missing
import Casefile.Proofs.Disk.Siblings
import Casefile.Proofs.Disk.Run
import Casefile.Proofs.Disk.Frame
import Casefile.Proofs.Disk.AllOrNothing
import Casefile.Proofs.Disk.StaleBackup
import Casefile.Proofs.Save.SavedFile
import Casefile.Proofs.Settings.Division
import Casefile.Proofs.Story.Directory
import Casefile.Proofs.LockScreen
import Casefile.Proofs.Sitting
