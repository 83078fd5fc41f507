import GuestSupervisor.Text.Basic
import GuestSupervisor.Text.Blank
import GuestSupervisor.Text.Numeral
import GuestSupervisor.Text.Utf8
import GuestSupervisor.Text.Escapes
import GuestSupervisor.Text.Duration
import GuestSupervisor.Text.ByteSize
import GuestSupervisor.Text.Quoted
import GuestSupervisor.Host.Program
import GuestSupervisor.Json.Record
import GuestSupervisor.Configuration.Store
import GuestSupervisor.Configuration.Json
import GuestSupervisor.Command.Builder
import GuestSupervisor.StandIn.Options
import GuestSupervisor.Display
import GuestSupervisor.Usb
import GuestSupervisor.Instance.Machine
import GuestSupervisor.Instance.Exit
import GuestSupervisor.Monitor.Channel
import GuestSupervisor.Monitor.Watch
import GuestSupervisor.Images.Library
import GuestSupervisor.Layout
import GuestSupervisor.Screenshot
import GuestSupervisor.Toml.Reader
import GuestSupervisor.Toml.Writer
import GuestSupervisor.Settings.File
import GuestSupervisor.Text.Timestamp
import GuestSupervisor.Supervisor.Handle
import GuestSupervisor.Supervisor.Core
import GuestSupervisor.Supervisor.Child
import GuestSupervisor.Supervisor.Dispatch
import GuestSupervisor.Supervisor.Work
import GuestSupervisor.Supervisor.System
import GuestSupervisor.StandIn.Emulator
import GuestSupervisor.Supervisor.Schedule
import GuestSupervisor.Service.Status
import GuestSupervisor.Service.Basic
import GuestSupervisor.Service.Capture
import GuestSupervisor.Api.Handler
import GuestSupervisor.CommandLine.Run
import GuestSupervisor.Main
import GuestSupervisor.Proofs.Supervisor.Core
import GuestSupervisor.Proofs.Supervisor.Change
import GuestSupervisor.Proofs.Supervisor.Sound
import GuestSupervisor.Proofs.Supervisor.Moves
import GuestSupervisor.Proofs.Supervisor.Lineage
import GuestSupervisor.Proofs.Supervisor.Coherence
import GuestSupervisor.Proofs.Supervisor.Delivery
import GuestSupervisor.Proofs.Supervisor.Restart
import GuestSupervisor.Proofs.Supervisor.RestartLimit
import GuestSupervisor.Proofs.Supervisor.Beside
import GuestSupervisor.Proofs.Supervisor.Attended
import GuestSupervisor.Proofs.Supervisor.Stop
import GuestSupervisor.Proofs.Supervisor.StopOutcome
import GuestSupervisor.Proofs.Supervisor.Launch
import GuestSupervisor.Proofs.Supervisor.LaunchFailure
import GuestSupervisor.Proofs.Host.FileSystem
import GuestSupervisor.Proofs.Host.Making
import GuestSupervisor.Proofs.Host.Tools
import GuestSupervisor.Proofs.Host.Path
import GuestSupervisor.Proofs.Text.Utf8
import GuestSupervisor.Proofs.Configuration.RoundTrip
import GuestSupervisor.Proofs.Configuration.Normal
import GuestSupervisor.Proofs.Host.Ancestors
import GuestSupervisor.Proofs.Host.Directories
import GuestSupervisor.Proofs.Configuration.Edit
import GuestSupervisor.Proofs.Configuration.Store
import GuestSupervisor.Proofs.Service.Editing
import GuestSupervisor.Proofs.Supervisor.Clock
import GuestSupervisor.Proofs.Supervisor.Schedule
import GuestSupervisor.Proofs.StandIn.Answer
import GuestSupervisor.Proofs.Supervisor.Carried
import GuestSupervisor.Proofs.Supervisor.Conversation
import GuestSupervisor.Proofs.Instance.Reading
import GuestSupervisor.Proofs.StandIn.Options
import GuestSupervisor.Proofs.Text.Transducer
import GuestSupervisor.Proofs.Monitor.Reading
import GuestSupervisor.Proofs.Monitor.Pieces
import GuestSupervisor.Proofs.Monitor.Answered
import GuestSupervisor.Proofs.Supervisor.Acknowledged
import GuestSupervisor.Proofs.Supervisor.Retry
import GuestSupervisor.Proofs.Supervisor.Flight
import GuestSupervisor.Proofs.Supervisor.Order
import GuestSupervisor.Proofs.Command.Building
import GuestSupervisor.Proofs.Command.OptionList
import GuestSupervisor.Proofs.Host.Removal
import GuestSupervisor.Proofs.Images.Deletion
import GuestSupervisor.Proofs.Host.Entries
import GuestSupervisor.Proofs.Images.Naming
import GuestSupervisor.Proofs.Images.Sanitizing
import GuestSupervisor.Proofs.Images.Requests
import GuestSupervisor.Proofs.Text.ByteOrder
import GuestSupervisor.Proofs.Host.Listing
import GuestSupervisor.Proofs.Images.Listing
import GuestSupervisor.Proofs.Supervisor.Launched
import GuestSupervisor.Proofs.Supervisor.Provenance
import GuestSupervisor.Proofs.Supervisor.QuitTimeout
import GuestSupervisor.Proofs.Service.History
import GuestSupervisor.Proofs.Service.Course
import GuestSupervisor.Proofs.Service.LiveDisks
import GuestSupervisor.Proofs.Service.Devices
import GuestSupervisor.Proofs.Text.Escapes
import GuestSupervisor.Proofs.Text.Numeral
import GuestSupervisor.Proofs.Monitor.Reply
import GuestSupervisor.Proofs.Monitor.Command
import GuestSupervisor.Proofs.Configuration.Language
import GuestSupervisor.Proofs.Configuration.Reading
import GuestSupervisor.Proofs.Configuration.Rewording
import GuestSupervisor.Proofs.Service.StatusReport
import GuestSupervisor.Proofs.Text.Words
import GuestSupervisor.Proofs.Host.UsbListing
import GuestSupervisor.Proofs.Service.Screen
import GuestSupervisor.Proofs.Toml.Strings
import GuestSupervisor.Proofs.Toml.Values
import GuestSupervisor.Proofs.Toml.Document
import GuestSupervisor.Proofs.Toml.Sound
import GuestSupervisor.Proofs.Toml.Assembly
import GuestSupervisor.Proofs.Settings.Records
import GuestSupervisor.Proofs.Settings.RoundTrip
import GuestSupervisor.Proofs.Settings.Overriding
import GuestSupervisor.Proofs.Text.ByteSize
import GuestSupervisor.Proofs.Monitor.Limit
import GuestSupervisor.Proofs.Host.Aside
import GuestSupervisor.Proofs.Host.Replacing
import GuestSupervisor.Proofs.Configuration.Saving
import GuestSupervisor.Proofs.Service.Studio
import GuestSupervisor.Proofs.Service.Pictures
import GuestSupervisor.Proofs.Service.Waiting
