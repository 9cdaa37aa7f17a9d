import ServiceDiscovery.BrowseSession
import ServiceDiscovery.Calendar
import ServiceDiscovery.ChannelRegistry
import ServiceDiscovery.CommandLine.Command
import ServiceDiscovery.CommandLine.Grammar
import ServiceDiscovery.CommandLine.Invocation
import ServiceDiscovery.CommandLine.Program
import ServiceDiscovery.CommandLine.Reading
import ServiceDiscovery.CommandLine.Screen
import ServiceDiscovery.CommandLine.Serving
import ServiceDiscovery.CommandLine.TxtArguments
import ServiceDiscovery.CommandLine.Usage
import ServiceDiscovery.Event
import ServiceDiscovery.EventQueue
import ServiceDiscovery.Facade
import ServiceDiscovery.Fault
import ServiceDiscovery.Log.Entry
import ServiceDiscovery.Log.Line
import ServiceDiscovery.Log.Record
import ServiceDiscovery.Log.Setup
import ServiceDiscovery.Log.Template
import ServiceDiscovery.Log.Time
import ServiceDiscovery.Machine
import ServiceDiscovery.Main
import ServiceDiscovery.Mdns.Address
import ServiceDiscovery.Mdns.Name
import ServiceDiscovery.Mdns.Platform
import ServiceDiscovery.Mdns.ServiceInfo
import ServiceDiscovery.Mdns.TxtData
import ServiceDiscovery.Number.Double
import ServiceDiscovery.Number.Reading
import ServiceDiscovery.Number.Shortest
import ServiceDiscovery.Platform
import ServiceDiscovery.Proofs.Machine.Course
import ServiceDiscovery.Proofs.Machine.Shelter
import ServiceDiscovery.Proofs.ResolveQueue.Balance
import ServiceDiscovery.Proofs.ResolveQueue.Order
import ServiceDiscovery.Proofs.ResolveQueue.Part
import ServiceDiscovery.Proofs.ResolveQueue.Record
import ServiceDiscovery.Proofs.ResolveQueue.Scene
import ServiceDiscovery.Proofs.ResolveQueue.SingleFlight
import ServiceDiscovery.Proofs.ResolveQueue.Turn
import ServiceDiscovery.Proofs.ResolveQueue.View
import ServiceDiscovery.Proofs.ResolveQueue.Wakeup
import ServiceDiscovery.PublicationSession
import ServiceDiscovery.ResolveQueue
import ServiceDiscovery.Service.Basic
import ServiceDiscovery.Service.Port
import ServiceDiscovery.Service.Type
import ServiceDiscovery.Settings.Basic
import ServiceDiscovery.Settings.Document
import ServiceDiscovery.Settings.Environment
import ServiceDiscovery.Settings.Field
import ServiceDiscovery.Settings.Load
import ServiceDiscovery.Simulation.Clock
import ServiceDiscovery.Simulation.Network
import ServiceDiscovery.Simulation.Run
import ServiceDiscovery.Simulation.Script
import ServiceDiscovery.Simulation.State
import ServiceDiscovery.Simulation.TimedNetwork
import ServiceDiscovery.Text.Base64
import ServiceDiscovery.Text.Blank
import ServiceDiscovery.Text.Case
import ServiceDiscovery.Text.CaseTable
import ServiceDiscovery.Text.Decimal
import ServiceDiscovery.Text.Encoding
import ServiceDiscovery.Text.Newline
import ServiceDiscovery.Text.Points
import ServiceDiscovery.Text.Printable
import ServiceDiscovery.Text.Quoted
import ServiceDiscovery.Text.Ranges
import ServiceDiscovery.Text.Split
import ServiceDiscovery.Text.Utf8
import ServiceDiscovery.Value
import ServiceDiscovery.World
import ServiceDiscovery.Yaml.Block
import ServiceDiscovery.Yaml.Character
import ServiceDiscovery.Yaml.Cursor
import ServiceDiscovery.Yaml.Document
import ServiceDiscovery.Yaml.Fault
import ServiceDiscovery.Yaml.Layout
import ServiceDiscovery.Yaml.Merge
import ServiceDiscovery.Yaml.Node
import ServiceDiscovery.Yaml.Part
import ServiceDiscovery.Yaml.Plain
import ServiceDiscovery.Yaml.Quoted
import ServiceDiscovery.Yaml.Scalar
import ServiceDiscovery.Yaml.Tag
import ServiceDiscovery.Yaml.Token
import ServiceDiscovery.Yaml.Word
import ServiceDiscovery.Proofs.ResolveQueue.Nesting
import ServiceDiscovery.Proofs.ResolveQueue.Abandonment
import ServiceDiscovery.Proofs.BrowseSession.Token
import ServiceDiscovery.Proofs.Machine.Origin
import ServiceDiscovery.Proofs.Machine.Place
import ServiceDiscovery.Proofs.BrowseSession.Closing
import ServiceDiscovery.Proofs.Mdns.Errand
import ServiceDiscovery.Proofs.Mdns.Ledger
import ServiceDiscovery.Proofs.Mdns.Place
import ServiceDiscovery.Proofs.Mdns.Answer
import ServiceDiscovery.Proofs.ResolveQueue.HoldOff
import ServiceDiscovery.Proofs.Mdns.Resolver
import ServiceDiscovery.Proofs.Mdns.Docket
import ServiceDiscovery.Proofs.Mdns.Registration
import ServiceDiscovery.Proofs.Mdns.Browse
import ServiceDiscovery.Proofs.BrowseSession.Place
import ServiceDiscovery.Proofs.BrowseSession.Passage
import ServiceDiscovery.Proofs.BrowseSession.Accord
import ServiceDiscovery.Proofs.Lookup
import ServiceDiscovery.Proofs.Facade.Place
import ServiceDiscovery.Proofs.Facade.Chronicle
import ServiceDiscovery.Proofs.Facade.Cache
import ServiceDiscovery.Proofs.Session.Lifecycle
import ServiceDiscovery.Proofs.Facade.House
import ServiceDiscovery.Proofs.Facade.Flags
import ServiceDiscovery.Proofs.Machine.Return
import ServiceDiscovery.Proofs.Facade.Backlog
import ServiceDiscovery.Proofs.Facade.Teardown
import ServiceDiscovery.Proofs.Facade.Ringing
import ServiceDiscovery.Proofs.Facade.Silence
import ServiceDiscovery.Proofs.Facade.Announcement
import ServiceDiscovery.Proofs.Receiver.Guard
import ServiceDiscovery.Proofs.Receiver.Parallel
import ServiceDiscovery.Proofs.Receiver.Isolation
import ServiceDiscovery.Proofs.ChannelRegistry.Record
import ServiceDiscovery.Proofs.ChannelRegistry.Routing
import ServiceDiscovery.Proofs.ResolveQueue.Deduplication
import ServiceDiscovery.Proofs.ResolveQueue.Stretch
import ServiceDiscovery.Proofs.Receiver.Delivery
import ServiceDiscovery.Proofs.ResolveQueue.Settlement
import ServiceDiscovery.Proofs.Mdns.Name
import ServiceDiscovery.Proofs.Mdns.Refusal
import ServiceDiscovery.Proofs.Session.Admission
import ServiceDiscovery.Proofs.Service.Type
import ServiceDiscovery.Proofs.Mdns.Reference
import ServiceDiscovery.Proofs.Service.Spelling
import ServiceDiscovery.Proofs.Outcome
import ServiceDiscovery.Proofs.Service.Stability
import ServiceDiscovery.Proofs.Text.Utf8
import ServiceDiscovery.Proofs.Service.Record
import ServiceDiscovery.Proofs.Text.Points
import ServiceDiscovery.Proofs.Log.Json
import ServiceDiscovery.Proofs.Log.Entry
import ServiceDiscovery.Proofs.Settings.Source
import ServiceDiscovery.Proofs.Settings.Reading
import ServiceDiscovery.Proofs.Settings.Records
import ServiceDiscovery.Proofs.Settings.Precedence
import ServiceDiscovery.Proofs.Settings.Kind
