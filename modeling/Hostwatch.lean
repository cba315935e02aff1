import Hostwatch.Agent.Course
import Hostwatch.Agent.Cpu
import Hostwatch.Agent.Disk
import Hostwatch.Agent.DiskUsage
import Hostwatch.Agent.Dns
import Hostwatch.Agent.Failure
import Hostwatch.Agent.Load
import Hostwatch.Agent.Memory
import Hostwatch.Agent.Mysql
import Hostwatch.Agent.Network
import Hostwatch.Agent.Nginx
import Hostwatch.Agent.PhpFpm
import Hostwatch.Agent.Ping
import Hostwatch.Agent.Reading
import Hostwatch.Agent.Request
import Hostwatch.Agent.Sockets
import Hostwatch.Agent.TcpPort
import Hostwatch.Database.Influx
import Hostwatch.Database.LineProtocol
import Hostwatch.Database.LineReader
import Hostwatch.Dns.Message
import Hostwatch.Dns.Name
import Hostwatch.Dns.RecordType
import Hostwatch.Http
import Hostwatch.Ident
import Hostwatch.Json.Basic
import Hostwatch.Json.Schema
import Hostwatch.Json.Written
import Hostwatch.Local.Clock
import Hostwatch.Local.Machine
import Hostwatch.Local.Programs
import Hostwatch.Local.Shell
import Hostwatch.Main
import Hostwatch.Measure.Doc
import Hostwatch.Measure.Point
import Hostwatch.Measure.Rates
import Hostwatch.Number.Binary64
import Hostwatch.Number.Shortest
import Hostwatch.Number.Text
import Hostwatch.Number.Word
import Hostwatch.Proofs.Agent.Connections
import Hostwatch.Proofs.Agent.Dialing
import Hostwatch.Proofs.Agent.DiskUsage
import Hostwatch.Proofs.Agent.KernelTables
import Hostwatch.Proofs.Agent.LastSamples
import Hostwatch.Proofs.Agent.LineByLine
import Hostwatch.Proofs.Agent.Memory
import Hostwatch.Proofs.Agent.Parameters
import Hostwatch.Proofs.Agent.QueryNumber
import Hostwatch.Proofs.Agent.Reported
import Hostwatch.Proofs.Agent.Reports
import Hostwatch.Proofs.Agent.StatusTables
import Hostwatch.Proofs.Database.Layout
import Hostwatch.Proofs.Database.RoundTrip
import Hostwatch.Proofs.Dns.Name
import Hostwatch.Proofs.Dns.Number
import Hostwatch.Proofs.Except
import Hostwatch.Proofs.Http.Answers
import Hostwatch.Proofs.Json.Schema
import Hostwatch.Proofs.Measure.Point
import Hostwatch.Proofs.Measure.Rates
import Hostwatch.Proofs.Number.Rounding
import Hostwatch.Proofs.Number.Signs
import Hostwatch.Proofs.Registry.Documents
import Hostwatch.Proofs.Registry.Parameters
import Hostwatch.Proofs.Scheduler.Agents
import Hostwatch.Proofs.Scheduler.Calendar
import Hostwatch.Proofs.Scheduler.Continuity
import Hostwatch.Proofs.Scheduler.Course
import Hostwatch.Proofs.Scheduler.Direct
import Hostwatch.Proofs.Scheduler.Dispatch
import Hostwatch.Proofs.Scheduler.Elsewhere
import Hostwatch.Proofs.Scheduler.FreshListing
import Hostwatch.Proofs.Scheduler.Interleavings
import Hostwatch.Proofs.Scheduler.Marks
import Hostwatch.Proofs.Scheduler.Moves
import Hostwatch.Proofs.Scheduler.OneProbe
import Hostwatch.Proofs.Scheduler.OneRun
import Hostwatch.Proofs.Scheduler.Pacing
import Hostwatch.Proofs.Scheduler.Sending
import Hostwatch.Proofs.Scheduler.StaleListing
import Hostwatch.Proofs.Scheduler.Starts
import Hostwatch.Proofs.Scheduler.Strides
import Hostwatch.Proofs.Scheduler.Ticks
import Hostwatch.Proofs.Scheduler.Timing
import Hostwatch.Proofs.Scheduler.Waiting
import Hostwatch.Proofs.Server.Intervals
import Hostwatch.Proofs.Server.Seeding
import Hostwatch.Proofs.Server.StartUp
import Hostwatch.Proofs.Ssh.Counting
import Hostwatch.Proofs.Ssh.Generations
import Hostwatch.Proofs.Ssh.Holding
import Hostwatch.Proofs.Ssh.Ledger
import Hostwatch.Proofs.Ssh.Moves
import Hostwatch.Proofs.Ssh.Pool
import Hostwatch.Proofs.Ssh.Questions
import Hostwatch.Proofs.Ssh.Requests
import Hostwatch.Proofs.Ssh.Tasks
import Hostwatch.Proofs.Store.Announcements
import Hostwatch.Proofs.Store.Confinement
import Hostwatch.Proofs.Store.Integrity
import Hostwatch.Proofs.Store.Link
import Hostwatch.Proofs.Store.Listings
import Hostwatch.Proofs.Store.Mirror
import Hostwatch.Proofs.Store.Operations
import Hostwatch.Proofs.Store.Recording
import Hostwatch.Proofs.Store.RoundTrip
import Hostwatch.Proofs.Store.Secrecy
import Hostwatch.Proofs.Table
import Hostwatch.Proofs.Text.Lines
import Hostwatch.Proofs.Text.Sheets
import Hostwatch.Proofs.Text.Spacing
import Hostwatch.Proofs.Text.Split
import Hostwatch.Proofs.Text.Utf8
import Hostwatch.Proofs.Time.Calendar
import Hostwatch.Proofs.Time.Rfc3339
import Hostwatch.Proofs.Transport.Address
import Hostwatch.Proofs.Transport.Parameters
import Hostwatch.Proofs.Transport.Streams
import Hostwatch.Proofs.Url.DomainName
import Hostwatch.Proofs.Url.Hosts
import Hostwatch.Registry
import Hostwatch.Requests
import Hostwatch.Scheduler.Basic
import Hostwatch.Scheduler.Deeds
import Hostwatch.Scheduler.Fleet
import Hostwatch.Scheduler.Forwarder
import Hostwatch.Scheduler.Rehearsal
import Hostwatch.Scheduler.Sending
import Hostwatch.Scheduler.Start
import Hostwatch.Scheduler.Timing
import Hostwatch.Scheduler.World
import Hostwatch.Server.CommandLine
import Hostwatch.Server.Config
import Hostwatch.Server.Failure
import Hostwatch.Server.Seed
import Hostwatch.Ssh.Call
import Hostwatch.Ssh.Hub
import Hostwatch.Ssh.Params
import Hostwatch.Ssh.Pool
import Hostwatch.Ssh.Request
import Hostwatch.Ssh.Script
import Hostwatch.Ssh.Traffic
import Hostwatch.Ssh.Usage
import Hostwatch.Store.Access
import Hostwatch.Store.Basic
import Hostwatch.Store.Error
import Hostwatch.Store.Event
import Hostwatch.Store.Host
import Hostwatch.Store.Link
import Hostwatch.Store.Operation
import Hostwatch.Store.Plugin
import Hostwatch.Store.Probe
import Hostwatch.Store.Record
import Hostwatch.Table
import Hostwatch.Text.Hex
import Hostwatch.Text.Printable
import Hostwatch.Text.Quoted
import Hostwatch.Text.Split
import Hostwatch.Text.Utf8
import Hostwatch.Time.Calendar
import Hostwatch.Time.Rfc3339
import Hostwatch.Time.Span
import Hostwatch.Time.Timestamp
import Hostwatch.Toml.Basic
import Hostwatch.Toml.Document
import Hostwatch.Toml.Number
import Hostwatch.Toml.Text
import Hostwatch.Transport
import Hostwatch.Transport.Address
import Hostwatch.Transport.Dialogue
import Hostwatch.Transport.Error
import Hostwatch.Transport.FsUsage
import Hostwatch.Transport.Printed
import Hostwatch.Transport.Request
import Hostwatch.Transport.Scripted
import Hostwatch.Transport.Tape
import Hostwatch.Url.Basic
import Hostwatch.Url.DomainName
import Hostwatch.Url.Host
import Hostwatch.Url.Punycode
