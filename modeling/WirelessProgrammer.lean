import WirelessProgrammer.Lib.Pool
import WirelessProgrammer.Lib.Json
import WirelessProgrammer.Http.Refusal
import WirelessProgrammer.Http.Retry
import WirelessProgrammer.Http.ChunkedCodec
import WirelessProgrammer.Http.Splitting
import WirelessProgrammer.Http.FailedAttempts
import WirelessProgrammer.Drivers.Contract
import WirelessProgrammer.Drivers.WiFred
import WirelessProgrammer.Drivers.WiFredSlots
import WirelessProgrammer.Drivers.LongFred
import WirelessProgrammer.Drivers.Registry
import WirelessProgrammer.Drivers.WiFredVerify
import WirelessProgrammer.Drivers.FirmwareUpload
import WirelessProgrammer.Proto.Wire
import WirelessProgrammer.GoClient
import WirelessProgrammer.Daemon.Jobs
import WirelessProgrammer.Daemon.Effects
import WirelessProgrammer.Daemon.Worker
import WirelessProgrammer.Daemon.Dispatch
import WirelessProgrammer.Daemon.System
import WirelessProgrammer.Daemon.SlotProtocol
import WirelessProgrammer.Daemon.JobDiscipline
import WirelessProgrammer.Daemon.SlotDiscipline
import WirelessProgrammer.Daemon.RadioProtocol
import WirelessProgrammer.Daemon.RadioRequests
import WirelessProgrammer.Daemon.RadioRelease
import WirelessProgrammer.Daemon.RadioExclusion
import WirelessProgrammer.Daemon.ScannedCandidates
import WirelessProgrammer.Daemon.RadioHeld
import WirelessProgrammer.Daemon.RadioTurns
import WirelessProgrammer.Daemon.RadioSessions
import WirelessProgrammer.Daemon.WorkerRounds
import WirelessProgrammer.Daemon.JobRecords
import WirelessProgrammer.Daemon.JobEnds
import WirelessProgrammer.Daemon.JobCancel
import WirelessProgrammer.Daemon.CancelledJoin
import WirelessProgrammer.Lib.Serde
import WirelessProgrammer.Proto.Decode
import WirelessProgrammer.Lib.Beside
import WirelessProgrammer.WatchStream
import WirelessProgrammer.Daemon.ImageGate
import WirelessProgrammer.Daemon.JobWatch
import WirelessProgrammer.Lib.UndoSlot
import WirelessProgrammer.Link.Netcfg
import WirelessProgrammer.Link.LocalDelivery
import WirelessProgrammer.Link.Settings
import WirelessProgrammer.Lib.Cell
import WirelessProgrammer.Daemon.ManualEntries
import WirelessProgrammer.Link.Udp
import WirelessProgrammer.Link.Mdns
import WirelessProgrammer.Link.Advertisers
import WirelessProgrammer.Link.Z21
import WirelessProgrammer.Link.DispatchTable
import WirelessProgrammer.GoHello
import WirelessProgrammer.Fake.Device
import WirelessProgrammer.Fake.WiFred
import WirelessProgrammer.Fake.WiFredQuery
import WirelessProgrammer.Fake.WiFredWrites
import WirelessProgrammer.Fake.WiFredXml
import WirelessProgrammer.Fake.WiFredRun
import WirelessProgrammer.Drivers.LongFredVerify
import WirelessProgrammer.Daemon.RefusedRequests
import WirelessProgrammer.Daemon.UnknownJobs
import WirelessProgrammer.Proto.RequestCodec
import WirelessProgrammer.GoFraming
import WirelessProgrammer.Http.BodyFraming
import WirelessProgrammer.Http.Truncation
import WirelessProgrammer.Drivers.WiFredPlan
import WirelessProgrammer.Drivers.WiFredValidation
import WirelessProgrammer.Drivers.LongFredRoster
import WirelessProgrammer.Lib.JsonEdit
import WirelessProgrammer.Fake.LongFred
import WirelessProgrammer.Drivers.WiFredAttribution
import WirelessProgrammer.Fake.WiFredRoundTrip
import WirelessProgrammer.Link.Z21Codec
import WirelessProgrammer.Lib.DnsName
import WirelessProgrammer.Link.MdnsNames
import WirelessProgrammer.Link.MdnsTermination
import WirelessProgrammer.Link.MdnsMessage
import WirelessProgrammer.Link.MdnsAnnounce
import WirelessProgrammer.Link.MdnsByName
import WirelessProgrammer.Lib.KeyedMerge
import WirelessProgrammer.Link.Z21Discovery
import WirelessProgrammer.Link.SupplicantConf
import WirelessProgrammer.Link.Supplicant
import WirelessProgrammer.Daemon.JobHistory
import WirelessProgrammer.Daemon.StrayTransitions
import WirelessProgrammer.Link.InformationElements
import WirelessProgrammer.Daemon.Version
import WirelessProgrammer.Fake.Server
import WirelessProgrammer.Fake.Exchange
import WirelessProgrammer.Fake.Attempts
import WirelessProgrammer.Fake.Composite
import WirelessProgrammer.Fake.OverSockets
import WirelessProgrammer.Fake.WiFredOverSockets
import WirelessProgrammer.Fake.LongFredOverSockets
import WirelessProgrammer.Fake.Rb23xxUpload
import WirelessProgrammer.Rpc
