import Daft.Config.Bounds
import Daft.Config.Loading
import Daft.Config.Reaching
import Daft.Config.Store
import Daft.Host.Chunking
import Daft.Host.Codec
import Daft.Host.Layouts
import Daft.Host.Messages
import Daft.Host.Parsers
import Daft.Host.Reception
import Daft.Host.Session
import Daft.Host.Struct
import Daft.Host.Transport
import Daft.Logic.Contiguous
import Daft.Logic.Readers
import Daft.Logic.ShiftRegister
import Daft.Logic.Simulation
import Daft.Platform.Authority
import Daft.Platform.Esp32
import Daft.Platform.Execution
import Daft.Platform.Ledger
import Daft.Platform.Link
import Daft.Platform.Loop
import Daft.Platform.Output
import Daft.Platform.Ports
import Daft.Platform.Preferences
import Daft.Platform.Stops
import Daft.Platform.Storage
import Daft.Platform.Telemetry
import Daft.Platform.Writing
import Daft.Protocol.Corruption
import Daft.Protocol.Framing
import Daft.Protocol.Stuffing
import Daft.Safety.ConfigCopies
import Daft.Safety.DriverConfigured
import Daft.Safety.DriverOutputs
import Daft.Safety.DriverSwitching
import Daft.Safety.Rates
import Daft.Safety.RestStates
import Daft.Safety.SoftLimits
import Daft.Safety.Watchdog
import Daft.Session.Announcements
import Daft.Session.Answers
import Daft.Session.Calls
import Daft.Session.ClockOrigin
import Daft.Session.ConfigWrites
import Daft.Session.Conversation
import Daft.Session.Delivery
import Daft.Session.Directions
import Daft.Session.DuplicateFilter
import Daft.Session.Durability
import Daft.Session.Events
import Daft.Session.Handlers
import Daft.Session.Matching
import Daft.Session.Mirrors
import Daft.Session.Reading
import Daft.Session.Refusals
import Daft.Session.Replays
import Daft.Session.Reports
import Daft.Session.Responses
import Daft.Session.Retransmission
import Daft.Session.StagedState
import Daft.Session.StoredGeneration
import Daft.Session.Traces
import Daft.Session.Walks
import Daft.Platform.Motor
