import VehicleSpy.Ios.ConnectionLiveness
import VehicleSpy.Machine.Run
import VehicleSpy.Text.Bytes
import VehicleSpy.Text.Segments
import VehicleSpy.Text.Numbers
import VehicleSpy.Text.Printf
import VehicleSpy.Text.Bits
import VehicleSpy.Firmware.SerialCommandFramer
import VehicleSpy.Firmware.AtCommandDispatcher
import VehicleSpy.Firmware.WifiProvisioning
import VehicleSpy.Firmware.TrimmedDispatch
import VehicleSpy.Firmware.AuthCampaign
import VehicleSpy.Firmware.OtaSafety
import VehicleSpy.Machine.Prefixes
import VehicleSpy.Pipeline.CanStream
import VehicleSpy.Dbc.Attribution
import VehicleSpy.Dbc.FailedLoad
import VehicleSpy.Dbc.BitCodec
import VehicleSpy.Dbc.PrintParse
import VehicleSpy.Dbc.SignalSpec
import VehicleSpy.Ble.Notifications
import VehicleSpy.Ble.PromptWait
import VehicleSpy.Firmware.AssociationRetry
import VehicleSpy.Firmware.ConnectBudget
import VehicleSpy.Firmware.ConnectedAddress
import VehicleSpy.Firmware.TcpServerRestart
import VehicleSpy.Firmware.CredentialStore
import VehicleSpy.Firmware.Departure
import VehicleSpy.Firmware.AccessPoint
import VehicleSpy.Firmware.AuthBoundary
import VehicleSpy.Discovery.DiscoveryVerifier
import VehicleSpy.Discovery.WiFiSecurityPolicy
import VehicleSpy.Pipeline.Elm327Normaliser
import VehicleSpy.Pipeline.BinaryFileSource
import VehicleSpy.Pipeline.FrameLines
import VehicleSpy.Pipeline.RawLogReplay
import VehicleSpy.Machine.Fetch
import VehicleSpy.Ble.VinQuery
import VehicleSpy.Firmware.ClientSessions
import VehicleSpy.Pipeline.HeloRoundTrip
import VehicleSpy.Pipeline.ConnectHandshake
import VehicleSpy.Pipeline.ReconnectIdentity
import VehicleSpy.Ble.VinPaths
import VehicleSpy.Ble.OBD2Protocol
import VehicleSpy.Pipeline.PacedFrameScheduler
import VehicleSpy.Pipeline.PipelineReplay
import VehicleSpy.Pipeline.HuntSchedule
import VehicleSpy.Text.Blocks
import VehicleSpy.Pipeline.SecureTcpTransport
import VehicleSpy.Pipeline.SecureDelivery
import VehicleSpy.Text.HttpMessage
import VehicleSpy.Pipeline.OTAHttpTransport
import VehicleSpy.Machine.Binary64
import VehicleSpy.Telemetry.CsvRowFormatter
import VehicleSpy.Telemetry.FileCsvTelemetrySource
import VehicleSpy.Telemetry.CsvReplay
import VehicleSpy.Ios.ConnectionQueue
import VehicleSpy.Ios.WantedWork
import VehicleSpy.Ios.Pursuit
import VehicleSpy.Ios.HuntAttempts
import VehicleSpy.Dbc.TelemetryFold
import VehicleSpy.Machine.BigEndian
import VehicleSpy.Machine.BoundedMemory
import VehicleSpy.Machine.Enumeration
import VehicleSpy.Dbc.EnumerationOrder
import VehicleSpy.Dbc.MalformedLine
import VehicleSpy.Discovery.PacketCodec
import VehicleSpy.Discovery.PhoneCodec
import VehicleSpy.Dbc.FrameBounds
import VehicleSpy.Text.LineBuffer
import VehicleSpy.Pipeline.WholeLines
import VehicleSpy.Pipeline.FirstConnect
import VehicleSpy.Pipeline.Ping
import VehicleSpy.Pipeline.OtaVerdict
import VehicleSpy.Telemetry.DecimalCells
import VehicleSpy.Telemetry.RecordLayout
import VehicleSpy.Pipeline.StartFrom
import VehicleSpy.Discovery.PollWindow
import VehicleSpy.Machine.MillisCounter
import VehicleSpy.Discovery.DiscoveryManager
import VehicleSpy.Firmware.SerialQuiet
import VehicleSpy.Ble.Banner
import VehicleSpy.Ble.HexTokens
import VehicleSpy.Ble.RenderedReply
import VehicleSpy.Ble.MonitorLine
import VehicleSpy.Dbc.PhysicalRange
import VehicleSpy.Pipeline.BinaryRecords
import VehicleSpy.Cli.ProvisioningRunner
import VehicleSpy.Machine.Float64
import VehicleSpy.Cli.TimeParser
import VehicleSpy.Pipeline.PipelineFactory
import VehicleSpy.Ble.OBD2Transport
import VehicleSpy.Ble.PollingThread
import VehicleSpy.Cli.BLEConnectionManager
import VehicleSpy.Interactive.SteeringFilterKeyboard
import VehicleSpy.Text.Base64
import VehicleSpy.Pipeline.Base64
import VehicleSpy.Pipeline.HeloAck
import VehicleSpy.Dbc.SignalBounds
import VehicleSpy.Machine.Phases
import VehicleSpy.Firmware.StatusLED
import VehicleSpy.Firmware.StatusLEDRenderer
import VehicleSpy.Firmware.LoopHeartbeat
import VehicleSpy.Session.DeviceWire
import VehicleSpy.Session.DeviceNames
import VehicleSpy.Session.Handshake
import VehicleSpy.Cli.StatusCommand
import VehicleSpy.Session.Status
import VehicleSpy.Session.LiveFrames
import VehicleSpy.Ble.VehicleEvidence
import VehicleSpy.Pipeline.SecureHandshake
import VehicleSpy.Firmware.FirmwareApp
