import Hcan.Library.Bytes
import Hcan.Library.Run
import Hcan.Eds.Allocator
import Hcan.Eds.PowerFail
import Hcan.Eds.Iteration
import Hcan.Controller.Interlock
import Hcan.Controller.Standing
import Hcan.Host.Identity
import Hcan.Boot.Can
import Hcan.Transport.Bounds
import Hcan.Transport.RoundTrip
import Hcan.Flash.Lines
import Hcan.Flash.Pages
import Hcan.Flash.Attempt
import Hcan.Flash.Incremental
import Hcan.Data.QueryCorrect
import Hcan.Library.Codec
import Hcan.Library.ByteFile
import Hcan.Data.Writer
import Hcan.Data.Reader
import Hcan.Data.Sessions
import Hcan.Data.Log
import Hcan.Hcand.Peers
import Hcan.Library.Keyed
import Hcan.Hcand.Distribution
import Hcan.Canix.Syslog
import Hcan.Host.Syslog
import Hcan.Controller.Timeservice
import Hcan.Controller.TimeMaster
import Hcan.Controller.DeviceTable
import Hcan.Library.Nested
import Hcan.Library.Descent
import Hcan.Hauselektrik.Devices
import Hcan.Hauselektrik.Power
import Hcan.Hauselektrik.Heating
import Hcan.Hauselektrik.Contacts
import Hcan.Hauselektrik.Dispatch
import Hcan.Hauselektrik.Emission
import Hcan.Hauselektrik.LocalDelivery
import Hcan.Hauselektrik.Load
import Hcan.Hauselektrik.WriteFrames
import Hcan.Hauselektrik.Records
import Hcan.Hauselektrik.Coherence
import Hcan.Hcand.Buffer
import Hcan.Library.Countdown
import Hcan.Hcanaddressd.Peers
import Hcan.Hcanaddressd.Release
import Hcan.Hauselektrik.Hood
import Hcan.Hauselektrik.Ventilation
import Hcan.Eds.Merged
import Hcan.Hauselektrik.HeatingTimer
import Hcan.Hauselektrik.TimedMode
import Hcan.Telican.HeizungCommand
import Hcan.Telican.TimedCommand
import Hcan.Telican.HeizungInfo
import Hcan.Controller.Timer
import Hcan.Controller.TimerRounds
import Hcan.Controller.GoTo
import Hcan.Userpanel.HeizPage
import Hcan.Userpanel.History
import Hcan.Userpanel.Requests
import Hcan.Userpanel.Edits
import Hcan.Controller.SaveRestore
import Hcan.Controller.Priority
import Hcan.Controller.Departure
import Hcan.Canix.Rts
import Hcan.Flash.FillBounds
import Hcan.Flash.HexFile
import Hcan.Flash.HexPlacement
import Hcan.Data.QueryParser
import Hcan.Data.QueryStack
import Hcan.Data.LastFrames
import Hcan.Library.Latest
import Hcan.Hauselektrik.PumpControl
import Hcan.Library.Watched
import Hcan.Hauselektrik.HeatingStep
import Hcan.Hauselektrik.HeatingOff
import Hcan.Hauselektrik.OpenWindow
import Hcan.Hauselektrik.PulseWidth
import Hcan.Hauselektrik.DutyCycle
import Hcan.Hauselektrik.DemandReports
import Hcan.Hauselektrik.ValveCare
import Hcan.Library.Machine
import Hcan.Library.Gregorian
import Hcan.Canix.Clock
import Hcan.Canix.Calendar
import Hcan.Hauselektrik.Buttons
import Hcan.Hauselektrik.Switch
import Hcan.Hauselektrik.Poti
import Hcan.Hauselektrik.PowerTimer
import Hcan.Library.TimedValue
import Hcan.Hauselektrik.TimedPower
import Hcan.Hauselektrik.PowerGroups
import Hcan.Hauselektrik.ExtendedLight
import Hcan.Hauselektrik.ExtendedOff
import Hcan.Hauselektrik.Ersatzwert
import Hcan.Hauselektrik.HoodTimer
import Hcan.Library.Periods
import Hcan.Hauselektrik.TimeSwitch
import Hcan.Hauselektrik.ShutterAutomation
import Hcan.Hauselektrik.SlitPosition
import Hcan.Library.BitSearch
import Hcan.Library.RingBuffer
import Hcan.Hauselektrik.OneWire
import Hcan.Hauselektrik.SensorId
import Hcan.Hauselektrik.TempSensor
import Hcan.Hauselektrik.Brightness
import Hcan.Library.Prescaled
import Hcan.Usv.StateMachine
import Hcan.Usv.Holding
import Hcan.Transport.FrameObjects
import Hcan.Library.Decimal
import Hcan.Host.OapAccess
import Hcan.Userpanel.EditRange
import Hcan.Userpanel.DefinedCommands
import Hcan.Userpanel.WeckPage
import Hcan.Userpanel.PowerportPage
import Hcan.Canix.Transmission
import Hcan.Canix.TxAccounting
import Hcan.Library.Served
import Hcan.Canix.TxOrder
import Hcan.Library.Cyclic
import Hcan.Hauselektrik.ZoneTimes
import Hcan.Controller.DeadReckoning
import Hcan.Userpanel.GesamtHeizPage
import Hcan.Userpanel.Navigation
import Hcan.Userpanel.Keys
import Hcan.Library.Dialogue
import Hcan.Library.Overdue
import Hcan.Canix.Hms
import Hcan.Host.Management
import Hcan.Host.EepromAccess
import Hcan.Data.Archive
import Hcan.Library.ShiftRegister
import Hcan.Controller.Shiftio
import Hcan.Library.Deadband
import Hcan.Hauselektrik.PotiTelegrams
import Hcan.Transport.InterfaceInput
