import YwdTnc.Modem.Healthy
import YwdTnc.Coding.Scanning
import YwdTnc.Modem.Serial
import YwdTnc.Coding.Delimited
import YwdTnc.Kiss.OneShot
import YwdTnc.Phy.Loopback
import YwdTnc.Phy.Occurrences
import YwdTnc.Kiss.Sustained
import YwdTnc.Kiss.Evidence
import YwdTnc.Modem.Port
import YwdTnc.Tx.HalfDuplexLifecycle
import YwdTnc.Kiss.Dispatch
import YwdTnc.Tx.BrokerThreads
import YwdTnc.Monitor.RequestNames
import YwdTnc.Tx.HealthyCycle
import YwdTnc.Service.FailLatch
import YwdTnc.Kiss.ControlPlane
import YwdTnc.Kiss.Lifetime
import YwdTnc.Kiss.Readings
import YwdTnc.Tx.Wire
import YwdTnc.Agw.Ingress
import YwdTnc.Monitor.Hub
import YwdTnc.Kiss.CaptureIsolation
import YwdTnc.Tx.Generations
import YwdTnc.Monitor.Wrappers
import YwdTnc.Monitor.Grammar
import YwdTnc.Monitor.Lifecycles
import YwdTnc.Firmware.Json
import YwdTnc.Firmware.Profile
import YwdTnc.Firmware.FlashUi
import YwdTnc.Firmware.Harmless
import YwdTnc.Firmware.WriteGate
import YwdTnc.Firmware.FrontEnds
import YwdTnc.Interaction.Upholds
import YwdTnc.Modem.RxConfig
import YwdTnc.Product.RfProfiles
import YwdTnc.Product.Config
import YwdTnc.Service.Handlers
import YwdTnc.Product.Engine
import YwdTnc.Product.RfAuthority
import YwdTnc.Coding.ShiftRegister
import YwdTnc.Ax25.Fcs
import YwdTnc.Ax25.Addresses
import YwdTnc.Ax25.Frames
import YwdTnc.Ax25.Grammar
import YwdTnc.Ax25.Callsigns
import YwdTnc.Tx.BurstLength
import YwdTnc.Tx.RandomDemand
import YwdTnc.Tx.AccessQueue
import YwdTnc.Kiss.AccessRefinement
import YwdTnc.Kiss.EventStreams
import YwdTnc.Coding.Utf8
import YwdTnc.Coding.TextLines
import YwdTnc.Coding.Binary64
import YwdTnc.Coding.TomlLines
import YwdTnc.Product.ConfigFile
import YwdTnc.Product.RadioLines
import YwdTnc.Product.ProfileCli
import YwdTnc.Product.Rollback
import YwdTnc.Product.LineReader
import YwdTnc.Product.Retuning
import YwdTnc.Coding.Failures
import YwdTnc.Product.ConfigErrors
import YwdTnc.Firmware.Restart
import YwdTnc.Firmware.Backups
import YwdTnc.Coding.DueQueue
import YwdTnc.Coding.TaggedRing
import YwdTnc.Phy.StreamingDecoder
import YwdTnc.Phy.StreamingRefinement
import YwdTnc.Coding.TomlValues
import YwdTnc.Product.RadioValues
import YwdTnc.Interaction.Exhaustion
import YwdTnc.Tx.IdleWait
import YwdTnc.Coding.Printable
import YwdTnc.Monitor.JsonLines
import YwdTnc.Monitor.FrameText
import YwdTnc.Monitor.PacketLog
import YwdTnc.Monitor.LogLines
import YwdTnc.Coding.Limited
import YwdTnc.Coding.Tally
import YwdTnc.Web.History
import YwdTnc.Monitor.LogFiles
import YwdTnc.Coding.SpscRing
import YwdTnc.Coding.Oscillator
import YwdTnc.Hat.AX25AFSKTX
import YwdTnc.Hat.AX25AFSKRX
import YwdTnc.Hat.Capture
import YwdTnc.Interaction.Projection
import YwdTnc.Hat.Burst
import YwdTnc.Hat.SerialPort
import YwdTnc.Hat.System
import YwdTnc.Hat.Runs
import YwdTnc.Modem.Responses
import YwdTnc.Hat.Link
import YwdTnc.Interaction.Serving
import YwdTnc.Interaction.Progress
import YwdTnc.Interaction.Achieving
import YwdTnc.Phy.Hearing
import YwdTnc.Phy.Returned
import YwdTnc.Hat.Tones
import YwdTnc.Hat.Heard
import YwdTnc.Hat.Reception
import YwdTnc.Hat.Session
import YwdTnc.Hat.Published
import YwdTnc.Interaction.Returning
import YwdTnc.Service.RxRuntime
import YwdTnc.Hat.OnAir
import YwdTnc.Hat.Progress
import YwdTnc.Hat.Service
