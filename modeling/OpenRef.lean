import OpenRef.Lib.Run
import OpenRef.Lib.Serial
import OpenRef.Lib.LittleEndian
import OpenRef.Lib.Clock
import OpenRef.Lib.RingBuffer
import OpenRef.Lib.DueQueue
import OpenRef.Lib.FixedPoint
import OpenRef.Lib.Slots
import OpenRef.Lib.XorSum
import OpenRef.Lib.Crc
import OpenRef.Base
import OpenRef.Security.Replay
import OpenRef.Security.ReplayIdeal
import OpenRef.Boot.Policy
import OpenRef.Boot.ConfigStore
import OpenRef.Boot.StateStore
import OpenRef.Boot.SaveLoad
import OpenRef.Boot.DurableState
import OpenRef.Boot.CutSave
import OpenRef.Tools.P256
import OpenRef.Watchdog.Gate
import OpenRef.Watchdog.IntegratedLoop
import OpenRef.Boot.Confirmation
import OpenRef.Boot.FullSoak
import OpenRef.Boot.ConfigBackend
import OpenRef.Safety.Startup
import OpenRef.Safety.Arbiter
import OpenRef.Safety.GateDriver
import OpenRef.Safety.OutputGate
import OpenRef.Safety.Runtime
import OpenRef.Packet.Proto0
import OpenRef.Packet.Network
import OpenRef.Security.Envelope
import OpenRef.Security.Transport
import OpenRef.Security.BootCounter
import OpenRef.Security.MonotonicObjects
import OpenRef.Security.CounterLife
import OpenRef.Security.OpenAtomic
import OpenRef.Security.Authenticity
import OpenRef.Crew.Session
import OpenRef.Crew.Admission
import OpenRef.Crew.AdmissionSafety
import OpenRef.Crew.Lockout
import OpenRef.Crew.RadioSession
import OpenRef.Crew.DeviceLife
import OpenRef.Lib.BigEndian
import OpenRef.Lib.ModInverse
import OpenRef.Lib.NorFlash
import OpenRef.Lib.Pratt
import OpenRef.Lib.ShortCurve
import OpenRef.Lib.Jacobian
import OpenRef.Lib.Ecdsa
import OpenRef.Lib.StreamHash
import OpenRef.Update.Verifier
import OpenRef.Update.Approval
import OpenRef.Update.SlotAuthenticator
import OpenRef.Update.Stager
import OpenRef.Boot.Coordinator
import OpenRef.Boot.Restart
import OpenRef.Boot.TrialBudget
import OpenRef.Update.Staging
import OpenRef.Update.FlashRecords
import OpenRef.Update.Integrated
import OpenRef.Lib.Journal
import OpenRef.Update.DeliveryTrace
import OpenRef.Update.CommitLast
import OpenRef.Update.Replay
import OpenRef.Update.Bootable
import OpenRef.Boot.Handoff
import OpenRef.Boot.HealthySoak
import OpenRef.Tools.DerKey
import OpenRef.Tools.SlotPackage
import OpenRef.Tools.PackageAgreement
import OpenRef.Safety.PeerSupervisor
import OpenRef.Safety.Interlock
import OpenRef.Watchdog.Driver
import OpenRef.Watchdog.Fg23
import OpenRef.Watchdog.ClockBack
import OpenRef.Power.ChargeSupervisor
import OpenRef.Power.PowerSupervisor
import OpenRef.Power.Warnings
import OpenRef.Power.Shutdown
import OpenRef.Lib.Ledger
import OpenRef.Audio.Link
import OpenRef.Audio.LinkWire
import OpenRef.Audio.LinkErrors
import OpenRef.Audio.Outbox
import OpenRef.Audio.Transport
import OpenRef.Audio.Rt595Port
import OpenRef.Audio.Rt595Interrupt
import OpenRef.Audio.Fg23Adapter
import OpenRef.Audio.Fg23Conservation
import OpenRef.Audio.Gaps
import OpenRef.Audio.Rt595AudioIo
import OpenRef.Audio.Pipeline
import OpenRef.Audio.Channels
import OpenRef.Audio.IntegratedLoop
import OpenRef.Audio.Delivery
import OpenRef.Audio.CodecPath
import OpenRef.Audio.ProcessorLink
import OpenRef.Audio.Playout
import OpenRef.Audio.Position
import OpenRef.Audio.Recovery
import OpenRef.Audio.Mixer
import OpenRef.Lib.MaxRegister
import OpenRef.Network.State
import OpenRef.Network.View
import OpenRef.Network.Tdma
import OpenRef.Network.Agreement
import OpenRef.Network.Sequence
import OpenRef.Audio.Freshness
import OpenRef.Network.Fg23
import OpenRef.Network.RadioClock
import OpenRef.Network.VoiceSlots
import OpenRef.Controls.ButtonFilter
import OpenRef.Controls.ButtonEvents
import OpenRef.Controls.AccessoryMonitor
import OpenRef.Simulator.Scenario
import OpenRef.Simulator.Pending
import OpenRef.Simulator.FrameAccounts
import OpenRef.Simulator.SlotPlan
import OpenRef.Simulator.Silence
import OpenRef.Simulator.Ending
import OpenRef.Simulator.WirePacket
import OpenRef.Lib.Sweep
import OpenRef.Simulator.Medium
import OpenRef.Simulator.Collisions
import OpenRef.Service.Session
import OpenRef.Service.Diagnostics
import OpenRef.Service.Earned
import OpenRef.Device.Lifecycle
import OpenRef.Device.RecordStore
import OpenRef.Device.PowerCuts
import OpenRef.Device.FactoryProvisioning
