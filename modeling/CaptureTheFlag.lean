import CaptureTheFlag.Shared.DeltaRoundtrip
import CaptureTheFlag.Server.FlagInvariant
import CaptureTheFlag.Server.InputSession
import CaptureTheFlag.Server.CarrierDeath
import CaptureTheFlag.Server.MatchEnd
import CaptureTheFlag.Server.Broadcast
import CaptureTheFlag.Server.PublishHistory
import CaptureTheFlag.Client.NetClient
import CaptureTheFlag.Client.SnapshotAgreement
import CaptureTheFlag.Shared.RingBuffer
import CaptureTheFlag.Shared.ByteCursor
import CaptureTheFlag.Client.Prediction
import CaptureTheFlag.Client.Reconciliation
import CaptureTheFlag.Shared.NetUtil
import CaptureTheFlag.Client.Redundancy
import CaptureTheFlag.Server.Roster
import CaptureTheFlag.Server.Reassembly
import CaptureTheFlag.Server.OutputStream
import CaptureTheFlag.Server.IdleLobby
import CaptureTheFlag.Server.Rematch
import CaptureTheFlag.Server.GameStart
import CaptureTheFlag.Server.HostInvariant
import CaptureTheFlag.Server.UdpAuth
import CaptureTheFlag.Server.Rebinding
import CaptureTheFlag.Client.StreamRecovery
import CaptureTheFlag.Client.Duplicates
import CaptureTheFlag.Server.Placement
import CaptureTheFlag.Server.Scoring
import CaptureTheFlag.Server.Lifecycle
import CaptureTheFlag.Client.Dispatch
import CaptureTheFlag.Client.DispatchMirror
import CaptureTheFlag.Client.DrainTcp
import CaptureTheFlag.Shared.Mirror
import CaptureTheFlag.Shared.MessageBytes
import CaptureTheFlag.Shared.Truncation
import CaptureTheFlag.Client.SnapReplay
import CaptureTheFlag.Client.LegalReplay
import CaptureTheFlag.Client.Interpolation
import CaptureTheFlag.Client.LerpAngle
import CaptureTheFlag.Client.RenderPolicy
import CaptureTheFlag.Client.FixedBuffers
import CaptureTheFlag.Client.Reconnect
import CaptureTheFlag.Server.CarrierDrop
import CaptureTheFlag.Server.Hitscan
import CaptureTheFlag.Server.FireRate
import CaptureTheFlag.Server.FlagTimeout
import CaptureTheFlag.Server.FramingCap
import CaptureTheFlag.Server.JoinName
import CaptureTheFlag.Server.Commuting
import CaptureTheFlag.Server.InputsAfterDeath
import CaptureTheFlag.Bot.Arrival
import CaptureTheFlag.Bot.ShortestPaths
import CaptureTheFlag.Server.Threads
import CaptureTheFlag.Server.PollLoop
import CaptureTheFlag.Server.Pacing
import CaptureTheFlag.Bot.Approach
import CaptureTheFlag.Server.TotalOrder
import CaptureTheFlag.Server.Silence
import CaptureTheFlag.Server.CheckedTick
import CaptureTheFlag.Server.Ledger
