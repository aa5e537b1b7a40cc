import Luagent.Foundation.Stream
import Luagent.Foundation.Bytes
import Luagent.Foundation.Machine
import Luagent.Foundation.FileSystem
import Luagent.Foundation.Handle
import Luagent.Foundation.Lookup
import Luagent.Foundation.Lines
import Luagent.Foundation.Unicode
import Luagent.Foundation.Rotation
import Luagent.Foundation.Ownership
import Luagent.Frame
import Luagent.Text
import Luagent.Platform
import Luagent.Link
import Luagent.Receive
import Luagent.Session
import Luagent.Transfer
import Luagent.Proc
import Luagent.Portfwd
import Luagent.Forwarder
import Luagent.Lua
import Luagent.Protocol
import Luagent.Server
import Luagent.Client
import Luagent.Dialogue
import Luagent.Clock
import Luagent.Registrar
import Luagent.Watch
import Luagent.Sessions
import Luagent.Sharing
import Luagent.Daemon
import Luagent.Control
import Luagent.Wire
import Luagent.Diag
import Luagent.Proofs.FrameCodec
import Luagent.Proofs.HeaderCodec
import Luagent.Proofs.Framing
import Luagent.Proofs.Texts
import Luagent.Proofs.Counters
import Luagent.Proofs.Connecting
import Luagent.Proofs.Sending
import Luagent.Proofs.Spawning
import Luagent.Proofs.Dispatch
import Luagent.Proofs.Speech
import Luagent.Proofs.TransferEffects
import Luagent.Proofs.UploadEffects
import Luagent.Proofs.UploadSteps
import Luagent.Proofs.SessionSteps
import Luagent.Proofs.UploadSoundness
import Luagent.Proofs.Descriptors
import Luagent.Proofs.UploadFinalise
import Luagent.Proofs.UploadIsolation
import Luagent.Proofs.Download
import Luagent.Proofs.Lifecycle
import Luagent.Proofs.Relays
import Luagent.Proofs.Disconnect
import Luagent.Proofs.Answers
import Luagent.Proofs.KeyValues
import Luagent.Proofs.SpawnArgs
import Luagent.Proofs.PutFile
import Luagent.Proofs.ProcessOutput
import Luagent.Proofs.Outbound
import Luagent.Proofs.Heartbeat
import Luagent.Proofs.RelaySteps
import Luagent.Proofs.RelayLifetime
import Luagent.Proofs.RelayStream
import Luagent.Proofs.IdleClient
import Luagent.Proofs.Correlation
import Luagent.Proofs.TransferCounts
import Luagent.Proofs.ChildSteps
import Luagent.Proofs.ExitReason
import Luagent.Proofs.ChildLifetime
import Luagent.Proofs.SpawnRefusal
import Luagent.Proofs.DownloadSoundness
import Luagent.Proofs.RelayFidelity
import Luagent.Proofs.RelaySingle
import Luagent.Proofs.RelayRegistry
import Luagent.Proofs.ReaderTimeout
import Luagent.Proofs.AfterClose
import Luagent.Proofs.SessionBooks
import Luagent.Proofs.Balance
import Luagent.Proofs.Numerals
import Luagent.Proofs.Decoders
import Luagent.Proofs.ArgScan
import Luagent.Proofs.SpawnAgreement
import Luagent.Proofs.ResultText
import Luagent.Proofs.RelayNumbers
import Luagent.Proofs.UploadAnswers
import Luagent.Proofs.Punctual
import Luagent.Proofs.LogRotation
import Luagent.Proofs.Commands
import Luagent.Proofs.PutCommand
import Luagent.Proofs.StreamShares
import Luagent.Proofs.GetCommand
import Luagent.Proofs.Deadlines
import Luagent.Proofs.ServerDescriptors
import Luagent.Proofs.ServerUploads
import Luagent.Proofs.WireRefinement
import Luagent.Proofs.AnswerCommands
import Luagent.Proofs.ServerRelays
import Luagent.Proofs.CounterShares
