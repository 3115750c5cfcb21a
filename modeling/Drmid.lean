import Drmid.Kernel.Bytes
import Drmid.Kernel.Context
import Drmid.Kernel.UserMemory
import Drmid.Kernel.Errors
import Drmid.Kernel.KernelModule
import Drmid.Lib.Run
import Drmid.Lib.Agent
import Drmid.Lib.Pool
import Drmid.Lib.Greedy
import Drmid.Lib.Prog
import Drmid.Lib.Files
import Drmid.Lib.BitPattern
import Drmid.Lib.A64
import Drmid.Lib.SetAssoc
import Drmid.Lib.Tokens
import Drmid.Lib.DoubleSlot
import Drmid.Lib.Crc
import Drmid.Lib.Streak
import Drmid.Lib.Exclusive
import Drmid.Lib.Blocks
import Drmid.Lib.Fips180
import Drmid.Lib.Hkdf
import Drmid.Hook.Scratch
import Drmid.Hook.Pending
import Drmid.Hook.PendingStack
import Drmid.Hook.Emitted
import Drmid.Hook.Memory
import Drmid.Hook.Parcel
import Drmid.Hook.Reply
import Drmid.Hook.Record
import Drmid.Hook.KnownBytes
import Drmid.Hook.System
import Drmid.Hook.Stream
import Drmid.Hook.Framing
import Drmid.Hook.Handler
import Drmid.Hook.Publish
import Drmid.Hook.Race
import Drmid.Hook.Interleaving
import Drmid.Hook.Telemetry
import Drmid.Storage.DaemonLock
import Drmid.Storage.Sha256
import Drmid.Storage.RuntimeControl
import Drmid.Storage.Capability
import Drmid.Storage.Fingerprint
import Drmid.Storage.ControlTools
import Drmid.Storage.RuntimeProfile
import Drmid.Resolver.Entry
import Drmid.Resolver.Resolve
import Drmid.Resolver.Release
import Drmid.Control.Monitor
import Drmid.Control.HalIdentity
import Drmid.Control.Server
import Drmid.Control.Startup
import Drmid.Control.Session
import Drmid.Control.ServerClose
import Drmid.Control.Apply
import Drmid.Control.Clients
import Drmid.Control.Readiness
import Drmid.Hook.Proof.PendingTable
import Drmid.Hook.Proof.PendingMap
import Drmid.Hook.Proof.PendingRuns
import Drmid.Hook.Proof.FrameBooks
import Drmid.Hook.Proof.Emitted
import Drmid.Hook.Proof.WaitFree
import Drmid.Hook.Proof.Memory
import Drmid.Hook.Proof.Alone
import Drmid.Hook.Concurrent
import Drmid.Hook.Proof.Footprint
import Drmid.Hook.Proof.Concurrent
import Drmid.Hook.Proof.Reply
import Drmid.Hook.Proof.SystemSteps
import Drmid.Hook.Proof.Correlation
import Drmid.Hook.Proof.Pairing
import Drmid.Hook.Proof.Contention
import Drmid.Hook.Proof.TaskReuse
import Drmid.Hook.Proof.Rewriting
import Drmid.Hook.Proof.Publish
import Drmid.Hook.Proof.Race
import Drmid.Hook.Proof.Stream
import Drmid.Hook.Proof.Handler
import Drmid.Hook.Proof.Books
import Drmid.Hook.Proof.CallSteps
import Drmid.Hook.Proof.Transparent
import Drmid.Hook.Proof.Telemetry
import Drmid.Resolver.Proof.Instruction
import Drmid.Resolver.Proof.Entry
import Drmid.Storage.Proof.DaemonLock
import Drmid.Storage.Proof.RuntimeControl
import Drmid.Storage.Proof.Upgrade
import Drmid.Storage.Proof.Codec
import Drmid.Storage.Proof.Migration
import Drmid.Storage.Proof.Capability
import Drmid.Storage.Proof.Fingerprint
import Drmid.Storage.Proof.RuntimeProfile
import Drmid.Storage.Proof.Sha256
import Drmid.Storage.Proof.Hkdf
import Drmid.Storage.Proof.Replacement
import Drmid.Storage.Proof.Burst
import Drmid.Control.Proof.Monitor
import Drmid.Control.Proof.HalIdentity
import Drmid.Control.Proof.Server
import Drmid.Control.Proof.Startup
import Drmid.Control.SelfTest
import Drmid.Control.Proof.SelfTest
import Drmid.Lib.Json
import Drmid.Control.Answers
import Drmid.Control.Proof.Answers
import Drmid.Control.Proof.Backoff
import Drmid.Control.Proof.Session
import Drmid.Control.Proof.ServerClose
import Drmid.Control.Proof.Apply
import Drmid.Control.Proof.Undisturbed
import Drmid.Control.Proof.Agreement
import Drmid.Control.Proof.Clients
import Drmid.Control.Proof.Readiness
import Drmid.Resolver.Proof.Members
import Drmid.Resolver.Proof.Resolve
import Drmid.Resolver.Proof.Release
import Drmid.Hook.Proof.StreamErrors
import Drmid.Hook.Proof.Framing
import Drmid.Hook.Proof.StaleScratch
import Drmid.Hook.RequestParcel
import Drmid.Hook.Proof.Recognition
import Drmid.Hook.Ring
import Drmid.Hook.Proof.Ring
import Drmid.Lib.Urlencoded
import Drmid.Control.Page
import Drmid.Control.Proof.Page
