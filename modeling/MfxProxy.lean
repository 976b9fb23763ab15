import MfxProxy.Lib.Block
import MfxProxy.Lib.Codec
import MfxProxy.Lib.Exec
import MfxProxy.Lib.Fifo
import MfxProxy.Lib.Memory
import MfxProxy.Lib.Monitor
import MfxProxy.Lib.Moves
import MfxProxy.Lib.Prog
import MfxProxy.Lib.Script
import MfxProxy.Lib.Simulation
import MfxProxy.Lib.Text
import MfxProxy.Lib.Words
import MfxProxy.Spec.Basic
import MfxProxy.Spec.Definition
import MfxProxy.Spec.Describe
import MfxProxy.Spec.Effect
import MfxProxy.Spec.Entry
import MfxProxy.Spec.Exports
import MfxProxy.Spec.Flatbuffers.Builder
import MfxProxy.Spec.Flatbuffers.Table
import MfxProxy.Spec.HostBroker
import MfxProxy.Spec.Instance
import MfxProxy.Spec.Launch
import MfxProxy.Spec.Message
import MfxProxy.Spec.Mockup.Message
import MfxProxy.Spec.Mockup.ProxyLib
import MfxProxy.Spec.Mockup.Reference
import MfxProxy.Spec.Mockup.Session
import MfxProxy.Spec.Mockup.System
import MfxProxy.Spec.Plugin
import MfxProxy.Spec.PluginBroker
import MfxProxy.Spec.Reference
import MfxProxy.Spec.Replay
import MfxProxy.Spec.Schema
import MfxProxy.Spec.System
import MfxProxy.Spec.Wire
import MfxProxy.Proof.Catalogue
import MfxProxy.Proof.Defaults
import MfxProxy.Proof.Defining
import MfxProxy.Proof.Delivery
import MfxProxy.Proof.Describe
import MfxProxy.Proof.Entry
import MfxProxy.Proof.Exports
import MfxProxy.Proof.Failures
import MfxProxy.Proof.FirstMessage
import MfxProxy.Proof.Fits
import MfxProxy.Proof.Flatbuffers.Builder
import MfxProxy.Proof.Flatbuffers.Envelope
import MfxProxy.Proof.Flatbuffers.Field
import MfxProxy.Proof.Flatbuffers.Object
import MfxProxy.Proof.Flatbuffers.Platform
import MfxProxy.Proof.Flatbuffers.Table
import MfxProxy.Proof.Flatbuffers.Vector
import MfxProxy.Proof.Frame
import MfxProxy.Proof.Handshake
import MfxProxy.Proof.Instance
import MfxProxy.Proof.Launch
import MfxProxy.Proof.Mockup.Agreement
import MfxProxy.Proof.Mockup.Ids
import MfxProxy.Proof.Mockup.Message
import MfxProxy.Proof.Mockup.ProxyLib
import MfxProxy.Proof.Mockup.Ready
import MfxProxy.Proof.Mockup.Reference
import MfxProxy.Proof.Mockup.Session
import MfxProxy.Proof.Mockup.Stages
import MfxProxy.Proof.Pairing
import MfxProxy.Proof.Partial
import MfxProxy.Proof.Progress
import MfxProxy.Proof.Refinement
import MfxProxy.Proof.Replay
import MfxProxy.Proof.Retry
import MfxProxy.Proof.Routing
import MfxProxy.Proof.Startup
import MfxProxy.Proof.System
import MfxProxy.Proof.Table
import MfxProxy.Proof.Unserved
import MfxProxy.Proof.Wire
