import KvMaterialization.Cursor
import KvMaterialization.Delimited
import KvMaterialization.Effects
import KvMaterialization.Experiments.Attribution
import KvMaterialization.Experiments.BundleClosure
import KvMaterialization.Experiments.FactorialDesign
import KvMaterialization.Experiments.FactorialEffects
import KvMaterialization.Experiments.LifecycleEvidence
import KvMaterialization.Experiments.LifecycleOutcome
import KvMaterialization.Experiments.M2Boundary
import KvMaterialization.Experiments.M2Matrix
import KvMaterialization.Experiments.OfflineStudy
import KvMaterialization.Experiments.OfflineTraces
import KvMaterialization.Experiments.OnlineBundle
import KvMaterialization.Experiments.OnlineClient
import KvMaterialization.Experiments.OnlineLifecycle
import KvMaterialization.Experiments.OnlineSuites
import KvMaterialization.Experiments.OracleBound
import KvMaterialization.Experiments.PilotShards
import KvMaterialization.Experiments.PublicWorkloads
import KvMaterialization.Experiments.SendRequest
import KvMaterialization.Experiments.SuiteEvidence
import KvMaterialization.Experiments.SuiteOutcome
import KvMaterialization.Experiments.SummaryAgreement
import KvMaterialization.Experiments.ThroughputBinding
import KvMaterialization.Experiments.TraceSignals
import KvMaterialization.Experiments.WorkloadHeaders
import KvMaterialization.Fifo
import KvMaterialization.FileTree
import KvMaterialization.Kinked
import KvMaterialization.Legacy.Adapter
import KvMaterialization.Legacy.Alignment
import KvMaterialization.Legacy.Batches
import KvMaterialization.Legacy.Interleaving
import KvMaterialization.Legacy.Prompts
import KvMaterialization.Legacy.Service
import KvMaterialization.LinkedTree
import KvMaterialization.LiveControl.Atomicity
import KvMaterialization.LiveControl.Concurrency
import KvMaterialization.LiveControl.Consistency
import KvMaterialization.LiveControl.Control
import KvMaterialization.LiveControl.Estimates
import KvMaterialization.LiveControl.Exact
import KvMaterialization.LiveControl.Headers
import KvMaterialization.LiveControl.Isolation
import KvMaterialization.LiveControl.Overflow
import KvMaterialization.LiveControl.Plan
import KvMaterialization.LiveControl.Realignment
import KvMaterialization.LiveControl.Sanitized
import KvMaterialization.LiveControl.Serializability
import KvMaterialization.LiveControl.Signals
import KvMaterialization.Locality
import KvMaterialization.Machine
import KvMaterialization.Plugin.Hosts
import KvMaterialization.Plugin.Launcher
import KvMaterialization.Plugin.Noninterference
import KvMaterialization.Plugin.Registration
import KvMaterialization.Plugin.RequestProcessing
import KvMaterialization.Plugin.SessionStore
import KvMaterialization.Plugin.Visibility
import KvMaterialization.Policy.Boundary
import KvMaterialization.Policy.Cost
import KvMaterialization.Policy.Cuts
import KvMaterialization.Policy.Decision
import KvMaterialization.Policy.Exact
import KvMaterialization.Policy.Frontier
import KvMaterialization.Policy.Model
import KvMaterialization.Policy.Monotone
import KvMaterialization.Policy.Outcome
import KvMaterialization.Policy.Overflow
import KvMaterialization.Policy.Shares
import KvMaterialization.Python.Binary64
import KvMaterialization.Python.Capped
import KvMaterialization.Python.Dict
import KvMaterialization.Python.Float
import KvMaterialization.Python.Interpreter
import KvMaterialization.Python.Json
import KvMaterialization.Python.Keys
import KvMaterialization.Python.Lines
import KvMaterialization.Python.Nearest
import KvMaterialization.Python.Number
import KvMaterialization.Python.Numerals
import KvMaterialization.Python.PosixPath
import KvMaterialization.Python.Ranked
import KvMaterialization.Python.Result
import KvMaterialization.Python.Rounding
import KvMaterialization.Python.Split
import KvMaterialization.Python.Statistics
import KvMaterialization.Python.Text
import KvMaterialization.School.Adapter
import KvMaterialization.School.RecomputeOnly
import KvMaterialization.Scopes
import KvMaterialization.Scripts.Bootstrap
import KvMaterialization.Scripts.Capsule
import KvMaterialization.Scripts.CapsuleWrite
import KvMaterialization.Scripts.DeviceTrace
import KvMaterialization.Scripts.EarlyStop
import KvMaterialization.Scripts.FormalGate
import KvMaterialization.Scripts.GateTrace
import KvMaterialization.Scripts.GenericArms
import KvMaterialization.Scripts.Overlay
import KvMaterialization.Scripts.OverlayArrivals
import KvMaterialization.Scripts.OverlayIdentity
import KvMaterialization.Scripts.Pairing
import KvMaterialization.Scripts.Pathology
import KvMaterialization.Scripts.PrepareTraces
import KvMaterialization.Scripts.PreparedOverlay
import KvMaterialization.Scripts.PreparedPrompts
import KvMaterialization.Scripts.PressureConservation
import KvMaterialization.Scripts.RawManifest
import KvMaterialization.Scripts.ReusePressure
import KvMaterialization.Scripts.SafeExtract
import KvMaterialization.Scripts.StatusLabels
import KvMaterialization.Sweep
import KvMaterialization.Transaction
import KvMaterialization.WavematSeamGate.Commutation
import KvMaterialization.WavematSeamGate.History
import KvMaterialization.WavematSeamGate.Language
import KvMaterialization.WavematSeamGate.Lifecycle
import KvMaterialization.WavematSeamGate.Recovery
import KvMaterialization.WavematSeamGate.State
import KvMaterialization.WavematSeamGate.Steps
import KvMaterialization.WavematSeamGate.Wedge
import KvMaterialization.WavematSeamGate.WellFormed
import KvMaterialization.Words
