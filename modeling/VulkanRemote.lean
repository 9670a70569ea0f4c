import VulkanRemote.Lib.Run
import VulkanRemote.Wire.Framing
import VulkanRemote.Client.Correlation
import VulkanRemote.Client.CoherentRuns
import VulkanRemote.Client.Baseline
import VulkanRemote.Client.Exposure
import VulkanRemote.Client.Requests
import VulkanRemote.Client.Containment
import VulkanRemote.Client.AttributedRuns
import VulkanRemote.Client.SemaphoreRuns
import VulkanRemote.Server.Scheduling
import VulkanRemote.Server.OnewayErrors
import VulkanRemote.Server.DataReplies
import VulkanRemote.Limits
import VulkanRemote.Marshal.Resolution
import VulkanRemote.Marshal.Addresses
import VulkanRemote.Wayland.RoundTrip
import VulkanRemote.Tools.Replay
import VulkanRemote.Tools.Container
import VulkanRemote.Outstanding
import VulkanRemote.Handshake
import VulkanRemote.Server.Lifetimes
import VulkanRemote.Server.Issued
import VulkanRemote.Server.MappedRanges
import VulkanRemote.Server.UpdateTemplates
import VulkanRemote.Server.Destroys
import VulkanRemote.Client.Chunks
import VulkanRemote.Client.Barriers
import VulkanRemote.Client.Secondaries
import VulkanRemote.Client.Submits
import VulkanRemote.Client.DescriptorUpdates
import VulkanRemote.Client.TemplateUpdates
import VulkanRemote.Client.PoolChildren
import VulkanRemote.Marshal.OutputChain
import VulkanRemote.Marshal.Provenance
import VulkanRemote.Marshal.ReadBack
import VulkanRemote.Marshal.RoundTrip
import VulkanRemote.Wayland.Isolation
import VulkanRemote.Wayland.Traffic
import VulkanRemote.Wayland.SurfaceOrder
import VulkanRemote.Wayland.Agreement
import VulkanRemote.DataQueries
import VulkanRemote.Wayland.Chunking
import VulkanRemote.Server.OwnWindow
import VulkanRemote.Server.KeyRepeat
import VulkanRemote.Server.InputQueue
import VulkanRemote.Client.WindowEvents
import VulkanRemote.Client.Overlap
import VulkanRemote.Server.Wheel
import VulkanRemote.Wire.Primitives
import VulkanRemote.Client.ShadowPointer
import VulkanRemote.Commands.Transparency
import VulkanRemote.Server.Losses
import VulkanRemote.Server.NoteRuns
import VulkanRemote.Server.WindowRuns
