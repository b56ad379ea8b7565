import XenGpuProxy.Wire.Bytes
import XenGpuProxy.Wire.Message
import XenGpuProxy.Transport.Ring
import XenGpuProxy.Transport.Spsc
import XenGpuProxy.Transport.Wakeup
import XenGpuProxy.Transport.Fifo
import XenGpuProxy.HandleTable.Basic
import XenGpuProxy.HandleTable.Refinement
import XenGpuProxy.Dispatch.Handlers
import XenGpuProxy.Dispatch.Noninterference
import XenGpuProxy.Dispatch.Bounds
import XenGpuProxy.Dispatch.Lifecycle
import XenGpuProxy.Client.Libvgpu
import XenGpuProxy.Client.Session
import XenGpuProxy.Client.Answers
import XenGpuProxy.Client.Effects
