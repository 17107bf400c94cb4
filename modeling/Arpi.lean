import Arpi.Semantics.Machine
import Arpi.Semantics.Interleaving
import Arpi.Semantics.History
import Arpi.Semantics.Containers
import Arpi.Semantics.Bits
import Arpi.Semantics.Plane
import Arpi.Semantics.Window
import Arpi.Semantics.Holdings
import Arpi.Semantics.LeastSearch
import Arpi.Semantics.PeriodicTimer
import Arpi.Gralloc.LockRecord
import Arpi.Gralloc.Registry
import Arpi.Gralloc.LiveBuffer
import Arpi.Gralloc.DriverCalls
import Arpi.Gralloc.ReachableRecords
import Arpi.Gralloc.MappingBalance
import Arpi.Gralloc.FailedLocks
import Arpi.Gralloc.NestedLocks
import Arpi.Gralloc.MapperService
import Arpi.Gralloc.ImportOwnership
import Arpi.Gralloc.UnlockSafety
import Arpi.Gralloc.CacheMaintenance
import Arpi.Gralloc.PlaneLayouts
import Arpi.Gralloc.ForeignHandles
import Arpi.Gralloc.AllocatorService
import Arpi.Gralloc.AllocateBatch
import Arpi.Gralloc.AllOrNothing
import Arpi.Gralloc.YcbcrPlanes
import Arpi.Gralloc.YuvGeometry
import Arpi.Gralloc.LayoutConsistency
import Arpi.Gralloc.PlanarWindow
import Arpi.Gralloc.MapRegion
import Arpi.Gralloc.Mapper
import Arpi.Gralloc.GbmModule
import Arpi.Gralloc.UsageCompatibility
import Arpi.Gralloc.AutoRegistration
import Arpi.Composer.DeviceEffects
import Arpi.Composer.CompositionProtocol
import Arpi.Composer.ValidationGate
import Arpi.Composer.DisplaySeparation
import Arpi.Composer.ResourceManager
import Arpi.Composer.CachingResources
import Arpi.Composer.ComposerCommandEngine
import Arpi.Composer.ErrorReporting
import Arpi.Composer.ComposerClient
import Arpi.Composer.ServiceEffects
import Arpi.Composer.LayerAgreement
import Arpi.Composer.ClientTargetLifetime
import Arpi.Composer.VsyncThread
import Arpi.Composer.CallbackLifetime
import Arpi.Composer.StrayCallbacks
import Arpi.Composer.VsyncTimes
import Arpi.Composer.FindMode
import Arpi.Composer.ModeSelection
import Arpi.Composer.KmsContext
import Arpi.Composer.KmsSelection
import Arpi.Composer.KmsInitialisation
import Arpi.Composer.OutputResources
import Arpi.Composer.HwcPost
import Arpi.Composer.ScanOut
import Arpi.Composer.ModeSets
import Arpi.Audio.AudioHw
import Arpi.Audio.InputBufferSize
import Arpi.Audio.TransferDivisors
import Arpi.Audio.OutputLifecycle
import Arpi.Semantics.Ratchet
import Arpi.Audio.InputPacing
import Arpi.Semantics.Custody
import Arpi.Composer.AcquireFences
import Arpi.Composer.FenceOwnership
import Arpi.Composer.FencesConsumed
import Arpi.Semantics.Locking
import Arpi.Audio.ConcurrentStreams
import Arpi.Semantics.Layering
import Arpi.Composer.DisplayPipeline
import Arpi.Composer.PresentFences
import Arpi.Composer.Frames
import Arpi.Semantics.Wire
import Arpi.Gralloc.Fence
import Arpi.Semantics.Ownership
import Arpi.Composer.DrmObjects
import Arpi.Semantics.TimerRate
import Arpi.Composer.VsyncRate
import Arpi.Semantics.Refinement
import Arpi.Gralloc.BufferTable
import Arpi.Gralloc.LocksHeld
import Arpi.Semantics.Numeral
import Arpi.Composer.ModeText
import Arpi.Semantics.Raster
import Arpi.Composer.Pictures
import Arpi.Gralloc.RegistryUsers
import Arpi.Semantics.Joins
import Arpi.Gralloc.FenceMerge
import Arpi.Gralloc.FenceSignals
