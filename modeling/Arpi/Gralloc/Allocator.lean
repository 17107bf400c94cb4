import Arpi.Gralloc.GbmGralloc

/-!
# The allocator service

`Allocator.cpp` translates the usage of a buffer descriptor to gralloc1 bits and
allocates through `gbm_gralloc.cpp`.
-/

namespace Arpi.Gralloc.BufferUsage

def cpuReadMask : U64 := 0xf
def cpuReadRarely : U64 := 0x2
def cpuReadOften : U64 := 0x3
def cpuWriteMask : U64 := 0xf0
def cpuWriteRarely : U64 := 0x20
def cpuWriteOften : U64 := 0x30
def sensorDirectData : U64 := 0x800000
def gpuDataBuffer : U64 := 0x1000000

end Arpi.Gralloc.BufferUsage

namespace Arpi.Gralloc

/-- The switch on the CPU write field. -/
def producerWriteUsage (usage : U64) : U64 :=
  if usage &&& BufferUsage.cpuWriteMask = BufferUsage.cpuWriteRarely then
    gralloc1ProducerUsageCpuWrite
  else if usage &&& BufferUsage.cpuWriteMask = BufferUsage.cpuWriteOften then
    gralloc1ProducerUsageCpuWriteOften
  else 0

/-- The switch on the CPU read field, which is the same on both sides. -/
def readUsage (usage : U64) : U64 :=
  if usage &&& BufferUsage.cpuReadMask = BufferUsage.cpuReadRarely then gralloc1UsageCpuRead
  else if usage &&& BufferUsage.cpuReadMask = BufferUsage.cpuReadOften then
    gralloc1UsageCpuReadOften
  else 0

/-- `toProducerUsage`. -/
def toProducerUsage (usage : U64) : U64 :=
  usage &&& ~~~(BufferUsage.cpuReadMask ||| BufferUsage.cpuWriteMask |||
      BufferUsage.gpuDataBuffer) |||
    producerWriteUsage usage ||| readUsage usage

/-- `toConsumerUsage`. -/
def toConsumerUsage (usage : U64) : U64 :=
  usage &&& ~~~(BufferUsage.cpuReadMask ||| BufferUsage.cpuWriteMask |||
      BufferUsage.sensorDirectData ||| BufferUsage.gpuDataBuffer) |||
    readUsage usage |||
    (if usage &&& BufferUsage.gpuDataBuffer ≠ 0 then gralloc1ConsumerUsageGpuDataBuffer else 0)

/-- The usage a buffer of a descriptor is allocated with. -/
def allocatedUsage (usage : U64) : U64 := toProducerUsage usage ||| toConsumerUsage usage

/-- What `allocateOneBuffer` reads of a decoded descriptor. -/
structure BufferDescriptorInfo where
  width : U32
  height : U32
  format : U32
  usage : U64
deriving DecidableEq

/-- `Allocator::allocateOneBuffer`: a status and, when it is zero, the handle and the
stride, which stay null and zero if `gbm_alloc` fails with a zero `errno`. -/
def allocateOneBuffer (address : BufferHandle) (created : Option CreatedBo) (errno : Int)
    (descriptor : BufferDescriptorInfo) (state : GrallocState) :
    Int × Option (BufferHandle × U32) × GrallocState :=
  match gbmAlloc address created errno descriptor.width descriptor.height descriptor.format
      (allocatedUsage descriptor.usage) state with
  | (error, allocated, state) =>
      if error ≠ 0 then (error, none, state)
      else (0, some (allocated.getD (0, 0)), state)

end Arpi.Gralloc
