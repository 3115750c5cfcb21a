import Drmid.Kernel.Bytes
import Drmid.Kernel.Errors

/-!
# The SDK's view of the kernel

What the `kernel_module` calls of the SDK answer while the daemon looks for the hook target: reads
of kernel memory, symbol lookups, structure offsets, and one generated function that runs in the
kernel. Every call may fail, with an error of its own. Memory and symbols stay as they are during
a resolution; addresses are 64-bit and wrap.
-/

namespace Drmid

structure KernelModule where
  byte : UInt64 → UInt8
  /-- What a read of so many bytes at an address reports; `none` when it succeeds. -/
  readFault : UInt64 → Nat → Option KModFailure
  symbol : String → Except KModFailure UInt64
  taskStructFilesOffset : Except KModFailure UInt32
  fileStructFdtOffset : Except KModFailure UInt32
  fdtableFdOffset : Except KModFailure UInt32
  fileFOpOffset : Except KModFailure UInt32
  fileOperationsUnlockedIoctlOffset : Except KModFailure UInt32
  /-- The assembler could be set up and took every instruction. -/
  assembles : Bool
  /-- The running task's `task_struct`. -/
  current : UInt64
  /-- What `execute_kernel_asm_func` reports; a load that faults is among it. -/
  executeFault : Option KModFailure

/-- `is_kernel_pointer`. -/
def isKernelPointer (value : UInt64) : Bool :=
  value != 0 && value &&& 3 == 0 && decide (value.toInt64 < 0)

namespace KernelModule

/-- The 64-bit word at a kernel address. -/
def word64 (k : KernelModule) (addr : UInt64) : UInt64 :=
  le64 fun i => k.byte (addr + UInt64.ofNat i)

/-- `read_kernel_mem` of `n` bytes. -/
def readKernelMem (k : KernelModule) (addr : UInt64) (n : Nat) :
    Except KModFailure (Nat → UInt8) :=
  match k.readFault addr n with
  | some err => .error err
  | none => .ok fun i => k.byte (addr + UInt64.ofNat i)

/-- `read_kernel_mem_atomic64`. -/
def readKernelMemAtomic64 (k : KernelModule) (addr : UInt64) : Except KModFailure UInt64 :=
  match k.readFault addr 8 with
  | some err => .error err
  | none => .ok (k.word64 addr)

theorem readKernelMemAtomic64_eq_ok {k : KernelModule} {addr value : UInt64} :
    k.readKernelMemAtomic64 addr = .ok value ↔
      k.readFault addr 8 = none ∧ k.word64 addr = value := by
  unfold readKernelMemAtomic64
  cases k.readFault addr 8 <;> simp

end KernelModule
end Drmid
