import Mathlib.Data.Nat.Notation

/-!
# Error codes

`KModErr`, which every fallible call of the module and of its SDK returns.
-/

namespace Drmid

/-- `KModErr`. The named members are the ones this code returns itself; a kernel operation may
report any. -/
inductive KModErr
  | ok | errModuleParam | errModuleAsm | errModuleSocket | errModuleOpenFile | errModuleWriteFile
  | errModuleStorageNotFound | errModuleStorageRead | errModuleStorageWrite | errModuleStorageType
  | errModuleOffsetNotFound | errModuleNotKaddr | errModuleFuncNotStandard | errModuleCreateDir
  | errModuleTestChannel
  | other (code : Int)
  deriving DecidableEq, Repr

/-- An error that `is_failed` holds of. -/
abbrev KModFailure := { err : KModErr // err ≠ .ok }

/-! ## The failures the resolver names itself -/

def errModuleParam : KModFailure := ⟨.errModuleParam, by decide⟩
def errModuleAsm : KModFailure := ⟨.errModuleAsm, by decide⟩
def errModuleOffsetNotFound : KModFailure := ⟨.errModuleOffsetNotFound, by decide⟩
def errModuleNotKaddr : KModFailure := ⟨.errModuleNotKaddr, by decide⟩
def errModuleFuncNotStandard : KModFailure := ⟨.errModuleFuncNotStandard, by decide⟩

end Drmid
