import Drmid.Control.Startup
import Drmid.Hook.Interleaving

/-!
# The self-test of an installed hook

What the eight empty calls of `run_readonly_parser_probe` are for the handler: calls of a thread of
the installer, which the gate lets through. Other threads may be in the handler at the same time.
-/

namespace Drmid

open Lib

/-- A `BINDER_WRITE_READ` call of the installer's. -/
def HookCall.probes (installerTgid : UInt32) (c : HookCall) : Bool :=
  c.task.kaddr != 0 && c.task.tgid == installerTgid && c.io.cmd.toUInt32 == binderWriteRead

def HookCall.returned (c : HookCall) : Bool :=
  match c.stage with
  | .returned => true
  | _ => false

namespace Hook

/-- The installer's calls find their header where they left it, with nothing in it. -/
def ShowsEmpty (installerTgid : UInt32) (S : Hook) : HookLabel → Prop
  | .step i e => ∀ c ∈ S.procs[i]?, c.probes installerTgid = true →
      copyHeader e.user c.io.arg = some ⟨0, 0, 0, 0, 0, 0⟩
  | .start _ | .env _ => True

instance (installerTgid : UInt32) (S : Hook) : ∀ l, Decidable (S.ShowsEmpty installerTgid l)
  | .step i _ => inferInstanceAs (Decidable (∀ c ∈ S.procs[i]?, _ → _))
  | .start _ | .env _ => instDecidableTrue

/-- No counter of the self-test wraps in the step. -/
def SelfTestUnwrapped (installerTgid : UInt32) (S : Hook) (l : HookLabel) : Prop :=
  ∀ k ∈ selfTestCounters, S.shared.counter k ≤ (S.step installerTgid l).shared.counter k

instance (installerTgid : UInt32) (S : Hook) (l : HookLabel) :
    Decidable (S.SelfTestUnwrapped installerTgid l) :=
  inferInstanceAs (Decidable (∀ k ∈ selfTestCounters, _))

/-- How many calls of the installer's have returned. -/
def probesReturned (installerTgid : UInt32) (S : Hook) : Nat :=
  S.procs.countP fun c => c.probes installerTgid && c.returned

end Hook
end Drmid
