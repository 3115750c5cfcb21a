import Drmid.Control.Apply
import Drmid.Lib.Run

/-!
# Several clients

`handle_apply` as any number of clients run it beside each other, each in a process of its own: the
lock of a handler keeps out only the requests of its own process. A client goes through the stages
of its request one at a time, in between other clients take theirs, and the daemon serves the
exchanges one after the other. What a client has in hand between two stages is its `ApplyClient`;
beside the clients the state keeps the configs that have been written to the control file.
-/

namespace Drmid

open Lib

/-- A client between two stages of its request. -/
inductive ApplyClient
  | idle
  | asked (form : ApplyForm) (req : ApplyRequest) (current : ControlIpcResponse)
  | prepared (req : ApplyRequest) (config : ReplacementConfig)
  | persisted (req : ApplyRequest) (config : ReplacementConfig)

structure Clients where
  state : ControlState
  client : Nat → ApplyClient
  /-- The configs that have been written to the control file, the newest first. -/
  written : List ReplacementConfig
  /-- The answers, the newest first. -/
  replies : List (Nat × ApplyReply)

/-- A client begins a request, or takes the next stage of the one it has begun. -/
inductive ClientStep
  | start (i : Nat) (form : ApplyForm) (req : ApplyRequest)
  | next (i : Nat)

namespace Clients

/-- Nobody has begun a request. -/
def init (S : ControlState) : Clients := ⟨S, fun _ => .idle, [], []⟩

def setClient (C : Clients) (i : Nat) (client : ApplyClient) : Clients :=
  { C with client := Function.update C.client i client }

/-- A request is answered. -/
def reply (C : Clients) (i : Nat) (r : ApplyReply) : Clients :=
  { C.setClient i .idle with replies := (i, r) :: C.replies }

/-- The status request. -/
def ask (cfg : ServerConfig) (C : Clients) (i : Nat) (form : ApplyForm) (req : ApplyRequest) :
    Clients :=
  match statusStage cfg req.status C.state with
  | (.error r, S) => { C with state := S }.reply i r
  | (.ok current, S) => { C with state := S }.setClient i (.asked form req current)

/-- The control file is read. -/
def prepare (C : Clients) (i : Nat) (form : ApplyForm) (req : ApplyRequest)
    (current : ControlIpcResponse) : Clients :=
  match prepareStage form req current C.state with
  | (.error r, S) => { C with state := S }.reply i r
  | (.ok config, S) => { C with state := S }.setClient i (.prepared req config)

/-- The control file is written. -/
def persist (C : Clients) (i : Nat) (req : ApplyRequest) (config : ReplacementConfig) : Clients :=
  match persistStage req.writeScript config C.state with
  | (some r, S) => { C with state := S }.reply i r
  | (none, S) =>
    { C with state := S, written := config :: C.written }.setClient i (.persisted req config)

/-- The apply request. -/
def apply (cfg : ServerConfig) (C : Clients) (i : Nat) (req : ApplyRequest) : Clients :=
  let (r, S) := applyStage cfg req.apply C.state
  { C with state := S }.reply i r

def step (cfg : ServerConfig) (C : Clients) : ClientStep → Clients
  | .start i form req =>
    match C.client i with
    | .idle => C.ask cfg i form req
    | .asked _ _ _ | .prepared _ _ | .persisted _ _ => C
  | .next i =>
    match C.client i with
    | .idle => C
    | .asked form req current => C.prepare i form req current
    | .prepared req config => C.persist i req config
    | .persisted req _ => C.apply cfg i req

/-- A step that writes the control file writes a generation that has not been written before. -/
def WritesFresh (C : Clients) : ClientStep → Prop
  | .start _ _ _ => True
  | .next i => ∀ req config, C.client i = .prepared req config →
    ∀ c ∈ C.written, c.configGeneration ≠ config.configGeneration

/-- An apply request that is answered with success finds the client's mode and ID active, or a
newer generation. -/
def KeepsUpdate (cfg : ServerConfig) (C : Clients) : ClientStep → Prop
  | .start _ _ _ => True
  | .next i => ∀ req config, C.client i = .persisted req config →
    (applyStage cfg req.apply C.state).1.status = 200 →
      let active := (C.step cfg (.next i)).state.active
      (active.replacementMode = config.mode ∧ active.idBytes = config.idBytes) ∨
        config.configGeneration < active.configGeneration

end Clients
end Drmid
