import Drmid.Hook.Record

/-!
# The event ring, store by store

`Record` fills a ring slot in one stage. Here every store of a handler thread is a step of its own:
a thread takes a ticket, stores `sequence = 2 * id - 1`, `event_id` and the fields in source order,
and publishes `sequence = 2 * id`; any other thread may run between two stores. `printRecentEvents`
reads a snapshot of the whole ring.

Nothing stops a ticket from being taken while the thread that owns its slot still writes. Which
thread stored a field last is kept beside the ring (`owner`), under the number of tickets taken
before its own: the 64-bit ticket itself comes around again.
-/

namespace Drmid

/-! ## Fields -/

/-- The fields of `BinderTransactionEvent`. -/
inductive EventField
  | sequence | eventId | taskKaddr | target | cookie | dataSize | offsetsSize | buffer | offsets
  | correlatedRequestId | pid | tgid | command | code | flags | senderPid | senderEuid | kind
  | parcelTokenKind | parcelTokenOffset | parcelPrefixSize | parcelFlags | correlatedRequestFlags
  | replyPrefixSize | replyStatusCode | replyByteArrayLength | replyByteArrayOffset | replyFlags
  | reserved0 | reserved1
  deriving DecidableEq, Repr

/-- One store into a slot. The reserved words are stored as zero and read by nobody. -/
def EventField.store (src dst : BinderTransactionEvent) : EventField → BinderTransactionEvent
  | sequence => { dst with sequence := src.sequence }
  | eventId => { dst with eventId := src.eventId }
  | taskKaddr => { dst with taskKaddr := src.taskKaddr }
  | target => { dst with target := src.target }
  | cookie => { dst with cookie := src.cookie }
  | dataSize => { dst with dataSize := src.dataSize }
  | offsetsSize => { dst with offsetsSize := src.offsetsSize }
  | buffer => { dst with buffer := src.buffer }
  | offsets => { dst with offsets := src.offsets }
  | correlatedRequestId => { dst with correlatedRequestId := src.correlatedRequestId }
  | pid => { dst with pid := src.pid }
  | tgid => { dst with tgid := src.tgid }
  | command => { dst with command := src.command }
  | code => { dst with code := src.code }
  | flags => { dst with flags := src.flags }
  | senderPid => { dst with senderPid := src.senderPid }
  | senderEuid => { dst with senderEuid := src.senderEuid }
  | kind => { dst with kind := src.kind }
  | parcelTokenKind => { dst with parcelTokenKind := src.parcelTokenKind }
  | parcelTokenOffset => { dst with parcelTokenOffset := src.parcelTokenOffset }
  | parcelPrefixSize => { dst with parcelPrefixSize := src.parcelPrefixSize }
  | parcelFlags => { dst with parcelFlags := src.parcelFlags }
  | correlatedRequestFlags => { dst with correlatedRequestFlags := src.correlatedRequestFlags }
  | replyPrefixSize => { dst with replyPrefixSize := src.replyPrefixSize }
  | replyStatusCode => { dst with replyStatusCode := src.replyStatusCode }
  | replyByteArrayLength => { dst with replyByteArrayLength := src.replyByteArrayLength }
  | replyByteArrayOffset => { dst with replyByteArrayOffset := src.replyByteArrayOffset }
  | replyFlags => { dst with replyFlags := src.replyFlags }
  | reserved0 | reserved1 => dst

/-- The stores of `emit_reserve_event` and `emit_record_transaction`, in order. -/
def storeOrder : List EventField :=
  [.sequence, .eventId, .taskKaddr, .correlatedRequestId, .pid, .tgid, .command, .parcelTokenKind,
    .parcelTokenOffset, .parcelPrefixSize, .parcelFlags, .correlatedRequestFlags, .replyPrefixSize,
    .replyStatusCode, .replyByteArrayLength, .replyByteArrayOffset, .replyFlags, .reserved0,
    .reserved1, .target, .cookie, .code, .flags, .senderPid, .senderEuid, .dataSize, .offsetsSize,
    .buffer, .offsets, .kind]

/-! ## Threads -/

/-- A thread between its `ldaddal` and its `stlr`: how many tickets were taken before its own, the
event it stores (`x26` is its id), its slot `x28` and the stores still to come. -/
structure RingWriter where
  taken : Nat
  event : BinderTransactionEvent
  slot : Fin 256
  rest : List EventField

structure EventRing (Thread : Type*) where
  /-- `event_write_index`. -/
  index : UInt64
  events : Fin 256 → BinderTransactionEvent
  writers : Thread → Option RingWriter
  /-- The number of tickets taken so far. -/
  taken : Nat
  /-- Who stored a field last. -/
  owner : Fin 256 → EventField → Option Nat

inductive RingStep (Thread : Type*)
  /-- `ldaddal`, by a thread that stores `event` next. -/
  | reserve (t : Thread) (event : BinderTransactionEvent)
  /-- The next store of a thread; the last one publishes. -/
  | store (t : Thread)

namespace EventRing

variable {Thread : Type*} [DecidableEq Thread]

/-- The zeroed context. -/
def initial : EventRing Thread where
  index := 0
  events _ := .zero
  writers _ := none
  taken := 0
  owner _ _ := none

/-- A thread between two recordings takes a ticket. -/
def reserve (t : Thread) (event : BinderTransactionEvent) (S : EventRing Thread) :
    EventRing Thread :=
  let ticket := S.index
  let eventId := ticket + 1
  { S with
    index := ticket + 1
    taken := S.taken + 1
    writers := Function.update S.writers t (some
      { taken := S.taken
        event := { event with sequence := (eventId <<< 1) - 1, eventId := eventId }
        slot := eventSlot ticket
        rest := storeOrder }) }

/-- The store of field `f` of the event of `w`. -/
def storeField (t : Thread) (w : RingWriter) (f : EventField) (rest : List EventField)
    (S : EventRing Thread) : EventRing Thread :=
  { S with
    events := Function.update S.events w.slot (f.store w.event (S.events w.slot))
    owner := Function.update S.owner w.slot
      (Function.update (S.owner w.slot) f (some w.taken))
    writers := Function.update S.writers t (some { w with rest := rest }) }

/-- `emit_publish_event`. -/
def publish (t : Thread) (w : RingWriter) (S : EventRing Thread) : EventRing Thread :=
  { S with
    events := Function.update S.events w.slot
      { S.events w.slot with sequence := w.event.eventId <<< 1 }
    owner := Function.update S.owner w.slot
      (Function.update (S.owner w.slot) .sequence (some w.taken))
    writers := Function.update S.writers t none }

def step (S : EventRing Thread) : RingStep Thread → EventRing Thread
  | .reserve t event =>
    match S.writers t with
    | none => S.reserve t event
    | some _ => S
  | .store t =>
    match S.writers t with
    | none => S
    | some w =>
      match w.rest with
      | f :: rest => S.storeField t w f rest
      | [] => S.publish t w

section
variable {S : EventRing Thread} {t : Thread} {event : BinderTransactionEvent} {w : RingWriter}
  {f : EventField} {rest : List EventField}

theorem reserve_writers : (S.reserve t event).writers = Function.update S.writers t (some
    { taken := S.taken
      event := { event with sequence := ((S.index + 1) <<< 1) - 1, eventId := S.index + 1 }
      slot := eventSlot S.index
      rest := storeOrder }) := rfl

theorem storeField_writers : (S.storeField t w f rest).writers =
    Function.update S.writers t (some { w with rest := rest }) := rfl

theorem publish_writers : (S.publish t w).writers = Function.update S.writers t none := rfl

theorem storeField_events : (S.storeField t w f rest).events w.slot =
    f.store w.event (S.events w.slot) := Function.update_self ..

theorem publish_events : (S.publish t w).events w.slot =
    { S.events w.slot with sequence := w.event.eventId <<< 1 } := Function.update_self ..

theorem storeField_owner : (S.storeField t w f rest).owner w.slot =
    Function.update (S.owner w.slot) f (some w.taken) := Function.update_self ..

theorem publish_owner : (S.publish t w).owner w.slot =
    Function.update (S.owner w.slot) .sequence (some w.taken) := Function.update_self ..

/-- The other slots keep their events and owners. -/
theorem storeField_other {slot : Fin 256} (h : slot ≠ w.slot) :
    (S.storeField t w f rest).events slot = S.events slot ∧
      (S.storeField t w f rest).owner slot = S.owner slot :=
  ⟨Function.update_of_ne h .., Function.update_of_ne h ..⟩

theorem publish_other {slot : Fin 256} (h : slot ≠ w.slot) :
    (S.publish t w).events slot = S.events slot ∧ (S.publish t w).owner slot = S.owner slot :=
  ⟨Function.update_of_ne h .., Function.update_of_ne h ..⟩

end

end EventRing

/-! ## The reader -/

/-- The oldest ticket whose slot was not taken again. -/
def retainedBegin (stop : UInt64) : UInt64 := if 256 < stop then stop - 256 else 0

/-- The first ticket of the listing of at most `maxEvents` events. -/
def printBegin (stop maxEvents : UInt64) : UInt64 :=
  if maxEvents < stop ∧ retainedBegin stop < stop - maxEvents then stop - maxEvents
  else retainedBegin stop

/-- The slot of `ticket` holds the published event of that id. -/
def acceptsEvent (events : Fin 256 → BinderTransactionEvent) (ticket : UInt64) : Bool :=
  (events (eventSlot ticket)).sequence == (ticket + 1) * 2 &&
    (events (eventSlot ticket)).eventId == ticket + 1

/-- The accepted events of the tickets from `start` on, oldest first. -/
def acceptedEvents (events : Fin 256 → BinderTransactionEvent) (start stop : UInt64) :
    List BinderTransactionEvent :=
  let tickets := (List.range (stop - start).toNat).map fun i => start + UInt64.ofNat i
  (tickets.filter (acceptsEvent events)).map fun ticket => events (eventSlot ticket)

/-- What `print_recent_events` prints. -/
structure RecentEvents where
  /-- The first 32 events with a token, each with the reply that answers it. -/
  tokens : List (BinderTransactionEvent × Option BinderTransactionEvent)
  tokenEvents : Nat
  deviceEvents : Nat
  printed : List BinderTransactionEvent
  correlated : Nat
  start : UInt64
  stop : UInt64

/-- `print_recent_events` on a snapshot with this index and these events. -/
def printRecentEvents (stop : UInt64) (events : Fin 256 → BinderTransactionEvent)
    (maxEvents : UInt64) : RecentEvents :=
  let start := printBegin stop maxEvents
  let retained := acceptedEvents events (retainedBegin stop) stop
  let tokens := retained.filter fun event => event.parcelTokenKind != .none
  let printed := acceptedEvents events start stop
  { tokens := (tokens.take 32).map fun event =>
      (event, retained.find? fun reply => reply.correlatedRequestId == event.eventId)
    tokenEvents := tokens.length
    deviceEvents := (tokens.filter fun event => deviceUniqueIdFlag event.parcelFlags).length
    printed := printed
    correlated := (printed.filter fun event => event.correlatedRequestId != 0).length
    start := start
    stop := stop }

/-- `print_recent_events` accepts the event of `ticket` in a snapshot of `S`. -/
def EventRing.Accepts {Thread : Type*} (S : EventRing Thread) (ticket : UInt64) : Prop :=
  retainedBegin S.index ≤ ticket ∧ ticket < S.index ∧ acceptsEvent S.events ticket = true

instance {Thread : Type*} (S : EventRing Thread) (ticket : UInt64) : Decidable (S.Accepts ticket) :=
  inferInstanceAs (Decidable (_ ∧ _ ∧ _))

/-! ## Lapping -/

/-- A store is made while the ticket that takes the same slot again, 256 tickets on, is not taken. -/
def EventRing.inTime {Thread : Type*} (S : EventRing Thread) : RingStep Thread → Prop
  | .reserve _ _ => True
  | .store t => ∀ w ∈ S.writers t, S.taken ≤ w.taken + 256

instance {Thread : Type*} (S : EventRing Thread) :
    ∀ step, Decidable (S.inTime step)
  | .reserve _ _ => isTrue trivial
  | .store t => inferInstanceAs (Decidable (∀ w ∈ S.writers t, S.taken ≤ w.taken + 256))

end Drmid
