import CtpSystem.Network.Recovery

/-!
# The replay on a new connection

`reconnect` stores `Active` before it queues the payloads to replay; the writer task writes
what it finds in its queue while the mode is `Active`.
-/

namespace CtpSystem

open Reactive

/-! ## What is written on a connection -/

/-- The frame an effect writes on a connection. -/
def TcpEffect.frameOn {α : Type} (connection : Nat) : TcpEffect α → Option α
  | .wrote number payload => if number = connection then some payload else none
  | .replays _ _ => none

/-- The frames written on a connection, in order. -/
def framesOn {α : Type} (connection : Nat) (history : List (TcpEffect α)) : List α :=
  history.filterMap (TcpEffect.frameOn connection)

/-- Neither list departs from the other before one of them ends. -/
def Comparable {α : Type} (left right : List α) : Prop :=
  left <+: right ∨ right <+: left

/-- A replay has begun on the connection. -/
def Replayed {α : Type} (connection : Nat) (history : List (TcpEffect α)) : Prop :=
  ∃ payloads, .replays connection payloads ∈ history

/-- The connection that `reconnect` has made and not begun to replay on. -/
def ControllerStage.opening {α : Type} : ControllerStage α → Option Nat
  | .connected connection | .awaitingAck connection | .acknowledged connection
  | .spawned connection | .activated connection => some connection
  | _ => none

/-- The payloads of a replay that are not queued yet. -/
def ControllerStage.remaining {α : Type} : ControllerStage α → List α
  | .replaying payloads => payloads
  | _ => []

/-- The payload the writer task has taken. -/
def WriteStage.taken {α : Type} : WriteStage α → List α
  | .checking payload | .writing payload => [payload]
  | _ => []

/-- The payload the writer task has found the mode `Active` for. -/
def WriteStage.writes {α : Type} : WriteStage α → List α
  | .writing payload => [payload]
  | _ => []

/-- The payload of a command. -/
def WriterCommand.payload {α : Type} : WriterCommand α → Option α
  | .send payload => some payload
  | .update _ => none

theorem Comparable.of_append {α : Type} {left rest right : List α}
    (comparable : Comparable (left ++ rest) right) : Comparable left right := by
  rcases comparable with within | beyond
  · exact .inl ((List.prefix_append left rest).trans within)
  · exact List.prefix_or_prefix_of_prefix (List.prefix_append left rest) beyond

theorem Replayed.append {α : Type} {connection : Nat} {history : List (TcpEffect α)}
    (replayed : Replayed connection history) (later : List (TcpEffect α)) :
    Replayed connection (history ++ later) :=
  replayed.imp fun _ member => List.mem_append_left later member

@[simp] theorem framesOn_append {α : Type} (connection : Nat)
    (earlier later : List (TcpEffect α)) :
    framesOn connection (earlier ++ later) =
      framesOn connection earlier ++ framesOn connection later :=
  List.filterMap_append

namespace TcpClient

variable {α : Type}

/-- The payloads between the senders and the connection of the writer task, in order. -/
def pending (client : TcpClient α) : List α :=
  client.writeTask.stage.taken ++ client.queue.filterMap WriterCommand.payload

/-- The payload that will be written on a connection unless the write fails. -/
def writingOn (client : TcpClient α) (connection : Nat) : List α :=
  if client.writeTask.connection = connection then client.writeTask.stage.writes else []

/-- A replay has payloads to queue. -/
def replayDue (client : TcpClient α) : Bool :=
  match client.controller with
  | .activated _ => !client.reconnectPayloads.isEmpty
  | .replaying (_ :: _) => true
  | _ => false

/-- The step gives `reconnect` something to replay, after a store of `Active` with nothing
to replay. -/
def relists (client : TcpClient α) : TcpInput α → Bool
  | .setReconnectPayloads (_ :: _) =>
      match client.controller with
      | .activated _ => client.reconnectPayloads.isEmpty
      | _ => false
  | _ => false

/-- Nobody else's payload gets before the replay: none is queued when `reconnect` stores
`Active` with something to replay, and none is queued from then until the replay is, while
the mode is `Active`. -/
structure KeepsClear (client : TcpClient α) (input : TcpInput α) : Prop where
  stores : client.storesActive input → client.reconnectPayloads ≠ [] →
    client.writeTask.stage.taken = [] ∧ client.queue = []
  offers : client.offers input → client.mode = .active → client.replayDue = false
  relists : client.relists input = false

instance [DecidableEq α] (client : TcpClient α) (input : TcpInput α) :
    Decidable (client.KeepsClear input) :=
  decidable_of_iff ((client.storesActive input → client.reconnectPayloads ≠ [] →
      client.writeTask.stage.taken = [] ∧ client.queue = []) ∧
    (client.offers input → client.mode = .active → client.replayDue = false) ∧
    client.relists input = false)
    ⟨fun ⟨stores, offers, relists⟩ => ⟨stores, offers, relists⟩,
      fun clear => ⟨clear.stores, clear.offers, clear.relists⟩⟩

/-- On every connection that `reconnect` has made, the frames written are the replay from its
start, as far as the connection got, and only then others.  No frame is written before the
replay has begun, unless there is nothing to replay. -/
structure ReplayedFirst (client : TcpClient α) (history : List (TcpEffect α)) : Prop where
  compared : ∀ connection payloads, .replays connection payloads ∈ history →
    Comparable (framesOn connection history) payloads
  awaited : ∀ connection, 0 < connection → framesOn connection history ≠ [] →
    Replayed connection history ∨ client.reconnectPayloads = []

/-- No frame may be on the connection yet: `reconnect` is making it, and has something to
replay once it has stored `Active`. -/
def guards (client : TcpClient α) (connection : Nat) : Prop :=
  client.controller.opening = some connection ∧
    (client.controller = .activated connection → client.reconnectPayloads ≠ [])

/-- What the frames written so far and the state of the tasks have to do with the replays. -/
structure ReplayOrder (client : TcpClient α) (history : List (TcpEffect α)) : Prop where
  connection : client.writeTask.connection < client.established
  known : ∀ connection, client.controller.opening = some connection ∨
    .update connection ∈ client.queue → connection < client.established
  unreplayed : ∀ connection, client.established ≤ connection ∨
      client.controller.opening = some connection ∨ .update connection ∈ client.queue →
    ¬ Replayed connection history
  unwritten : ∀ connection, client.established ≤ connection ∨
      client.guards connection ∨ .update connection ∈ client.queue →
    framesOn connection history = [] ∧ client.writingOn connection = []
  inactive : ∀ connection, .update connection ∈ client.queue → client.mode ≠ .active
  clear : ∀ connection, client.controller = .activated connection →
    client.reconnectPayloads ≠ [] → client.mode = .active → client.channelOpen →
      client.pending = []
  compared : ∀ connection payloads, .replays connection payloads ∈ history →
    Comparable (framesOn connection history ++ client.writingOn connection) payloads
  current : client.mode = .active → client.channelOpen → ∀ payloads,
    .replays client.writeTask.connection payloads ∈ history →
      framesOn client.writeTask.connection history ++ client.pending ++
          client.controller.remaining = payloads ∨
        client.controller.remaining = [] ∧
          payloads <+: framesOn client.writeTask.connection history ++ client.pending
  served : client.mode = .active → client.channelOpen → 0 < client.writeTask.connection →
    Replayed client.writeTask.connection history ∨
      client.controller = .activated client.writeTask.connection
  awaited : ∀ connection, 0 < connection →
    framesOn connection history ≠ [] ∨ client.writingOn connection ≠ [] →
      Replayed connection history ∨
        client.controller = .activated connection ∧ client.reconnectPayloads = []

variable {client : TcpClient α} {history : List (TcpEffect α)}

theorem ReplayOrder.replayedFirst (order : client.ReplayOrder history) :
    client.ReplayedFirst history where
  compared connection payloads replayed :=
    (order.compared connection payloads replayed).of_append
  awaited connection positive written :=
    (order.awaited connection positive (.inl written)).imp_right And.right

/-- Away from the point where `Active` is stored, a writer task that is on a connection
`reconnect` has made has a replay there. -/
theorem ReplayOrder.replayed_of_active (order : client.ReplayOrder history)
    (unactivated : ∀ connection, client.controller ≠ .activated connection)
    (active : client.mode = .active) (opened : client.channelOpen)
    (positive : 0 < client.writeTask.connection) :
    Replayed client.writeTask.connection history :=
  (order.served active opened positive).resolve_right (unactivated _)

/-- There, what is written or will be follows a replay. -/
theorem ReplayOrder.replayed_of_written (order : client.ReplayOrder history)
    (unactivated : ∀ connection, client.controller ≠ .activated connection)
    {connection : Nat} (positive : 0 < connection)
    (written : framesOn connection history ≠ [] ∨ client.writingOn connection ≠ []) :
    Replayed connection history := by
  refine (order.awaited connection positive written).resolve_right ?_
  rintro ⟨activated, -⟩
  exact unactivated connection activated

/-- The invariant reads the writer task, the queue, the controller, the payloads to replay
and whether the mode is `Active`. -/
theorem ReplayOrder.frame {next : TcpClient α} (order : client.ReplayOrder history)
    (active : next.mode = .active → client.mode = .active)
    (controller : next.controller = client.controller) (queue : next.queue = client.queue)
    (stage : next.writeTask.stage = client.writeTask.stage)
    (connection : next.writeTask.connection = client.writeTask.connection)
    (established : next.established = client.established)
    (listed : next.reconnectPayloads = client.reconnectPayloads) :
    next.ReplayOrder history := by
  have pending : next.pending = client.pending := by
    rw [TcpClient.pending, TcpClient.pending, stage, queue]
  have writingOn : next.writingOn = client.writingOn := by
    funext number
    rw [TcpClient.writingOn, TcpClient.writingOn, stage, connection]
  have opened : next.channelOpen = client.channelOpen := by
    rw [channelOpen, channelOpen, stage]
  have guards : next.guards = client.guards := by
    funext number
    rw [TcpClient.guards, TcpClient.guards, controller, listed]
  constructor
  · rw [connection, established]
    exact order.connection
  · rw [controller, queue, established]
    exact order.known
  · rw [controller, queue, established]
    exact order.unreplayed
  · rw [guards, queue, established, writingOn]
    exact order.unwritten
  · rw [queue]
    intro number queued isActive
    exact order.inactive number queued (active isActive)
  · rw [controller, pending, opened, listed]
    intro number activated due isActive
    exact order.clear number activated due (active isActive)
  · rw [writingOn]
    exact order.compared
  · rw [controller, pending, opened, connection]
    intro isActive
    exact order.current (active isActive)
  · rw [controller, opened, connection]
    intro isActive
    exact order.served (active isActive)
  · rw [writingOn, controller, listed]
    exact order.awaited

/-- Another list of payloads to replay, where `reconnect` does not rely on the empty one. -/
theorem ReplayOrder.relisted (order : client.ReplayOrder history) {payloads : List α}
    (listed : ∀ connection, client.controller = .activated connection →
      client.reconnectPayloads = [] → payloads = []) :
    { client with reconnectPayloads := payloads }.ReplayOrder history where
  connection := order.connection
  known := order.known
  unreplayed := order.unreplayed
  unwritten connection held := by
    apply order.unwritten connection
    refine held.imp_right (Or.imp_left ?_)
    rintro ⟨opening, due⟩
    exact ⟨opening, fun activated none => due activated (listed connection activated none)⟩
  inactive := order.inactive
  clear connection activated due :=
    order.clear connection activated fun none => due (listed connection activated none)
  compared := order.compared
  current := order.current
  served := order.served
  awaited connection positive written := by
    refine (order.awaited connection positive written).imp_right ?_
    rintro ⟨activated, none⟩
    exact ⟨activated, listed connection activated none⟩

/-- A controller that moves on a connection it is opening, or leaves one, without anything
to replay. -/
theorem ReplayOrder.controllerAt (order : client.ReplayOrder history)
    {stage : ControllerStage α}
    (opening : ∀ connection, stage.opening = some connection →
      client.controller.opening = some connection)
    (notActivated : ∀ connection, stage ≠ .activated connection)
    (unactivated : ∀ connection, client.controller ≠ .activated connection)
    (remaining : client.channelOpen → stage.remaining = client.controller.remaining) :
    (client.controllerAt stage).ReplayOrder history where
  connection := order.connection
  known connection held := order.known connection (held.imp_left (opening connection))
  unreplayed connection unused :=
    order.unreplayed connection (unused.imp_right (Or.imp_left (opening connection)))
  unwritten connection unused := by
    apply order.unwritten connection
    refine unused.imp_right (Or.imp_left ?_)
    rintro ⟨here, -⟩
    exact ⟨opening connection here,
      fun activated => absurd activated (unactivated connection)⟩
  inactive := order.inactive
  clear connection activated := absurd activated (notActivated connection)
  compared := order.compared
  current active opened := by
    simp only [TcpClient.controllerAt, remaining opened]
    exact order.current active opened
  served active opened positive :=
    .inl (order.replayed_of_active unactivated active opened positive)
  awaited connection positive written :=
    .inl (order.replayed_of_written unactivated positive written)

theorem writingOn_eq_nil (idle : client.writeTask.stage.writes = []) (connection : Nat) :
    client.writingOn connection = [] := by
  rw [writingOn, idle, ite_self]

/-- A frame written is one the writer task had in hand. -/
theorem framesOn_wrote (connection number : Nat) (payload : α) :
    framesOn connection [.wrote number payload] =
      if number = connection then [payload] else [] := by
  by_cases same : number = connection <;> simp [framesOn, TcpEffect.frameOn, same]

/-- The frame in hand is written. -/
theorem ReplayOrder.writes (order : client.ReplayOrder history) {payload : α}
    (writing : client.writeTask.stage = .writing payload) :
    (client.writerAt .flushing).ReplayOrder
      (history ++ [.wrote client.writeTask.connection payload]) := by
  have moved : ∀ number, framesOn number
      (history ++ [.wrote client.writeTask.connection payload]) =
        framesOn number history ++ client.writingOn number := by
    intro number
    rw [framesOn_append, framesOn_wrote, writingOn, writing]
    rfl
  have listed : ∀ number payloads,
      .replays number payloads ∈ history ++ [.wrote client.writeTask.connection payload] ↔
        .replays number payloads ∈ history := by simp
  have replayed : ∀ number,
      Replayed number (history ++ [.wrote client.writeTask.connection payload]) ↔
        Replayed number history := fun number => exists_congr (listed number)
  have total : client.writingOn client.writeTask.connection ++
      (client.writerAt .flushing).pending = client.pending := by
    simp [writingOn, pending, writerAt, writing, WriteStage.writes, WriteStage.taken]
  have opened : client.channelOpen := channelOpen_iff.mpr (by simp [writing])
  exact {
    connection := order.connection
    known := order.known
    unreplayed := fun number unused => by
      rw [replayed]
      exact order.unreplayed number unused
    unwritten := fun number unused => by
      have unwritten := order.unwritten number unused
      rw [moved, unwritten.1, unwritten.2]
      exact ⟨rfl, writingOn_eq_nil rfl number⟩
    inactive := order.inactive
    clear := fun number activated due active _ => by
      have none := order.clear number activated due active opened
      simp [pending, writing, WriteStage.taken] at none
    compared := fun number payloads member => by
      have compared := order.compared number payloads ((listed _ _).mp member)
      have idle : (client.writerAt .flushing).writingOn number = [] :=
        writingOn_eq_nil rfl number
      rwa [moved, idle, List.append_nil]
    current := fun active _ payloads member => by
      have current := order.current active opened payloads ((listed _ _).mp member)
      rw [← total] at current
      simpa [moved, writerAt, controllerAt] using current
    served := fun active _ positive => by
      rw [replayed]
      exact order.served active opened positive
    awaited := fun number positive written => by
      rw [replayed]
      apply order.awaited number positive
      rw [moved, show (client.writerAt .flushing).writingOn number = [] from
        writingOn_eq_nil rfl number] at written
      simpa [List.append_eq_nil_iff, or_iff_not_imp_left] using written }

/-- The writer task moves on without a payload in hand that it will write. -/
theorem ReplayOrder.writerIdle (order : client.ReplayOrder history)
    {task : WriteTask α} {queue : List (WriterCommand α)}
    (idle : task.stage.writes = [])
    (connection : task.connection < client.established)
    (queued : ∀ number, WriterCommand.update number ∈ queue → .update number ∈ client.queue)
    (kept : client.mode = .active →
      { client with writeTask := task, queue := queue }.channelOpen →
        task.connection = client.writeTask.connection ∧
          { client with writeTask := task, queue := queue }.pending = client.pending ∧
            client.channelOpen) :
    { client with writeTask := task, queue := queue }.ReplayOrder history where
  connection := connection
  known number held := order.known number (held.imp_right (queued number))
  unreplayed number unused :=
    order.unreplayed number (unused.imp_right (Or.imp_right (queued number)))
  unwritten number unused := by
    have unwritten := order.unwritten number (unused.imp_right (Or.imp_right (queued number)))
    exact ⟨unwritten.1, writingOn_eq_nil idle number⟩
  inactive number held := order.inactive number (queued number held)
  clear number activated due active opened := by
    rcases kept active opened with ⟨_, unchanged, wasOpen⟩
    rw [unchanged]
    exact order.clear number activated due active wasOpen
  compared number payloads member := by
    rw [writingOn_eq_nil idle, List.append_nil]
    exact (order.compared number payloads member).of_append
  current active opened payloads member := by
    rcases kept active opened with ⟨same, unchanged, wasOpen⟩
    simp only [same] at member ⊢
    rw [unchanged]
    exact order.current active wasOpen payloads member
  served active opened positive := by
    rcases kept active opened with ⟨same, _, wasOpen⟩
    simp only [same] at positive ⊢
    exact order.served active wasOpen positive
  awaited number positive written := by
    refine order.awaited number positive (.inl ?_)
    exact written.resolve_right fun busy => busy (writingOn_eq_nil idle number)

/-- A payload found `Active` goes into the hand that writes. -/
theorem ReplayOrder.checksActive (order : client.ReplayOrder history) (sound : client.TasksSound)
    {payload : α} (checking : client.writeTask.stage = .checking payload)
    (active : client.mode = .active) :
    (client.writerAt (.writing payload)).ReplayOrder history := by
  have opened : client.channelOpen := channelOpen_iff.mpr (by simp [checking])
  have same : (client.writerAt (.writing payload)).pending = client.pending := by
    simp [pending, writerAt, checking, WriteStage.taken]
  have busy : client.pending ≠ [] := by simp [pending, checking, WriteStage.taken]
  have listed : ∀ number, client.controller = .activated number →
      client.reconnectPayloads = [] := by
    intro number activated
    by_contra due
    exact busy (order.clear number activated due active opened)
  have notReconnecting : ¬ client.controller.inReconnect := by
    intro within
    exact sound.inReconnect within active
  have unguarded : ∀ number, ¬ client.guards number := by
    rintro number ⟨opening, due⟩
    cases stage : client.controller <;>
      simp [stage, ControllerStage.opening] at opening <;>
      simp [stage, ControllerStage.inReconnect] at notReconnecting
    exact due (opening ▸ stage) (listed _ stage)
  have elsewhere : ∀ {number}, client.writeTask.connection ≠ number →
      (client.writerAt (.writing payload)).writingOn number = [] := fun other => if_neg other
  exact {
    connection := order.connection
    known := order.known
    unreplayed := order.unreplayed
    unwritten := fun number unused => by
      have other : client.writeTask.connection ≠ number := by
        rcases unused with later | guarded | queued
        · have earlier := order.connection
          have later' : client.established ≤ number := later
          omega
        · exact absurd guarded (unguarded number)
        · exact absurd active (order.inactive number queued)
      exact ⟨(order.unwritten number unused).1, elsewhere other⟩
    inactive := order.inactive
    clear := fun number activated due => absurd (listed number activated) due
    compared := fun number payloads member => by
      by_cases here : client.writeTask.connection = number
      · subst here
        have inHand : (client.writerAt (.writing payload)).writingOn
            client.writeTask.connection <+: client.pending := by
          simp [writingOn, pending, writerAt, checking, WriteStage.writes, WriteStage.taken]
        have within := (List.prefix_append_right_inj
          (framesOn client.writeTask.connection history)).mpr inHand
        rcases order.current active opened payloads member with total | ⟨_, beyond⟩
        · rw [← total]
          exact .inl (within.trans (List.prefix_append _ _))
        · exact List.prefix_or_prefix_of_prefix within beyond
      · rw [elsewhere here, List.append_nil]
        exact (order.compared number payloads member).of_append
    current := fun _ _ payloads member => by
      rw [same]
      exact order.current active opened payloads member
    served := fun _ _ => order.served active opened
    awaited := fun number positive written => by
      by_cases here : client.writeTask.connection = number
      · subst here
        exact (order.served active opened positive).imp_right
          fun activated => ⟨activated, listed _ activated⟩
      · refine order.awaited number positive (.inl ?_)
        exact written.resolve_right fun busy => busy (elsewhere here) }

/-- Somebody else's payload is queued. -/
theorem ReplayOrder.sent (order : client.ReplayOrder history) (opened : client.channelOpen)
    (clear : client.mode = .active → client.replayDue = false) (payload : α) :
    (client.enqueue (.send payload)).ReplayOrder history := by
  have longer : (client.enqueue (.send payload)).pending = client.pending ++ [payload] := by
    simp [pending, enqueue, WriterCommand.payload]
  have queued : ∀ {number},
      WriterCommand.update number ∈ (client.enqueue (.send payload)).queue →
        .update number ∈ client.queue := by
    simp [enqueue]
  exact {
    connection := order.connection
    known := fun number held => order.known number (held.imp_right queued)
    unreplayed := fun number unused =>
      order.unreplayed number (unused.imp_right (Or.imp_right queued))
    unwritten := fun number unused =>
      order.unwritten number (unused.imp_right (Or.imp_right queued))
    inactive := fun number held => order.inactive number (queued held)
    clear := fun number activated due active _ => by
      have none := clear active
      rw [replayDue, show client.controller = .activated number from activated] at none
      have none : client.reconnectPayloads = [] := by simpa using none
      exact absurd none due
    compared := order.compared
    current := fun active _ payloads member => by
      have none : client.controller.remaining = [] := by
        have none := clear active
        cases stage : client.controller with
        | replaying rest =>
            cases rest with
            | nil => rfl
            | cons next rest => simp [replayDue, stage] at none
        | _ => rfl
      refine .inr ⟨none, ?_⟩
      rw [longer, ← List.append_assoc]
      rcases order.current active opened payloads member with total | ⟨_, beyond⟩
      · rw [none, List.append_nil] at total
        exact total ▸ List.prefix_append _ _
      · exact beyond.trans (List.prefix_append _ _)
    served := fun active _ => order.served active opened
    awaited := order.awaited }

/-- The next payload of the replay is queued. -/
theorem ReplayOrder.replays (order : client.ReplayOrder history) {payload : α}
    {rest : List α} (replaying : client.controller = .replaying (payload :: rest))
    (opened : client.channelOpen) :
    ((client.enqueue (.send payload)).controllerAt (.replaying rest)).ReplayOrder history := by
  have longer : ((client.enqueue (.send payload)).controllerAt (.replaying rest)).pending =
      client.pending ++ [payload] := by
    simp [pending, enqueue, TcpClient.controllerAt, WriterCommand.payload]
  have queued : ∀ {number}, WriterCommand.update number ∈
      ((client.enqueue (.send payload)).controllerAt (.replaying rest)).queue →
        .update number ∈ client.queue := by
    simp [enqueue, TcpClient.controllerAt]
  have unguarded : ∀ number,
      ¬ ((client.enqueue (.send payload)).controllerAt (.replaying rest)).guards number := by
    rintro number ⟨opening, -⟩
    cases opening
  exact {
    connection := order.connection
    known := fun number held =>
      order.known number (.inr (queued (held.resolve_left (by simp [TcpClient.controllerAt,
        ControllerStage.opening]))))
    unreplayed := fun number unused => by
      refine order.unreplayed number (unused.imp_right fun held => .inr (queued ?_))
      exact held.resolve_left (by simp [TcpClient.controllerAt, ControllerStage.opening])
    unwritten := fun number unused =>
      order.unwritten number (unused.imp_right fun held =>
        .inr (queued (held.resolve_left (unguarded number))))
    inactive := fun number held => order.inactive number (queued held)
    clear := by simp [TcpClient.controllerAt]
    compared := order.compared
    current := fun active _ payloads member => by
      have current := order.current active opened payloads member
      rw [replaying] at current
      rw [longer]
      rcases current with total | ⟨none, _⟩
      · left
        simpa [ControllerStage.remaining, TcpClient.controllerAt, enqueue] using total
      · cases none
    served := fun active _ positive =>
      .inl (order.replayed_of_active (by simp [replaying]) active opened positive)
    awaited := fun number positive written =>
      .inl (order.replayed_of_written (by simp [replaying]) positive written) }

/-- The controller looks at the payloads to replay. -/
theorem ReplayOrder.locks (order : client.ReplayOrder history)
    (installing : client.Installing) {connection : Nat}
    (activated : client.controller = .activated connection) :
    (client.controllerAt (.replaying client.reconnectPayloads)).ReplayOrder
      (history ++ [.replays connection client.reconnectPayloads]) := by
  have opening : client.controller.opening = some connection := by
    rw [activated, ControllerStage.opening]
  have unreplayed := order.unreplayed connection (.inr (.inl opening))
  have unwritten : client.reconnectPayloads ≠ [] →
      framesOn connection history = [] ∧ client.writingOn connection = [] :=
    fun due => order.unwritten connection (.inr (.inl ⟨opening, fun _ => due⟩))
  have noUpdate := installing.no_update (by simp [activated]) (by simp [activated])
  have kept : ∀ number,
      framesOn number (history ++ [.replays connection client.reconnectPayloads]) =
        framesOn number history := by
    intro number
    simp [framesOn, TcpEffect.frameOn]
  have members : ∀ number others,
      .replays number others ∈ history ++ [.replays connection client.reconnectPayloads] →
        .replays number others ∈ history ∨
          number = connection ∧ others = client.reconnectPayloads := by
    simp
  have begun : Replayed connection
      (history ++ [.replays connection client.reconnectPayloads]) :=
    ⟨client.reconnectPayloads, by simp⟩
  exact {
    connection := order.connection
    known := fun number held => by
      rcases held with opening | queued
      · cases opening
      · exact absurd queued (noUpdate number)
    unreplayed := fun number unused => by
      have later : client.established ≤ number := by
        rcases unused with later | opening | queued
        · exact later
        · cases opening
        · exact absurd queued (noUpdate number)
      have known := order.known connection (.inl opening)
      rintro ⟨others, member⟩
      rcases members number others member with earlier | ⟨rfl, _⟩
      · exact order.unreplayed number (.inl later) ⟨others, earlier⟩
      · omega
    unwritten := fun number unused => by
      rw [kept]
      rcases unused with later | ⟨opening, -⟩ | queued
      · exact order.unwritten number (.inl later)
      · cases opening
      · exact absurd queued (noUpdate number)
    inactive := order.inactive
    clear := by simp [TcpClient.controllerAt]
    compared := fun number others member => by
      rw [kept]
      rcases members number others member with earlier | ⟨rfl, rfl⟩
      · exact order.compared number others earlier
      · by_cases due : client.reconnectPayloads = []
        · rw [due]
          exact .inr List.nil_prefix
        · have none : (client.controllerAt
              (.replaying client.reconnectPayloads)).writingOn number = [] := (unwritten due).2
          rw [(unwritten due).1, none]
          exact .inl List.nil_prefix
    current := fun active opened others member => by
      have here : client.writeTask.connection = connection :=
        installing.installed connection (.inr (.inr activated)) opened
      have same : others = client.reconnectPayloads := by
        rcases members _ others member with earlier | ⟨_, same⟩
        · exact absurd ⟨others, here ▸ earlier⟩ unreplayed
        · exact same
      by_cases due : client.reconnectPayloads = []
      · right
        rw [same, due]
        exact ⟨rfl, List.nil_prefix⟩
      · left
        have clear : client.pending = [] :=
          order.clear connection activated due active opened
        have idle : (client.controllerAt
            (.replaying client.reconnectPayloads)).pending = [] := clear
        have nothing : framesOn client.writeTask.connection history = [] := by
          rw [here, (unwritten due).1]
        rw [same, kept, idle]
        simp [TcpClient.controllerAt, nothing, ControllerStage.remaining]
    served := fun active opened positive => by
      left
      rcases order.served active opened positive with replayed | here
      · exact replayed.append _
      · rw [activated, ControllerStage.activated.injEq] at here
        exact here ▸ begun
    awaited := fun number positive written => by
      left
      rw [kept] at written
      rcases order.awaited number positive written with replayed | ⟨here, _⟩
      · exact replayed.append _
      · rw [activated, ControllerStage.activated.injEq] at here
        exact here ▸ begun }

/-- `reconnect` has made a connection. -/
theorem ReplayOrder.connects (order : client.ReplayOrder history)
    (connecting : client.controller = .connecting) :
    { client.controllerAt (.connected client.established) with
        established := client.established + 1 }.ReplayOrder history := by
  have made : ∀ {number},
      (ControllerStage.connected client.established : ControllerStage α).opening = some number →
        client.established = number := by
    simp [ControllerStage.opening]
  exact {
    connection := Nat.lt_succ_of_lt order.connection
    known := fun number held => by
      rcases held with opening | queued
      · exact made opening ▸ Nat.lt_succ_self _
      · exact Nat.lt_succ_of_lt (order.known number (.inr queued))
    unreplayed := fun number unused => by
      apply order.unreplayed number
      rcases unused with later | opening | queued
      · exact .inl (Nat.le_of_succ_le later)
      · exact .inl (Nat.le_of_eq (made opening))
      · exact .inr (.inr queued)
    unwritten := fun number unused => by
      apply order.unwritten number
      rcases unused with later | ⟨opening, -⟩ | queued
      · exact .inl (Nat.le_of_succ_le later)
      · exact .inl (Nat.le_of_eq (made opening))
      · exact .inr (.inr queued)
    inactive := order.inactive
    clear := by simp [TcpClient.controllerAt]
    compared := order.compared
    current := fun active opened payloads member => by
      have current := order.current active opened payloads member
      rw [connecting] at current
      exact current
    served := fun active opened positive =>
      .inl (order.replayed_of_active (by simp [connecting]) active opened positive)
    awaited := fun number positive written =>
      .inl (order.replayed_of_written (by simp [connecting]) positive written) }

/-- `reconnect` has queued the new writer half. -/
theorem ReplayOrder.sendsUpdate (order : client.ReplayOrder history)
    (sound : client.TasksSound) {connection : Nat}
    (connected : client.controller = .connected connection) :
    ((client.enqueue (.update connection)).controllerAt
      (.awaitingAck connection)).ReplayOrder history := by
  have opening : client.controller.opening = some connection := by
    rw [connected, ControllerStage.opening]
  have guarded : client.guards connection := ⟨opening, by simp [connected]⟩
  have queued : ∀ {number}, .update number ∈ (client.enqueue (.update connection)).queue →
      .update number ∈ client.queue ∨ number = connection := by
    simp [enqueue]
  have held : ∀ number, (ControllerStage.awaitingAck connection : ControllerStage α).opening =
      some number ∨
      .update number ∈ (client.enqueue (.update connection)).queue →
        client.controller.opening = some number ∨ .update number ∈ client.queue := by
    rintro number (same | added)
    · exact .inl (opening.trans same)
    · rcases queued added with earlier | rfl
      · exact .inr earlier
      · exact .inl opening
  have same : ((client.enqueue (.update connection)).controllerAt
      (.awaitingAck connection)).pending = client.pending := by
    simp [pending, enqueue, TcpClient.controllerAt, WriterCommand.payload]
  exact {
    connection := order.connection
    known := fun number unused => order.known number (held number unused)
    unreplayed := fun number unused => order.unreplayed number (unused.imp_right (held number))
    unwritten := fun number unused => by
      apply order.unwritten number
      rcases unused with later | ⟨here, -⟩ | added
      · exact .inl later
      · have here : connection = number := by
          simpa [TcpClient.controllerAt, ControllerStage.opening] using here
        exact .inr (.inl (here ▸ guarded))
      · rcases queued added with earlier | rfl
        · exact .inr (.inr earlier)
        · exact .inr (.inl guarded)
    inactive := fun number added => by
      rcases queued added with earlier | rfl
      · exact order.inactive number earlier
      · exact sound.inReconnect (by rw [connected, ControllerStage.inReconnect])
    clear := by simp [TcpClient.controllerAt]
    compared := order.compared
    current := fun active opened payloads member => by
      have current := order.current active opened payloads member
      rw [connected] at current
      rw [same]
      exact current
    served := fun active opened positive =>
      .inl (order.replayed_of_active (by simp [connected]) active opened positive)
    awaited := fun number positive written =>
      .inl (order.replayed_of_written (by simp [connected]) positive written) }

/-- `reconnect` stores `Active` while nobody's payload is queued, or has nothing to replay. -/
theorem ReplayOrder.activates (order : client.ReplayOrder history)
    (installing : client.Installing) {connection : Nat}
    (spawned : client.controller = .spawned connection)
    (clear : client.reconnectPayloads ≠ [] →
      client.writeTask.stage.taken = [] ∧ client.queue = []) :
    ((client.store (some .active)).controllerAt
      (.activated connection)).ReplayOrder history := by
  have opening : client.controller.opening = some connection := by
    rw [spawned, ControllerStage.opening]
  have noUpdate := installing.no_update (by simp [spawned]) (by simp [spawned])
  have held : ∀ number, (ControllerStage.activated connection : ControllerStage α).opening =
      some number ∨
      .update number ∈ client.queue →
        client.controller.opening = some number ∨ .update number ∈ client.queue :=
    fun number => Or.imp_left opening.trans
  exact {
    connection := order.connection
    known := fun number unused => order.known number (held number unused)
    unreplayed := fun number unused => order.unreplayed number (unused.imp_right (held number))
    unwritten := fun number unused => by
      apply order.unwritten number
      refine unused.imp_right (Or.imp_left ?_)
      rintro ⟨here, -⟩
      exact ⟨opening.trans here, by simp [spawned]⟩
    inactive := fun number queued => absurd queued (noUpdate number)
    clear := fun _ _ due _ _ => by
      have clear := clear due
      simp [pending, store, TcpClient.controllerAt, clear.1, clear.2]
    compared := order.compared
    current := fun _ opened payloads member => by
      have here := installing.installed connection (.inr (.inl spawned)) opened
      exact absurd ⟨payloads, here ▸ member⟩ (order.unreplayed connection (.inr (.inl opening)))
    served := fun _ opened _ => by
      have here : client.writeTask.connection = connection :=
        installing.installed connection (.inr (.inl spawned)) opened
      exact .inr (congrArg ControllerStage.activated here.symm)
    awaited := fun number positive written =>
      .inl (order.replayed_of_written (by simp [spawned]) positive written) }

variable [DecidableEq α] (config : TcpClientConfig α)

/-- What one step does to the invariant, while the way of the replay is kept clear. -/
theorem replayOrder_next (sound : client.TasksSound) (installing : client.Installing)
    (order : client.ReplayOrder history) {input : TcpInput α}
    (clear : client.KeepsClear input) :
    ((machine config).next client input).ReplayOrder
      (history ++ (machine config).emits client input) := by
  have stepped := step_case config client input
  generalize (machine config).next client input = next at stepped ⊢
  generalize (machine config).emits client input = effects at stepped ⊢
  cases stepped with
  | around _ _ _ _ payloads _ _ _ listed =>
      have listed : ∀ connection, client.controller = .activated connection →
          client.reconnectPayloads = [] → payloads = [] := by
        intro connection activated none
        rcases listed with same | rfl
        · exact same.trans none
        · cases payloads with
          | nil => rfl
          | cons payload rest =>
              have relists := clear.relists
              simp [TcpClient.relists, activated, none] at relists
      rw [List.append_nil]
      exact (order.relisted listed).frame id rfl rfl rfl rfl rfl rfl
  | sent _ offered payload _ _ opened =>
      rw [List.append_nil]
      exact (order.sent opened (clear.offers offered) payload).frame id rfl rfl rfl rfl rfl rfl
  | readSignals =>
      rw [List.append_nil]
      exact order.frame (by simp) rfl rfl rfl rfl rfl rfl
  | detachedMoves number event task found =>
      rw [ReadTask.step_of_finished (sound.detached task (List.mem_of_getElem? found)),
        List.append_nil]
      exact order.frame id rfl rfl rfl rfl rfl rfl
  | takesUpdate connection rest receiving queued =>
      have member : .update connection ∈ client.queue := by simp [queued]
      have inactive := order.inactive connection member
      rw [List.append_nil]
      exact order.writerIdle rfl (order.known connection (.inr member))
        (fun _ later => by simp [queued, later]) (fun active => absurd active inactive)
  | takesSend payload rest receiving queued =>
      have opened : client.channelOpen := channelOpen_iff.mpr (by simp [receiving])
      have same : { client.writerAt (.checking payload) with queue := rest }.pending =
          client.pending := by
        simp [pending, writerAt, queued, receiving, WriteStage.taken, WriterCommand.payload]
      rw [List.append_nil]
      exact order.writerIdle rfl order.connection (by simp [queued])
        (fun _ _ => ⟨rfl, same, opened⟩)
  | checksActive payload checking active =>
      rw [List.append_nil]
      exact order.checksActive sound checking active
  | checksOther payload checking other =>
      rw [List.append_nil]
      exact order.writerIdle rfl order.connection (fun _ => id)
        (fun active => absurd active other)
  | writes payload writing => exact order.writes writing
  | flushes flushing =>
      have opened : client.channelOpen := channelOpen_iff.mpr (by simp [flushing])
      have same : (client.writerAt .receiving).pending = client.pending := by
        simp [pending, writerAt, flushing, WriteStage.taken]
      rw [List.append_nil]
      exact order.writerIdle rfl order.connection (fun _ => id)
        (fun _ _ => ⟨rfl, same, opened⟩)
  | writeFails | writeCancelled =>
      rw [List.append_nil]
      exact order.writerIdle rfl order.connection (by simp)
        (fun _ opened => by simp [channelOpen, writerAt] at opened)
  | seesDisconnect stage | slept stage | connectFails stage | updateRefused _ stage
  | acknowledges _ stage =>
      rw [List.append_nil]
      exact order.controllerAt (by simp [stage, ControllerStage.opening]) (by simp)
        (by simp [stage]) (by simp [stage, ControllerStage.remaining])
  | spawns connection stage =>
      have moved : (client.controllerAt (.spawned connection)).ReplayOrder history :=
        order.controllerAt (by simp [stage, ControllerStage.opening]) (by simp)
          (by simp [stage]) (by simp [stage, ControllerStage.remaining])
      rw [List.append_nil]
      exact moved.frame id rfl rfl rfl rfl rfl rfl
  | replayed payloads stage last =>
      rw [List.append_nil]
      apply order.controllerAt (by simp [ControllerStage.opening]) (by simp) (by simp [stage])
      intro opened
      rcases last with rfl | closed
      · rw [stage]
        rfl
      · rw [opened] at closed
        cases closed
  | seesReconnect stage =>
      have moved : (client.controllerAt (client.reconnect config).controller).ReplayOrder
          history := by
        rw [reconnect]
        split <;> exact order.controllerAt (by simp [ControllerStage.opening]) (by simp)
          (by simp [stage]) (by simp [stage, ControllerStage.remaining])
      rw [List.append_nil]
      exact moved.frame id rfl rfl rfl rfl rfl rfl
  | aborts stage =>
      have moved : (client.controllerAt .closing).ReplayOrder history :=
        order.controllerAt (by simp [ControllerStage.opening]) (by simp) (by simp [stage])
          (by simp [stage, ControllerStage.remaining])
      rw [List.append_nil]
      exact moved.frame id rfl rfl (WriteTask.abort_frame _).1 (WriteTask.abort_frame _).2 rfl
        rfl
  | storesClosed ending =>
      have moved : (client.controllerAt .finished).ReplayOrder history := by
        rcases ending with stage | stage <;>
          exact order.controllerAt (by simp [ControllerStage.opening]) (by simp)
            (by simp [stage]) (by simp [stage, ControllerStage.remaining])
      rw [List.append_nil]
      exact moved.frame (by simp [store, TcpClient.controllerAt]) rfl rfl rfl rfl rfl rfl
  | connects stage =>
      rw [List.append_nil]
      exact order.connects stage
  | sendsUpdate connection stage =>
      rw [List.append_nil]
      exact order.sendsUpdate sound stage
  | activates connection stage =>
      have alone := clear.stores (by simp [storesActive, stage])
      rw [List.append_nil]
      exact (order.activates installing stage alone).frame id rfl rfl rfl rfl rfl rfl
  | locks connection activated => exact order.locks installing activated
  | replays payload rest replaying opened =>
      rw [List.append_nil]
      exact order.replays replaying opened
  | controllerCancelled aborted awaits =>
      have awaiting : ∀ connection, client.controller ≠ .activated connection := by
        intro connection activated
        rw [activated] at awaits
        cases awaits
      rw [List.append_nil]
      apply order.controllerAt (by simp [ControllerStage.opening]) (by simp) awaiting
      intro opened
      cases stage : client.controller <;> simp [stage, ControllerStage.awaits] at awaits <;> rfl
  | closes =>
      rw [List.append_nil]
      exact order.frame (by simp) rfl rfl rfl rfl rfl rfl
  | closesLate =>
      rw [List.append_nil]
      exact order.frame (by simp [store, closerAt]) rfl rfl rfl rfl rfl rfl
  | _ =>
      rw [List.append_nil]
      exact order.frame id rfl rfl rfl rfl rfl rfl

omit [DecidableEq α] in
theorem replayOrder_connect : (connect config).ReplayOrder [] where
  connection := Nat.zero_lt_one
  known := by simp [connect, ControllerStage.opening]
  unreplayed connection _ replayed := by
    rcases replayed with ⟨payloads, member⟩
    cases member
  unwritten connection unused := by
    have later : 1 ≤ connection := by
      simpa [connect, guards, ControllerStage.opening] using unused
    have other : (0 : Nat) ≠ connection := by omega
    exact ⟨rfl, if_neg other⟩
  inactive := by simp [connect]
  clear := by simp [connect]
  compared := by simp
  current := by simp
  served _ _ positive := absurd positive (Nat.lt_irrefl 0)
  awaited connection _ written := by
    have idle : (connect config).writingOn connection = [] := writingOn_eq_nil rfl connection
    simp [framesOn, idle] at written

/-- What is replayed is the list at the time `reconnect` looks at it. -/
theorem replays_reconnectPayloads {input : TcpInput α} {connection : Nat} {payloads : List α}
    (emitted : .replays connection payloads ∈ (machine config).emits client input) :
    payloads = client.reconnectPayloads := by
  have stepped := step_case config client input
  generalize (machine config).next client input = next at stepped
  generalize (machine config).emits client input = effects at stepped emitted
  cases stepped with
  | locks =>
      rw [List.mem_singleton, TcpEffect.replays.injEq] at emitted
      exact emitted.2
  | _ => simp at emitted

/-- The replay comes first on every connection, in every run in which, where there is
something to replay, no other payload is queued when `reconnect` stores `Active`, nor from
then until the replay is queued. -/
theorem replay_comes_first (inputs : List (TcpInput α))
    (clear : (machine config).Always KeepsClear (connect config) inputs) :
    ((machine config).runFrom (connect config) inputs).ReplayedFirst
        ((machine config).outputs (connect config) inputs) ∧
      (machine config).Always
        (fun client input => ∀ connection payloads,
          .replays connection payloads ∈ (machine config).emits client input →
            payloads = client.reconnectPayloads)
        (connect config) inputs := by
  have preserved : ∀ (client : TcpClient α) history input,
      client.TasksSound ∧ client.Installing ∧ client.ReplayOrder history →
      client.KeepsClear input →
      ((machine config).next client input).TasksSound ∧
        ((machine config).next client input).Installing ∧
        ((machine config).next client input).ReplayOrder
          (history ++ (machine config).emits client input) := by
    rintro client history input ⟨sound, installing, order⟩ clear
    exact ⟨tasksSound_next sound input, installing_next config sound installing input,
      replayOrder_next config sound installing order clear⟩
  have kept := (machine config).outputs_of_always preserved
    ⟨tasksSound_connect config, installing_connect config, replayOrder_connect config⟩ clear
  refine ⟨kept.2.2.replayedFirst, (machine config).always_of_forall ?_ (connect config) inputs⟩
  intro client input connection payloads emitted
  exact replays_reconnectPayloads config emitted

/-- The first connection ends and `reconnect` gets to the point where it stores `Active`. -/
def untilActive : List (TcpInput (List UInt8)) :=
  [.readTask .fails, .readTask .proceeds, .readTask .proceeds,
    .controller .proceeds, .controller .proceeds, .controller .proceeds,
    .controller .proceeds, .writeTask .proceeds, .controller .proceeds, .controller .proceeds]

/-- A caller of `send_bytes` that waits for `Active`. -/
def waitingSender : List (TcpInput (List UInt8)) :=
  untilActive ++ [.sendBytes [9], .sender 0 .proceeds, .sender 0 .proceeds,
    .controller .proceeds]

/-- The caller sends once the replay is queued. -/
def sendsAfterReplay : List (TcpInput (List UInt8)) :=
  waitingSender ++ [.controller .proceeds, .controller .proceeds,
    .sender 0 .proceeds, .sender 0 .proceeds] ++ List.replicate 8 (.writeTask .proceeds)

/-- The caller sends before the replay is queued. -/
def sendsBeforeReplay : List (TcpInput (List UInt8)) :=
  waitingSender ++ [.sender 0 .proceeds, .sender 0 .proceeds,
    .controller .proceeds, .controller .proceeds] ++ List.replicate 8 (.writeTask .proceeds)

/-- The caller's frame is written before `reconnect` has begun to replay. -/
def writtenBeforeReplay : List (TcpInput (List UInt8)) :=
  waitingSender ++ [.sender 0 .proceeds, .sender 0 .proceeds] ++
    List.replicate 4 (.writeTask .proceeds)

/-- A caller that saw `Active` before the connection ended sends after the `Update`. -/
def sendsLate : List (TcpInput (List UInt8)) :=
  [.sendBytes [9], .sender 0 .proceeds, .sender 0 .proceeds] ++ untilActive ++
    [.sender 0 .proceeds, .controller .proceeds, .controller .proceeds,
      .controller .proceeds] ++ List.replicate 8 (.writeTask .proceeds)

/-- A client with one payload to replay. -/
def greeting : TcpClientConfig (List UInt8) where
  reconnectPayloads := [[1]]

theorem sendsAfterReplay_comes_after :
    ((machine greeting).runFrom (connect greeting) sendsAfterReplay).ReplayedFirst
      ((machine greeting).outputs (connect greeting) sendsAfterReplay) :=
  (replay_comes_first greeting sendsAfterReplay (by decide +kernel)).1

/-- The outputs of a run in which the payload sent gets before the replay. -/
theorem not_replayedFirst {client : TcpClient (List UInt8)}
    {history : List (TcpEffect (List UInt8))} (replayed : .replays 1 [[1]] ∈ history)
    (frames : framesOn 1 history = [[9], [1]]) : ¬ client.ReplayedFirst history := by
  intro first
  have comparable := first.compared 1 [[1]] replayed
  rw [frames] at comparable
  revert comparable
  simp [Comparable]

/-- A frame is written before the replay has begun. -/
theorem not_replayedFirst_of_cut {client : TcpClient (List UInt8)}
    {history : List (TcpEffect (List UInt8))} (history_eq : history = [.wrote 1 [9]])
    (listed : client.reconnectPayloads = [[1]]) : ¬ client.ReplayedFirst history := by
  subst history_eq
  intro first
  rcases first.awaited 1 Nat.zero_lt_one (by simp [framesOn_wrote]) with replayed | none
  · rcases replayed with ⟨payloads, member⟩
    simp at member
  · rw [listed] at none
    cases none

theorem replay_comes_late :
    ¬ ((machine greeting).runFrom (connect greeting) sendsBeforeReplay).ReplayedFirst
        ((machine greeting).outputs (connect greeting) sendsBeforeReplay) ∧
      ¬ ((machine greeting).runFrom (connect greeting) sendsLate).ReplayedFirst
        ((machine greeting).outputs (connect greeting) sendsLate) ∧
      ¬ ((machine greeting).runFrom (connect greeting) writtenBeforeReplay).ReplayedFirst
        ((machine greeting).outputs (connect greeting) writtenBeforeReplay) :=
  ⟨not_replayedFirst (by decide +kernel) (by decide +kernel),
    not_replayedFirst (by decide +kernel) (by decide +kernel),
    not_replayedFirst_of_cut (by decide +kernel) (by decide +kernel)⟩

end TcpClient

end CtpSystem
