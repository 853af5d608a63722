import CtpSystem.Library.Machine

/-!
# The tasks of the TCP client

The client of the internal transport: a controller, a read task for each connection, a
writer task that all senders feed through one queue, and the callers of `send_bytes` and
`close`.  They share the connection mode, an atomic.  A step is one atomic load or store
of the mode, one send on the queue, or the end of one await; which task makes the next
step, and how an await ends, is part of the input.
-/

namespace CtpSystem

open Reactive

/-- `ConnectionMode`. -/
inductive ConnectionMode where
  | active
  | reconnect
  | disconnect
  | closed
  deriving DecidableEq

/-- The modes in which `send_bytes` reports the client as closed. -/
def ConnectionMode.isTerminal : ConnectionMode → Bool
  | .disconnect | .closed => true
  | .active | .reconnect => false

/-- `WriterCommand`; a writer half is the number of its connection. -/
inductive WriterCommand (α : Type) where
  | update (connection : Nat)
  | send (payload : α)
  deriving DecidableEq

/-- How the pending operation of a task ends. -/
inductive TaskEvent where
  | proceeds
  | fails
  | cancelled
  deriving DecidableEq

/-! ## The read loop -/

/-- Where `run_read_loop` stands. -/
inductive ReadStage where
  | reading
  | ended
  | sawActive
  | finished
  deriving DecidableEq

/-- A read task. -/
structure ReadTask where
  connection : Nat
  stage : ReadStage := .reading
  aborted : Bool := false
  deriving DecidableEq

/-- `JoinHandle::abort`, where the task is not finished. -/
def ReadTask.abort (task : ReadTask) : ReadTask :=
  if task.stage = .finished then task else { task with aborted := true }

/-- One step of `run_read_loop`, with the mode it stores, if any.  It takes the end of the
stream, a read error and a frame too large alike. -/
def ReadTask.step (mode : ConnectionMode) (task : ReadTask) (event : TaskEvent) :
    ReadTask × Option ConnectionMode :=
  match task.stage, event with
  | .reading, .fails => ({ task with stage := .ended }, none)
  | .reading, .cancelled =>
      (if task.aborted then { task with stage := .finished } else task, none)
  | .ended, .proceeds =>
      ({ task with stage := if mode = .active then .sawActive else .finished }, none)
  | .sawActive, .proceeds => ({ task with stage := .finished }, some .reconnect)
  | _, _ => (task, none)

/-! ## The writer task -/

/-- Where `run_write_loop` stands. -/
inductive WriteStage (α : Type) where
  | receiving
  | checking (payload : α)
  | writing (payload : α)
  | flushing
  | finished
  deriving DecidableEq

/-- The writer task; `connection` is the writer half it holds. -/
structure WriteTask (α : Type) where
  connection : Nat
  stage : WriteStage α := .receiving
  aborted : Bool := false
  deriving DecidableEq

/-- `JoinHandle::abort`, where the task is not finished. -/
def WriteTask.abort {α : Type} (task : WriteTask α) : WriteTask α :=
  match task.stage with
  | .finished => task
  | _ => { task with aborted := true }

/-! ## Senders, the heartbeat and callers of `close` -/

/-- `SendError`, as `send_bytes` returns it. -/
inductive SendError where
  | closed
  | timeout
  | brokenPipe
  deriving DecidableEq

/-- Where a call of `send_bytes` stands. -/
inductive SendStage where
  | called
  | checked
  | waiting
  | released
  | returned (result : Except SendError Unit)
  deriving DecidableEq

/-- A call of `send_bytes`. -/
structure Sender (α : Type) where
  payload : α
  stage : SendStage := .called
  deriving DecidableEq

/-- What `wait_for_active` makes of a mode. -/
def SendStage.ofMode : ConnectionMode → SendStage
  | .active => .released
  | .reconnect => .waiting
  | .disconnect | .closed => .returned (.error .closed)

/-- Where the heartbeat task stands. -/
inductive HeartbeatStage where
  | ticking
  | sawActive
  | finished
  deriving DecidableEq

/-- The heartbeat task. -/
structure HeartbeatTask (α : Type) where
  payload : α
  stage : HeartbeatStage := .ticking
  aborted : Bool := false
  deriving DecidableEq

/-- Where a call of `close` stands after its store of `Disconnect`. -/
inductive CloseStage where
  | polling
  | timedOut
  | returned
  deriving DecidableEq

/-! ## The controller -/

/-- Where the controller stands; the stages from `backingOff` to `replaying` are in
`reconnect`. -/
inductive ControllerStage (α : Type) where
  | waiting
  | disconnecting
  | closing
  | backingOff
  | connecting
  | connected (connection : Nat)
  | awaitingAck (connection : Nat)
  | acknowledged (connection : Nat)
  | spawned (connection : Nat)
  | activated (connection : Nat)
  | replaying (payloads : List α)
  | givingUp
  | finished
  deriving DecidableEq

/-- The stages at which the controller awaits, where an abort takes effect. -/
def ControllerStage.awaits {α : Type} : ControllerStage α → Bool
  | .waiting | .backingOff | .connecting | .awaitingAck _ => true
  | _ => false

/-- The fields of `TcpClientConfig` that the tasks read. -/
structure TcpClientConfig (α : Type) where
  reconnectMaxAttempts : Option UInt32 := none
  heartbeat : Option α := none
  reconnectPayloads : List α := []

/-- The shared state of a client and its tasks.  `reconnectPayloads` is what the lock
holds; `detached` are the read tasks whose handles `reconnect` has replaced, and
`established` counts the connections made so far. -/
structure TcpClient (α : Type) where
  mode : ConnectionMode := .active
  controller : ControllerStage α := .waiting
  controllerAborted : Bool := false
  readTask : ReadTask := { connection := 0 }
  detached : List ReadTask := []
  writeTask : WriteTask α := { connection := 0 }
  queue : List (WriterCommand α) := []
  heartbeatTask : Option (HeartbeatTask α) := none
  reconnectPayloads : List α := []
  reconnectAttemptCount : UInt32 := 0
  established : Nat := 1
  senders : List (Sender α) := []
  closers : List CloseStage := []
  deriving DecidableEq

/-- What happens next. -/
inductive TcpInput (α : Type) where
  | controller (event : TaskEvent)
  | readTask (event : TaskEvent)
  | detached (number : Nat) (event : TaskEvent)
  | writeTask (event : TaskEvent)
  | heartbeat (event : TaskEvent)
  | sendBytes (payload : α)
  | sender (number : Nat) (event : TaskEvent)
  | close
  | closer (number : Nat) (event : TaskEvent)
  | setReconnectPayloads (payloads : List α)
  deriving DecidableEq

/-- What an observer sees of the tasks: the frames written, and the replays begun. -/
inductive TcpEffect (α : Type) where
  | wrote (connection : Nat) (payload : α)
  | replays (connection : Nat) (payloads : List α)
  deriving DecidableEq

namespace TcpClient

variable {α : Type}

/-- Whether the receiver of the queue is alive. -/
def channelOpen (client : TcpClient α) : Bool :=
  match client.writeTask.stage with
  | .finished => false
  | _ => true

/-- `writer_tx.send`, where the receiver is alive. -/
def enqueue (client : TcpClient α) (command : WriterCommand α) : TcpClient α :=
  { client with queue := client.queue ++ [command] }

/-- The writer task at another stage. -/
def writerAt (client : TcpClient α) (stage : WriteStage α) : TcpClient α :=
  { client with writeTask := { client.writeTask with stage := stage } }

/-- The end of the writer task, which drops the receiver and what is queued. -/
def writerEnds (client : TcpClient α) : TcpClient α :=
  { client.writerAt .finished with queue := [] }

/-- The controller at another stage. -/
def controllerAt (client : TcpClient α) (stage : ControllerStage α) : TcpClient α :=
  { client with controller := stage }

/-- The mode after a store, if there is one. -/
def store (client : TcpClient α) : Option ConnectionMode → TcpClient α
  | none => client
  | some mode => { client with mode := mode }

/-- The oneshot of an `Update` is resolved once the command has left the queue: taken, or
dropped with the queue. -/
def acked [DecidableEq α] (client : TcpClient α) (connection : Nat) : Bool :=
  WriterCommand.update connection ∉ client.queue

/-- One step of `run_write_loop`. -/
def writeStep (client : TcpClient α) (event : TaskEvent) :
    TcpClient α × List (TcpEffect α) :=
  match client.writeTask.stage, event with
  | .receiving, .proceeds =>
      match client.queue with
      | [] => (client, [])
      | .update connection :: rest =>
          ({ client with
              writeTask := { client.writeTask with connection := connection }
              queue := rest }, [])
      | .send payload :: rest => ({ client.writerAt (.checking payload) with queue := rest }, [])
  | .checking payload, .proceeds =>
      (client.writerAt (if client.mode = .active then .writing payload else .receiving), [])
  | .writing payload, .proceeds =>
      (client.writerAt .flushing, [.wrote client.writeTask.connection payload])
  | .flushing, .proceeds => (client.writerAt .receiving, [])
  | .writing _, .fails | .flushing, .fails => (client.writerEnds, [])
  | .receiving, .cancelled | .writing _, .cancelled | .flushing, .cancelled =>
      (if client.writeTask.aborted then client.writerEnds else client, [])
  | _, _ => (client, [])

/-- The start of `reconnect`, up to its first await.  The count wraps, as without overflow
checks, and the backoff has a delay; the panics are those of `ReconnectingClient`. -/
def reconnect (config : TcpClientConfig α) (client : TcpClient α) : TcpClient α :=
  let count := client.reconnectAttemptCount + 1
  { client with
    reconnectAttemptCount := count
    controller :=
      if config.reconnectMaxAttempts.any (· < count) then .givingUp else .backingOff }

/-- The abort of the read task and its replacement by one on the new connection. -/
def restartReader (client : TcpClient α) (connection : Nat) : TcpClient α :=
  { client with
    detached := client.detached ++ [client.readTask.abort]
    readTask := { connection := connection } }

/-- The controller's first half of a disconnect: it aborts the tasks. -/
def abortTasks (client : TcpClient α) : TcpClient α :=
  { client with
    heartbeatTask := client.heartbeatTask.map ({ · with aborted := true })
    readTask := client.readTask.abort
    writeTask := client.writeTask.abort }

/-- One step of the controller. -/
def controllerStep [DecidableEq α] (config : TcpClientConfig α) (client : TcpClient α)
    (event : TaskEvent) : TcpClient α × List (TcpEffect α) :=
  match client.controller, event with
  | .waiting, .proceeds =>
      match client.mode with
      | .disconnect => (client.controllerAt .disconnecting, [])
      | .reconnect => (client.reconnect config, [])
      | .active | .closed => (client, [])
  | .disconnecting, .proceeds => (client.abortTasks.controllerAt .closing, [])
  | .closing, .proceeds | .givingUp, .proceeds =>
      ((client.store (some .closed)).controllerAt .finished, [])
  | .backingOff, .proceeds => (client.controllerAt .connecting, [])
  | .connecting, .proceeds =>
      ({ client.controllerAt (.connected client.established) with
          established := client.established + 1 }, [])
  | .connecting, .fails => (client.controllerAt .waiting, [])
  | .connected connection, .proceeds =>
      if client.channelOpen then
        ((client.enqueue (.update connection)).controllerAt (.awaitingAck connection), [])
      else (client.controllerAt .waiting, [])
  | .awaitingAck connection, .proceeds =>
      (if client.acked connection then client.controllerAt (.acknowledged connection)
        else client, [])
  | .acknowledged connection, .proceeds =>
      ((client.restartReader connection).controllerAt (.spawned connection), [])
  | .spawned connection, .proceeds =>
      ({ (client.store (some .active)).controllerAt (.activated connection) with
          reconnectAttemptCount := 0 }, [])
  | .activated connection, .proceeds =>
      (client.controllerAt (.replaying client.reconnectPayloads),
        [.replays connection client.reconnectPayloads])
  | .replaying [], .proceeds => (client.controllerAt .waiting, [])
  | .replaying (payload :: rest), .proceeds =>
      (if client.channelOpen then (client.enqueue (.send payload)).controllerAt (.replaying rest)
        else client.controllerAt .waiting, [])
  | stage, .cancelled =>
      (if client.controllerAborted && stage.awaits then client.controllerAt .finished
        else client, [])
  | _, _ => (client, [])

/-- One step of the heartbeat task. -/
def heartbeatStep (client : TcpClient α) (task : HeartbeatTask α) (event : TaskEvent) :
    TcpClient α :=
  match task.stage, event with
  | .ticking, .proceeds =>
      if client.mode = .active then
        { client with heartbeatTask := some { task with stage := .sawActive } }
      else client
  | .ticking, .cancelled =>
      if task.aborted then
        { client with heartbeatTask := some { task with stage := .finished } }
      else client
  | .sawActive, .proceeds =>
      if client.channelOpen then
        { client.enqueue (.send task.payload) with
          heartbeatTask := some { task with stage := .ticking } }
      else { client with heartbeatTask := some { task with stage := .finished } }
  | _, _ => client

/-- A call of `send_bytes` at another stage. -/
def senderAt (client : TcpClient α) (number : Nat) (sender : Sender α) (stage : SendStage) :
    TcpClient α :=
  { client with senders := client.senders.set number { sender with stage := stage } }

/-- One step of a call of `send_bytes`. -/
def senderStep (client : TcpClient α) (number : Nat) (sender : Sender α)
    (event : TaskEvent) : TcpClient α :=
  match sender.stage, event with
  | .called, .proceeds =>
      client.senderAt number sender
        (if client.mode.isTerminal then .returned (.error .closed) else .checked)
  | .checked, .proceeds | .waiting, .proceeds =>
      client.senderAt number sender (.ofMode client.mode)
  | .waiting, .fails => client.senderAt number sender (.returned (.error .timeout))
  | .released, .proceeds =>
      if client.channelOpen then
        (client.enqueue (.send sender.payload)).senderAt number sender (.returned (.ok ()))
      else client.senderAt number sender (.returned (.error .brokenPipe))
  | _, _ => client

/-- A call of `close` at another stage. -/
def closerAt (client : TcpClient α) (number : Nat) (stage : CloseStage) : TcpClient α :=
  { client with closers := client.closers.set number stage }

/-- `controller_task.abort()`, where the controller is not finished. -/
def abortController (client : TcpClient α) : TcpClient α :=
  { client with
    controllerAborted := client.controllerAborted ||
      match client.controller with
      | .finished => false
      | _ => true }

/-- One step of a call of `close` after its first store: it polls until the mode is
`Closed`, or the timeout strikes. -/
def closerStep (client : TcpClient α) (number : Nat) (stage : CloseStage)
    (event : TaskEvent) : TcpClient α :=
  match stage, event with
  | .polling, .proceeds =>
      if client.mode = .closed then client.abortController.closerAt number .returned
      else client
  | .polling, .fails => client.abortController.closerAt number .timedOut
  | .timedOut, .proceeds => (client.store (some .closed)).closerAt number .returned
  | _, _ => client

/-- One step of the client. -/
def step [DecidableEq α] (config : TcpClientConfig α) (client : TcpClient α) :
    TcpInput α → TcpClient α × List (TcpEffect α)
  | .controller event => client.controllerStep config event
  | .readTask event =>
      let (task, mode) := client.readTask.step client.mode event
      ({ client with readTask := task }.store mode, [])
  | .detached number event =>
      match client.detached[number]? with
      | none => (client, [])
      | some task =>
          let (task, mode) := task.step client.mode event
          ({ client with detached := client.detached.set number task }.store mode, [])
  | .writeTask event => client.writeStep event
  | .heartbeat event =>
      match client.heartbeatTask with
      | none => (client, [])
      | some task => (client.heartbeatStep task event, [])
  | .sendBytes payload =>
      ({ client with senders := client.senders ++ [{ payload := payload }] }, [])
  | .sender number event =>
      match client.senders[number]? with
      | none => (client, [])
      | some sender => (client.senderStep number sender event, [])
  | .close =>
      ({ client with
          mode := .disconnect
          closers := client.closers ++ [.polling] }, [])
  | .closer number event =>
      match client.closers[number]? with
      | none => (client, [])
      | some stage => (client.closerStep number stage event, [])
  | .setReconnectPayloads payloads => ({ client with reconnectPayloads := payloads }, [])

/-- A client whose `connect` has returned. -/
def connect (config : TcpClientConfig α) : TcpClient α where
  heartbeatTask := config.heartbeat.map fun payload => { payload := payload }
  reconnectPayloads := config.reconnectPayloads

/-- The tasks of a client, from the moment `connect` has spawned them. -/
def machine [DecidableEq α] (config : TcpClientConfig α) :
    Machine (TcpClient α) (TcpInput α) (TcpEffect α) where
  init := connect config
  step := step config

end TcpClient

end CtpSystem
