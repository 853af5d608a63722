import CtpSystem.Network.TcpClient

/-!
# What a step of the TCP client can do

One constructor for each thing a step does, with the condition under which it does it;
the invariants of the tasks are derived from these cases alone.
-/

namespace CtpSystem

open Reactive

/-- The stages at which the writer task awaits, where an abort takes effect. -/
def WriteStage.awaits {α : Type} : WriteStage α → Bool
  | .receiving | .writing _ | .flushing => true
  | .checking _ | .finished => false

/-- The steps of senders, of the heartbeat and of callers of `close` after their first. -/
def TcpInput.isAround {α : Type} : TcpInput α → Bool
  | .heartbeat _ | .sendBytes _ | .sender _ _ | .closer _ _ | .setReconnectPayloads _ => true
  | .controller _ | .readTask _ | .detached _ _ | .writeTask _ | .close => false

namespace TcpClient

variable {α : Type}

/-- The step is a send on the queue by a caller of `send_bytes` or by the heartbeat. -/
def offers (client : TcpClient α) : TcpInput α → Bool
  | .sender number .proceeds => client.senders[number]?.any (·.stage = .released)
  | .heartbeat .proceeds => client.heartbeatTask.any (·.stage = .sawActive)
  | _ => false

/-- What one step does.  `around` are those steps of senders, of the heartbeat and of
callers of `close` that leave the mode, the queue and the other tasks alone. -/
inductive StepCase [DecidableEq α] (config : TcpClientConfig α) (client : TcpClient α) :
    TcpInput α → TcpClient α → List (TcpEffect α) → Prop where
  | stays (input : TcpInput α) : StepCase config client input client []
  | around (input : TcpInput α) (outside : input.isAround) (senders : List (Sender α))
      (heartbeatTask : Option (HeartbeatTask α)) (payloads : List α)
      (controllerAborted : Bool) (closers : List CloseStage)
      (called : closers = [] ↔ client.closers = [])
      (listed : payloads = client.reconnectPayloads ∨ input = .setReconnectPayloads payloads) :
      StepCase config client input
        { client with senders, heartbeatTask, reconnectPayloads := payloads,
                      controllerAborted, closers } []
  | sent (input : TcpInput α) (offered : client.offers input) (payload : α)
      (senders : List (Sender α)) (heartbeatTask : Option (HeartbeatTask α))
      (opened : client.channelOpen) :
      StepCase config client input
        { client.enqueue (.send payload) with senders, heartbeatTask } []
  | readEnds (reading : client.readTask.stage = .reading) :
      StepCase config client (.readTask .fails)
        { client with readTask := { client.readTask with stage := .ended } } []
  | readCancelled (reading : client.readTask.stage = .reading)
      (aborted : client.readTask.aborted) :
      StepCase config client (.readTask .cancelled)
        { client with readTask := { client.readTask with stage := .finished } } []
  | readSeesActive (ended : client.readTask.stage = .ended) (active : client.mode = .active) :
      StepCase config client (.readTask .proceeds)
        { client with readTask := { client.readTask with stage := .sawActive } } []
  | readSeesOther (ended : client.readTask.stage = .ended) (other : client.mode ≠ .active) :
      StepCase config client (.readTask .proceeds)
        { client with readTask := { client.readTask with stage := .finished } } []
  | readSignals (armed : client.readTask.stage = .sawActive) :
      StepCase config client (.readTask .proceeds)
        { client with
            readTask := { client.readTask with stage := .finished }
            mode := .reconnect } []
  | detachedMoves (number : Nat) (event : TaskEvent) (task : ReadTask)
      (found : client.detached[number]? = some task) :
      StepCase config client (.detached number event)
        ({ client with
            detached := client.detached.set number (task.step client.mode event).1 }.store
          (task.step client.mode event).2) []
  | takesUpdate (connection : Nat) (rest : List (WriterCommand α))
      (receiving : client.writeTask.stage = .receiving)
      (queued : client.queue = .update connection :: rest) :
      StepCase config client (.writeTask .proceeds)
        { client with
            writeTask := { client.writeTask with connection := connection, stage := .receiving }
            queue := rest } []
  | takesSend (payload : α) (rest : List (WriterCommand α))
      (receiving : client.writeTask.stage = .receiving)
      (queued : client.queue = .send payload :: rest) :
      StepCase config client (.writeTask .proceeds)
        { client.writerAt (.checking payload) with queue := rest } []
  | checksActive (payload : α) (checking : client.writeTask.stage = .checking payload)
      (active : client.mode = .active) :
      StepCase config client (.writeTask .proceeds) (client.writerAt (.writing payload)) []
  | checksOther (payload : α) (checking : client.writeTask.stage = .checking payload)
      (other : client.mode ≠ .active) :
      StepCase config client (.writeTask .proceeds) (client.writerAt .receiving) []
  | writes (payload : α) (writing : client.writeTask.stage = .writing payload) :
      StepCase config client (.writeTask .proceeds) (client.writerAt .flushing)
        [.wrote client.writeTask.connection payload]
  | flushes (flushing : client.writeTask.stage = .flushing) :
      StepCase config client (.writeTask .proceeds) (client.writerAt .receiving) []
  | writeFails
      (busy : client.writeTask.stage = .flushing ∨
        ∃ payload, client.writeTask.stage = .writing payload) :
      StepCase config client (.writeTask .fails) client.writerEnds []
  | writeCancelled (aborted : client.writeTask.aborted)
      (awaits : client.writeTask.stage.awaits) :
      StepCase config client (.writeTask .cancelled) client.writerEnds []
  | seesDisconnect (waiting : client.controller = .waiting)
      (mode : client.mode = .disconnect) :
      StepCase config client (.controller .proceeds) (client.controllerAt .disconnecting) []
  | seesReconnect (waiting : client.controller = .waiting)
      (mode : client.mode = .reconnect) :
      StepCase config client (.controller .proceeds) (client.reconnect config) []
  | aborts (disconnecting : client.controller = .disconnecting) :
      StepCase config client (.controller .proceeds)
        (client.abortTasks.controllerAt .closing) []
  | storesClosed (ending : client.controller = .closing ∨ client.controller = .givingUp) :
      StepCase config client (.controller .proceeds)
        ((client.store (some .closed)).controllerAt .finished) []
  | slept (backingOff : client.controller = .backingOff) :
      StepCase config client (.controller .proceeds) (client.controllerAt .connecting) []
  | connects (connecting : client.controller = .connecting) :
      StepCase config client (.controller .proceeds)
        { client.controllerAt (.connected client.established) with
            established := client.established + 1 } []
  | connectFails (connecting : client.controller = .connecting) :
      StepCase config client (.controller .fails) (client.controllerAt .waiting) []
  | sendsUpdate (connection : Nat) (connected : client.controller = .connected connection)
      (opened : client.channelOpen) :
      StepCase config client (.controller .proceeds)
        ((client.enqueue (.update connection)).controllerAt (.awaitingAck connection)) []
  | updateRefused (connection : Nat) (connected : client.controller = .connected connection)
      (closed : client.channelOpen = false) :
      StepCase config client (.controller .proceeds) (client.controllerAt .waiting) []
  | acknowledges (connection : Nat)
      (awaiting : client.controller = .awaitingAck connection)
      (acked : WriterCommand.update connection ∉ client.queue) :
      StepCase config client (.controller .proceeds)
        (client.controllerAt (.acknowledged connection)) []
  | spawns (connection : Nat) (acknowledged : client.controller = .acknowledged connection) :
      StepCase config client (.controller .proceeds)
        ((client.restartReader connection).controllerAt (.spawned connection)) []
  | activates (connection : Nat) (spawned : client.controller = .spawned connection) :
      StepCase config client (.controller .proceeds)
        { (client.store (some .active)).controllerAt (.activated connection) with
            reconnectAttemptCount := 0 } []
  | locks (connection : Nat) (activated : client.controller = .activated connection) :
      StepCase config client (.controller .proceeds)
        (client.controllerAt (.replaying client.reconnectPayloads))
        [.replays connection client.reconnectPayloads]
  | replays (payload : α) (rest : List α)
      (replaying : client.controller = .replaying (payload :: rest))
      (opened : client.channelOpen) :
      StepCase config client (.controller .proceeds)
        ((client.enqueue (.send payload)).controllerAt (.replaying rest)) []
  | replayed (payloads : List α) (replaying : client.controller = .replaying payloads)
      (last : payloads = [] ∨ client.channelOpen = false) :
      StepCase config client (.controller .proceeds) (client.controllerAt .waiting) []
  | controllerCancelled (aborted : client.controllerAborted)
      (awaits : client.controller.awaits) :
      StepCase config client (.controller .cancelled) (client.controllerAt .finished) []
  | closes :
      StepCase config client .close
        { client with mode := .disconnect, closers := client.closers ++ [.polling] } []
  | closesLate (number : Nat) (found : client.closers[number]? = some .timedOut) :
      StepCase config client (.closer number .proceeds)
        ((client.store (some .closed)).closerAt number .returned) []

variable {config : TcpClientConfig α} {client : TcpClient α}

theorem channelOpen_iff : client.channelOpen = true ↔ client.writeTask.stage ≠ .finished := by
  cases stage : client.writeTask.stage <;> simp [channelOpen, stage]

variable [DecidableEq α]

theorem readTask_case (event : TaskEvent) :
    StepCase config client (.readTask event)
      ({ client with readTask := (client.readTask.step client.mode event).1 }.store
        (client.readTask.step client.mode event).2) [] := by
  cases stage : client.readTask.stage with
  | reading =>
      cases event with
      | proceeds => simp only [ReadTask.step, stage]; exact .stays _
      | fails => simp only [ReadTask.step, stage]; exact .readEnds stage
      | cancelled =>
          by_cases aborted : client.readTask.aborted = true
          · simp only [ReadTask.step, stage, if_pos aborted]
            exact .readCancelled stage aborted
          · simp only [ReadTask.step, stage, if_neg aborted]
            exact .stays _
  | ended =>
      cases event with
      | proceeds =>
          by_cases active : client.mode = .active
          · simp only [ReadTask.step, stage, if_pos active]
            exact .readSeesActive stage active
          · simp only [ReadTask.step, stage, if_neg active]
            exact .readSeesOther stage active
      | fails => simp only [ReadTask.step, stage]; exact .stays _
      | cancelled => simp only [ReadTask.step, stage]; exact .stays _
  | sawActive =>
      cases event with
      | proceeds => simp only [ReadTask.step, stage]; exact .readSignals stage
      | fails => simp only [ReadTask.step, stage]; exact .stays _
      | cancelled => simp only [ReadTask.step, stage]; exact .stays _
  | finished => cases event <;> simp only [ReadTask.step, stage] <;> exact .stays _

theorem writeTask_case (event : TaskEvent) :
    StepCase config client (.writeTask event) (client.writeStep event).1
      (client.writeStep event).2 := by
  cases stage : client.writeTask.stage with
  | receiving =>
      cases event with
      | proceeds =>
          cases queued : client.queue with
          | nil => simp only [writeStep, stage, queued]; exact .stays _
          | cons command rest =>
              cases command with
              | update connection =>
                  simp only [writeStep, stage, queued]
                  exact .takesUpdate connection rest stage queued
              | send payload =>
                  simp only [writeStep, stage, queued]
                  exact .takesSend payload rest stage queued
      | fails => simp only [writeStep, stage]; exact .stays _
      | cancelled =>
          by_cases aborted : client.writeTask.aborted = true
          · simp only [writeStep, stage, if_pos aborted]
            exact .writeCancelled aborted (by rw [stage, WriteStage.awaits])
          · simp only [writeStep, stage, if_neg aborted]
            exact .stays _
  | checking payload =>
      cases event with
      | proceeds =>
          by_cases active : client.mode = .active
          · simp only [writeStep, stage, if_pos active]
            exact .checksActive payload stage active
          · simp only [writeStep, stage, if_neg active]
            exact .checksOther payload stage active
      | fails => simp only [writeStep, stage]; exact .stays _
      | cancelled => simp only [writeStep, stage]; exact .stays _
  | writing payload =>
      cases event with
      | proceeds => simp only [writeStep, stage]; exact .writes payload stage
      | fails => simp only [writeStep, stage]; exact .writeFails (.inr ⟨payload, stage⟩)
      | cancelled =>
          by_cases aborted : client.writeTask.aborted = true
          · simp only [writeStep, stage, if_pos aborted]
            exact .writeCancelled aborted (by rw [stage, WriteStage.awaits])
          · simp only [writeStep, stage, if_neg aborted]
            exact .stays _
  | flushing =>
      cases event with
      | proceeds => simp only [writeStep, stage]; exact .flushes stage
      | fails => simp only [writeStep, stage]; exact .writeFails (.inl stage)
      | cancelled =>
          by_cases aborted : client.writeTask.aborted = true
          · simp only [writeStep, stage, if_pos aborted]
            exact .writeCancelled aborted (by rw [stage, WriteStage.awaits])
          · simp only [writeStep, stage, if_neg aborted]
            exact .stays _
  | finished => cases event <;> simp only [writeStep, stage] <;> exact .stays _

/-- An abort takes effect where the controller awaits. -/
theorem controllerCancel_case :
    StepCase config client (.controller .cancelled)
      (if client.controllerAborted && client.controller.awaits then
        client.controllerAt .finished else client) [] := by
  by_cases ends : (client.controllerAborted && client.controller.awaits) = true
  · rw [if_pos ends]
    rw [Bool.and_eq_true] at ends
    exact .controllerCancelled ends.1 ends.2
  · rw [if_neg ends]
    exact .stays _

theorem controllerStep_cancelled :
    client.controllerStep config .cancelled =
      (if client.controllerAborted && client.controller.awaits then
        client.controllerAt .finished else client, []) := by
  cases stage : client.controller with
  | replaying payloads => cases payloads <;> simp only [controllerStep, stage]
  | _ => simp only [controllerStep, stage]

theorem controllerProceeds_case :
    StepCase config client (.controller .proceeds)
      (client.controllerStep config .proceeds).1
      (client.controllerStep config .proceeds).2 := by
  cases stage : client.controller with
  | waiting =>
      cases mode : client.mode with
      | active => simp only [controllerStep, stage, mode]; exact .stays _
      | reconnect => simp only [controllerStep, stage, mode]; exact .seesReconnect stage mode
      | disconnect => simp only [controllerStep, stage, mode]; exact .seesDisconnect stage mode
      | closed => simp only [controllerStep, stage, mode]; exact .stays _
  | disconnecting => simp only [controllerStep, stage]; exact .aborts stage
  | closing => simp only [controllerStep, stage]; exact .storesClosed (.inl stage)
  | backingOff => simp only [controllerStep, stage]; exact .slept stage
  | connecting => simp only [controllerStep, stage]; exact .connects stage
  | connected connection =>
      by_cases opened : client.channelOpen = true
      · simp only [controllerStep, stage, if_pos opened]
        exact .sendsUpdate connection stage opened
      · simp only [controllerStep, stage, if_neg opened]
        exact .updateRefused connection stage (eq_false_of_ne_true opened)
  | awaitingAck connection =>
      by_cases acked : client.acked connection = true
      · simp only [controllerStep, stage, if_pos acked]
        exact .acknowledges connection stage (of_decide_eq_true acked)
      · simp only [controllerStep, stage, if_neg acked]
        exact .stays _
  | acknowledged connection => simp only [controllerStep, stage]; exact .spawns connection stage
  | spawned connection => simp only [controllerStep, stage]; exact .activates connection stage
  | activated connection => simp only [controllerStep, stage]; exact .locks connection stage
  | replaying payloads =>
      cases payloads with
      | nil => simp only [controllerStep, stage]; exact .replayed [] stage (.inl rfl)
      | cons payload rest =>
          by_cases opened : client.channelOpen = true
          · simp only [controllerStep, stage, if_pos opened]
            exact .replays payload rest stage opened
          · simp only [controllerStep, stage, if_neg opened]
            exact .replayed (payload :: rest) stage
              (.inr (eq_false_of_ne_true opened))
  | givingUp => simp only [controllerStep, stage]; exact .storesClosed (.inr stage)
  | finished => simp only [controllerStep, stage]; exact .stays _

theorem controllerFails_case :
    StepCase config client (.controller .fails) (client.controllerStep config .fails).1
      (client.controllerStep config .fails).2 := by
  cases stage : client.controller with
  | connecting => simp only [controllerStep, stage]; exact .connectFails stage
  | replaying payloads =>
      cases payloads <;> simp only [controllerStep, stage] <;> exact .stays _
  | _ => simp only [controllerStep, stage]; exact .stays _

theorem heartbeat_case {task : HeartbeatTask α} (found : client.heartbeatTask = some task)
    (event : TaskEvent) :
    StepCase config client (.heartbeat event) (client.heartbeatStep task event) [] := by
  have around : ∀ stage : HeartbeatStage, StepCase config client (.heartbeat event)
      { client with heartbeatTask := some { task with stage := stage } } [] := by
    intro stage
    exact .around _ rfl client.senders _ client.reconnectPayloads client.controllerAborted
      client.closers Iff.rfl (.inl rfl)
  cases stage : task.stage with
  | ticking =>
      cases event with
      | proceeds =>
          by_cases active : client.mode = .active
          · simp only [heartbeatStep, stage, if_pos active]; exact around .sawActive
          · simp only [heartbeatStep, stage, if_neg active]; exact .stays _
      | fails => simp only [heartbeatStep, stage]; exact .stays _
      | cancelled =>
          by_cases aborted : task.aborted = true
          · simp only [heartbeatStep, stage, if_pos aborted]; exact around .finished
          · simp only [heartbeatStep, stage, if_neg aborted]; exact .stays _
  | sawActive =>
      cases event with
      | proceeds =>
          by_cases opened : client.channelOpen = true
          · simp only [heartbeatStep, stage, if_pos opened]
            exact .sent _ (by simp [offers, found, stage]) task.payload client.senders _ opened
          · simp only [heartbeatStep, stage, if_neg opened]; exact around .finished
      | fails => simp only [heartbeatStep, stage]; exact .stays _
      | cancelled => simp only [heartbeatStep, stage]; exact .stays _
  | finished => cases event <;> simp only [heartbeatStep, stage] <;> exact .stays _

theorem sender_case {number : Nat} {sender : Sender α}
    (found : client.senders[number]? = some sender) (event : TaskEvent) :
    StepCase config client (.sender number event) (client.senderStep number sender event)
      [] := by
  have around : ∀ stage : SendStage, StepCase config client (.sender number event)
      (client.senderAt number sender stage) [] := by
    intro stage
    exact .around _ rfl _ client.heartbeatTask client.reconnectPayloads client.controllerAborted
      client.closers Iff.rfl (.inl rfl)
  cases stage : sender.stage with
  | called =>
      cases event with
      | proceeds => simp only [senderStep, stage]; exact around _
      | fails => simp only [senderStep, stage]; exact .stays _
      | cancelled => simp only [senderStep, stage]; exact .stays _
  | checked =>
      cases event with
      | proceeds => simp only [senderStep, stage]; exact around _
      | fails => simp only [senderStep, stage]; exact .stays _
      | cancelled => simp only [senderStep, stage]; exact .stays _
  | waiting =>
      cases event with
      | proceeds => simp only [senderStep, stage]; exact around _
      | fails => simp only [senderStep, stage]; exact around _
      | cancelled => simp only [senderStep, stage]; exact .stays _
  | released =>
      cases event with
      | proceeds =>
          by_cases opened : client.channelOpen = true
          · simp only [senderStep, stage, if_pos opened]
            exact .sent _ (by simp [offers, found, stage]) sender.payload _ client.heartbeatTask
              opened
          · simp only [senderStep, stage, if_neg opened]; exact around _
      | fails => simp only [senderStep, stage]; exact .stays _
      | cancelled => simp only [senderStep, stage]; exact .stays _
  | returned result => cases event <;> simp only [senderStep, stage] <;> exact .stays _

theorem closer_case {number : Nat} {stage : CloseStage}
    (found : client.closers[number]? = some stage) (event : TaskEvent) :
    StepCase config client (.closer number event) (client.closerStep number stage event)
      [] := by
  have around : ∀ stage : CloseStage, StepCase config client (.closer number event)
      (client.abortController.closerAt number stage) [] := by
    intro stage
    exact .around _ rfl client.senders client.heartbeatTask client.reconnectPayloads _ _
      (by simp [abortController]) (.inl rfl)
  cases stage with
  | polling =>
      cases event with
      | proceeds =>
          by_cases closed : client.mode = .closed
          · simp only [closerStep, if_pos closed]; exact around .returned
          · simp only [closerStep, if_neg closed]; exact .stays _
      | fails => exact around .timedOut
      | cancelled => exact .stays _
  | timedOut =>
      cases event with
      | proceeds => exact .closesLate number found
      | fails => exact .stays _
      | cancelled => exact .stays _
  | returned => cases event <;> exact .stays _

/-- Every step is one of the cases. -/
theorem step_case (config : TcpClientConfig α) (client : TcpClient α) (input : TcpInput α) :
    StepCase config client input ((machine config).next client input)
      ((machine config).emits client input) := by
  cases input with
  | controller event =>
      cases event with
      | proceeds => exact controllerProceeds_case
      | fails => exact controllerFails_case
      | cancelled =>
          simp only [Machine.next, Machine.emits, machine, step, controllerStep_cancelled]
          exact controllerCancel_case
  | readTask event => exact readTask_case event
  | detached number event =>
      cases found : client.detached[number]? with
      | none =>
          simp only [Machine.next, Machine.emits, machine, step, found]
          exact .stays _
      | some task =>
          simp only [Machine.next, Machine.emits, machine, step, found]
          exact .detachedMoves number event task found
  | writeTask event => exact writeTask_case event
  | heartbeat event =>
      cases task : client.heartbeatTask with
      | none =>
          simp only [Machine.next, Machine.emits, machine, step, task]
          exact .stays _
      | some beat =>
          simp only [Machine.next, Machine.emits, machine, step, task]
          exact heartbeat_case task event
  | sendBytes payload =>
      exact .around _ rfl _ client.heartbeatTask client.reconnectPayloads
        client.controllerAborted client.closers Iff.rfl (.inl rfl)
  | sender number event =>
      cases found : client.senders[number]? with
      | none =>
          simp only [Machine.next, Machine.emits, machine, step, found]
          exact .stays _
      | some sender =>
          simp only [Machine.next, Machine.emits, machine, step, found]
          exact sender_case found event
  | close => exact .closes
  | closer number event =>
      cases found : client.closers[number]? with
      | none =>
          simp only [Machine.next, Machine.emits, machine, step, found]
          exact .stays _
      | some stage =>
          simp only [Machine.next, Machine.emits, machine, step, found]
          exact closer_case found event
  | setReconnectPayloads payloads =>
      exact .around _ rfl client.senders client.heartbeatTask payloads
        client.controllerAborted client.closers Iff.rfl (.inr rfl)

end TcpClient

end CtpSystem
