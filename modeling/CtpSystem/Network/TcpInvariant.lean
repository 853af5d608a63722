import CtpSystem.Network.TcpSteps

/-!
# What the tasks of the client know of each other

Only the controller stores `Active`, and only a read task stores `Reconnect`; from this
follow the facts below, which hold in every reachable state.
-/

namespace CtpSystem

open Reactive

/-- The stages of `reconnect` up to its store of `Active`. -/
def ControllerStage.inReconnect {α : Type} : ControllerStage α → Bool
  | .backingOff | .connecting | .connected _ | .awaitingAck _ | .acknowledged _
  | .spawned _ | .givingUp => true
  | .waiting | .disconnecting | .closing | .activated _ | .replaying _ | .finished => false

/-- The stages of `reconnect` up to its start of the new read task. -/
def ControllerStage.beforeSpawn {α : Type} : ControllerStage α → Bool
  | .spawned _ => false
  | stage => stage.inReconnect

theorem ControllerStage.inReconnect_of_spawned {α : Type} {stage : ControllerStage α}
    {connection : Nat} (spawned : stage = .spawned connection) : stage.inReconnect := by
  rw [spawned, inReconnect]

/-- The stages after the controller has aborted the tasks, or has ended. -/
def ControllerStage.isOver {α : Type} : ControllerStage α → Bool
  | .closing | .finished => true
  | _ => false

theorem ReadTask.step_of_finished {task : ReadTask} (finished : task.stage = .finished)
    (mode : ConnectionMode) (event : TaskEvent) : task.step mode event = (task, none) := by
  cases event <;> simp only [ReadTask.step, finished]

namespace TcpClient

variable {α : Type}

/-- What holds between the mode, the controller and the read tasks. -/
structure TasksSound (client : TcpClient α) : Prop where
  detached : ∀ task ∈ client.detached, task.stage = .finished
  signalled : client.mode = .reconnect →
    (∃ connection, client.controller = .spawned connection) ∨
      client.readTask.stage = .finished
  inReconnect : client.controller.inReconnect → client.mode ≠ .active
  beforeSpawn : client.controller.beforeSpawn → client.readTask.stage = .finished
  unarmed : ∀ connection, client.controller = .spawned connection →
    client.readTask.stage ≠ .sawActive
  ending : client.controller = .disconnecting ∨ client.controller = .closing →
    client.mode ≠ .active
  readAborted : client.readTask.aborted →
    client.controller.isOver ∧ client.mode ≠ .active
  writeAborted : client.writeTask.aborted →
    client.controller.isOver ∧ client.mode ≠ .active

/-- The invariant reads the mode, the controller, the read tasks and whether the writer
task is aborted. -/
theorem TasksSound.frame {client next : TcpClient α} (sound : client.TasksSound)
    (mode : next.mode = client.mode) (controller : next.controller = client.controller)
    (readTask : next.readTask = client.readTask)
    (detached : next.detached = client.detached)
    (aborted : next.writeTask.aborted = client.writeTask.aborted) : next.TasksSound where
  detached := detached ▸ sound.detached
  signalled := by rw [mode, controller, readTask]; exact sound.signalled
  inReconnect := by rw [mode, controller]; exact sound.inReconnect
  beforeSpawn := by rw [controller, readTask]; exact sound.beforeSpawn
  unarmed := by rw [controller, readTask]; exact sound.unarmed
  ending := by rw [mode, controller]; exact sound.ending
  readAborted := by rw [mode, controller, readTask]; exact sound.readAborted
  writeAborted := by rw [mode, controller, aborted]; exact sound.writeAborted

theorem tasksSound_connect (config : TcpClientConfig α) : (connect config).TasksSound where
  detached := by simp [connect]
  signalled := by simp [connect]
  inReconnect := by simp [connect, ControllerStage.inReconnect]
  beforeSpawn := by simp [connect, ControllerStage.beforeSpawn, ControllerStage.inReconnect]
  unarmed := by simp [connect]
  ending := by simp [connect]
  readAborted := by simp [connect]
  writeAborted := by simp [connect]

variable {client : TcpClient α}

/-- A controller that moves within the stages of `reconnect`, or out of it, keeps the
invariant. -/
theorem TasksSound.controllerAt (sound : client.TasksSound) {stage : ControllerStage α}
    (inReconnect : stage.inReconnect → client.controller.inReconnect)
    (beforeSpawn : stage.beforeSpawn → client.controller.beforeSpawn)
    (unspawned : ∀ connection, client.controller ≠ .spawned connection)
    (notSpawned : ∀ connection, stage ≠ .spawned connection)
    (ending : stage = .disconnecting ∨ stage = .closing → client.mode ≠ .active)
    (past : client.controller.isOver → stage.isOver) :
    (client.controllerAt stage).TasksSound where
  detached := sound.detached
  signalled reconnect := by
    rcases sound.signalled reconnect with ⟨_, spawned⟩ | finished
    · exact absurd spawned (unspawned _)
    · exact .inr finished
  inReconnect within := sound.inReconnect (inReconnect within)
  beforeSpawn within := sound.beforeSpawn (beforeSpawn within)
  unarmed connection spawned := absurd spawned (notSpawned connection)
  ending := ending
  readAborted aborted := ⟨past (sound.readAborted aborted).1, (sound.readAborted aborted).2⟩
  writeAborted aborted :=
    ⟨past (sound.writeAborted aborted).1, (sound.writeAborted aborted).2⟩

/-- A read task that moves on its own, without a store, keeps the invariant unless it
leaves `finished` or arms itself before the store of `Active`. -/
theorem TasksSound.readTaskAt (sound : client.TasksSound) {stage : ReadStage}
    (kept : client.readTask.stage = .finished → stage = .finished)
    (unarmed : stage = .sawActive → client.mode = .active) :
    { client with readTask := { client.readTask with stage := stage } }.TasksSound where
  detached := sound.detached
  signalled reconnect := (sound.signalled reconnect).imp_right kept
  inReconnect := sound.inReconnect
  beforeSpawn within := kept (sound.beforeSpawn within)
  unarmed _ spawned armed :=
    sound.inReconnect (ControllerStage.inReconnect_of_spawned spawned) (unarmed armed)
  ending := sound.ending
  readAborted := sound.readAborted
  writeAborted := sound.writeAborted

/-- A store of `Disconnect` or `Closed` keeps the invariant. -/
theorem TasksSound.storeTerminal (sound : client.TasksSound) {mode : ConnectionMode}
    (terminal : mode.isTerminal) : (client.store (some mode)).TasksSound := by
  have inactive : mode ≠ .active := by
    intro active
    simp [active, ConnectionMode.isTerminal] at terminal
  exact {
    detached := sound.detached
    signalled := by
      intro reconnect
      rw [show mode = .reconnect from reconnect] at terminal
      simp [ConnectionMode.isTerminal] at terminal
    inReconnect := fun _ => inactive
    beforeSpawn := sound.beforeSpawn
    unarmed := sound.unarmed
    ending := fun _ => inactive
    readAborted := fun aborted => ⟨(sound.readAborted aborted).1, inactive⟩
    writeAborted := fun aborted => ⟨(sound.writeAborted aborted).1, inactive⟩ }

/-- Before the controller is through, no task is aborted. -/
theorem TasksSound.unaborted (sound : client.TasksSound)
    (going : client.controller.isOver = false) :
    client.readTask.aborted = false ∧ client.writeTask.aborted = false := by
  constructor
  · rw [← Bool.not_eq_true]
    intro aborted
    rw [(sound.readAborted aborted).1] at going
    cases going
  · rw [← Bool.not_eq_true]
    intro aborted
    rw [(sound.writeAborted aborted).1] at going
    cases going

/-- A read task that stores `Reconnect` finishes with it. -/
theorem TasksSound.signals (sound : client.TasksSound) :
    { client with
      readTask := { client.readTask with stage := .finished }
      mode := .reconnect }.TasksSound where
  detached := sound.detached
  signalled := by simp
  inReconnect := by simp
  beforeSpawn := by simp
  unarmed := by simp
  ending := by simp
  readAborted := fun aborted => ⟨(sound.readAborted aborted).1, by simp⟩
  writeAborted := fun aborted => ⟨(sound.writeAborted aborted).1, by simp⟩

/-- `reconnect` starts with the read task finished. -/
theorem TasksSound.reconnects (sound : client.TasksSound)
    (waiting : client.controller = .waiting) (mode : client.mode = .reconnect)
    (config : TcpClientConfig α) : (client.reconnect config).TasksSound := by
  have finished : client.readTask.stage = .finished := by
    rcases sound.signalled mode with ⟨connection, spawned⟩ | finished
    · rw [waiting] at spawned
      cases spawned
    · exact finished
  have unaborted := sound.unaborted (by rw [waiting]; rfl)
  exact {
    detached := sound.detached
    signalled := fun _ => .inr finished
    inReconnect := fun _ => by simp [reconnect, mode]
    beforeSpawn := fun _ => finished
    unarmed := fun _ _ => by simp [reconnect, finished]
    ending := fun _ => by simp [reconnect, mode]
    readAborted := fun aborted => absurd aborted (by simp [reconnect, unaborted.1])
    writeAborted := fun aborted => absurd aborted (by simp [reconnect, unaborted.2]) }

/-- The tasks are aborted with the client disconnecting. -/
theorem TasksSound.aborts (sound : client.TasksSound)
    (disconnecting : client.controller = .disconnecting) :
    (client.abortTasks.controllerAt .closing).TasksSound := by
  have inactive := sound.ending (.inl disconnecting)
  have kept : client.readTask.stage = client.readTask.abort.stage := by
    simp only [ReadTask.abort]
    split <;> rfl
  exact {
    detached := sound.detached
    signalled := fun reconnect => by
      rcases sound.signalled reconnect with ⟨connection, spawned⟩ | finished
      · rw [disconnecting] at spawned
        cases spawned
      · exact .inr (kept ▸ finished)
    inReconnect := by simp [TcpClient.controllerAt, ControllerStage.inReconnect]
    beforeSpawn := by
      simp [TcpClient.controllerAt, ControllerStage.beforeSpawn, ControllerStage.inReconnect]
    unarmed := by simp [TcpClient.controllerAt]
    ending := fun _ => inactive
    readAborted := fun _ => ⟨rfl, inactive⟩
    writeAborted := fun _ => ⟨rfl, inactive⟩ }

/-- The reader is spawned anew with the old one finished. -/
theorem TasksSound.restarts (sound : client.TasksSound) {connection : Nat}
    (acknowledged : client.controller = .acknowledged connection) :
    ((client.restartReader connection).controllerAt (.spawned connection)).TasksSound := by
  have within : client.controller.beforeSpawn := by
    simp [acknowledged, ControllerStage.beforeSpawn, ControllerStage.inReconnect]
  have finished := sound.beforeSpawn within
  have inactive := sound.inReconnect (by simp [acknowledged, ControllerStage.inReconnect])
  have unaborted := sound.unaborted (by rw [acknowledged]; rfl)
  exact {
    detached := by
      intro task member
      rcases List.mem_append.mp member with earlier | last
      · exact sound.detached task earlier
      · rw [List.mem_singleton.mp last, ReadTask.abort, if_pos finished, finished]
    signalled := fun _ => .inl ⟨connection, rfl⟩
    inReconnect := fun _ => inactive
    beforeSpawn := by simp [TcpClient.controllerAt, ControllerStage.beforeSpawn]
    unarmed := by simp [TcpClient.controllerAt, restartReader]
    ending := fun _ => inactive
    readAborted := by simp [TcpClient.controllerAt, restartReader]
    writeAborted := fun aborted =>
      absurd aborted (by simp [TcpClient.controllerAt, restartReader, unaborted.2]) }

/-- `Active` is stored once the reader is spawned. -/
theorem TasksSound.activates (sound : client.TasksSound) {connection : Nat}
    (spawned : client.controller = .spawned connection) :
    { (client.store (some .active)).controllerAt (.activated connection) with
      reconnectAttemptCount := 0 }.TasksSound := by
  have unaborted := sound.unaborted (by rw [spawned]; rfl)
  exact {
    detached := sound.detached
    signalled := by simp [TcpClient.controllerAt, store]
    inReconnect := by simp [TcpClient.controllerAt, ControllerStage.inReconnect]
    beforeSpawn := by
      simp [TcpClient.controllerAt, ControllerStage.beforeSpawn, ControllerStage.inReconnect]
    unarmed := by simp [TcpClient.controllerAt]
    ending := by simp [TcpClient.controllerAt]
    readAborted := fun aborted =>
      absurd aborted (by simp [TcpClient.controllerAt, store, unaborted.1])
    writeAborted := fun aborted =>
      absurd aborted (by simp [TcpClient.controllerAt, store, unaborted.2]) }

variable [DecidableEq α] {config : TcpClientConfig α}

theorem tasksSound_next (sound : client.TasksSound) (input : TcpInput α) :
    ((machine config).next client input).TasksSound := by
  have stepped := step_case config client input
  generalize (machine config).next client input = next at stepped ⊢
  generalize (machine config).emits client input = effects at stepped
  cases stepped with
  | stays => exact sound
  | around => exact sound.frame rfl rfl rfl rfl rfl
  | sent => exact sound.frame rfl rfl rfl rfl rfl
  | readEnds reading => exact sound.readTaskAt (by simp [reading]) (by simp)
  | readCancelled reading => exact sound.readTaskAt (by simp) (by simp)
  | readSeesActive ended active => exact sound.readTaskAt (by simp [ended]) (by simp [active])
  | readSeesOther ended other => exact sound.readTaskAt (by simp) (by simp)
  | readSignals armed => exact sound.signals
  | detachedMoves number event task found =>
      have finished := sound.detached task (List.mem_of_getElem? found)
      rw [ReadTask.step_of_finished finished]
      have same : client.detached.set number task = client.detached := by
        rw [List.getElem?_eq_some_iff] at found
        rcases found with ⟨bound, rfl⟩
        exact List.set_getElem_self bound
      exact sound.frame rfl rfl rfl same rfl
  | takesUpdate => exact sound.frame rfl rfl rfl rfl rfl
  | takesSend => exact sound.frame rfl rfl rfl rfl rfl
  | checksActive => exact sound.frame rfl rfl rfl rfl rfl
  | checksOther => exact sound.frame rfl rfl rfl rfl rfl
  | writes => exact sound.frame rfl rfl rfl rfl rfl
  | flushes => exact sound.frame rfl rfl rfl rfl rfl
  | writeFails => exact sound.frame rfl rfl rfl rfl rfl
  | writeCancelled => exact sound.frame rfl rfl rfl rfl rfl
  | seesDisconnect waiting mode =>
      apply sound.controllerAt <;> simp [ControllerStage.inReconnect,
        ControllerStage.beforeSpawn, ControllerStage.isOver, waiting, mode]
  | seesReconnect waiting mode => exact sound.reconnects waiting mode config
  | aborts disconnecting => exact sound.aborts disconnecting
  | storesClosed ending =>
      have stored : (client.store (some .closed)).TasksSound := sound.storeTerminal rfl
      apply stored.controllerAt <;>
        rcases ending with ending | ending <;>
        simp [ControllerStage.inReconnect, ControllerStage.beforeSpawn,
          ControllerStage.isOver, store, ending]
  | slept backingOff =>
      apply sound.controllerAt <;> simp [ControllerStage.inReconnect,
        ControllerStage.beforeSpawn, ControllerStage.isOver, backingOff]
  | connects connecting =>
      have moved : (client.controllerAt (.connected client.established)).TasksSound := by
        apply sound.controllerAt <;> simp [ControllerStage.inReconnect,
          ControllerStage.beforeSpawn, ControllerStage.isOver, connecting]
      exact moved.frame rfl rfl rfl rfl rfl
  | connectFails connecting =>
      apply sound.controllerAt <;> simp [ControllerStage.inReconnect,
        ControllerStage.beforeSpawn, ControllerStage.isOver, connecting]
  | sendsUpdate connection connected =>
      have moved : (client.controllerAt (.awaitingAck connection)).TasksSound := by
        apply sound.controllerAt <;> simp [ControllerStage.inReconnect,
          ControllerStage.beforeSpawn, ControllerStage.isOver, connected]
      exact moved.frame rfl rfl rfl rfl rfl
  | updateRefused connection connected =>
      apply sound.controllerAt <;> simp [ControllerStage.inReconnect,
        ControllerStage.beforeSpawn, ControllerStage.isOver, connected]
  | acknowledges connection awaiting =>
      apply sound.controllerAt <;> simp [ControllerStage.inReconnect,
        ControllerStage.beforeSpawn, ControllerStage.isOver, awaiting]
  | spawns connection acknowledged => exact sound.restarts acknowledged
  | activates connection spawned => exact sound.activates spawned
  | locks connection activated =>
      apply sound.controllerAt <;> simp [ControllerStage.inReconnect,
        ControllerStage.beforeSpawn, ControllerStage.isOver, activated]
  | replays payload rest replaying =>
      have moved : (client.controllerAt (.replaying rest)).TasksSound := by
        apply sound.controllerAt <;> simp [ControllerStage.inReconnect,
          ControllerStage.beforeSpawn, ControllerStage.isOver, replaying]
      exact moved.frame rfl rfl rfl rfl rfl
  | replayed payloads replaying =>
      apply sound.controllerAt <;> simp [ControllerStage.inReconnect,
        ControllerStage.beforeSpawn, ControllerStage.isOver, replaying]
  | controllerCancelled aborted awaits =>
      apply sound.controllerAt
      · simp [ControllerStage.inReconnect]
      · simp [ControllerStage.beforeSpawn, ControllerStage.inReconnect]
      · intro connection spawned
        simp [spawned, ControllerStage.awaits] at awaits
      · simp
      · simp
      · simp [ControllerStage.isOver]
  | closes =>
      have stored : (client.store (some .disconnect)).TasksSound := sound.storeTerminal rfl
      exact stored.frame rfl rfl rfl rfl rfl
  | closesLate number found =>
      have stored : (client.store (some .closed)).TasksSound := sound.storeTerminal rfl
      exact stored.frame rfl rfl rfl rfl rfl

/-- The tasks of a connected client are sound after every run. -/
theorem tasksSound_runFrom (config : TcpClientConfig α) (inputs : List (TcpInput α)) :
    ((machine config).runFrom (connect config) inputs).TasksSound := by
  apply (machine config).invariant_runFrom _ (tasksSound_connect config)
  intro client input sound
  exact tasksSound_next sound input

end TcpClient

end CtpSystem
