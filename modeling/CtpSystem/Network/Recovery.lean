import CtpSystem.Network.Closing

/-!
# Recovery after a transport failure

`reconnect` installs the new writer half through the queue of the writer task.  The writer
task ends with its first failed write, and nothing starts another one.
-/

namespace CtpSystem

open Reactive

theorem WriteTask.abort_frame {α : Type} (task : WriteTask α) :
    task.abort.stage = task.stage ∧ task.abort.connection = task.connection := by
  cases stage : task.stage <;> simp [WriteTask.abort, stage]

namespace TcpClient

variable {α : Type}

/-- While the mode is `Active` or `Reconnect`, the writer task runs and its queue is open. -/
def WriterAlive (client : TcpClient α) : Prop :=
  client.mode.isTerminal = false → client.channelOpen

instance (client : TcpClient α) : Decidable client.WriterAlive :=
  inferInstanceAs (Decidable (_ → _))

/-- The step ends the writer task: a write fails, or an abort takes effect. -/
def endsWriter (client : TcpClient α) : TcpInput α → Bool
  | .writeTask .fails =>
      match client.writeTask.stage with
      | .writing _ | .flushing => true
      | _ => false
  | .writeTask .cancelled => client.writeTask.aborted && client.writeTask.stage.awaits
  | _ => false

/-- The writer task ends only under a terminal mode, and no store of `Active` or
`Reconnect` follows its end. -/
def SparesWriter (client : TcpClient α) (input : TcpInput α) : Prop :=
  (client.endsWriter input → client.mode.isTerminal) ∧
    (client.revives input → client.channelOpen)

instance (client : TcpClient α) (input : TcpInput α) :
    Decidable (client.SparesWriter input) :=
  inferInstanceAs (Decidable (_ ∧ _))

/-- A write that fails does so under a terminal mode. -/
def FailsClosed (client : TcpClient α) (input : TcpInput α) : Prop :=
  input = .writeTask .fails → client.endsWriter input → client.mode.isTerminal

variable {client : TcpClient α}

theorem revives_eq_false_of_endsWriter {input : TcpInput α} (ends : client.endsWriter input) :
    client.revives input = false := by
  cases input with
  | writeTask event => rfl
  | _ => simp [endsWriter] at ends

variable [DecidableEq α] (config : TcpClientConfig α)

/-- The writer task runs until a step ends it. -/
theorem channelOpen_next (input : TcpInput α) :
    ((machine config).next client input).channelOpen =
      (client.channelOpen && !client.endsWriter input) := by
  cases ends : client.endsWriter input with
  | true =>
      cases input with
      | writeTask event =>
          cases event with
          | proceeds => simp [endsWriter] at ends
          | fails =>
              cases stage : client.writeTask.stage <;>
                simp [endsWriter, stage] at ends <;>
                simp [machine, Machine.next, step, writeStep, stage, writerEnds, writerAt,
                  channelOpen]
          | cancelled =>
              cases stage : client.writeTask.stage <;>
                simp [endsWriter, stage, WriteStage.awaits] at ends <;>
                simp [machine, Machine.next, step, writeStep, stage, writerEnds, writerAt,
                  channelOpen, ends]
      | _ => simp [endsWriter] at ends
  | false =>
      rw [Bool.not_false, Bool.and_true]
      have stepped := step_case config client input
      generalize (machine config).next client input = next at stepped ⊢
      generalize (machine config).emits client input = effects at stepped
      cases stepped with
      | detachedMoves _ _ task => cases (task.step client.mode _).2 <;> rfl
      | takesUpdate connection rest receiving | takesSend payload rest receiving =>
          simp [channelOpen, writerAt, receiving]
      | checksActive payload stage | checksOther payload stage | writes payload stage =>
          simp [channelOpen, writerAt, stage]
      | flushes stage => simp [channelOpen, writerAt, stage]
      | writeFails busy =>
          rcases busy with flushing | ⟨payload, writing⟩
          · simp [endsWriter, flushing] at ends
          · simp [endsWriter, writing] at ends
      | writeCancelled aborted awaits => simp [endsWriter, aborted, awaits] at ends
      | aborts =>
          simp only [channelOpen, controllerAt, abortTasks, (WriteTask.abort_frame _).1]
      | _ => rfl

/-- The writer task touches itself and its queue only. -/
theorem writeStep_frame (client : TcpClient α) (event : TaskEvent) :
    ∃ task queue,
      (machine config).next client (.writeTask event) =
        { client with writeTask := task, queue := queue } := by
  have stepped := step_case config client (.writeTask event)
  generalize (machine config).next client (.writeTask event) = next at stepped ⊢
  generalize (machine config).emits client (.writeTask event) = effects at stepped
  cases stepped with
  | around _ outside => cases outside
  | sent _ offered => simp [offers] at offered
  | _ => exact ⟨_, _, rfl⟩

/-- One step keeps the writer task alive exactly when it spares it. -/
theorem writerAlive_next (sound : client.TasksSound) (input : TcpInput α)
    (alive : client.WriterAlive) :
    ((machine config).next client input).WriterAlive ↔ client.SparesWriter input := by
  have opened : ((machine config).next client input).channelOpen =
      (client.channelOpen && !client.endsWriter input) := channelOpen_next config input
  cases ends : client.endsWriter input with
  | true =>
      have quiet := revives_eq_false_of_endsWriter ends
      have same : ((machine config).next client input).mode = client.mode := by
        cases input with
        | writeTask event =>
            rcases writeStep_frame config client event with ⟨task, queue, stepped⟩
            rw [stepped]
        | _ => simp [endsWriter] at ends
      simp [WriterAlive, SparesWriter, ends, quiet, opened, same]
  | false =>
      rw [ends, Bool.not_false, Bool.and_true] at opened
      cases revives : client.revives input with
      | true =>
          have stored := (next_mode_of_revives config sound revives).1
          simp [WriterAlive, SparesWriter, ends, revives, opened, stored]
      | false =>
          apply iff_of_true
          · intro going
            rw [opened]
            rcases next_mode_of_not_revives config sound revives with same | closed | close
            · rw [same] at going
              exact alive going
            · rw [closed] at going
              cases going
            · subst close
              cases going
          · simp [SparesWriter, ends, revives]

/-! ## The installation of a writer half -/

/-- An `Update` is queued only while `reconnect` awaits its ack (or its controller has been
cancelled there), and once it has been acked a running writer task holds the new half. -/
structure Installing (client : TcpClient α) : Prop where
  updates : ∀ connection, .update connection ∈ client.queue →
    client.controller = .awaitingAck connection ∨ client.controller = .finished
  awaiting : ∀ connection, client.controller = .awaitingAck connection →
    client.channelOpen →
      .update connection ∈ client.queue ∨ client.writeTask.connection = connection
  installed : ∀ connection, client.controller = .acknowledged connection ∨
      client.controller = .spawned connection ∨ client.controller = .activated connection →
    client.channelOpen → client.writeTask.connection = connection

omit [DecidableEq α] in
/-- The invariant reads the controller, the writer half and the queued updates of a running
writer task. -/
theorem Installing.frame {next : TcpClient α} (installing : client.Installing)
    (controller : next.controller = client.controller)
    (connection : next.writeTask.connection = client.writeTask.connection)
    (updates : ∀ connection,
      WriterCommand.update connection ∈ next.queue ↔ .update connection ∈ client.queue)
    (opened : next.channelOpen → client.channelOpen) : next.Installing where
  updates number queued := by
    rw [controller]
    exact installing.updates number ((updates number).mp queued)
  awaiting number stage isOpen := by
    rw [controller] at stage
    rw [connection, updates]
    exact installing.awaiting number stage (opened isOpen)
  installed number stage isOpen := by
    rw [controller] at stage
    rw [connection]
    exact installing.installed number stage (opened isOpen)

omit [DecidableEq α] in
/-- No update is queued outside the await of its ack. -/
theorem Installing.no_update (installing : client.Installing)
    (notAwaiting : ∀ connection, client.controller ≠ .awaitingAck connection)
    (running : client.controller ≠ .finished) (connection : Nat) :
    WriterCommand.update connection ∉ client.queue := by
  intro queued
  rcases installing.updates connection queued with awaiting | finished
  · exact notAwaiting connection awaiting
  · exact running finished

omit [DecidableEq α] in
/-- A controller that leaves a stage without an update, for one without a claim on the
writer half, keeps the invariant. -/
theorem Installing.controllerAt {next : TcpClient α}
    (empty : ∀ connection, WriterCommand.update connection ∉ next.queue)
    (notAwaiting : ∀ connection, next.controller ≠ .awaitingAck connection)
    (notInstalled : ∀ connection, next.controller ≠ .acknowledged connection ∧
      next.controller ≠ .spawned connection ∧ next.controller ≠ .activated connection) :
    next.Installing where
  updates connection queued := absurd queued (empty connection)
  awaiting connection stage := absurd stage (notAwaiting connection)
  installed connection stage := by
    rcases stage with stage | stage | stage
    · exact absurd stage (notInstalled connection).1
    · exact absurd stage (notInstalled connection).2.1
    · exact absurd stage (notInstalled connection).2.2

theorem installing_next (sound : client.TasksSound) (installing : client.Installing)
    (input : TcpInput α) : ((machine config).next client input).Installing := by
  have opened : ((machine config).next client input).channelOpen → client.channelOpen := by
    rw [channelOpen_next]
    exact fun both => (Bool.and_eq_true _ _ ▸ both).1
  have stepped := step_case config client input
  generalize (machine config).next client input = next at stepped opened ⊢
  generalize (machine config).emits client input = effects at stepped
  cases stepped with
  | detachedMoves number event task found =>
      rw [ReadTask.step_of_finished (sound.detached task (List.mem_of_getElem? found))]
      exact installing.frame rfl rfl (fun _ => Iff.rfl) id
  | sent => exact installing.frame rfl rfl (by simp [enqueue]) id
  | takesUpdate connection rest receiving queued =>
      have stage := installing.updates connection (by simp [queued])
      exact {
        updates := fun number later => installing.updates number (by simp [queued, later])
        awaiting := fun number awaiting _ => by
          rw [show client.controller = .awaitingAck number from awaiting] at stage
          have same : number = connection := by simpa using stage
          exact .inr same.symm
        installed := fun number holds => by
          rcases holds with holds | holds | holds <;>
            rw [show client.controller = _ from holds] at stage <;> simp at stage }
  | takesSend payload rest receiving queued =>
      exact installing.frame rfl rfl (by simp [queued]) opened
  | checksActive | checksOther | writes | flushes =>
      exact installing.frame rfl rfl (fun _ => Iff.rfl) opened
  | writeFails | writeCancelled =>
      exact {
        updates := by simp [writerEnds]
        awaiting := fun _ _ isOpen => by simp [channelOpen, writerEnds, writerAt] at isOpen
        installed := fun _ _ isOpen => by simp [channelOpen, writerEnds, writerAt] at isOpen }
  | seesDisconnect stage | slept stage | connects stage | connectFails stage
  | updateRefused _ stage | locks _ stage | replayed _ stage =>
      exact .controllerAt (installing.no_update (by simp [stage]) (by simp [stage]))
        (by simp [controllerAt]) (by simp [controllerAt])
  | seesReconnect stage =>
      exact .controllerAt (installing.no_update (by simp [stage]) (by simp [stage]))
        (by simp only [reconnect]; split <;> simp) (by simp only [reconnect]; split <;> simp)
  | aborts stage =>
      exact .controllerAt (installing.no_update (by simp [stage]) (by simp [stage]))
        (by simp [controllerAt]) (by simp [controllerAt])
  | storesClosed ending =>
      have none : ∀ connection, .update connection ∉ client.queue := by
        rcases ending with stage | stage <;>
          exact installing.no_update (by simp [stage]) (by simp [stage])
      exact .controllerAt none (by simp [controllerAt]) (by simp [controllerAt])
  | sendsUpdate connection stage =>
      have none := installing.no_update (by simp [stage]) (by simp [stage])
      exact {
        updates := by simp [enqueue, controllerAt, none]
        awaiting := by simp [enqueue, controllerAt]
        installed := by simp [enqueue, controllerAt] }
  | acknowledges connection stage acked =>
      have none : ∀ number, .update number ∉ client.queue := by
        intro number queued
        have same := installing.updates number queued
        simp only [stage, ControllerStage.awaitingAck.injEq, reduceCtorEq, or_false] at same
        exact acked (same ▸ queued)
      exact {
        updates := fun number queued => absurd queued (none number)
        awaiting := by simp [controllerAt]
        installed := fun number holds isOpen => by
          have same : connection = number := by simpa [controllerAt] using holds
          rw [← same]
          exact (installing.awaiting connection stage isOpen).resolve_left acked }
  | spawns connection stage =>
      have none := installing.no_update (by simp [stage]) (by simp [stage])
      exact {
        updates := fun number queued => absurd queued (none number)
        awaiting := by simp [controllerAt]
        installed := fun number holds isOpen => by
          have same : connection = number := by simpa [controllerAt] using holds
          rw [← same]
          exact installing.installed connection (.inl stage) isOpen }
  | activates connection stage =>
      have none := installing.no_update (by simp [stage]) (by simp [stage])
      exact {
        updates := fun number queued => absurd queued (none number)
        awaiting := by simp [controllerAt]
        installed := fun number holds isOpen => by
          have same : connection = number := by simpa [controllerAt] using holds
          rw [← same]
          exact installing.installed connection (.inr (.inl stage)) isOpen }
  | replays payload rest stage =>
      have none := installing.no_update (by simp [stage]) (by simp [stage])
      exact .controllerAt (by simp [enqueue, controllerAt, none]) (by simp [controllerAt])
        (by simp [controllerAt])
  | controllerCancelled =>
      exact {
        updates := fun _ _ => .inr rfl
        awaiting := by simp [controllerAt]
        installed := by simp [controllerAt] }
  | _ => exact installing.frame rfl rfl (fun _ => Iff.rfl) id

omit [DecidableEq α] in
theorem installing_connect : (connect config).Installing where
  updates := by simp [connect]
  awaiting := by simp [connect]
  installed := by simp [connect]

/-! ## A reconnect that has its connection -/

/-- What the writer task has still to do before it finds its queue empty. -/
def writerWork (client : TcpClient α) : Nat :=
  4 * client.queue.length +
    match client.writeTask.stage with
    | .receiving | .finished => 0
    | .flushing => 1
    | .writing _ => 2
    | .checking _ => 3

theorem writerWork_next (opened : client.channelOpen) (busy : client.writerWork ≠ 0) :
    ((machine config).next client (.writeTask .proceeds)).writerWork < client.writerWork := by
  simp only [machine, Machine.next, step]
  cases stage : client.writeTask.stage with
  | receiving =>
      cases queued : client.queue with
      | nil => simp [writerWork, stage, queued] at busy
      | cons command rest =>
          cases command with
          | update connection =>
              simp [writeStep, writerWork, stage, queued]
          | send payload =>
              simp [writeStep, writerWork, writerAt, stage, queued]
              omega
  | checking payload =>
      by_cases active : client.mode = .active <;>
        simp [writeStep, writerWork, writerAt, stage, active]
  | writing payload => simp [writeStep, writerWork, writerAt, stage]
  | flushing => simp [writeStep, writerWork, writerAt, stage]
  | finished => exact absurd stage (channelOpen_iff.mp opened)

/-- A writer task whose writes succeed gets to the end of its queue. -/
theorem writer_drains (opened : client.channelOpen) :
    ∃ count task, (machine config).runFrom client
        (List.replicate count (.writeTask .proceeds)) =
          { client with writeTask := task, queue := [] } ∧ task.stage ≠ .finished := by
  induction work : client.writerWork using Nat.strongRecOn generalizing client with
  | ind work ih =>
    subst work
    by_cases busy : client.writerWork = 0
    · have empty : client.queue = [] := by
        rw [← List.length_eq_zero_iff]
        simp only [writerWork] at busy
        omega
      exact ⟨0, client.writeTask, by rw [← empty]; rfl, channelOpen_iff.mp opened⟩
    · have still : ((machine config).next client (.writeTask .proceeds)).channelOpen := by
        rw [channelOpen_next]
        simp [opened, endsWriter]
      rcases ih _ (writerWork_next config opened busy) still rfl with ⟨count, task, ends⟩
      rcases writeStep_frame config client .proceeds with ⟨earlier, queue, stepped⟩
      refine ⟨count + 1, task, ?_, ends.2⟩
      rw [List.replicate_succ, Machine.runFrom, ends.1, stepped]

/-- A step of a `reconnect` that has its connection does what it is for: the `Update` is
accepted, and the store of `Active` finds the writer task on the new connection. -/
def Completes (client : TcpClient α) (input : TcpInput α) : Prop :=
  input = .controller .proceeds → client.mode.isTerminal = false → ∀ connection,
    (client.controller = .connected connection →
      ((machine config).next client input).controller = .awaitingAck connection) ∧
    (client.controller = .spawned connection →
      ((machine config).next client input).mode = .active ∧
        client.writeTask.connection = connection ∧ client.channelOpen)

theorem completes_of_alive (installing : client.Installing) (alive : client.WriterAlive)
    (input : TcpInput α) : Completes config client input := by
  rintro rfl going connection
  constructor
  · intro connected
    simp [machine, Machine.next, step, controllerStep, connected, alive going, controllerAt]
  · intro spawned
    refine ⟨next_mode_of_storesActive config (by simp [storesActive, spawned]), ?_,
      alive going⟩
    exact installing.installed connection (.inr (.inl spawned)) (alive going)

/-- The steps after the connect: the `Update`, the writer task as often as it takes, and
the controller up to its store of `Active`. -/
def completion (count : Nat) : List (TcpInput α) :=
  .controller .proceeds :: List.replicate count (.writeTask .proceeds) ++
    List.replicate 3 (.controller .proceeds)

/-- If no write fails, a `reconnect` that has its connection can be run to its end. -/
def Recovers (client : TcpClient α) : Prop :=
  client.mode.isTerminal = false → ∀ connection, client.controller = .connected connection →
    ∃ count, ((machine config).runFrom client (completion count)).mode = .active ∧
      ((machine config).runFrom client (completion count)).writeTask.connection = connection ∧
      ((machine config).runFrom client (completion count)).readTask.connection = connection ∧
      ((machine config).runFrom client (completion count)).channelOpen

theorem installing_runFrom (sound : client.TasksSound) (installing : client.Installing)
    (inputs : List (TcpInput α)) :
    ((machine config).runFrom client inputs).Installing := by
  have kept : ∀ client input, client.TasksSound ∧ client.Installing →
      ((machine config).next client input).TasksSound ∧
        ((machine config).next client input).Installing := by
    rintro client input ⟨sound, installing⟩
    exact ⟨tasksSound_next sound input, installing_next config sound installing input⟩
  exact ((machine config).invariant_runFrom kept ⟨sound, installing⟩ inputs).2

theorem recovers_of_alive (sound : client.TasksSound) (installing : client.Installing)
    (alive : client.WriterAlive) : Recovers config client := by
  intro going connection connected
  have opened := alive going
  have sent : (machine config).next client (.controller .proceeds) =
      (client.enqueue (.update connection)).controllerAt (.awaitingAck connection) := by
    simp [machine, Machine.next, step, controllerStep, connected, opened]
  have openAfter :
      ((client.enqueue (.update connection)).controllerAt
        (.awaitingAck connection)).channelOpen := opened
  rcases writer_drains config openAfter with ⟨count, task, drained, running⟩
  have still := installing_runFrom config sound installing
    (.controller .proceeds :: List.replicate count (.writeTask .proceeds))
  rw [Machine.runFrom, sent, drained] at still
  have same : task.connection = connection := by
    rcases still.awaiting connection rfl (channelOpen_iff.mpr running) with queued | same
    · cases queued
    · exact same
  refine ⟨count, ?_⟩
  rw [completion, List.cons_append, Machine.runFrom, Machine.runFrom_append, sent, drained]
  simp [Machine.runFrom, machine, Machine.next, step, controllerStep, controllerAt, acked,
    restartReader, store, same, enqueue, channelOpen_iff, running]

/-! ## Clients nobody closes -/

/-- What holds until the first call of `close`. -/
structure Uncalled (client : TcpClient α) : Prop where
  closers : client.closers = []
  mode : client.mode ≠ .disconnect
  controller : client.controller ≠ .disconnecting ∧ client.controller ≠ .closing
  writeTask : client.writeTask.aborted = false
  ended : client.mode = .closed →
    client.controller = .finished ∧ client.readTask.stage = .finished

omit [DecidableEq α] in
/-- A controller at another stage than those of a disconnect. -/
theorem Uncalled.controllerAt (uncalled : client.Uncalled) {stage : ControllerStage α}
    (open' : stage ≠ .disconnecting ∧ stage ≠ .closing)
    (running : client.controller ≠ .finished) : (client.controllerAt stage).Uncalled where
  closers := uncalled.closers
  mode := uncalled.mode
  controller := open'
  writeTask := uncalled.writeTask
  ended closed := absurd (uncalled.ended closed).1 running

omit [DecidableEq α] in
theorem Uncalled.frame {next : TcpClient α} (uncalled : client.Uncalled)
    (closers : next.closers = client.closers) (mode : next.mode = client.mode)
    (controller : next.controller = client.controller)
    (writeTask : next.writeTask.aborted = client.writeTask.aborted)
    (readTask : client.readTask.stage = .finished → next.readTask.stage = .finished) :
    next.Uncalled where
  closers := closers ▸ uncalled.closers
  mode := mode ▸ uncalled.mode
  controller := controller ▸ uncalled.controller
  writeTask := writeTask ▸ uncalled.writeTask
  ended closed := by
    rw [mode] at closed
    rw [controller]
    exact ⟨(uncalled.ended closed).1, readTask (uncalled.ended closed).2⟩

theorem uncalled_next (sound : client.TasksSound) (uncalled : client.Uncalled)
    {input : TcpInput α} (notClose : input ≠ .close) :
    ((machine config).next client input).Uncalled := by
  have stepped := step_case config client input
  generalize (machine config).next client input = next at stepped ⊢
  generalize (machine config).emits client input = effects at stepped
  cases stepped with
  | around _ _ _ _ _ _ _ called =>
      exact {
        closers := called.mpr uncalled.closers
        mode := uncalled.mode
        controller := uncalled.controller
        writeTask := uncalled.writeTask
        ended := uncalled.ended }
  | detachedMoves number event task found =>
      rw [ReadTask.step_of_finished (sound.detached task (List.mem_of_getElem? found))]
      exact uncalled.frame rfl rfl rfl rfl id
  | readEnds stage | readSeesActive stage =>
      exact uncalled.frame rfl rfl rfl rfl (by simp [stage])
  | readCancelled | readSeesOther => exact uncalled.frame rfl rfl rfl rfl (by simp)
  | readSignals =>
      exact {
        closers := uncalled.closers
        mode := by simp
        controller := uncalled.controller
        writeTask := uncalled.writeTask
        ended := by simp }
  | seesDisconnect waiting mode => exact absurd mode uncalled.mode
  | seesReconnect waiting mode =>
      exact {
        closers := uncalled.closers
        mode := uncalled.mode
        controller := by simp only [reconnect]; split <;> simp
        writeTask := uncalled.writeTask
        ended := by simp [reconnect, mode] }
  | aborts disconnecting => exact absurd disconnecting uncalled.controller.1
  | storesClosed ending =>
      have givingUp := ending.resolve_left uncalled.controller.2
      exact {
        closers := uncalled.closers
        mode := by simp [store, controllerAt]
        controller := by simp [controllerAt]
        writeTask := uncalled.writeTask
        ended := fun _ => ⟨rfl, sound.beforeSpawn (by simp [givingUp,
          ControllerStage.beforeSpawn, ControllerStage.inReconnect])⟩ }
  | slept stage | connectFails stage | updateRefused _ stage | acknowledges _ stage
  | locks _ stage | replayed _ stage =>
      exact uncalled.controllerAt (by simp) (by simp [stage])
  | connects stage =>
      have moved : (client.controllerAt (.connected client.established)).Uncalled :=
        uncalled.controllerAt (by simp) (by simp [stage])
      exact moved.frame rfl rfl rfl rfl id
  | sendsUpdate connection stage =>
      have moved : (client.controllerAt (.awaitingAck connection)).Uncalled :=
        uncalled.controllerAt (by simp) (by simp [stage])
      exact moved.frame rfl rfl rfl rfl id
  | replays payload rest stage =>
      have moved : (client.controllerAt (.replaying rest)).Uncalled :=
        uncalled.controllerAt (by simp) (by simp [stage])
      exact moved.frame rfl rfl rfl rfl id
  | spawns connection acknowledged =>
      exact {
        closers := uncalled.closers
        mode := uncalled.mode
        controller := by simp [controllerAt]
        writeTask := uncalled.writeTask
        ended := fun closed => by
          have finished := (uncalled.ended closed).1
          rw [acknowledged] at finished
          cases finished }
  | activates =>
      exact {
        closers := uncalled.closers
        mode := by simp [store, controllerAt]
        controller := by simp [controllerAt]
        writeTask := uncalled.writeTask
        ended := by simp [store, controllerAt] }
  | controllerCancelled =>
      exact {
        closers := uncalled.closers
        mode := uncalled.mode
        controller := by simp [controllerAt]
        writeTask := uncalled.writeTask
        ended := fun closed => ⟨rfl, (uncalled.ended closed).2⟩ }
  | closes => contradiction
  | closesLate number found => simp [uncalled.closers] at found
  | _ => exact uncalled.frame rfl rfl rfl rfl id

omit [DecidableEq α] in
/-- Without a `close`, a store of `Active` or `Reconnect` finds no terminal mode. -/
theorem Uncalled.going (uncalled : client.Uncalled) {input : TcpInput α}
    (revives : client.revives input) : client.mode.isTerminal = false := by
  cases mode : client.mode with
  | active => rfl
  | reconnect => rfl
  | disconnect => exact absurd mode uncalled.mode
  | closed =>
      have ended := uncalled.ended mode
      rw [TcpClient.revives, Bool.or_eq_true] at revives
      rcases revives with reconnect | active
      · have armed := (storesReconnect_iff.mp reconnect).2
        rw [ended.2] at armed
        cases armed
      · rcases storesActive_iff.mp active with ⟨_, connection, spawned⟩
        rw [ended.1] at spawned
        cases spawned

omit [DecidableEq α] in
/-- Without a `close`, only a failed write ends the writer task. -/
theorem Uncalled.spares (uncalled : client.Uncalled) (alive : client.WriterAlive)
    {input : TcpInput α} (fails : client.FailsClosed input) : client.SparesWriter input := by
  constructor
  · intro ends
    cases input with
    | writeTask event =>
        cases event with
        | proceeds => simp [endsWriter] at ends
        | fails => exact fails rfl ends
        | cancelled => simp [endsWriter, uncalled.writeTask] at ends
    | _ => simp [endsWriter] at ends
  · intro revives
    exact alive (uncalled.going revives)

/-! ## Recovery -/

theorem writerAlive_iff_always (inputs : List (TcpInput α)) :
    (machine config).Throughout WriterAlive (connect config) inputs ↔
      (machine config).Always SparesWriter (connect config) inputs := by
  have kept : ∀ client input, client.TasksSound →
      ((machine config).next client input).TasksSound := by
    intro client input sound
    exact tasksSound_next sound input
  exact (machine config).throughout_iff_always kept
    (fun _ input sound alive => writerAlive_next config sound input alive)
    (tasksSound_connect config) (fun _ => rfl) inputs

/-- In a run without a `close` the writer task is spared exactly when no write fails before
the client has given up. -/
theorem sparesWriter_iff_failsClosed {inputs : List (TcpInput α)}
    (notClosed : .close ∉ inputs) :
    (machine config).Always SparesWriter (connect config) inputs ↔
      (machine config).Always FailsClosed (connect config) inputs := by
  have admissible : ∀ input ∈ inputs, input ≠ .close := by
    rintro input member rfl
    exact notClosed member
  constructor
  · intro spared
    have given : ∀ (client : TcpClient α) (input : TcpInput α), True →
        client.SparesWriter input → client.FailsClosed input :=
      fun _ _ _ spares _ ends => spares.1 ends
    exact (machine config).always_of_always (fun _ _ _ _ => trivial) given trivial spared
  · intro fails
    have preserved : ∀ client input,
        client.TasksSound ∧ client.Uncalled ∧ client.WriterAlive →
        input ≠ .close ∧ client.FailsClosed input →
        ((machine config).next client input).TasksSound ∧
          ((machine config).next client input).Uncalled ∧
          ((machine config).next client input).WriterAlive := by
      rintro client input ⟨sound, uncalled, alive⟩ ⟨notClose, failsClosed⟩
      exact ⟨tasksSound_next sound input, uncalled_next config sound uncalled notClose,
        (writerAlive_next config sound input alive).mpr (uncalled.spares alive failsClosed)⟩
    have spares : ∀ (client : TcpClient α) (input : TcpInput α),
        client.TasksSound ∧ client.Uncalled ∧ client.WriterAlive →
        input ≠ .close ∧ client.FailsClosed input → client.SparesWriter input := by
      rintro client input ⟨_, uncalled, alive⟩ ⟨_, failsClosed⟩
      exact uncalled.spares alive failsClosed
    have initially : (connect config).Uncalled := ⟨rfl, by simp [connect], by simp [connect],
      rfl, by simp [connect]⟩
    exact (machine config).always_of_always preserved spares
      ⟨tasksSound_connect config, initially, fun _ => rfl⟩
      ((machine config).always_and_of_mem admissible fails)

/-- While the writer task is alive, every `reconnect` that gets its connection installs the
new writer half and ends with `Active`. -/
theorem reconnects_of_writerAlive {inputs : List (TcpInput α)}
    (alive : (machine config).Throughout WriterAlive (connect config) inputs) :
    (machine config).Always (Completes config) (connect config) inputs ∧
      (machine config).Throughout (Recovers config) (connect config) inputs := by
  have preserved : ∀ client input,
      client.TasksSound ∧ client.Installing ∧ client.WriterAlive →
      client.SparesWriter input →
      ((machine config).next client input).TasksSound ∧
        ((machine config).next client input).Installing ∧
        ((machine config).next client input).WriterAlive := by
    rintro client input ⟨sound, installing, alive⟩ spares
    exact ⟨tasksSound_next sound input, installing_next config sound installing input,
      (writerAlive_next config sound input alive).mpr spares⟩
  have initially : (connect config).TasksSound ∧ (connect config).Installing ∧
      (connect config).WriterAlive :=
    ⟨tasksSound_connect config, installing_connect config, fun _ => rfl⟩
  have spared := (writerAlive_iff_always config inputs).mp alive
  constructor
  · apply (machine config).always_of_always preserved _ initially spared
    rintro client input ⟨_, installing, alive⟩ _
    exact completes_of_alive config installing alive input
  · apply (machine config).throughout_of_always preserved _ initially spared
    rintro client ⟨sound, installing, alive⟩
    exact recovers_of_alive config sound installing alive

/-- The writer task is alive in every state that is not closed, in exactly the runs in which
it ends under a terminal mode only and nothing stores `Active` or `Reconnect` after that;
without a `close` these are the runs in which no write fails before the client has given
up.  In these runs every `reconnect` with a connection recovers. -/
theorem recoverable_iff (inputs : List (TcpInput α)) :
    ((machine config).Throughout WriterAlive (connect config) inputs ↔
      (machine config).Always SparesWriter (connect config) inputs) ∧
    (.close ∉ inputs →
      ((machine config).Throughout WriterAlive (connect config) inputs ↔
        (machine config).Always FailsClosed (connect config) inputs)) ∧
    ((machine config).Throughout WriterAlive (connect config) inputs →
      (machine config).Always (Completes config) (connect config) inputs ∧
        (machine config).Throughout (Recovers config) (connect config) inputs) := by
  refine ⟨writerAlive_iff_always config inputs, ?_, reconnects_of_writerAlive config⟩
  intro notClosed
  rw [writerAlive_iff_always, sparesWriter_iff_failsClosed config notClosed]

/-- A payload is written, the connection ends, and `reconnect` gets a new one and stores
`Active`. -/
def readFailsAfterWrite : List (TcpInput (List UInt8)) :=
  [.sendBytes [1], .sender 0 .proceeds, .sender 0 .proceeds, .sender 0 .proceeds,
    .writeTask .proceeds, .writeTask .proceeds, .writeTask .proceeds, .writeTask .proceeds,
    .readTask .fails, .readTask .proceeds, .readTask .proceeds,
    .controller .proceeds, .controller .proceeds, .controller .proceeds] ++ completion 1

theorem recoverable_readFails :
    (machine {}).Always (Completes {}) (connect {}) readFailsAfterWrite ∧
      (machine {}).Throughout (Recovers {}) (connect {}) readFailsAfterWrite := by
  rcases recoverable_iff {} readFailsAfterWrite with ⟨-, notClosed, recovers⟩
  apply recovers
  rw [notClosed (by decide)]
  unfold FailsClosed
  decide +kernel

/-- A payload is sent and its write fails; then the connection ends, `reconnect` gets a new
one and finds the queue of the writer task closed. -/
def writeFailsBeforeRead : List (TcpInput (List UInt8)) :=
  [.sendBytes [1], .sender 0 .proceeds, .sender 0 .proceeds, .sender 0 .proceeds,
    .writeTask .proceeds, .writeTask .proceeds, .writeTask .fails,
    .readTask .fails, .readTask .proceeds, .readTask .proceeds,
    .controller .proceeds, .controller .proceeds, .controller .proceeds,
    .controller .proceeds]

theorem not_recoverable :
    ¬ (machine {}).Throughout WriterAlive (connect {}) writeFailsBeforeRead ∧
      ((machine {}).runFrom (connect {}) writeFailsBeforeRead).mode = .reconnect ∧
      ((machine {}).runFrom (connect {}) writeFailsBeforeRead).controller = .waiting ∧
      ((machine {}).runFrom (connect {}) writeFailsBeforeRead).established = 2 := by
  decide +kernel

end TcpClient

end CtpSystem
