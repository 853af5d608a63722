import CtpSystem.Network.Closing

/-!
# Who reads while the client is active

`reconnect` starts the new read loop before it stores `Active`.  A read loop signals the
end of its connection only if it finds `Active`.
-/

namespace CtpSystem

open Reactive

namespace TcpClient

variable {α : Type}

/-- If the mode is `Active`, the read loop of the current connection is not finished: it
reads, or has still to look at the mode, or has seen `Active` and has still to store. -/
def ActivelyRead (client : TcpClient α) : Prop :=
  client.mode = .active → client.readTask.stage ≠ .finished

instance (client : TcpClient α) : Decidable client.ActivelyRead :=
  inferInstanceAs (Decidable (_ → _))

/-- When `reconnect` stores `Active`, the read loop it has started is not finished. -/
def ActivatesRead (client : TcpClient α) (input : TcpInput α) : Prop :=
  client.storesActive input → client.readTask.stage ≠ .finished

variable [DecidableEq α] (config : TcpClientConfig α) {client : TcpClient α}

theorem next_readTask_of_storesActive {input : TcpInput α}
    (stores : client.storesActive input) :
    ((machine config).next client input).readTask = client.readTask := by
  rcases storesActive_iff.mp stores with ⟨rfl, connection, spawned⟩
  simp [machine, Machine.next, step, controllerStep, spawned, store, controllerAt]

/-- Only the store of `Active` can leave an active client without a reader. -/
theorem activelyRead_next (sound : client.TasksSound) (input : TcpInput α)
    (read : client.ActivelyRead) :
    ((machine config).next client input).ActivelyRead ↔ client.ActivatesRead input := by
  cases stores : client.storesActive input with
  | true =>
      simp only [ActivelyRead, ActivatesRead, stores, next_mode_of_storesActive config stores,
        next_readTask_of_storesActive config stores, true_implies]
  | false =>
      apply iff_of_true
      · have stepped := step_case config client input
        generalize (machine config).next client input = next at stepped ⊢
        generalize (machine config).emits client input = effects at stepped
        cases stepped with
        | readEnds | readSeesActive => simp [ActivelyRead]
        | readCancelled reading aborted =>
            intro active
            exact absurd active (sound.readAborted aborted).2
        | readSeesOther ended other =>
            intro active
            exact absurd active other
        | readSignals => simp [ActivelyRead]
        | detachedMoves number event task found =>
            rw [ReadTask.step_of_finished (sound.detached task (List.mem_of_getElem? found))]
            exact read
        | aborts disconnecting =>
            intro active
            exact absurd active (sound.ending (.inl disconnecting))
        | storesClosed | closes | closesLate => simp [ActivelyRead, store, controllerAt, closerAt]
        | spawns => simp [ActivelyRead, controllerAt, restartReader]
        | activates connection spawned => simp [storesActive, spawned] at stores
        | _ => exact read
      · intro isStore
        rw [stores] at isStore
        cases isStore

/-- Somebody reads whenever the mode is `Active`, in exactly the runs in which no read loop
has ended before the `reconnect` that started it stores `Active`. -/
theorem activelyRead_throughout_iff (inputs : List (TcpInput α)) :
    (machine config).Throughout ActivelyRead (connect config) inputs ↔
      (machine config).Always ActivatesRead (connect config) inputs := by
  have kept : ∀ client input, client.TasksSound →
      ((machine config).next client input).TasksSound := by
    intro client input sound
    exact tasksSound_next sound input
  have initially : (connect config).ActivelyRead := by simp [ActivelyRead, connect]
  exact (machine config).throughout_iff_always kept
    (fun _ input sound read => activelyRead_next config sound input read)
    (tasksSound_connect config) initially inputs

/-- The second connection ends as soon as its read loop is started. -/
def endsBeforeActive : List (TcpInput (List UInt8)) :=
  [.readTask .fails, .readTask .proceeds, .readTask .proceeds,
    .controller .proceeds, .controller .proceeds, .controller .proceeds,
    .controller .proceeds, .writeTask .proceeds, .controller .proceeds,
    .controller .proceeds, .readTask .fails, .readTask .proceeds, .controller .proceeds]

theorem active_without_reader :
    ¬ (machine {}).Throughout ActivelyRead (connect {}) endsBeforeActive ∧
      ((machine {}).runFrom (connect {}) endsBeforeActive).mode = .active := by
  decide +kernel

/-! ## A client nobody reads for -/

/-- The client is active, its read loop has ended, the controller has nothing to store and
nobody has called `close`. -/
structure Deaf (client : TcpClient α) : Prop where
  active : client.mode = .active
  ended : client.readTask.stage = .finished
  idle : client.controller.inReconnect = false
  uncalled : client.closers = []

theorem deaf_next (sound : client.TasksSound) (deaf : client.Deaf) {input : TcpInput α}
    (notClose : input ≠ .close) : ((machine config).next client input).Deaf := by
  have stepped := step_case config client input
  generalize (machine config).next client input = next at stepped ⊢
  generalize (machine config).emits client input = effects at stepped
  have outside : ∀ {stage : ControllerStage α}, client.controller = stage →
      stage.inReconnect = false := by
    rintro stage rfl
    exact deaf.idle
  cases stepped with
  | around _ _ _ _ _ _ _ called =>
      exact ⟨deaf.active, deaf.ended, deaf.idle, called.mpr deaf.uncalled⟩
  | readEnds reading | readCancelled reading => simp [deaf.ended] at reading
  | readSeesActive ended | readSeesOther ended => simp [deaf.ended] at ended
  | readSignals armed => simp [deaf.ended] at armed
  | detachedMoves number event task found =>
      rw [ReadTask.step_of_finished (sound.detached task (List.mem_of_getElem? found))]
      exact ⟨deaf.active, deaf.ended, deaf.idle, deaf.uncalled⟩
  | seesDisconnect waiting mode | seesReconnect waiting mode => simp [deaf.active] at mode
  | aborts disconnecting => exact absurd deaf.active (sound.ending (.inl disconnecting))
  | storesClosed ending =>
      rcases ending with closing | givingUp
      · exact absurd deaf.active (sound.ending (.inr closing))
      · cases outside givingUp
  | slept stage | connects stage | connectFails stage => cases outside stage
  | sendsUpdate _ stage | updateRefused _ stage | acknowledges _ stage | spawns _ stage
  | activates _ stage => cases outside stage
  | locks | replays | replayed | controllerCancelled =>
      exact ⟨deaf.active, deaf.ended, rfl, deaf.uncalled⟩
  | closes => contradiction
  | closesLate number found => simp [deaf.uncalled] at found
  | _ => exact ⟨deaf.active, deaf.ended, deaf.idle, deaf.uncalled⟩

/-- A deaf client stays active and deaf until it is closed. -/
theorem deaf_runFrom (sound : client.TasksSound) (deaf : client.Deaf)
    {inputs : List (TcpInput α)} (notClosed : .close ∉ inputs) :
    ((machine config).runFrom client inputs).Deaf := by
  induction inputs generalizing client with
  | nil => exact deaf
  | cons input rest ih =>
      rw [List.mem_cons, not_or] at notClosed
      exact ih (tasksSound_next sound input)
        (deaf_next config sound deaf (Ne.symm notClosed.1)) notClosed.2

end TcpClient

end CtpSystem
