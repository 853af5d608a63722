import CtpSystem.Network.TcpInvariant

/-!
# Closing the client

`close` stores `Disconnect` whatever the other tasks are about to do.  A read loop that has
seen `Active`, and a `reconnect` that has begun, still have a store to make.
-/

namespace CtpSystem

open Reactive

namespace TcpClient

variable {α : Type}

/-- The step is the store of `Reconnect` with which a read loop ends. -/
def storesReconnect (client : TcpClient α) : TcpInput α → Bool
  | .readTask .proceeds => client.readTask.stage = .sawActive
  | _ => false

/-- The step is the store of `Active` with which `reconnect` ends. -/
def storesActive (client : TcpClient α) : TcpInput α → Bool
  | .controller .proceeds =>
      match client.controller with
      | .spawned _ => true
      | _ => false
  | _ => false

/-- The step stores `Active` or `Reconnect`. -/
def revives (client : TcpClient α) (input : TcpInput α) : Bool :=
  client.storesReconnect input || client.storesActive input

/-- Once `close` has stored `Disconnect`, the mode is neither `Active` nor `Reconnect`. -/
def ClosedForGood (client : TcpClient α) : Prop :=
  client.closers ≠ [] → client.mode.isTerminal

instance (client : TcpClient α) : Decidable client.ClosedForGood :=
  inferInstanceAs (Decidable (_ → _))

/-- Once `close` has stored `Disconnect`, a step changes the mode to `Closed` only, unless
it is another `close`. -/
def OnlyCloses [DecidableEq α] (config : TcpClientConfig α) (client : TcpClient α)
    (input : TcpInput α) : Prop :=
  client.closers ≠ [] → input ≠ .close →
    ((machine config).next client input).mode = client.mode ∨
      ((machine config).next client input).mode = .closed

/-- No store of `Active` or `Reconnect` is left for after a `close`. -/
def NoLateStore (client : TcpClient α) (input : TcpInput α) : Prop :=
  client.revives input → client.closers = []

instance (client : TcpClient α) (input : TcpInput α) :
    Decidable (client.NoLateStore input) :=
  inferInstanceAs (Decidable (_ → _))

/-- The stages from which `reconnect` may still get to its store of `Active`. -/
def mayActivate : ControllerStage α → Bool
  | .backingOff | .connecting | .connected _ | .awaitingAck _ | .acknowledged _
  | .spawned _ => true
  | _ => false

/-- A store of `Active` or `Reconnect` is still to come from a task that has looked at the
mode: the read loop has seen `Active`, or the controller is in `reconnect`. -/
def armed (client : TcpClient α) : Bool :=
  client.readTask.stage = .sawActive || mayActivate client.controller

/-- `close` is called only while no such store is to come. -/
def ClosesUnarmed (client : TcpClient α) (input : TcpInput α) : Prop :=
  input = .close → client.armed = false

instance [DecidableEq α] (client : TcpClient α) (input : TcpInput α) :
    Decidable (client.ClosesUnarmed input) :=
  inferInstanceAs (Decidable (_ → _))

variable {client : TcpClient α}

/-! ## What one step does to the mode -/

/-- A read loop about to store `Reconnect` does not find it stored already. -/
theorem TasksSound.ne_reconnect (sound : client.TasksSound)
    (sawActive : client.readTask.stage = .sawActive) : client.mode ≠ .reconnect := by
  intro reconnect
  rcases sound.signalled reconnect with ⟨connection, spawned⟩ | finished
  · exact sound.unarmed connection spawned sawActive
  · rw [sawActive] at finished
    cases finished

theorem storesReconnect_iff {input : TcpInput α} :
    client.storesReconnect input ↔
      input = .readTask .proceeds ∧ client.readTask.stage = .sawActive := by
  cases input with
  | readTask event => cases event <;> simp [storesReconnect]
  | _ => simp [storesReconnect]

theorem storesActive_iff {input : TcpInput α} :
    client.storesActive input ↔
      input = .controller .proceeds ∧ ∃ connection, client.controller = .spawned connection := by
  cases input with
  | controller event =>
      cases event <;> cases stage : client.controller <;> simp [storesActive, stage]
  | _ => simp [storesActive]

theorem ne_close_of_revives {input : TcpInput α} (revives : client.revives input) :
    input ≠ .close := by
  intro close
  simp [close, TcpClient.revives, storesReconnect, storesActive] at revives

theorem armed_of_revives {input : TcpInput α} (revives : client.revives input) :
    client.armed = true := by
  rw [TcpClient.revives, Bool.or_eq_true] at revives
  rw [armed, Bool.or_eq_true]
  rcases revives with reconnect | active
  · exact .inl (decide_eq_true (storesReconnect_iff.mp reconnect).2)
  · rcases storesActive_iff.mp active with ⟨_, connection, spawned⟩
    exact .inr (by rw [spawned, mayActivate])

variable [DecidableEq α] (config : TcpClientConfig α)

/-- Who has called `close` is forgotten by no step. -/
theorem closers_next (input : TcpInput α) :
    ((machine config).next client input).closers = [] ↔
      client.closers = [] ∧ input ≠ .close := by
  by_cases close : input = .close
  · subst close
    simp [machine, Machine.next, step]
  · have stepped := step_case config client input
    generalize (machine config).next client input = next at stepped ⊢
    generalize (machine config).emits client input = effects at stepped
    cases stepped with
    | around _ _ _ _ _ _ _ called => simp [called, close]
    | detachedMoves _ event task =>
        cases (task.step client.mode event).2 <;> simp [store]
    | closes => contradiction
    | closesLate => simp [closerAt, store]
    | _ => simp [close, enqueue, writerAt, writerEnds, controllerAt, store, restartReader,
        abortTasks, reconnect]

/-- What one step does to the mode. -/
inductive ModeCase (client : TcpClient α) (input : TcpInput α) (mode : ConnectionMode) :
    Prop where
  | kept (same : mode = client.mode)
  | ends (closed : mode = .closed)
  | closes (close : input = .close) (disconnect : mode = .disconnect)
  | signals (stores : client.storesReconnect input) (reconnect : mode = .reconnect)
  | activates (stores : client.storesActive input) (active : mode = .active)

/-- Only a read loop stores `Reconnect`, and only `reconnect` stores `Active`. -/
theorem mode_case (sound : client.TasksSound) (input : TcpInput α) :
    ModeCase client input ((machine config).next client input).mode := by
  have stepped := step_case config client input
  generalize (machine config).next client input = next at stepped ⊢
  generalize (machine config).emits client input = effects at stepped
  cases stepped with
  | readSignals armed => exact .signals (by simp [storesReconnect, armed]) rfl
  | detachedMoves number event task found =>
      rw [ReadTask.step_of_finished (sound.detached task (List.mem_of_getElem? found))]
      exact .kept rfl
  | storesClosed => exact .ends rfl
  | activates connection spawned => exact .activates (by simp [storesActive, spawned]) rfl
  | closes => exact .closes rfl rfl
  | closesLate => exact .ends rfl
  | _ => exact .kept rfl

theorem next_mode_of_storesReconnect {input : TcpInput α}
    (stores : client.storesReconnect input) :
    ((machine config).next client input).mode = .reconnect := by
  cases input with
  | readTask event =>
      cases event with
      | proceeds =>
          have armed : client.readTask.stage = .sawActive := of_decide_eq_true stores
          simp [machine, Machine.next, step, ReadTask.step, armed, store]
      | fails => simp [storesReconnect] at stores
      | cancelled => simp [storesReconnect] at stores
  | _ => simp [storesReconnect] at stores

theorem next_mode_of_storesActive {input : TcpInput α} (stores : client.storesActive input) :
    ((machine config).next client input).mode = .active := by
  cases input with
  | controller event =>
      cases event with
      | proceeds =>
          cases stage : client.controller with
          | spawned connection =>
              simp [machine, Machine.next, step, controllerStep, stage, store, controllerAt]
          | _ => simp [storesActive, stage] at stores
      | fails => simp [storesActive] at stores
      | cancelled => simp [storesActive] at stores
  | _ => simp [storesActive] at stores

/-- A store of `Active` or `Reconnect` changes the mode, and to nothing terminal. -/
theorem next_mode_of_revives (sound : client.TasksSound) {input : TcpInput α}
    (revives : client.revives input) :
    ((machine config).next client input).mode.isTerminal = false ∧
      ((machine config).next client input).mode ≠ client.mode := by
  rw [TcpClient.revives, Bool.or_eq_true] at revives
  rcases revives with reconnect | active
  · rw [next_mode_of_storesReconnect config reconnect]
    exact ⟨rfl, (sound.ne_reconnect (storesReconnect_iff.mp reconnect).2).symm⟩
  · rw [next_mode_of_storesActive config active]
    rcases storesActive_iff.mp active with ⟨_, connection, spawned⟩
    exact ⟨rfl, (sound.inReconnect (ControllerStage.inReconnect_of_spawned spawned)).symm⟩

/-- Every other step keeps the mode, stores `Closed`, or is a call of `close`. -/
theorem next_mode_of_not_revives (sound : client.TasksSound) {input : TcpInput α}
    (quiet : client.revives input = false) :
    ((machine config).next client input).mode = client.mode ∨
      ((machine config).next client input).mode = .closed ∨ input = .close := by
  rw [TcpClient.revives, Bool.or_eq_false_iff] at quiet
  cases mode_case config sound input with
  | kept same => exact .inl same
  | ends closed => exact .inr (.inl closed)
  | closes close => exact .inr (.inr close)
  | signals stores => rw [quiet.1] at stores; cases stores
  | activates stores => rw [quiet.2] at stores; cases stores

/-! ## Closing is final -/

/-- One step leaves a closed client closed exactly when it is no late store. -/
theorem closedForGood_next (sound : client.TasksSound) (input : TcpInput α)
    (closed : client.ClosedForGood) :
    ((machine config).next client input).ClosedForGood ↔ client.NoLateStore input := by
  cases revives : client.revives input with
  | true =>
      have stored := (next_mode_of_revives config sound revives).1
      have called : ((machine config).next client input).closers = [] ↔ _ :=
        closers_next config input
      simp only [ClosedForGood, NoLateStore, revives, stored, called, ne_eq, not_and,
        ne_close_of_revives revives]
      simp
  | false =>
      apply iff_of_true
      · intro called
        by_cases close : input = .close
        · subst close
          rfl
        · have before : client.closers ≠ [] := by
            intro empty
            exact called ((closers_next config input).mpr ⟨empty, close⟩)
          rcases next_mode_of_not_revives config sound revives with
            same | ends | isClose
          · rw [same]
            exact closed before
          · rw [ends]
            rfl
          · exact absurd isClose close
      · intro isRevival
        rw [revives] at isRevival
        cases isRevival

theorem onlyCloses_iff (sound : client.TasksSound) (input : TcpInput α) :
    OnlyCloses config client input ↔ client.NoLateStore input := by
  cases revives : client.revives input with
  | true =>
      have changed := next_mode_of_revives config sound revives
      have notClosed : ((machine config).next client input).mode ≠ .closed := by
        intro ends
        rw [ends] at changed
        cases changed.1
      simp [OnlyCloses, NoLateStore, revives, changed.2, notClosed,
        ne_close_of_revives revives]
  | false =>
      apply iff_of_true
      · intro _ notClose
        have kept := next_mode_of_not_revives config sound revives
        rw [← or_assoc] at kept
        exact kept.resolve_right notClose
      · intro isRevival
        rw [revives] at isRevival
        cases isRevival

/-- Nobody arms itself while the mode is terminal. -/
theorem armed_next (closed : client.mode.isTerminal) (unarmed : client.armed = false)
    (input : TcpInput α) : ((machine config).next client input).armed = false := by
  simp only [armed, Bool.or_eq_false_iff, decide_eq_false_iff_not] at unarmed ⊢
  have stepped := step_case config client input
  generalize (machine config).next client input = next at stepped ⊢
  generalize (machine config).emits client input = effects at stepped
  cases stepped with
  | readSeesActive ended active => simp [active, ConnectionMode.isTerminal] at closed
  | seesReconnect waiting mode => simp [mode, ConnectionMode.isTerminal] at closed
  | detachedMoves _ _ task =>
      cases (task.step client.mode _).2 <;> simpa [store] using unarmed
  | aborts =>
      constructor
      · simp only [controllerAt, abortTasks, ReadTask.abort]
        split <;> exact unarmed.1
      · rfl
  | slept backingOff => simp [backingOff, mayActivate] at unarmed
  | connects connecting => simp [connecting, mayActivate] at unarmed
  | sendsUpdate connection connected => simp [connected, mayActivate] at unarmed
  | acknowledges connection awaiting => simp [awaiting, mayActivate] at unarmed
  | spawns connection acknowledged => simp [acknowledged, mayActivate] at unarmed
  | readEnds | readCancelled | readSeesOther | readSignals => exact ⟨by simp, unarmed.2⟩
  | seesDisconnect | storesClosed | connectFails | updateRefused | activates | locks
  | replays | replayed | controllerCancelled => exact ⟨unarmed.1, rfl⟩
  | _ => exact unarmed

/-- After a `close` nobody is armed and the mode is terminal. -/
def ClosedUnarmed (client : TcpClient α) : Prop :=
  client.closers ≠ [] → client.mode.isTerminal ∧ client.armed = false

theorem closedUnarmed_next (sound : client.TasksSound) (closed : client.ClosedUnarmed)
    {input : TcpInput α} (unarmed : client.ClosesUnarmed input) :
    ((machine config).next client input).ClosedUnarmed := by
  intro called
  by_cases close : input = .close
  · have quiet := unarmed close
    subst close
    exact ⟨rfl, quiet⟩
  · have before : client.closers ≠ [] := by
      intro empty
      exact called ((closers_next config input).mpr ⟨empty, close⟩)
    rcases closed before with ⟨terminal, quiet⟩
    have still : client.revives input = false := by
      rw [← Bool.not_eq_true]
      intro revives
      rw [armed_of_revives revives] at quiet
      cases quiet
    refine ⟨?_, armed_next config terminal quiet input⟩
    rcases next_mode_of_not_revives config sound still with same | ends | isClose
    · rw [same]
      exact terminal
    · rw [ends]
      rfl
    · exact absurd isClose close

/-- Closing is final in exactly the runs in which no read loop that has seen `Active` and
no `reconnect` makes its store after a `close`; it is so in particular when `close` is
called only while none of them has begun. -/
theorem closing_is_final_iff (inputs : List (TcpInput α)) :
    (((machine config).Throughout ClosedForGood (connect config) inputs ∧
        (machine config).Always (OnlyCloses config) (connect config) inputs) ↔
      (machine config).Always NoLateStore (connect config) inputs) ∧
    ((machine config).Always ClosesUnarmed (connect config) inputs →
      (machine config).Always NoLateStore (connect config) inputs) := by
  have initially : (connect config).ClosedForGood := fun called => absurd rfl called
  have kept : ∀ client input, client.TasksSound →
      ((machine config).next client input).TasksSound := by
    intro client input sound
    exact tasksSound_next sound input
  have states := (machine config).throughout_iff_always kept
    (fun _ input sound closed => closedForGood_next config sound input closed)
    (tasksSound_connect config) initially inputs
  have steps := (machine config).always_congr kept
    (fun _ input sound => onlyCloses_iff config sound input)
    (tasksSound_connect config) inputs
  constructor
  · rw [states, steps, and_self]
  · intro unarmed
    rw [← states]
    have preserved : ∀ client input, client.TasksSound ∧ client.ClosedUnarmed →
        client.ClosesUnarmed input →
        ((machine config).next client input).TasksSound ∧
          ((machine config).next client input).ClosedUnarmed := by
      rintro client input ⟨sound, closed⟩ quiet
      exact ⟨tasksSound_next sound input, closedUnarmed_next config sound closed quiet⟩
    have final : ∀ client : TcpClient α, client.TasksSound ∧ client.ClosedUnarmed →
        client.ClosedForGood := by
      rintro client ⟨_, closed⟩ called
      exact (closed called).1
    exact (machine config).throughout_of_always preserved final
      ⟨tasksSound_connect config, fun called => absurd rfl called⟩ unarmed

/-- A client closed while its read loop reads and its controller waits. -/
def closedWhileReading : List (TcpInput (List UInt8)) :=
  [.close, .readTask .fails, .readTask .proceeds, .controller .proceeds,
    .controller .proceeds, .controller .proceeds, .closer 0 .proceeds]

theorem closed_while_reading_for_good :
    (machine {}).Throughout ClosedForGood (connect {}) closedWhileReading :=
  ((closing_is_final_iff {} closedWhileReading).1.mpr
    ((closing_is_final_iff {} closedWhileReading).2 (by decide +kernel))).1

/-- The read loop looks at the mode, `close` stores `Disconnect`, the read loop stores
`Reconnect`. -/
def closedWhileReadLoopEnds : List (TcpInput (List UInt8)) :=
  [.readTask .fails, .readTask .proceeds, .close, .readTask .proceeds]

/-- The client is closed while `reconnect` waits for its connection. -/
def closedWhileReconnecting : List (TcpInput (List UInt8)) :=
  [.readTask .fails, .readTask .proceeds, .readTask .proceeds,
    .controller .proceeds, .controller .proceeds, .close,
    .controller .proceeds, .controller .proceeds, .writeTask .proceeds,
    .controller .proceeds, .controller .proceeds, .controller .proceeds]

theorem closing_is_not_final :
    ¬ (machine {}).Throughout ClosedForGood (connect {}) closedWhileReadLoopEnds ∧
      ¬ (machine {}).Throughout ClosedForGood (connect {}) closedWhileReconnecting ∧
      ((machine {}).runFrom (connect {}) closedWhileReconnecting).mode = .active := by
  decide +kernel

end TcpClient

end CtpSystem
