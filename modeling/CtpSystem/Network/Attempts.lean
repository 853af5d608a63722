import CtpSystem.Network.Backoff
import CtpSystem.Network.Recovery

/-!
# Attempts to reconnect

`reconnect` counts its attempts and resets the count once the client is `Active` again.
The controller gives up where the count exceeds `reconnect_max_attempts`.  For each attempt it
asks the backoff for a delay; a panic there, or one of the count in a build with overflow
checks, ends the task of the controller and nothing else.
-/

namespace CtpSystem

open Reactive

/-! ## The backoff of the controller -/

/-- A client with the backoff of its controller, and whether `reconnect` has panicked. -/
structure ReconnectingClient (α : Type) where
  client : TcpClient α
  backoff : ExponentialBackoff
  panicked : Bool := false

namespace ReconnectingClient

variable {α : Type}

/-- The task of the controller panics; nothing is stored. -/
def panics (state : ReconnectingClient α) : ReconnectingClient α :=
  { state with client := state.client.controllerAt .finished, panicked := true }

/-- The start of `reconnect`, with the call of `next_duration`. -/
def reconnect (overflowChecks : Bool) (config : TcpClientConfig α) (clock : SubsecNanos)
    (state : ReconnectingClient α) : ReconnectingClient α :=
  if overflowChecks && state.client.reconnectAttemptCount = 4294967295 then state.panics
  else
    let counted := { state with client := state.client.reconnect config }
    match counted.client.controller with
    | .backingOff =>
        match state.backoff.nextDuration clock with
        | .error _ => counted.panics
        | .ok (_, backoff) => { counted with backoff := backoff }
    | _ => counted

/-- One step; the clock is read where `next_duration` draws its jitter. -/
def step [DecidableEq α] (overflowChecks : Bool) (config : TcpClientConfig α)
    (state : ReconnectingClient α) (input : TcpInput α) (clock : SubsecNanos) :
    ReconnectingClient α × List (TcpEffect α) :=
  let (client, effects) := state.client.step config input
  match input, state.client.controller, state.client.mode with
  | .controller .proceeds, .waiting, .reconnect =>
      (state.reconnect overflowChecks config clock, [])
  | .controller .proceeds, .spawned _, _ =>
      ({ state with client := client, backoff := state.backoff.reset }, effects)
  | _, _, _ => ({ state with client := client }, effects)

/-- A client whose `connect` has returned, with the backoff it has made. -/
def connect (config : TcpClientConfig α) (backoff : ExponentialBackoff) :
    ReconnectingClient α where
  client := .connect config
  backoff := backoff

/-- The tasks of a client, with the backoff of its controller. -/
def machine [DecidableEq α] (overflowChecks : Bool) (config : TcpClientConfig α)
    (backoff : ExponentialBackoff) :
    Machine (ReconnectingClient α) (TcpInput α × SubsecNanos) (TcpEffect α) where
  init := connect config backoff
  step state input := state.step overflowChecks config input.1 input.2

/-- The controller is about to begin `reconnect`. -/
def Reconnects (state : ReconnectingClient α) (input : TcpInput α) : Prop :=
  input = .controller .proceeds ∧ state.client.controller = .waiting ∧
    state.client.mode = .reconnect

/-- What one step does: it is one of the client, or `reconnect` panics. -/
inductive StepCase [DecidableEq α] (overflowChecks : Bool) (config : TcpClientConfig α)
    (state : ReconnectingClient α) (input : TcpInput α) (clock : SubsecNanos) :
    ReconnectingClient α → Prop where
  | moves (backoff : ExponentialBackoff)
      (room : overflowChecks = true → state.Reconnects input →
        state.client.reconnectAttemptCount ≠ 4294967295)
      (asked : backoff = state.backoff ∨ backoff = state.backoff.reset ∨
        ∃ delay, state.backoff.nextDuration clock = .ok (delay, backoff)) :
      StepCase overflowChecks config state input clock
        ⟨(TcpClient.machine config).next state.client input, backoff, state.panicked⟩
  | panics (begins : state.Reconnects input) (count : UInt32)
      (cause : (overflowChecks = true ∧ state.client.reconnectAttemptCount = 4294967295) ∨
        ∃ panic, state.backoff.nextDuration clock = .error panic) :
      StepCase overflowChecks config state input clock
        ⟨{ state.client with controller := .finished, reconnectAttemptCount := count },
          state.backoff, true⟩

variable [DecidableEq α] {overflowChecks : Bool} {config : TcpClientConfig α}
  {state : ReconnectingClient α} {clock : SubsecNanos}

/-- `reconnect` panics, or it does what it does to the client. -/
theorem reconnect_case (begins : state.Reconnects (.controller .proceeds)) :
    StepCase overflowChecks config state (.controller .proceeds) clock
      (state.reconnect overflowChecks config clock) := by
  have next : (TcpClient.machine config).next state.client (.controller .proceeds) =
      state.client.reconnect config := by
    simp [Machine.next, TcpClient.machine, TcpClient.step, TcpClient.controllerStep,
      begins.2.1, begins.2.2]
  unfold reconnect
  split
  · next overflows =>
      rw [Bool.and_eq_true, decide_eq_true_eq] at overflows
      exact .panics begins state.client.reconnectAttemptCount (.inl overflows)
  · next fits =>
      have room : overflowChecks = true → state.Reconnects (.controller .proceeds) →
          state.client.reconnectAttemptCount ≠ 4294967295 := by
        intro checks _ greatest
        simp [checks, greatest] at fits
      rw [← next]
      simp only
      split
      · split
        · next panic asked =>
            rw [next]
            exact .panics begins _ (.inr ⟨panic, asked⟩)
        · next delay backoff asked =>
            exact .moves backoff room (.inr (.inr ⟨delay, asked⟩))
      · exact .moves state.backoff room (.inl rfl)

/-- Every step is one of the cases. -/
theorem step_case (overflowChecks : Bool) (config : TcpClientConfig α)
    (start : ExponentialBackoff) (state : ReconnectingClient α)
    (input : TcpInput α × SubsecNanos) :
    StepCase overflowChecks config state input.1 input.2
      ((machine overflowChecks config start).next state input) := by
  rcases input with ⟨input, clock⟩
  by_cases begins : state.Reconnects input
  · have stepped : (machine overflowChecks config start).next state (input, clock) =
        state.reconnect overflowChecks config clock := by
      simp [Machine.next, machine, step, begins.1, begins.2.1, begins.2.2]
    rw [stepped]
    rcases begins with ⟨rfl, stage⟩
    exact reconnect_case ⟨rfl, stage⟩
  · have room : overflowChecks = true → state.Reconnects input →
        state.client.reconnectAttemptCount ≠ 4294967295 := fun _ now => absurd now begins
    simp only [Machine.next, machine, step]
    split
    · next waiting mode => exact absurd ⟨rfl, waiting, mode⟩ begins
    · exact .moves state.backoff.reset room (.inr (.inl rfl))
    · exact .moves state.backoff room (.inl rfl)

end ReconnectingClient

/-! ## What the count says -/

/-- The attempt that is counted but not begun. -/
def ControllerStage.announced {α : Type} : ControllerStage α → Nat
  | .backingOff | .givingUp => 1
  | _ => 0

/-- The attempts begun since the last reconnection, after the controller has moved. -/
def ControllerStage.dials {α : Type} (dials : Nat) :
    ControllerStage α → ControllerStage α → Nat
  | .backingOff, .connecting => dials + 1
  | .spawned _, .activated _ => 0
  | _, _ => dials

@[simp] theorem ControllerStage.dials_self {α : Type} (dials : Nat)
    (stage : ControllerStage α) : ControllerStage.dials dials stage stage = dials := by
  cases stage <;> rfl

/-- The limits that hold: a count of 32 bits never exceeds `u32::MAX`, but where overflow is
checked its increment panics there. -/
def Enforced (overflowChecks : Bool) (max : UInt32) : Prop :=
  overflowChecks = true ∨ max ≠ 4294967295

namespace TcpClient

variable {α : Type}

/-- What the count of `reconnect` says about the attempts begun. -/
structure Attempts (overflowChecks : Bool) (config : TcpClientConfig α) (client : TcpClient α)
    (dials : Nat) : Prop where
  counted : client.controller ≠ .finished →
    client.reconnectAttemptCount = .ofNat (dials + client.controller.announced)
  fits : overflowChecks = true → client.controller ≠ .finished →
    dials + client.controller.announced < 4294967296
  bounded : ∀ max ∈ config.reconnectMaxAttempts, Enforced overflowChecks max →
    dials ≤ max.toNat
  room : client.controller = .backingOff →
    ∀ max ∈ config.reconnectMaxAttempts, Enforced overflowChecks max → dials < max.toNat
  spent : client.controller = .givingUp →
    ∃ max ∈ config.reconnectMaxAttempts, max ≠ 4294967295 ∧ dials = max.toNat

variable {overflowChecks : Bool} {config : TcpClientConfig α} {client : TcpClient α}
  {dials : Nat}

theorem attempts_connect : Attempts overflowChecks config (connect config) 0 where
  counted _ := rfl
  fits _ _ := by simp [connect, ControllerStage.announced]
  bounded max _ _ := Nat.zero_le max.toNat
  room := by simp [connect]
  spent := by simp [connect]

theorem Attempts.frame {next : TcpClient α}
    (attempts : Attempts overflowChecks config client dials)
    (controller : next.controller = client.controller)
    (count : next.reconnectAttemptCount = client.reconnectAttemptCount) :
    Attempts overflowChecks config next
      (ControllerStage.dials dials client.controller next.controller) := by
  rw [controller, ControllerStage.dials_self]
  exact {
    counted := by rw [controller, count]; exact attempts.counted
    fits := by rw [controller]; exact attempts.fits
    bounded := attempts.bounded
    room := by rw [controller]; exact attempts.room
    spent := by rw [controller]; exact attempts.spent }

/-- A move between stages that announce nothing. -/
theorem Attempts.moved {next : TcpClient α}
    (attempts : Attempts overflowChecks config client dials)
    (count : next.reconnectAttemptCount = client.reconnectAttemptCount)
    (same : ControllerStage.dials dials client.controller next.controller = dials)
    (running : client.controller ≠ .finished) (earlier : client.controller.announced = 0)
    (later : next.controller.announced = 0) :
    Attempts overflowChecks config next
      (ControllerStage.dials dials client.controller next.controller) := by
  rw [same]
  exact {
    counted := by rw [count, attempts.counted running, earlier, later]; intro; rfl
    fits := by
      intro checks _
      rw [later, ← earlier]
      exact attempts.fits checks running
    bounded := attempts.bounded
    room := by intro stage; rw [stage] at later; cases later
    spent := by intro stage; rw [stage] at later; cases later }

/-- A controller that is done attempts nothing more. -/
theorem Attempts.finished {next : TcpClient α}
    (attempts : Attempts overflowChecks config client dials)
    (stage : next.controller = .finished) :
    Attempts overflowChecks config next
      (ControllerStage.dials dials client.controller next.controller) := by
  have same : ControllerStage.dials dials client.controller .finished = dials := by
    cases client.controller <;> rfl
  rw [stage, same]
  exact {
    counted := fun running => absurd stage running
    fits := fun _ running => absurd stage running
    bounded := attempts.bounded
    room := by simp [stage]
    spent := by simp [stage] }

/-- The count of a waiting controller is that of the attempts begun, which has not come to
`u32::MAX` where overflow is checked. -/
theorem Attempts.fits_of_waiting (attempts : Attempts overflowChecks config client dials)
    (waiting : client.controller = .waiting) :
    client.reconnectAttemptCount = .ofNat dials ∧
      (overflowChecks = true → client.reconnectAttemptCount ≠ 4294967295 →
        dials + 1 < 4294967296) := by
  have count : client.reconnectAttemptCount = .ofNat dials := by
    rw [attempts.counted (by simp [waiting]), waiting]
    rfl
  refine ⟨count, ?_⟩
  intro checks unspent
  have small := attempts.fits checks (by simp [waiting])
  rw [waiting] at small
  have small : dials < 4294967296 := small
  have spent : dials ≠ 4294967295 := by
    rintro rfl
    exact unspent count
  omega

/-- `reconnect` begins where an attempt is left, and gives up where none is. -/
theorem Attempts.reconnect (attempts : Attempts overflowChecks config client dials)
    (waiting : client.controller = .waiting)
    (unspent : overflowChecks = true → client.reconnectAttemptCount ≠ 4294967295) :
    Attempts overflowChecks config (client.reconnect config)
      (ControllerStage.dials dials client.controller (client.reconnect config).controller) := by
  rcases attempts.fits_of_waiting waiting with ⟨count, fits⟩
  have count : client.reconnectAttemptCount + 1 = .ofNat (dials + 1) := by
    rw [count, UInt32.ofNat_add]
    rfl
  have counts : (UInt32.ofNat (dials + 1)).toNat = (dials + 1) % 4294967296 :=
    UInt32.toNat_ofNat'
  -- below `u32::MAX`, or where overflow is checked, the next count has not wrapped
  have unwrapped : ∀ max ∈ config.reconnectMaxAttempts, Enforced overflowChecks max →
      dials ≤ max.toNat ∧ dials + 1 < 4294967296 := by
    intro max limit enforced
    have within := attempts.bounded max limit enforced
    refine ⟨within, ?_⟩
    rcases enforced with checks | small
    · exact fits checks (unspent checks)
    · have below := max.toNat_lt
      have other : max.toNat ≠ 4294967295 := fun same => small (UInt32.toNat_inj.mp same)
      omega
  have same : ControllerStage.dials dials client.controller
      (client.reconnect config).controller = dials := by
    rw [waiting]
    rfl
  have announces : (client.reconnect config).controller.announced = 1 := by
    rw [TcpClient.reconnect]
    split <;> rfl
  rw [same]
  refine {
    counted := fun _ => by rw [announces]; exact count
    fits := fun checks _ => by rw [announces]; exact fits checks (unspent checks)
    bounded := attempts.bounded
    room := ?_
    spent := ?_ }
  · intro stage max limit enforced
    have kept : ¬ max < .ofNat (dials + 1) := by
      simpa [TcpClient.reconnect, count, Option.mem_def.mp limit] using stage
    rw [UInt32.lt_iff_toNat_lt, counts] at kept
    have unwrapped := unwrapped max limit enforced
    omega
  · intro stage
    cases limit : config.reconnectMaxAttempts with
    | none => simp [TcpClient.reconnect, limit] at stage
    | some max =>
        have exceeded : max < .ofNat (dials + 1) := by
          simpa [TcpClient.reconnect, count, limit] using stage
        rw [UInt32.lt_iff_toNat_lt, counts] at exceeded
        have small : max ≠ 4294967295 := by
          rintro rfl
          have greatest : (4294967295 : UInt32).toNat = 4294967295 := rfl
          omega
        have unwrapped := unwrapped max limit (.inr small)
        exact ⟨max, rfl, small, by omega⟩

variable [DecidableEq α]

/-- A step keeps the count, unless it overflows. -/
theorem attempts_next (attempts : Attempts overflowChecks config client dials)
    (input : TcpInput α)
    (unspent : overflowChecks = true → input = .controller .proceeds →
      client.controller = .waiting → client.mode = .reconnect →
      client.reconnectAttemptCount ≠ 4294967295) :
    Attempts overflowChecks config ((machine config).next client input)
      (ControllerStage.dials dials client.controller
        ((machine config).next client input).controller) := by
  have stepped := step_case config client input
  generalize (machine config).next client input = next at stepped ⊢
  generalize (machine config).emits client input = effects at stepped
  cases stepped with
  | seesDisconnect stage | connectFails stage =>
      exact attempts.moved rfl (by rw [stage]; rfl) (by simp [stage]) (by rw [stage]; rfl) rfl
  | aborts stage =>
      exact attempts.moved rfl (by rw [stage]; rfl) (by simp [stage]) (by rw [stage]; rfl) rfl
  | connects stage =>
      exact attempts.moved rfl (by rw [stage]; rfl) (by simp [stage]) (by rw [stage]; rfl) rfl
  | sendsUpdate _ stage | updateRefused _ stage | acknowledges _ stage | spawns _ stage
  | locks _ stage | replays _ _ stage | replayed _ stage =>
      exact attempts.moved rfl (by rw [stage]; rfl) (by simp [stage]) (by rw [stage]; rfl) rfl
  | seesReconnect waiting mode =>
      exact attempts.reconnect waiting fun checks => unspent checks rfl waiting mode
  | slept stage =>
      have begun : ControllerStage.dials dials client.controller
          (client.controllerAt .connecting).controller = dials + 1 := by
        rw [stage]
        rfl
      have running : client.controller ≠ .finished := by simp [stage]
      have counted := attempts.counted running
      have fits := attempts.fits
      rw [stage] at counted fits
      rw [begun]
      exact {
        counted := fun _ => counted
        fits := fun checks _ => fits checks (by simp)
        bounded := attempts.room stage
        room := by simp [controllerAt]
        spent := by simp [controllerAt] }
  | activates connection stage =>
      have reset : ControllerStage.dials dials client.controller (.activated connection) = 0 := by
        rw [stage]
        rfl
      simp only [store, controllerAt, reset]
      exact {
        counted := fun _ => rfl
        fits := fun _ _ => by simp [ControllerStage.announced]
        bounded := fun max _ _ => Nat.zero_le max.toNat
        room := by simp
        spent := by simp }
  | storesClosed | controllerCancelled => exact attempts.finished rfl
  | detachedMoves number event task found =>
      generalize (task.step client.mode event).2 = mode
      cases mode <;> exact attempts.frame rfl rfl
  | _ => exact attempts.frame rfl rfl

/-! ## Clients that close themselves -/

/-- Only a call of `close` aborts the controller. -/
theorem controllerAborted_next (uncalled : client.closers = []) (input : TcpInput α) :
    ((machine config).next client input).controllerAborted = client.controllerAborted := by
  cases input with
  | controller event =>
      simp only [Machine.next, machine, step, controllerStep]
      repeat' split
      all_goals rfl
  | closer number event =>
      simp only [Machine.next, machine, step, uncalled, List.getElem?_nil]
  | writeTask event =>
      simp only [Machine.next, machine, step, writeStep]
      repeat' split
      all_goals rfl
  | sender number event =>
      simp only [Machine.next, machine, step, senderStep]
      repeat' split
      all_goals rfl
  | heartbeat event =>
      simp only [Machine.next, machine, step, heartbeatStep]
      repeat' split
      all_goals rfl
  | readTask event =>
      simp only [Machine.next, machine, step]
      generalize (client.readTask.step client.mode event).2 = mode
      cases mode <;> rfl
  | detached number event =>
      simp only [Machine.next, machine, step]
      split
      · rfl
      · next task found =>
          generalize (task.step client.mode event).2 = mode
          cases mode <;> rfl
  | sendBytes | close | setReconnectPayloads => rfl

/-- A controller that has ended stays so. -/
theorem finished_next (ended : client.controller = .finished) (input : TcpInput α) :
    ((machine config).next client input).controller = .finished := by
  have stepped := step_case config client input
  generalize (machine config).next client input = next at stepped ⊢
  generalize (machine config).emits client input = effects at stepped
  cases stepped with
  | storesClosed | controllerCancelled => rfl
  | seesDisconnect stage | seesReconnect stage | aborts stage | slept stage | connects stage
  | connectFails stage | sendsUpdate _ stage | updateRefused _ stage | acknowledges _ stage
  | spawns _ stage | activates _ stage | locks _ stage | replays _ _ stage
  | replayed _ stage =>
      rw [ended] at stage
      cases stage
  | detachedMoves number event task =>
      generalize (task.step client.mode event).2 = mode
      cases mode <;> exact ended
  | _ => exact ended

/-- What holds of a controller that has ended, where nobody has called `close`: it has given
up, or `reconnect` has panicked. -/
structure GaveUp (config : TcpClientConfig α) (client : TcpClient α) (panicked : Bool)
    (dials : Nat) : Prop where
  unaborted : client.controllerAborted = false
  closed : client.controller = .finished → panicked = false → client.mode = .closed
  spent : client.controller = .finished → panicked = false →
    ∃ max ∈ config.reconnectMaxAttempts, max ≠ 4294967295 ∧ dials = max.toNat
  signalled : panicked = true → client.controller = .finished ∧ client.mode = .reconnect

theorem gaveUp_next {panicked : Bool} (sound : client.TasksSound) (uncalled : client.Uncalled)
    (attempts : Attempts overflowChecks config client dials)
    (gaveUp : GaveUp config client panicked dials) {input : TcpInput α}
    (notClose : input ≠ .close) :
    GaveUp config ((machine config).next client input) panicked
      (ControllerStage.dials dials client.controller
        ((machine config).next client input).controller) := by
  have unaborted : ((machine config).next client input).controllerAborted = false :=
    (controllerAborted_next uncalled.closers input).trans gaveUp.unaborted
  have stepped := step_case config client input
  generalize (machine config).next client input = next at stepped unaborted ⊢
  generalize (machine config).emits client input = effects at stepped
  have frame : next.controller = client.controller → next.mode = client.mode →
      GaveUp config next panicked
        (ControllerStage.dials dials client.controller next.controller) := by
    intro controller mode
    rw [controller, ControllerStage.dials_self]
    exact ⟨unaborted, by rw [controller, mode]; exact gaveUp.closed,
      by rw [controller]; exact gaveUp.spent, by rw [controller, mode]; exact gaveUp.signalled⟩
  have running : client.controller ≠ .finished → next.controller ≠ .finished →
      GaveUp config next panicked
        (ControllerStage.dials dials client.controller next.controller) := by
    intro ran goesOn
    exact ⟨unaborted, fun ended => absurd ended goesOn, fun ended => absurd ended goesOn,
      fun panicked => absurd (gaveUp.signalled panicked).1 ran⟩
  cases stepped with
  | storesClosed ending =>
      rcases ending with closing | givingUp
      · exact absurd closing uncalled.controller.2
      · refine ⟨unaborted, fun _ _ => rfl, fun _ _ => ?_, fun panicked => ?_⟩
        · rw [givingUp]
          exact attempts.spent givingUp
        · rw [(gaveUp.signalled panicked).1] at givingUp
          cases givingUp
  | controllerCancelled aborted =>
      rw [gaveUp.unaborted] at aborted
      cases aborted
  | detachedMoves number event task found =>
      rw [ReadTask.step_of_finished (sound.detached task (List.mem_of_getElem? found))] at frame ⊢
      exact frame rfl rfl
  | readSignals armed =>
      have open' : client.controller = .finished → panicked ≠ false := by
        intro ended returned
        have finished := (uncalled.ended (gaveUp.closed ended returned)).2
        rw [armed] at finished
        cases finished
      exact ⟨unaborted, fun ended returned => absurd returned (open' ended),
        fun ended returned => absurd returned (open' ended),
        fun panicked => ⟨(gaveUp.signalled panicked).1, rfl⟩⟩
  | closes => exact absurd rfl notClose
  | closesLate number found =>
      rw [uncalled.closers] at found
      cases found
  | stays | around | sent | readEnds | readCancelled | readSeesActive | readSeesOther
  | takesUpdate | takesSend | checksActive | checksOther | writes | flushes | writeFails
  | writeCancelled => exact frame rfl rfl
  | seesReconnect stage =>
      apply running (by simp [stage])
      rw [reconnect]
      split <;> simp
  | seesDisconnect stage | slept stage | connects stage | connectFails stage
  | sendsUpdate _ stage | updateRefused _ stage | acknowledges _ stage | spawns _ stage
  | activates _ stage | locks _ stage | replays _ _ stage | replayed _ stage =>
      exact running (by simp [stage]) (by simp [controllerAt])
  | aborts stage => exact absurd stage uncalled.controller.1

end TcpClient

namespace ReconnectingClient

variable {α : Type} [DecidableEq α]

/-- The attempts begun since the last reconnection, after a step. -/
def dialled (overflowChecks : Bool) (config : TcpClientConfig α) (start : ExponentialBackoff)
    (dials : Nat) (state : ReconnectingClient α) (input : TcpInput α × SubsecNanos) : Nat :=
  ControllerStage.dials dials state.client.controller
    ((machine overflowChecks config start).next state input).client.controller

/-- What holds of the count and the backoff in every run. -/
structure Counts (overflowChecks : Bool) (config : TcpClientConfig α)
    (start : ExponentialBackoff) (state : ReconnectingClient α) (dials : Nat) : Prop where
  attempts : TcpClient.Attempts overflowChecks config state.client dials
  asked : ∃ calls, start.machine.runFrom (.ok start) calls = .ok state.backoff
  ended : state.panicked = true → state.client.controller = .finished
  cause : state.panicked = true →
    (∃ calls panic, start.machine.runFrom (.ok start) calls = .error panic) ∨
      (overflowChecks = true ∧ dials = 4294967295)

variable {overflowChecks : Bool} {config : TcpClientConfig α} {start : ExponentialBackoff}
  {state : ReconnectingClient α} {dials : Nat}

omit [DecidableEq α] in
theorem counts_connect : Counts overflowChecks config start (connect config start) 0 where
  attempts := TcpClient.attempts_connect
  asked := ⟨[], rfl⟩
  ended := by simp [connect]
  cause := by simp [connect]

theorem counts_next (counts : Counts overflowChecks config start state dials)
    (input : TcpInput α × SubsecNanos) :
    Counts overflowChecks config start ((machine overflowChecks config start).next state input)
      (dialled overflowChecks config start dials state input) := by
  have stepped := step_case overflowChecks config start state input
  rw [dialled]
  generalize (machine overflowChecks config start).next state input = next at stepped ⊢
  rcases counts.asked with ⟨calls, asked⟩
  cases stepped with
  | moves backoff room moved =>
      have unspent : overflowChecks = true → input.1 = .controller .proceeds →
          state.client.controller = .waiting → state.client.mode = .reconnect →
          state.client.reconnectAttemptCount ≠ 4294967295 :=
        fun checks now waiting mode => room checks ⟨now, waiting, mode⟩
      refine {
        attempts := TcpClient.attempts_next counts.attempts input.1 unspent
        asked := ?_
        ended := fun panicked => TcpClient.finished_next (counts.ended panicked) input.1
        cause := ?_ }
      · rcases moved with rfl | rfl | ⟨delay, returned⟩
        · exact ⟨calls, asked⟩
        · refine ⟨calls ++ [.reset], ?_⟩
          rw [Machine.runFrom_append, asked]
          rfl
        · refine ⟨calls ++ [.nextDuration input.2], ?_⟩
          rw [Machine.runFrom_append, asked]
          simp [Machine.runFrom, Machine.next, ExponentialBackoff.machine, returned]
      · intro panicked
        have ended := counts.ended panicked
        simp only [TcpClient.finished_next ended, ended, ControllerStage.dials_self]
        exact counts.cause panicked
  | panics begins count cause =>
      refine {
        attempts := counts.attempts.finished rfl
        asked := ⟨calls, asked⟩
        ended := fun _ => rfl
        cause := fun _ => ?_ }
      rcases cause with ⟨checks, greatest⟩ | ⟨panic, panicked⟩
      · refine .inr ⟨checks, ?_⟩
        have count := (counts.attempts.fits_of_waiting begins.2.1).1
        have fits := counts.attempts.fits checks (by simp [begins.2.1])
        rw [begins.2.1] at fits ⊢
        have fits : dials < 4294967296 := fits
        rw [count, ← UInt32.toNat_inj, UInt32.toNat_ofNat_of_lt' fits] at greatest
        exact greatest
      · refine .inl ⟨calls ++ [.nextDuration input.2], panic, ?_⟩
        rw [Machine.runFrom_append, asked]
        simp [Machine.runFrom, Machine.next, ExponentialBackoff.machine, panicked]

/-- A run of the tasks, with the attempts counted. -/
def counting (overflowChecks : Bool) (config : TcpClientConfig α) (start : ExponentialBackoff)
    (inputs : List (TcpInput α × SubsecNanos)) : ReconnectingClient α × Nat :=
  ((machine overflowChecks config start).observe 0 (dialled overflowChecks config start)).runFrom
    (connect config start, 0) inputs

theorem counts_runFrom (inputs : List (TcpInput α × SubsecNanos)) :
    let counted := counting overflowChecks config start inputs
    Counts overflowChecks config start counted.1 counted.2 := by
  have preserved : ∀ (counted : ReconnectingClient α × Nat) (input : TcpInput α × SubsecNanos),
      Counts overflowChecks config start counted.1 counted.2 →
      Counts overflowChecks config start
        ((machine overflowChecks config start).next counted.1 input)
        (dialled overflowChecks config start counted.2 counted.1 input) :=
    fun _ input counts => counts_next counts input
  exact ((machine overflowChecks config start).observe 0
    (dialled overflowChecks config start)).invariant_runFrom preserved counts_connect inputs

/-! ## Runs in which nobody calls `close` -/

omit [DecidableEq α] in
/-- A panic of `reconnect` leaves the tasks as they were. -/
theorem tasksSound_panics {client : TcpClient α} (sound : client.TasksSound)
    (waiting : client.controller = .waiting) (count : UInt32) :
    { client with controller := .finished, reconnectAttemptCount := count }.TasksSound := by
  have ended : (client.controllerAt .finished).TasksSound :=
    sound.controllerAt (by simp [ControllerStage.inReconnect])
      (by simp [ControllerStage.beforeSpawn, ControllerStage.inReconnect]) (by simp [waiting])
      (by simp) (by simp) (fun _ => rfl)
  exact ended.frame rfl rfl rfl rfl rfl

/-- What holds of such a run. -/
structure Unclosed (overflowChecks : Bool) (config : TcpClientConfig α)
    (start : ExponentialBackoff) (state : ReconnectingClient α) (dials : Nat) : Prop where
  counts : Counts overflowChecks config start state dials
  sound : state.client.TasksSound
  uncalled : state.client.Uncalled
  gaveUp : TcpClient.GaveUp config state.client state.panicked dials

omit [DecidableEq α] in
theorem unclosed_connect :
    Unclosed overflowChecks config start (connect config start) 0 where
  counts := counts_connect
  sound := TcpClient.tasksSound_connect config
  uncalled := ⟨rfl, by simp [connect, TcpClient.connect], by simp [connect, TcpClient.connect],
    rfl, by simp [connect, TcpClient.connect]⟩
  gaveUp := ⟨rfl, by simp [connect, TcpClient.connect], by simp [connect, TcpClient.connect],
    by simp [connect]⟩

theorem unclosed_next (unclosed : Unclosed overflowChecks config start state dials)
    {input : TcpInput α × SubsecNanos} (notClose : input.1 ≠ .close) :
    Unclosed overflowChecks config start
      ((machine overflowChecks config start).next state input)
      (dialled overflowChecks config start dials state input) := by
  have counts := counts_next unclosed.counts input
  have stepped := step_case overflowChecks config start state input
  rw [dialled] at counts ⊢
  generalize (machine overflowChecks config start).next state input = next at stepped counts ⊢
  cases stepped with
  | moves backoff =>
      exact {
        counts := counts
        sound := TcpClient.tasksSound_next unclosed.sound input.1
        uncalled := TcpClient.uncalled_next config unclosed.sound unclosed.uncalled notClose
        gaveUp := TcpClient.gaveUp_next unclosed.sound unclosed.uncalled
          unclosed.counts.attempts unclosed.gaveUp notClose }
  | panics begins count =>
      have ended : (state.client.controllerAt .finished).Uncalled :=
        unclosed.uncalled.controllerAt (by simp) (by simp [begins.2.1])
      exact {
        counts := counts
        sound := tasksSound_panics unclosed.sound begins.2.1 count
        uncalled := ended.frame rfl rfl rfl rfl id
        gaveUp := ⟨unclosed.gaveUp.unaborted, by simp, by simp, fun _ => ⟨rfl, begins.2.2⟩⟩ }

theorem unclosed_runFrom {inputs : List (TcpInput α × SubsecNanos)}
    (notClosed : .close ∉ inputs.map Prod.fst) :
    let counted := counting overflowChecks config start inputs
    Unclosed overflowChecks config start counted.1 counted.2 := by
  have admissible : ∀ input ∈ inputs, input.1 ≠ .close := by
    intro input member close
    exact notClosed (close ▸ List.mem_map_of_mem member)
  have preserved : ∀ (counted : ReconnectingClient α × Nat) (input : TcpInput α × SubsecNanos),
      Unclosed overflowChecks config start counted.1 counted.2 →
      input.1 ≠ .close ∧ True →
      Unclosed overflowChecks config start
        ((machine overflowChecks config start).next counted.1 input)
        (dialled overflowChecks config start counted.2 counted.1 input) :=
    fun _ _ unclosed admitted => unclosed_next unclosed admitted.1
  let observed := (machine overflowChecks config start).observe 0
    (dialled overflowChecks config start)
  have every := observed.always_of_forall (fun _ _ => trivial) (connect config start, 0) inputs
  have kept := observed.throughout_of_always preserved (fun _ unclosed => unclosed)
    unclosed_connect (Machine.always_and_of_mem _ admissible every)
  exact kept.runFrom

/-- As long as `reconnect` has not panicked, the client is that of its tasks alone. -/
def Undisturbed (config : TcpClientConfig α) (state : ReconnectingClient α)
    (history : List (TcpInput α × SubsecNanos)) : Prop :=
  state.panicked = false → state.client =
    (TcpClient.machine config).runFrom (.connect config) (history.map Prod.fst)

theorem undisturbed_next {history : List (TcpInput α × SubsecNanos)}
    (undisturbed : Undisturbed config state history) (input : TcpInput α × SubsecNanos) :
    Undisturbed config ((machine overflowChecks config start).next state input)
      (history ++ [input]) := by
  have stepped := step_case overflowChecks config start state input
  generalize (machine overflowChecks config start).next state input = next at stepped ⊢
  intro returned
  cases stepped with
  | moves backoff =>
      rw [List.map_append, Machine.runFrom_append, ← undisturbed returned]
      rfl
  | panics => cases returned

theorem undisturbed_runFrom (inputs : List (TcpInput α × SubsecNanos)) :
    Undisturbed config (counting overflowChecks config start inputs).1 inputs := by
  have uncounted := ((machine overflowChecks config start).observe 0
    (dialled overflowChecks config start)).map_runFrom (machine overflowChecks config start)
      Prod.fst id (fun _ _ => rfl) (connect config start, 0) inputs
  rw [counting, uncounted, List.map_id]
  have preserved : ∀ state history input, Undisturbed config state history →
      Undisturbed config ((machine overflowChecks config start).next state input)
        (history ++ [input]) :=
    fun _ _ input undisturbed => undisturbed_next undisturbed input
  have initial : Undisturbed config (connect config start) [] := fun _ => rfl
  exact (machine overflowChecks config start).invariant_inputs preserved initial inputs

/-- In every run the attempts begun since the last reconnection are at most
`reconnect_max_attempts`, where that is less than `u32::MAX` or overflow is checked.  Unless
somebody calls `close`, the mode is `Closed` exactly when the controller has ended without a
panic, and it has ended so only after all of them; a panic leaves the mode at `Reconnect`.
Only a jitter of `u64::MAX`, or the count at `u32::MAX`, makes `reconnect` panic, and up to
then the client is that of its tasks alone. -/
theorem reconnect_attempts_bounded (overflowChecks : Bool) (config : TcpClientConfig α)
    {delays : ReconnectConfig} {start : ExponentialBackoff}
    (accepted : delays.backoff = .ok start) (inputs : List (TcpInput α × SubsecNanos)) :
    let counted := counting overflowChecks config start inputs
    (∀ max ∈ config.reconnectMaxAttempts, Enforced overflowChecks max →
      counted.2 ≤ max.toNat) ∧
    (.close ∉ inputs.map Prod.fst →
      (counted.1.client.mode = .closed ↔
        counted.1.client.controller = .finished ∧ counted.1.panicked = false) ∧
      (counted.1.client.mode = .closed →
        ∃ max ∈ config.reconnectMaxAttempts, max ≠ 4294967295 ∧ counted.2 = max.toNat) ∧
      (counted.1.panicked = true → counted.1.client.mode = .reconnect)) ∧
    (counted.1.panicked = true →
      counted.1.client.controller = .finished ∧
        (delays.reconnectJitterMs.getD 250 = 18446744073709551615 ∨
          (overflowChecks = true ∧ counted.2 = 4294967295))) ∧
    (counted.1.panicked = false →
      counted.1.client =
        (TcpClient.machine config).runFrom (.connect config) (inputs.map Prod.fst)) := by
  intro counted
  have counts : Counts overflowChecks config start counted.1 counted.2 := counts_runFrom inputs
  refine ⟨counts.attempts.bounded, ?_, ?_, undisturbed_runFrom inputs⟩
  · intro notClosed
    have unclosed : Unclosed overflowChecks config start counted.1 counted.2 :=
      unclosed_runFrom notClosed
    have ended : counted.1.client.mode = .closed →
        counted.1.client.controller = .finished ∧ counted.1.panicked = false := by
      intro closed
      refine ⟨(unclosed.uncalled.ended closed).1, eq_false_of_ne_true ?_⟩
      intro panicked
      have signalled := (unclosed.gaveUp.signalled panicked).2
      rw [closed] at signalled
      cases signalled
    refine ⟨⟨ended, fun ended => unclosed.gaveUp.closed ended.1 ended.2⟩, ?_, ?_⟩
    · intro closed
      exact unclosed.gaveUp.spent (ended closed).1 (ended closed).2
    · exact fun panicked => (unclosed.gaveUp.signalled panicked).2
  · intro panicked
    refine ⟨counts.ended panicked, (counts.cause panicked).imp_left ?_⟩
    rintro ⟨calls, panic, panics⟩
    by_contra modulus
    rcases (connection_never_panics_iff accepted).mpr modulus calls with ⟨later, returns⟩
    rw [panics] at returns
    cases returns

/-- The connection ends, the one attempt that is allowed fails, and the controller gives up. -/
def oneAttemptFails : List (TcpInput (List UInt8) × SubsecNanos) :=
  [(.readTask .fails, none), (.readTask .proceeds, none), (.readTask .proceeds, none),
    (.controller .proceeds, some 7), (.controller .proceeds, none), (.controller .fails, none),
    (.controller .proceeds, none), (.controller .proceeds, none)]

theorem gives_up_after_one_attempt :
    ∃ max ∈ some (1 : UInt32), max ≠ 4294967295 ∧
      (counting true { reconnectMaxAttempts := some 1 } (.sample 250) oneAttemptFails).2 =
        max.toNat := by
  have accepted : ({} : ReconnectConfig).backoff = .ok (.sample 250) := by decide
  have bounded := reconnect_attempts_bounded true { reconnectMaxAttempts := some 1 } accepted
    oneAttemptFails
  exact (bounded.2.1 (by decide)).2.1 (by decide)

end ReconnectingClient

end CtpSystem
