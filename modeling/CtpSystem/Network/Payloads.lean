import CtpSystem.Library.Relay
import CtpSystem.Network.Replay

/-!
# What becomes of a payload

Callers of `send_bytes`, the heartbeat and the replay all feed the queue of the writer
task.  From there a payload is written once or lost; a call that reports an error has
enqueued nothing.
-/

namespace CtpSystem

open Reactive

/-- The payload a frame carries. -/
def TcpEffect.written {α : Type} : TcpEffect α → List α
  | .wrote _ payload => [payload]
  | .replays _ _ => []

/-- The call has returned `Ok` for the payload. -/
def Sender.accepts {α : Type} [DecidableEq α] (payload : α) (sender : Sender α) : Bool :=
  sender.payload = payload && sender.stage = .returned (.ok ())

namespace TcpClient

variable {α : Type}

/-- The payload a call of `send_bytes` enqueues. -/
def callEnqueues (client : TcpClient α) : TcpInput α → List α
  | .sender number .proceeds =>
      match client.senders[number]? with
      | some ⟨payload, .released⟩ => if client.channelOpen then [payload] else []
      | _ => []
  | _ => []

/-- The payload the client enqueues on its own: a heartbeat, or the next one of a replay. -/
def ownEnqueues (client : TcpClient α) : TcpInput α → List α
  | .heartbeat .proceeds =>
      match client.heartbeatTask with
      | some ⟨payload, .sawActive, _⟩ => if client.channelOpen then [payload] else []
      | _ => []
  | .controller .proceeds =>
      match client.controller with
      | .replaying (payload :: _) => if client.channelOpen then [payload] else []
      | _ => []
  | _ => []

/-- The payload a step enqueues. -/
def enqueues (client : TcpClient α) (input : TcpInput α) : List α :=
  client.callEnqueues input ++ client.ownEnqueues input

/-- A step loses no payload: the writer task finds the mode `Active` for the one it checks,
and does not end while there are others. -/
def KeepsPayload (client : TcpClient α) (input : TcpInput α) : Prop :=
  (∀ payload, client.writeTask.stage = .checking payload → input = .writeTask .proceeds →
    client.mode = .active) ∧
    (client.endsWriter input = true → client.pending = [])

/-! ## One step -/

theorem pending_enqueue (client : TcpClient α) (payload : α) :
    (client.enqueue (.send payload)).pending = client.pending ++ [payload] := by
  simp [pending, enqueue, WriterCommand.payload]

/-- The ways a step treats the payloads on their way to the network: all stay in order, the
next one is skipped, or the writer task ends and drops them all. -/
inductive PayloadCase (client : TcpClient α) (input : TcpInput α) :
    List α → List α → Prop where
  | kept (written pending : List α)
      (same : written ++ pending = client.pending ++ client.enqueues input)
      (keeps : client.KeepsPayload input) : PayloadCase client input written pending
  | skipped (payload : α) (rest : List α) (head : client.pending = payload :: rest)
      (silent : client.enqueues input = []) (loses : ¬client.KeepsPayload input) :
      PayloadCase client input [] rest
  | dropped (some : client.pending ≠ []) (silent : client.enqueues input = [])
      (loses : ¬client.KeepsPayload input) : PayloadCase client input [] []

section Step

variable (client : TcpClient α)

/-- A step of another task leaves the payloads, but for the one it enqueues. -/
theorem payloadCase_aside {input : TcpInput α} {pending : List α}
    (other : ∀ event, input ≠ .writeTask event)
    (same : pending = client.pending ++ client.enqueues input) :
    PayloadCase client input [] pending := by
  refine .kept [] pending same ⟨?_, ?_⟩
  · intro payload checking writes
    exact absurd writes (other _)
  · intro ends
    cases input with
    | writeTask event => exact absurd rfl (other event)
    | _ => cases ends

/-- A step of the writer task that keeps what is on its way. -/
theorem payloadCase_writes {event : TaskEvent} {written pending : List α}
    (same : written ++ pending = client.pending)
    (active : ∀ payload, client.writeTask.stage = .checking payload → event = .proceeds →
      client.mode = .active) (goesOn : client.endsWriter (.writeTask event) = false) :
    PayloadCase client (.writeTask event) written pending := by
  refine .kept written pending (same.trans (List.append_nil _).symm) ⟨?_, ?_⟩
  · intro payload checking proceeds
    exact active payload checking (TcpInput.writeTask.inj proceeds)
  · intro ends
    rw [goesOn] at ends
    cases ends

/-- A step that ends the writer task. -/
theorem payloadCase_ends {event : TaskEvent}
    (ends : client.endsWriter (.writeTask event) = true) :
    PayloadCase client (.writeTask event) [] client.writerEnds.pending := by
  have nothing : client.writerEnds.pending = [] := rfl
  rw [nothing]
  by_cases empty : client.pending = []
  · refine .kept [] [] (by rw [empty]; rfl) ⟨?_, fun _ => empty⟩
    rintro payload checking ⟨⟩
    cases ends
  · exact .dropped empty rfl fun keeps => empty (keeps.2 ends)

theorem payloadCase_writeTask (event : TaskEvent) :
    PayloadCase client (.writeTask event)
      ((client.writeStep event).2.flatMap TcpEffect.written)
      (client.writeStep event).1.pending := by
  have unchecked (other : ∀ payload, client.writeTask.stage ≠ .checking payload) :
      ∀ payload, client.writeTask.stage = .checking payload → event = .proceeds →
        client.mode = .active := by
    intro payload checking
    exact absurd checking (other payload)
  cases event with
  | cancelled =>
      have goesOn (spared : client.endsWriter (.writeTask .cancelled) = false) :
          PayloadCase client (.writeTask .cancelled) [] client.pending :=
        payloadCase_writes client rfl (by rintro payload checking ⟨⟩) spared
      cases stage : client.writeTask.stage with
      | receiving | writing | flushing =>
          simp only [writeStep, stage]
          split
          next aborted =>
            exact payloadCase_ends client (by simp [endsWriter, aborted, stage, WriteStage.awaits])
          next spared => exact goesOn (by simp [endsWriter, spared])
      | checking | finished =>
          simp only [writeStep, stage]
          exact goesOn (by simp [endsWriter, stage, WriteStage.awaits])
  | fails =>
      cases stage : client.writeTask.stage with
      | writing | flushing =>
          simp only [writeStep, stage]
          exact payloadCase_ends client (by simp [endsWriter, stage])
      | receiving | checking | finished =>
          simp only [writeStep, stage]
          exact payloadCase_writes client rfl (by rintro payload checking ⟨⟩)
            (by simp [endsWriter, stage])
  | proceeds =>
      cases stage : client.writeTask.stage with
      | receiving =>
          cases queued : client.queue with
          | nil =>
              simp only [writeStep, stage, queued]
              exact payloadCase_writes client rfl (unchecked (by simp [stage])) rfl
          | cons command rest =>
              cases command with
              | update connection =>
                  simp only [writeStep, stage, queued]
                  refine payloadCase_writes client ?_ (unchecked (by simp [stage])) rfl
                  simp only [pending, stage, queued]
                  rfl
              | send payload =>
                  simp only [writeStep, stage, queued]
                  refine payloadCase_writes client ?_ (unchecked (by simp [stage])) rfl
                  simp only [pending, stage, queued]
                  rfl
      | checking payload =>
          by_cases active : client.mode = .active
          · simp only [writeStep, stage, if_pos active]
            refine payloadCase_writes client ?_ (fun _ _ _ => active) rfl
            simp only [pending, stage]
            rfl
          · simp only [writeStep, stage, if_neg active]
            refine .skipped payload _ ?_ rfl fun keeps => active (keeps.1 payload stage rfl)
            simp only [pending, stage]
            rfl
      | writing payload =>
          simp only [writeStep, stage]
          refine payloadCase_writes client ?_ (unchecked (by simp [stage])) rfl
          simp only [pending, stage]
          rfl
      | flushing =>
          simp only [writeStep, stage]
          refine payloadCase_writes client ?_ (unchecked (by simp [stage])) rfl
          simp only [pending, stage]
          rfl
      | finished =>
          simp only [writeStep, stage]
          exact payloadCase_writes client rfl (unchecked (by simp [stage])) rfl

/-- A caller of `close` touches neither the payloads nor the calls of `send_bytes`. -/
theorem closerStep_frame (number : Nat) (stage : CloseStage) (event : TaskEvent) :
    (client.closerStep number stage event).pending = client.pending ∧
      (client.closerStep number stage event).senders = client.senders := by
  cases stage with
  | polling =>
      cases event with
      | proceeds =>
          simp only [closerStep]
          split <;> exact ⟨rfl, rfl⟩
      | fails | cancelled => exact ⟨rfl, rfl⟩
  | timedOut | returned => cases event <;> exact ⟨rfl, rfl⟩

variable [DecidableEq α] (config : TcpClientConfig α)

theorem payloadCase_sender (number : Nat) (event : TaskEvent) :
    PayloadCase client (.sender number event)
      (((machine config).emits client (.sender number event)).flatMap TcpEffect.written)
      ((machine config).next client (.sender number event)).pending := by
  cases found : client.senders[number]? with
  | none =>
      simp only [Machine.emits, Machine.next, machine, step, found]
      apply payloadCase_aside client (by simp)
      cases event <;> simp [enqueues, callEnqueues, ownEnqueues, found]
  | some sender =>
      simp only [Machine.emits, Machine.next, machine, step, found]
      apply payloadCase_aside client (by simp)
      rcases sender with ⟨payload, stage⟩
      cases event with
      | fails | cancelled =>
          cases stage <;> simp [enqueues, callEnqueues, ownEnqueues, senderStep] <;> rfl
      | proceeds =>
          cases stage with
          | released =>
              cases opened : client.channelOpen with
              | true =>
                  simp only [senderStep, opened, if_true, enqueues, callEnqueues, found,
                    ownEnqueues, List.append_nil]
                  exact pending_enqueue client payload
              | false =>
                  simp only [senderStep, opened, Bool.false_eq_true, if_false, enqueues,
                    callEnqueues, found, ownEnqueues, List.append_nil]
                  rfl
          | called | checked | waiting =>
              simp only [senderStep, enqueues, callEnqueues, found, ownEnqueues,
                List.append_nil]
              rfl
          | returned =>
              simp only [senderStep, enqueues, callEnqueues, found, ownEnqueues,
                List.append_nil]

theorem payloadCase_heartbeat (event : TaskEvent) :
    PayloadCase client (.heartbeat event)
      (((machine config).emits client (.heartbeat event)).flatMap TcpEffect.written)
      ((machine config).next client (.heartbeat event)).pending := by
  cases found : client.heartbeatTask with
  | none =>
      simp only [Machine.emits, Machine.next, machine, step, found]
      apply payloadCase_aside client (by simp)
      cases event <;> simp [enqueues, callEnqueues, ownEnqueues, found]
  | some task =>
      simp only [Machine.emits, Machine.next, machine, step, found]
      apply payloadCase_aside client (by simp)
      rcases task with ⟨payload, stage, aborted⟩
      cases event with
      | fails =>
          cases stage <;> simp [enqueues, callEnqueues, ownEnqueues, heartbeatStep]
      | cancelled =>
          cases stage <;> cases aborted <;>
            simp only [heartbeatStep, enqueues, callEnqueues, ownEnqueues, List.append_nil] <;>
            rfl
      | proceeds =>
          cases stage with
          | sawActive =>
              cases opened : client.channelOpen with
              | true =>
                  simp only [heartbeatStep, opened, if_true, enqueues, callEnqueues,
                    ownEnqueues, found, List.nil_append]
                  exact pending_enqueue client payload
              | false =>
                  simp only [heartbeatStep, opened, Bool.false_eq_true, if_false, enqueues,
                    callEnqueues, ownEnqueues, found, List.append_nil]
                  rfl
          | finished => simp [enqueues, callEnqueues, ownEnqueues, heartbeatStep, found]
          | ticking =>
              simp only [heartbeatStep, enqueues, callEnqueues, ownEnqueues, found,
                List.append_nil]
              split <;> rfl

/-- The controller writes nothing, and enqueues payloads in a replay only. -/
theorem controllerStep_payloads (event : TaskEvent) :
    (client.controllerStep config event).2.flatMap TcpEffect.written = [] ∧
      (client.controllerStep config event).1.pending =
        client.pending ++ client.ownEnqueues (.controller event) := by
  have kept (next : TcpClient α) (effects : List (TcpEffect α)) (own : List α)
      (silent : effects.flatMap TcpEffect.written = []) (same : next.pending = client.pending)
      (quiet : own = []) :
      effects.flatMap TcpEffect.written = [] ∧ next.pending = client.pending ++ own := by
    rw [quiet, same, List.append_nil]
    exact ⟨silent, rfl⟩
  cases event with
  | fails =>
      cases stage : client.controller with
      | replaying payloads =>
          cases payloads <;> (simp only [controllerStep, stage]; exact kept _ _ _ rfl rfl rfl)
      | _ =>
          simp only [controllerStep, stage]
          exact kept _ _ _ rfl rfl rfl
  | cancelled =>
      rw [controllerStep_cancelled]
      refine kept _ _ _ rfl ?_ rfl
      dsimp only
      split <;> rfl
  | proceeds =>
      cases stage : client.controller with
      | replaying payloads =>
          cases payloads with
          | nil =>
              simp only [controllerStep, ownEnqueues, stage]
              exact kept _ _ _ rfl rfl rfl
          | cons payload rest =>
              simp only [controllerStep, ownEnqueues, stage]
              cases opened : client.channelOpen with
              | true => exact ⟨rfl, pending_enqueue client payload⟩
              | false => exact kept _ _ _ rfl rfl rfl
      | waiting =>
          simp only [controllerStep, ownEnqueues, stage]
          cases client.mode <;> exact kept _ _ _ rfl rfl rfl
      | disconnecting =>
          simp only [controllerStep, ownEnqueues, stage]
          refine kept _ _ _ rfl ?_ rfl
          simp only [pending, controllerAt, abortTasks, (WriteTask.abort_frame _).1]
      | connected connection =>
          simp only [controllerStep, ownEnqueues, stage]
          cases client.channelOpen with
          | true =>
              refine kept _ _ _ rfl ?_ rfl
              simp [pending, controllerAt, enqueue, WriterCommand.payload]
          | false => exact kept _ _ _ rfl rfl rfl
      | awaitingAck connection =>
          simp only [controllerStep, ownEnqueues, stage]
          refine kept _ _ _ rfl ?_ rfl
          split <;> rfl
      | closing | backingOff | connecting | acknowledged | spawned | activated | givingUp
      | finished =>
          simp only [controllerStep, ownEnqueues, stage]
          exact kept _ _ _ rfl rfl rfl

/-- Every step is one of the cases. -/
theorem payload_case (input : TcpInput α) :
    PayloadCase client input
      (((machine config).emits client input).flatMap TcpEffect.written)
      ((machine config).next client input).pending := by
  cases input with
  | writeTask event => exact payloadCase_writeTask client event
  | sender number event => exact payloadCase_sender client config number event
  | heartbeat event => exact payloadCase_heartbeat client config event
  | controller event =>
      rcases controllerStep_payloads client config event with ⟨silent, same⟩
      simp only [Machine.emits, Machine.next, machine, step, silent]
      exact payloadCase_aside client (by simp) same
  | readTask event =>
      apply payloadCase_aside client (by simp)
      simp only [Machine.next, machine, step]
      cases (client.readTask.step client.mode event).2 <;> exact (List.append_nil _).symm
  | detached number event =>
      cases found : client.detached[number]? with
      | none =>
          simp only [Machine.emits, Machine.next, machine, step, found]
          exact payloadCase_aside client (by simp) (List.append_nil _).symm
      | some task =>
          simp only [Machine.emits, Machine.next, machine, step, found]
          apply payloadCase_aside client (by simp)
          cases (task.step client.mode event).2 <;> exact (List.append_nil _).symm
  | closer number event =>
      cases found : client.closers[number]? with
      | none =>
          simp only [Machine.emits, Machine.next, machine, step, found]
          exact payloadCase_aside client (by simp) (List.append_nil _).symm
      | some stage =>
          simp only [Machine.emits, Machine.next, machine, step, found]
          apply payloadCase_aside client (by simp)
          exact (closerStep_frame client number stage event).1.trans (List.append_nil _).symm
  | sendBytes payload => exact payloadCase_aside client (by simp) (List.append_nil _).symm
  | close => exact payloadCase_aside client (by simp) (List.append_nil _).symm
  | setReconnectPayloads payloads =>
      exact payloadCase_aside client (by simp) (List.append_nil _).symm

/-- The client is a relay of payloads. -/
theorem relay_payloads :
    Relay (machine config) (fun _ => True) enqueues pending TcpEffect.written where
  preserved _ _ _ := trivial
  passes client input _ := by
    have stepped := payload_case client config input
    generalize ((machine config).next client input).pending = after at stepped ⊢
    generalize ((machine config).emits client input).flatMap TcpEffect.written = written
      at stepped ⊢
    cases stepped with
    | kept _ _ same => rw [same]
    | skipped payload rest head silent =>
        rw [head, silent, List.append_nil]
        exact List.sublist_cons_self payload _
    | dropped => exact List.nil_sublist _

/-- A step relays all exactly when it loses no payload. -/
theorem relays_all_iff (input : TcpInput α) :
    ((machine config).emits client input).flatMap TcpEffect.written ++
        ((machine config).next client input).pending =
          client.pending ++ client.enqueues input ↔
      client.KeepsPayload input := by
  have stepped := payload_case client config input
  generalize ((machine config).next client input).pending = after at stepped ⊢
  generalize ((machine config).emits client input).flatMap TcpEffect.written = written
    at stepped ⊢
  cases stepped with
  | kept _ _ same keeps => exact iff_of_true same keeps
  | skipped payload rest head silent loses =>
      refine iff_of_false ?_ loses
      simp [head, silent]
  | dropped some silent loses =>
      refine iff_of_false ?_ loses
      simpa [silent] using Ne.symm some

/-! ## Calls that return `Ok` -/

/-- Only callers, the heartbeat and `set_reconnect_payloads` touch the calls. -/
theorem senders_next {input : TcpInput α} (inside : input.isAround = false) :
    ((machine config).next client input).senders = client.senders := by
  have stepped := step_case config client input
  generalize (machine config).next client input = next at stepped ⊢
  generalize (machine config).emits client input = effects at stepped
  cases stepped with
  | around _ outside =>
      rw [inside] at outside
      cases outside
  | sent _ offered =>
      cases input with
      | sender | heartbeat => cases inside
      | _ => cases offered
  | detachedMoves _ _ task => cases (task.step client.mode _).2 <;> rfl
  | _ => rfl

/-- What another stage of a call does to the number of calls that returned `Ok`. -/
theorem accepts_senderAt {number : Nat} {sender : Sender α}
    (found : client.senders[number]? = some sender) (payload : α) {stage : SendStage}
    (unreturned : sender.accepts payload = false) :
    (client.senderAt number sender stage).senders.countP (Sender.accepts payload) =
      client.senders.countP (Sender.accepts payload) +
        if ({ sender with stage := stage } : Sender α).accepts payload then 1 else 0 := by
  rcases List.getElem?_eq_some_iff.mp found with ⟨inside, same⟩
  rw [senderAt, List.countP_set inside, same, unreturned]
  rfl

/-- A call returns `Ok` in the step that enqueues its payload, and in no other. -/
theorem accepts_sender (payload : α) (number : Nat) (event : TaskEvent) :
    ((machine config).next client (.sender number event)).senders.countP
        (Sender.accepts payload) =
      client.senders.countP (Sender.accepts payload) +
        (client.callEnqueues (.sender number event)).count payload := by
  cases found : client.senders[number]? with
  | none =>
      simp only [Machine.next, machine, step, found]
      cases event <;> simp [callEnqueues, found]
  | some sender =>
      simp only [Machine.next, machine, step, found]
      rcases sender with ⟨sent, stage⟩
      have silent (result : SendStage) (failed : result ≠ .returned (.ok ()))
          (unreturned : stage ≠ .returned (.ok ())) :
          (client.senderAt number ⟨sent, stage⟩ result).senders.countP
              (Sender.accepts payload) =
            client.senders.countP (Sender.accepts payload) + 0 := by
        rw [accepts_senderAt client found payload (by simp [Sender.accepts, unreturned])]
        simp [Sender.accepts, failed]
      cases event with
      | cancelled => cases stage <;> simp [senderStep, callEnqueues]
      | fails =>
          cases stage with
          | waiting =>
              simp only [senderStep, callEnqueues, List.count_nil]
              exact silent _ (by simp) (by simp)
          | called | checked | released | returned => simp [senderStep, callEnqueues]
      | proceeds =>
          cases stage with
          | called =>
              simp only [senderStep, callEnqueues, found, List.count_nil]
              exact silent _ (by split <;> simp) (by simp)
          | checked | waiting =>
              simp only [senderStep, callEnqueues, found, List.count_nil]
              exact silent _ (by cases client.mode <;> simp [SendStage.ofMode]) (by simp)
          | returned => simp [senderStep, callEnqueues, found]
          | released =>
              simp only [senderStep, callEnqueues, found]
              cases opened : client.channelOpen with
              | false =>
                  simp only [Bool.false_eq_true, if_false, List.count_nil]
                  exact silent _ (by simp) (by simp)
              | true =>
                  simp only [if_true]
                  have enqueued : (client.enqueue (.send sent)).senders[number]? =
                      some ⟨sent, .released⟩ := found
                  rw [accepts_senderAt _ enqueued payload (by simp [Sender.accepts])]
                  simp [Sender.accepts, enqueue, List.count_singleton]

theorem accepts_next (payload : α) (input : TcpInput α) :
    ((machine config).next client input).senders.countP (Sender.accepts payload) =
      client.senders.countP (Sender.accepts payload) +
        (client.callEnqueues input).count payload := by
  cases input with
  | sender number event => exact accepts_sender client config payload number event
  | sendBytes sent =>
      simp [Machine.next, machine, step, callEnqueues, Sender.accepts]
  | heartbeat event =>
      cases found : client.heartbeatTask with
      | none => simp [Machine.next, machine, step, found, callEnqueues]
      | some task =>
          have same : (client.heartbeatStep task event).senders = client.senders := by
            cases stage : task.stage with
            | finished => cases event <;> simp only [heartbeatStep, stage]
            | ticking =>
                cases event with
                | fails => simp only [heartbeatStep, stage]
                | proceeds | cancelled =>
                    simp only [heartbeatStep, stage]
                    split <;> rfl
            | sawActive =>
                cases event with
                | fails | cancelled => simp only [heartbeatStep, stage]
                | proceeds =>
                    simp only [heartbeatStep, stage]
                    split <;> rfl
          simp [Machine.next, machine, step, found, callEnqueues, same]
  | closer number event =>
      cases found : client.closers[number]? with
      | none => simp [Machine.next, machine, step, found, callEnqueues]
      | some stage =>
          have same := (closerStep_frame client number stage event).2
          simp [Machine.next, machine, step, found, callEnqueues, same]
  | setReconnectPayloads => rfl
  | controller | readTask | detached | writeTask | close =>
      rw [senders_next client config rfl]
      rfl

end Step

/-- The calls that have returned `Ok` are those that have enqueued their payload. -/
theorem accepts_runFrom [DecidableEq α] (config : TcpClientConfig α) (client : TcpClient α)
    (inputs : List (TcpInput α)) (payload : α) :
    ((machine config).runFrom client inputs).senders.countP (Sender.accepts payload) =
      client.senders.countP (Sender.accepts payload) +
        ((machine config).collect callEnqueues client inputs).count payload := by
  induction inputs generalizing client with
  | nil => simp [Machine.runFrom, Machine.collect]
  | cons input rest ih =>
      rw [Machine.runFrom, ih, accepts_next, Machine.collect, List.count_append]
      omega

end TcpClient

/-- In every run of the client's tasks, the payloads written over all its connections,
followed by those still on their way, are part of the payloads enqueued, in the same order;
they are all of them exactly when the writer task found the mode `Active` for each and did
not end before the others.  A payload is enqueued by a call of `send_bytes` that returns
`Ok`, once for each, by the heartbeat, or by a replay. -/
theorem payloads_delivered {α : Type} [DecidableEq α] (config : TcpClientConfig α)
    (inputs : List (TcpInput α)) :
    let machine := TcpClient.machine config
    let client := machine.runFrom (TcpClient.connect config) inputs
    let written := (machine.outputs (TcpClient.connect config) inputs).flatMap TcpEffect.written
    let enqueued := machine.collect TcpClient.enqueues (TcpClient.connect config) inputs
    let called := machine.collect TcpClient.callEnqueues (TcpClient.connect config) inputs
    (written ++ client.pending).Sublist enqueued ∧
      (written ++ client.pending = enqueued ↔
        machine.Always TcpClient.KeepsPayload (TcpClient.connect config) inputs) ∧
      ∀ payload, called.count payload = client.senders.countP (Sender.accepts payload) := by
  have relay := TcpClient.relay_payloads config
  refine ⟨?_, ?_, ?_⟩
  · exact relay.outputs_sublist (TcpClient.connect config) trivial inputs
  · exact relay.outputs_eq_iff
      (fun client input _ => TcpClient.relays_all_iff client config input)
      (TcpClient.connect config) trivial inputs
  · intro payload
    have counted := TcpClient.accepts_runFrom config (TcpClient.connect config) inputs payload
    exact (counted.trans (Nat.zero_add _)).symm

end CtpSystem
