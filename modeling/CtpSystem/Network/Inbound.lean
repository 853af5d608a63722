import Mathlib.Logic.Function.Basic
import CtpSystem.Library.Relay
import CtpSystem.Network.FrameLoops
import CtpSystem.Network.Replay

/-!
# What a terminal is handed

Every connection of the client has a read loop of its own.  The handler parses the payloads
they read and puts the envelopes into the inbound channel, from which `recv` takes them.
Chunks arrive on any connection at any time, and the loops read whenever they get to.
-/

namespace CtpSystem

open Reactive

/-- The receiving side of a `ClientConnection`: the tasks of its client, what arrived on each
of their connections and was not read yet, and the inbound channel. -/
structure ReceivingLink where
  client : TcpClient (List UInt8)
  unread : Nat → Arrived := fun _ => ⟨[], none⟩
  inbound : List Envelope := []

/-- What happens next: the tasks go on, a chunk arrives, a stream ends, or the terminal calls
`recv`. -/
inductive ReceivingInput where
  | task (input : TcpInput (List UInt8))
  | arrives (connection : Nat) (chunk : List UInt8)
  | ends (connection : Nat) (error : ReadError)
  | receive

/-- A payload handed to the handler, or an envelope `recv` returns. -/
inductive ReceivingEffect where
  | handed (connection : Nat) (payload : List UInt8)
  | received (envelope : Envelope)
  deriving DecidableEq

/-- The handler of `ClientConnection::connect`: a payload that does not parse is only
logged. -/
def inboundHandler (fromSlice : List UInt8 → Except String Envelope)
    (inbound : List Envelope) (payload : List UInt8) : List Envelope :=
  inbound ++ (fromSlice payload).toOption.toList

namespace ReceivingLink

/-- The tasks go on. -/
def proceed (config : TcpClientConfig (List UInt8)) (link : ReceivingLink)
    (input : TcpInput (List UInt8)) : ReceivingLink :=
  { link with client := (TcpClient.machine config).next link.client input }

/-- A read loop goes on: it hands over the next frame once the frame is whole.  The end of
the stream and a frame too large end the loop like a failed read. -/
def iterate (fromSlice : List UInt8 → Except String Envelope) (link : ReceivingLink)
    (task : ReadTask) : ReceivingLink × List ReceivingEffect × TaskEvent :=
  match task.stage with
  | .reading =>
      match (link.unread task.connection).readFrame with
      | .ready payload rest =>
          ({ link with
              unread := Function.update link.unread task.connection rest
              inbound := inboundHandler fromSlice link.inbound payload },
            [.handed task.connection payload], .proceeds)
      | .pending => (link, [], .proceeds)
      | .failed _ | .tooLarge _ => (link, [], .fails)
  | .ended | .sawActive | .finished => (link, [], .proceeds)

/-- One step of the receiving side. -/
def step (fromSlice : List UInt8 → Except String Envelope)
    (config : TcpClientConfig (List UInt8)) (link : ReceivingLink) :
    ReceivingInput → ReceivingLink × List ReceivingEffect
  | .task (.readTask .proceeds) =>
      let (link, effects, event) := link.iterate fromSlice link.client.readTask
      (link.proceed config (.readTask event), effects)
  | .task (.detached number .proceeds) =>
      match link.client.detached[number]? with
      | none => (link, [])
      | some task =>
          let (link, effects, event) := link.iterate fromSlice task
          (link.proceed config (.detached number event), effects)
  | .task input => (link.proceed config input, [])
  | .arrives connection chunk =>
      let arrived := link.unread connection
      ({ link with
          unread := Function.update link.unread connection
            { arrived with chunks := arrived.chunks ++ [chunk] } }, [])
  | .ends connection error =>
      let arrived := link.unread connection
      ({ link with
          unread := Function.update link.unread connection
            { arrived with ending := some error } }, [])
  | .receive =>
      match link.inbound with
      | [] => (link, [])
      | envelope :: rest => ({ link with inbound := rest }, [.received envelope])

/-- The receiving side of a client, from the moment its `connect` has returned. -/
def machine (fromSlice : List UInt8 → Except String Envelope)
    (config : TcpClientConfig (List UInt8)) :
    Machine ReceivingLink ReceivingInput ReceivingEffect where
  init := { client := TcpClient.connect config }
  step := step fromSlice config

end ReceivingLink

/-! ## Frames read and frames written -/

/-- The bytes of a length are those it is written with. -/
theorem toBeBytes_fromBeBytes :
    ∀ {bytes : List UInt8}, bytes.length = 4 → toBeBytes (fromBeBytes bytes) = bytes
  | [first, second, third, fourth], _ => by
      have a := first.toNat_lt
      have b := second.toNat_lt
      have c := third.toNat_lt
      have d := fourth.toNat_lt
      simp only [toBeBytes, fromBeBytes, List.foldl_cons, List.foldl_nil, List.map_cons,
        List.map_nil, List.cons.injEq, ← UInt8.toNat_inj, UInt8.toNat_ofNat', and_true]
      omega

theorem Arrived.bytes_of_readExact {arrived rest : Arrived} {count : Nat} {taken : List UInt8}
    (read : arrived.readExact count = .ready taken rest) :
    taken.length = count ∧ arrived.bytes = taken ++ rest.bytes := by
  by_cases short : arrived.bytes.length < count
  · rw [readExact_of_short short, Arrived.short] at read
    cases ending : arrived.ending <;> simp [ending] at read
  · have enough := Nat.le_of_not_lt short
    rcases readExact_of_enough enough with ⟨left, found, bytes⟩
    rw [found, Reading.ready.injEq] at read
    rcases read with ⟨rfl, rfl⟩
    exact ⟨List.length_take_of_le enough, by rw [bytes, List.take_append_drop]⟩

/-- What a read loop takes off a connection for a payload is the frame of the payload. -/
theorem Arrived.bytes_of_readFrame {arrived rest : Arrived} {payload : List UInt8}
    (read : arrived.readFrame = .ready payload rest) :
    readable payload = true ∧ arrived.bytes = frame payload ++ rest.bytes := by
  rw [readFrame] at read
  cases header : arrived.readExact 4 with
  | pending | failed | tooLarge => simp [header] at read
  | ready lenBuf body =>
      rw [header] at read
      rcases bytes_of_readExact header with ⟨four, start⟩
      by_cases large : fromBeBytes lenBuf > 16 * 1024 * 1024
      · simp [large] at read
      · simp only [if_neg large] at read
        rcases bytes_of_readExact read with ⟨length, later⟩
        constructor
        · simp only [readable, decide_eq_true_eq]
          omega
        · rw [frame, length, toBeBytes_fromBeBytes four, start, later, List.append_assoc]

theorem eq_of_append_prefix {left right rest more : List UInt8}
    (length : left.length = right.length) (within : left ++ rest <+: right ++ more) :
    left = right := by
  rcases within with ⟨last, whole⟩
  rw [List.append_assoc] at whole
  exact List.append_inj_left whole length

/-- Frames at the start of a stream of frames are the first of them. -/
theorem prefix_of_stream_prefix {read payloads : List (List UInt8)}
    (readShort : ShortPayloads read) (short : ShortPayloads payloads)
    (within : transportFraming.stream read <+: transportFraming.stream payloads) :
    read <+: payloads := by
  induction read generalizing payloads with
  | nil => exact List.nil_prefix
  | cons first read ih =>
      cases payloads with
      | nil =>
          have empty := List.prefix_nil.mp within
          simp [transportFraming, frame, toBeBytes] at empty
      | cons payload payloads =>
          have split (payload : List UInt8) (payloads : List (List UInt8)) :
              transportFraming.stream (payload :: payloads) =
                toBeBytes payload.length ++ (payload ++ transportFraming.stream payloads) :=
            List.append_assoc ..
          rw [split, split] at within
          have header : toBeBytes first.length = toBeBytes payload.length :=
            eq_of_append_prefix rfl within
          have length := congrArg fromBeBytes header
          rw [fromBeBytes_toBeBytes (readShort first List.mem_cons_self),
            fromBeBytes_toBeBytes (short payload List.mem_cons_self)] at length
          rw [header, List.prefix_append_right_inj] at within
          cases eq_of_append_prefix length within
          rw [List.prefix_append_right_inj] at within
          exact (List.prefix_cons_inj _).mpr
            (ih (fun payload member => readShort payload (List.mem_cons_of_mem _ member))
              (fun payload member => short payload (List.mem_cons_of_mem _ member)) within)

/-! ## Steps -/

/-- The bytes of a connection that an input lets arrive. -/
def ReceivingInput.bytesOn (connection : Nat) : ReceivingInput → List UInt8
  | .arrives number chunk => if number = connection then chunk else []
  | .task _ | .ends _ _ | .receive => []

/-- The bytes of a connection that the frame handed over took. -/
def ReceivingEffect.bytesOn (connection : Nat) : ReceivingEffect → List UInt8
  | .handed number payload => if number = connection then frame payload else []
  | .received _ => []

/-- The bytes of a connection that arrived and were not read. -/
def ReceivingLink.unreadOn (connection : Nat) (link : ReceivingLink) : List UInt8 :=
  (link.unread connection).bytes

/-- The frame handed over, with its connection. -/
def ReceivingEffect.handedFrame : ReceivingEffect → Option (Nat × List UInt8)
  | .handed connection payload => some (connection, payload)
  | .received _ => none

/-- The envelope `recv` returned. -/
def ReceivingEffect.envelope : ReceivingEffect → List Envelope
  | .received envelope => [envelope]
  | .handed _ _ => []

/-- What one step of the receiving side does. -/
inductive ReceivingCase (fromSlice : List UInt8 → Except String Envelope)
    (config : TcpClientConfig (List UInt8)) (link : ReceivingLink) :
    ReceivingInput → ReceivingLink → List ReceivingEffect → Prop where
  | stays (input : ReceivingInput) (quiet : ∀ connection, input.bytesOn connection = []) :
      ReceivingCase fromSlice config link input link []
  | proceeds (input task : TcpInput (List UInt8)) :
      ReceivingCase fromSlice config link (.task input) (link.proceed config task) []
  | hands (input next : TcpInput (List UInt8)) (task : ReadTask)
      (spawned : task = link.client.readTask ∨ task ∈ link.client.detached)
      (reading : task.stage = .reading) (payload : List UInt8) (rest : Arrived)
      (read : (link.unread task.connection).readFrame = .ready payload rest) :
      ReceivingCase fromSlice config link (.task input)
        (({ link with
            unread := Function.update link.unread task.connection rest
            inbound := inboundHandler fromSlice link.inbound payload } :
              ReceivingLink).proceed config next)
        [.handed task.connection payload]
  | arrives (connection : Nat) (chunk : List UInt8) :
      ReceivingCase fromSlice config link (.arrives connection chunk)
        { link with
          unread := Function.update link.unread connection
            { link.unread connection with
              chunks := (link.unread connection).chunks ++ [chunk] } } []
  | ends (connection : Nat) (error : ReadError) :
      ReceivingCase fromSlice config link (.ends connection error)
        { link with
          unread := Function.update link.unread connection
            { link.unread connection with ending := some error } } []
  | receives (envelope : Envelope) (rest : List Envelope)
      (queued : link.inbound = envelope :: rest) :
      ReceivingCase fromSlice config link .receive { link with inbound := rest }
        [.received envelope]

section Step

variable {fromSlice : List UInt8 → Except String Envelope}
  {config : TcpClientConfig (List UInt8)} {link : ReceivingLink}

/-- A read loop that goes on hands over a frame, or leaves everything to its task. -/
theorem iterate_case (input : TcpInput (List UInt8)) (act : TaskEvent → TcpInput (List UInt8))
    {task : ReadTask} (spawned : task = link.client.readTask ∨ task ∈ link.client.detached) :
    ReceivingCase fromSlice config link (.task input)
      ((link.iterate fromSlice task).1.proceed config (act (link.iterate fromSlice task).2.2))
      (link.iterate fromSlice task).2.1 := by
  cases stage : task.stage with
  | ended | sawActive | finished =>
      simp only [ReceivingLink.iterate, stage]
      exact .proceeds input _
  | reading =>
      cases read : (link.unread task.connection).readFrame with
      | ready payload rest =>
          simp only [ReceivingLink.iterate, stage, read]
          exact .hands input _ task spawned stage payload rest read
      | pending | failed | tooLarge =>
          simp only [ReceivingLink.iterate, stage, read]
          exact .proceeds input _

/-- Every step is one of the cases. -/
theorem receiving_case (fromSlice : List UInt8 → Except String Envelope)
    (config : TcpClientConfig (List UInt8)) (link : ReceivingLink) (input : ReceivingInput) :
    ReceivingCase fromSlice config link input
      ((ReceivingLink.machine fromSlice config).next link input)
      ((ReceivingLink.machine fromSlice config).emits link input) := by
  cases input with
  | arrives connection chunk => exact .arrives connection chunk
  | ends connection error => exact .ends connection error
  | receive =>
      simp only [Machine.next, Machine.emits, ReceivingLink.machine, ReceivingLink.step]
      cases queued : link.inbound with
      | nil => exact .stays _ fun _ => rfl
      | cons envelope rest => exact .receives envelope rest queued
  | task input =>
      cases input with
      | readTask event =>
          cases event with
          | proceeds => exact iterate_case _ .readTask (.inl rfl)
          | fails | cancelled => exact .proceeds _ _
      | detached number event =>
          cases event with
          | fails | cancelled => exact .proceeds _ _
          | proceeds =>
              simp only [Machine.next, Machine.emits, ReceivingLink.machine,
                ReceivingLink.step]
              cases found : link.client.detached[number]? with
              | none => exact .stays _ fun _ => rfl
              | some task =>
                  exact iterate_case _ (.detached number)
                    (.inr (List.mem_of_getElem? found))
      | _ => exact .proceeds _ _

end Step

/-! ## The order of the connections -/

namespace TcpClient

variable {α : Type}

/-- The connections get their read loops in the order they were made. -/
structure ReadsInOrder (client : TcpClient α) : Prop where
  current : client.readTask.connection < client.established
  opened : ∀ connection, client.controller.opening = some connection →
    connection < client.established ∧ client.readTask.connection ≤ connection

variable {client : TcpClient α}

/-- A step that leaves the read loop on its connection and opens no other keeps the order. -/
theorem ReadsInOrder.frame {next : TcpClient α} (order : client.ReadsInOrder)
    (connection : next.readTask.connection = client.readTask.connection)
    (established : next.established = client.established)
    (opening : ∀ connection, next.controller.opening = some connection →
      client.controller.opening = some connection) :
    next.ReadsInOrder ∧ client.readTask.connection ≤ next.readTask.connection := by
  refine ⟨⟨?_, ?_⟩, Nat.le_of_eq connection.symm⟩
  · rw [connection, established]
    exact order.current
  · rw [connection, established]
    intro number opened
    exact order.opened number (opening number opened)

theorem abort_connection (task : ReadTask) : task.abort.connection = task.connection := by
  rw [ReadTask.abort]
  split <;> rfl

/-- A new read loop runs on a connection no older than the one before. -/
theorem readsInOrder_next [DecidableEq α] (config : TcpClientConfig α)
    (order : client.ReadsInOrder) (input : TcpInput α) :
    ((machine config).next client input).ReadsInOrder ∧
      client.readTask.connection ≤
        ((machine config).next client input).readTask.connection := by
  have stepped := step_case config client input
  generalize (machine config).next client input = next at stepped ⊢
  generalize (machine config).emits client input = effects at stepped
  cases stepped with
  | connects =>
      refine ⟨⟨Nat.lt_succ_of_lt order.current, ?_⟩, Nat.le_refl _⟩
      intro connection opened
      cases opened
      exact ⟨Nat.lt_succ_self _, Nat.le_of_lt order.current⟩
  | spawns connection acknowledged =>
      have opened := order.opened connection (by rw [acknowledged, ControllerStage.opening])
      refine ⟨⟨opened.1, ?_⟩, opened.2⟩
      intro number same
      cases same
      exact ⟨opened.1, Nat.le_refl _⟩
  | sendsUpdate _ stage | acknowledges _ stage | activates _ stage =>
      refine order.frame rfl rfl ?_
      rw [stage]
      exact fun _ opened => opened
  | seesDisconnect | storesClosed | slept | connectFails | updateRefused | locks | replays
  | replayed | controllerCancelled =>
      refine order.frame rfl rfl ?_
      intro _ opened
      cases opened
  | seesReconnect =>
      refine order.frame rfl rfl ?_
      intro _ opened
      simp only [TcpClient.reconnect] at opened
      split at opened <;> cases opened
  | aborts =>
      refine order.frame ?_ rfl ?_
      · exact abort_connection client.readTask
      · intro _ opened
        cases opened
  | detachedMoves number event task found =>
      cases (task.step client.mode event).2 with
      | none => exact order.frame rfl rfl fun _ opened => opened
      | some mode => exact order.frame rfl rfl fun _ opened => opened
  | _ => exact order.frame rfl rfl fun _ opened => opened

end TcpClient

/-- The frames handed over, each with its connection, in order. -/
def handedFrames (history : List ReceivingEffect) : List (Nat × List UInt8) :=
  history.filterMap ReceivingEffect.handedFrame

/-- The read loops hand over the frames of one connection after the other. -/
structure HandsInOrder (link : ReceivingLink) (history : List ReceivingEffect) : Prop where
  sound : link.client.TasksSound
  reads : link.client.ReadsInOrder
  sorted : (handedFrames history).Pairwise fun earlier later => earlier.1 ≤ later.1
  reached : ∀ frame ∈ handedFrames history, frame.1 ≤ link.client.readTask.connection

section Runs

variable {fromSlice : List UInt8 → Except String Envelope}
  {config : TcpClientConfig (List UInt8)} {link : ReceivingLink}
  {history : List ReceivingEffect}

theorem HandsInOrder.proceed (order : HandsInOrder link history)
    (input : TcpInput (List UInt8)) : HandsInOrder (link.proceed config input) history := by
  have next := TcpClient.readsInOrder_next config order.reads input
  exact {
    sound := TcpClient.tasksSound_next order.sound input
    reads := next.1
    sorted := order.sorted
    reached := fun frame member => Nat.le_trans (order.reached frame member) next.2 }

/-- Only the current read loop reads, and no frame handed over is of a later connection. -/
theorem HandsInOrder.hands (order : HandsInOrder link history) {task : ReadTask}
    (spawned : task = link.client.readTask ∨ task ∈ link.client.detached)
    (reading : task.stage = .reading) (payload : List UInt8) :
    HandsInOrder link (history ++ [.handed task.connection payload]) := by
  rcases spawned with rfl | detached
  · have grown : handedFrames
        (history ++ [.handed link.client.readTask.connection payload]) =
          handedFrames history ++ [(link.client.readTask.connection, payload)] :=
      List.filterMap_append
    refine ⟨order.sound, order.reads, ?_, ?_⟩
    · rw [grown, List.pairwise_append]
      refine ⟨order.sorted, List.pairwise_singleton _ _, ?_⟩
      intro frame member later latest
      rw [List.mem_singleton.mp latest]
      exact order.reached frame member
    · rw [grown]
      intro frame member
      rcases List.mem_append.mp member with earlier | latest
      · exact order.reached frame earlier
      · rw [List.mem_singleton.mp latest]
  · rw [order.sound.detached task detached] at reading
    cases reading

theorem handsInOrder_init :
    HandsInOrder (ReceivingLink.machine fromSlice config).init [] where
  sound := TcpClient.tasksSound_connect config
  reads := ⟨Nat.zero_lt_one, by simp [ReceivingLink.machine, TcpClient.connect,
    ControllerStage.opening]⟩
  sorted := List.Pairwise.nil
  reached _ member := absurd member List.not_mem_nil

theorem handsInOrder_next (order : HandsInOrder link history) (input : ReceivingInput) :
    HandsInOrder ((ReceivingLink.machine fromSlice config).next link input)
      (history ++ (ReceivingLink.machine fromSlice config).emits link input) := by
  have stepped := receiving_case fromSlice config link input
  generalize (ReceivingLink.machine fromSlice config).next link input = next at stepped ⊢
  generalize (ReceivingLink.machine fromSlice config).emits link input = effects at stepped ⊢
  cases stepped with
  | stays | arrives | ends =>
      rw [List.append_nil]
      exact ⟨order.sound, order.reads, order.sorted, order.reached⟩
  | proceeds =>
      rw [List.append_nil]
      exact order.proceed _
  | hands input next task spawned reading payload rest read =>
      have handed := order.hands spawned reading payload
      have unchanged : HandsInOrder
          { link with
            unread := Function.update link.unread task.connection rest
            inbound := inboundHandler fromSlice link.inbound payload }
          (history ++ [.handed task.connection payload]) :=
        ⟨handed.sound, handed.reads, handed.sorted, handed.reached⟩
      exact unchanged.proceed next
  | receives envelope rest queued =>
      have same : handedFrames (history ++ [.received envelope]) = handedFrames history := by
        rw [handedFrames, List.filterMap_append]
        exact List.append_nil _
      exact ⟨order.sound, order.reads, same ▸ order.sorted, same ▸ order.reached⟩

/-- The bytes that arrive on a connection are those of the frames handed over and those that
are unread. -/
theorem bytes_accounted (connection : Nat) (link : ReceivingLink) (input : ReceivingInput) :
    ((ReceivingLink.machine fromSlice config).emits link input).flatMap
          (ReceivingEffect.bytesOn connection) ++
        ((ReceivingLink.machine fromSlice config).next link input).unreadOn connection =
      link.unreadOn connection ++ input.bytesOn connection := by
  have stepped := receiving_case fromSlice config link input
  generalize (ReceivingLink.machine fromSlice config).next link input = next at stepped ⊢
  generalize (ReceivingLink.machine fromSlice config).emits link input = effects at stepped ⊢
  cases stepped with
  | stays _ quiet =>
      rw [quiet, List.append_nil]
      rfl
  | proceeds => exact (List.append_nil _).symm
  | receives => exact (List.append_nil _).symm
  | arrives number chunk =>
      by_cases same : number = connection
      · subst same
        simp [ReceivingLink.unreadOn, ReceivingInput.bytesOn, Arrived.bytes]
      · simp [ReceivingLink.unreadOn, ReceivingInput.bytesOn, same,
          Function.update_of_ne (Ne.symm same)]
  | ends number error =>
      by_cases same : number = connection
      · subst same
        simp [ReceivingLink.unreadOn, ReceivingInput.bytesOn, Arrived.bytes]
      · simp [ReceivingLink.unreadOn, ReceivingInput.bytesOn,
          Function.update_of_ne (Ne.symm same)]
  | hands input next task spawned reading payload rest read =>
      have taken := (Arrived.bytes_of_readFrame read).2
      by_cases same : task.connection = connection
      · subst same
        simp [ReceivingLink.unreadOn, ReceivingInput.bytesOn, ReceivingEffect.bytesOn,
          ReceivingLink.proceed, taken]
      · simp [ReceivingLink.unreadOn, ReceivingInput.bytesOn, ReceivingEffect.bytesOn,
          ReceivingLink.proceed, same, Function.update_of_ne (Ne.symm same)]

/-- The envelopes in a payload handed over. -/
def ReceivingEffect.parsed (fromSlice : List UInt8 → Except String Envelope) :
    ReceivingEffect → List Envelope
  | .handed _ payload => (fromSlice payload).toOption.toList
  | .received _ => []

/-- The envelopes parsed are those `recv` returned and those that wait for it. -/
theorem envelopes_accounted (link : ReceivingLink) (input : ReceivingInput) :
    ((ReceivingLink.machine fromSlice config).emits link input).flatMap
          ReceivingEffect.envelope ++
        ((ReceivingLink.machine fromSlice config).next link input).inbound =
      link.inbound ++ ((ReceivingLink.machine fromSlice config).emits link input).flatMap
        (ReceivingEffect.parsed fromSlice) := by
  have stepped := receiving_case fromSlice config link input
  generalize (ReceivingLink.machine fromSlice config).next link input = next at stepped ⊢
  generalize (ReceivingLink.machine fromSlice config).emits link input = effects at stepped ⊢
  cases stepped with
  | stays | proceeds | arrives | ends => exact (List.append_nil _).symm
  | receives envelope rest queued =>
      simp [ReceivingEffect.envelope, ReceivingEffect.parsed, queued]
  | hands =>
      simp [ReceivingEffect.envelope, ReceivingEffect.parsed, ReceivingLink.proceed,
        inboundHandler]

theorem bytes_of_run (connection : Nat) (inputs : List ReceivingInput) :
    let machine := ReceivingLink.machine fromSlice config
    (machine.outputs machine.init inputs).flatMap (ReceivingEffect.bytesOn connection) ++
        (machine.runFrom machine.init inputs).unreadOn connection =
      inputs.flatMap (ReceivingInput.bytesOn connection) := by
  intro machine
  have accounted := (ReceivingLink.machine fromSlice config).outputs_of_accounted
    (bytes_accounted connection) machine.init inputs
  rwa [Machine.collect_input] at accounted

theorem envelopes_of_run (inputs : List ReceivingInput) :
    let machine := ReceivingLink.machine fromSlice config
    (machine.outputs machine.init inputs).flatMap ReceivingEffect.envelope ++
        (machine.runFrom machine.init inputs).inbound =
      (machine.outputs machine.init inputs).flatMap (ReceivingEffect.parsed fromSlice) := by
  intro machine
  have accounted := (ReceivingLink.machine fromSlice config).outputs_of_accounted
    envelopes_accounted machine.init inputs
  rwa [Machine.collect_emits] at accounted

/-- Every payload handed over is of a length the read loops accept. -/
theorem readable_of_handed {inputs : List ReceivingInput} {frame : Nat × List UInt8}
    (handed : frame ∈
      handedFrames ((ReceivingLink.machine fromSlice config).outputs link inputs)) :
    readable frame.2 = true := by
  rcases List.mem_filterMap.mp handed with ⟨effect, emitted, isFrame⟩
  rcases Machine.exists_of_mem_outputs emitted with ⟨before, input, after, -, emitted⟩
  generalize (ReceivingLink.machine fromSlice config).runFrom link before = reached at emitted
  have stepped := receiving_case fromSlice config reached input
  generalize (ReceivingLink.machine fromSlice config).next reached input = next at stepped
  generalize (ReceivingLink.machine fromSlice config).emits reached input = effects
    at emitted stepped
  cases stepped with
  | stays | proceeds | arrives | ends => cases emitted
  | receives =>
      rw [List.mem_singleton.mp emitted] at isFrame
      cases isFrame
  | hands input later task spawned reading payload rest read =>
      rw [List.mem_singleton.mp emitted] at isFrame
      cases isFrame
      exact (Arrived.bytes_of_readFrame read).1

end Runs

/-! ## What the server sent -/

/-- The payloads handed over that came on a connection. -/
def handedOn (connection : Nat) (history : List ReceivingEffect) : List (List UInt8) :=
  ((handedFrames history).filter (·.1 = connection)).map (·.2)

/-- What the client makes of an envelope the server sends it: nothing where the envelope is
not encoded, or not parsed again. -/
def carried (toVec : Envelope → Except String (List UInt8))
    (fromSlice : List UInt8 → Except String Envelope) (envelope : Envelope) : Option Envelope :=
  (toVec envelope).toOption.bind fun payload => (fromSlice payload).toOption

theorem bytesOn_eq_stream (connection : Nat) (history : List ReceivingEffect) :
    history.flatMap (ReceivingEffect.bytesOn connection) =
      transportFraming.stream (handedOn connection history) := by
  induction history with
  | nil => rfl
  | cons effect history ih =>
      rw [List.flatMap_cons, ih]
      cases effect with
      | received envelope => rfl
      | handed number payload =>
          by_cases same : number = connection <;>
            simp [ReceivingEffect.bytesOn, handedOn, handedFrames,
              ReceivingEffect.handedFrame, same]
          rfl

theorem parsed_eq_flatMap (fromSlice : List UInt8 → Except String Envelope)
    (history : List ReceivingEffect) :
    history.flatMap (ReceivingEffect.parsed fromSlice) =
      (handedFrames history).flatMap fun frame => (fromSlice frame.2).toOption.toList := by
  induction history with
  | nil => rfl
  | cons effect history ih =>
      rw [List.flatMap_cons, ih]
      cases effect with
      | received envelope => rfl
      | handed number payload => rfl

theorem readable_of_handedOn {fromSlice : List UInt8 → Except String Envelope}
    {config : TcpClientConfig (List UInt8)} {link : ReceivingLink}
    {inputs : List ReceivingInput} {connection : Nat} {payload : List UInt8}
    (handed : payload ∈
      handedOn connection ((ReceivingLink.machine fromSlice config).outputs link inputs)) :
    readable payload = true := by
  rcases List.mem_map.mp handed with ⟨frame, member, rfl⟩
  exact readable_of_handed (List.mem_of_mem_filter member)

/-- `write_loop` writes the frames of the envelopes before the first that it cannot encode. -/
theorem writeLoop_encoded (toVec : Envelope → Except String (List UInt8))
    (envelopes : List Envelope) :
    ∃ payloads, writeLoop toVec envelopes = transportFraming.stream payloads ∧
      (envelopes.take payloads.length).map toVec = payloads.map .ok := by
  induction envelopes with
  | nil => exact ⟨[], rfl, rfl⟩
  | cons envelope envelopes ih =>
      cases encoded : toVec envelope with
      | error message => exact ⟨[], by simp only [writeLoop, encoded]; rfl, rfl⟩
      | ok payload =>
          rcases ih with ⟨payloads, written, encodings⟩
          refine ⟨payload :: payloads, ?_, ?_⟩
          · simp only [writeLoop, encoded, written]
            rfl
          · simp only [List.length_cons, List.take_succ_cons, List.map_cons, encoded, encodings]

theorem carried_of_encoded {toVec : Envelope → Except String (List UInt8)}
    (fromSlice : List UInt8 → Except String Envelope) {envelopes : List Envelope}
    {payloads : List (List UInt8)} (encoded : envelopes.map toVec = payloads.map .ok) :
    envelopes.filterMap (carried toVec fromSlice) =
      payloads.flatMap fun payload => (fromSlice payload).toOption.toList := by
  induction envelopes generalizing payloads with
  | nil =>
      cases payloads with
      | nil => rfl
      | cons payload payloads => cases encoded
  | cons envelope envelopes ih =>
      cases payloads with
      | nil => cases encoded
      | cons payload payloads =>
          rw [List.map_cons, List.map_cons, List.cons.injEq] at encoded
          rw [List.flatMap_cons, ← ih encoded.2]
          have head : carried toVec fromSlice envelope = (fromSlice payload).toOption := by
            rw [carried, encoded.1]
            rfl
          cases parsed : (fromSlice payload).toOption <;> simp [head, parsed]

/-- The payloads read of a connection are those of the first envelopes sent on it. -/
theorem encoded_of_read {toVec : Envelope → Except String (List UInt8)}
    {envelopes : List Envelope}
    (short : ∀ envelope ∈ envelopes, ∀ payload, toVec envelope = .ok payload →
      payload.length < 4294967296)
    {read : List (List UInt8)} (fit : ∀ payload ∈ read, readable payload = true)
    (within : transportFraming.stream read <+: writeLoop toVec envelopes) :
    (envelopes.take read.length).map toVec = read.map .ok := by
  rcases writeLoop_encoded toVec envelopes with ⟨payloads, written, encodings⟩
  rw [written] at within
  have shortPayloads : ShortPayloads payloads := by
    intro payload member
    have encoding : Except.ok payload ∈ (envelopes.take payloads.length).map toVec := by
      rw [encodings]
      exact List.mem_map_of_mem member
    rcases List.mem_map.mp encoding with ⟨envelope, sent, encoded⟩
    exact short envelope (List.mem_of_mem_take sent) payload encoded
  have shortRead : ShortPayloads read := by
    intro payload member
    have fits := fit payload member
    simp only [readable, decide_eq_true_eq] at fits
    omega
  have first := prefix_of_stream_prefix shortRead shortPayloads within
  have taken := congrArg (List.take read.length) encodings
  rw [← List.map_take, ← List.map_take, List.take_take, ← List.prefix_iff_eq_take.mp first,
    Nat.min_eq_left first.length_le] at taken
  exact taken

/-- In every run of the receiving side, where what arrives on a connection is the start of
what the server's `write_loop` writes on it, the terminal has received, or will as it goes on
to call `recv`, the first envelopes sent on each connection, one connection after the other in
the order these were made, except those that do not parse.  What arrived beyond them is still
unread. -/
theorem received_in_connection_order (toVec : Envelope → Except String (List UInt8))
    (fromSlice : List UInt8 → Except String Envelope) (config : TcpClientConfig (List UInt8))
    (inputs : List ReceivingInput) (outbound : Nat → List Envelope)
    (short : ∀ connection, ∀ envelope ∈ outbound connection, ∀ payload,
      toVec envelope = .ok payload → payload.length < 4294967296)
    (wrote : ∀ connection, inputs.flatMap (ReceivingInput.bytesOn connection) <+:
      writeLoop toVec (outbound connection)) :
    let machine := ReceivingLink.machine fromSlice config
    let link := machine.runFrom machine.init inputs
    ∃ read : Nat → Nat,
      (∀ connection, inputs.flatMap (ReceivingInput.bytesOn connection) =
        writeLoop toVec ((outbound connection).take (read connection)) ++
          link.unreadOn connection) ∧
      (machine.outputs machine.init inputs).flatMap ReceivingEffect.envelope ++ link.inbound =
        (List.range link.client.established).flatMap fun connection =>
          ((outbound connection).take (read connection)).filterMap
            (carried toVec fromSlice) := by
  intro machine link
  have preserved : ∀ link history input, HandsInOrder link history →
      HandsInOrder (machine.next link input) (history ++ machine.emits link input) := by
    intro link history input order
    exact handsInOrder_next order input
  have initial : HandsInOrder machine.init [] := handsInOrder_init
  have order : HandsInOrder link (machine.outputs machine.init inputs) :=
    machine.invariant_outputs preserved initial inputs
  have bytes (connection : Nat) :
      transportFraming.stream (handedOn connection (machine.outputs machine.init inputs)) ++
          link.unreadOn connection =
        inputs.flatMap (ReceivingInput.bytesOn connection) := by
    rw [← bytesOn_eq_stream]
    exact bytes_of_run connection inputs
  -- what was read on each connection are the encodings of the first envelopes sent on it
  have encoded (connection : Nat) :=
    encoded_of_read (short connection)
      (fun _ member => readable_of_handedOn member)
      ((List.prefix_append _ _).trans (bytes connection ▸ wrote connection))
  refine ⟨fun connection => (handedOn connection
    (machine.outputs machine.init inputs)).length, ?_, ?_⟩
  · intro connection
    rw [writeLoop_eq_stream (encoded connection), bytes]
  · have received : _ ++ link.inbound = _ := envelopes_of_run inputs
    rw [parsed_eq_flatMap] at received
    have inOrder := flatMap_filter_of_sorted _ link.client.established order.sorted
      fun frame member => Nat.lt_of_le_of_lt (order.reached frame member) order.reads.current
    -- the frames handed over, put together from those of each connection
    rw [received, ← inOrder, List.flatMap_assoc]
    apply List.flatMap_congr
    intro connection _
    rw [carried_of_encoded fromSlice (encoded connection), handedOn, List.flatMap_map]

/-- An encoder of the two envelopes `parseSample` knows. -/
def encodeSample (envelope : Envelope) : Except String (List UInt8) :=
  if envelope = .helloSample then .ok helloBytes
  else if envelope = .subscribeSample then .ok subscribeBytes
  else .error "key must be a string"

/-- The first connection ends within its second frame; the client reconnects, and what it
missed comes on the second connection. -/
def ReceivingInput.reconnecting : List ReceivingInput :=
  [.arrives 0 (frame helloBytes ++ [0]), .task (.readTask .proceeds), .arrives 0 [0],
    .ends 0 .unexpectedEof, .task (.readTask .proceeds), .task (.readTask .proceeds),
    .task (.readTask .proceeds), .task (.controller .proceeds), .task (.controller .proceeds),
    .task (.controller .proceeds), .task (.controller .proceeds), .task (.writeTask .proceeds),
    .task (.controller .proceeds), .task (.controller .proceeds),
    .arrives 1 (frame subscribeBytes), .receive, .task (.readTask .proceeds), .receive]

/-- What the server sends on the two connections. -/
def outboundSample : Nat → List Envelope
  | 0 => [.helloSample, .subscribeSample]
  | 1 => [.subscribeSample]
  | _ => []

theorem received_in_connection_order_reconnecting :
    let machine := ReceivingLink.machine parseSample {}
    let link := machine.runFrom machine.init ReceivingInput.reconnecting
    ∃ read : Nat → Nat,
      (∀ connection,
        ReceivingInput.reconnecting.flatMap (ReceivingInput.bytesOn connection) =
          writeLoop encodeSample ((outboundSample connection).take (read connection)) ++
            link.unreadOn connection) ∧
      (machine.outputs machine.init ReceivingInput.reconnecting).flatMap
            ReceivingEffect.envelope ++ link.inbound =
        (List.range link.client.established).flatMap fun connection =>
          ((outboundSample connection).take (read connection)).filterMap
            (carried encodeSample parseSample) := by
  have short : ∀ connection, ∀ envelope ∈ outboundSample connection, ∀ payload,
      encodeSample envelope = .ok payload → payload.length < 4294967296 := by
    intro connection envelope _ payload encoded
    rw [encodeSample] at encoded
    split at encoded
    · cases encoded
      decide +kernel
    · split at encoded
      · cases encoded
        decide +kernel
      · cases encoded
  have wrote : ∀ connection,
      ReceivingInput.reconnecting.flatMap (ReceivingInput.bytesOn connection) <+:
        writeLoop encodeSample (outboundSample connection) := by
    intro connection
    rcases connection with _ | _ | connection
    · decide +kernel
    · decide +kernel
    · exact List.nil_prefix
  exact received_in_connection_order encodeSample parseSample {} ReceivingInput.reconnecting
    outboundSample short wrote

end CtpSystem
