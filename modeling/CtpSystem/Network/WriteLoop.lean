import CtpSystem.Library.Framing
import CtpSystem.Network.TcpClient
import CtpSystem.Server.ReadLoop

/-!
# The writer task and the peer's read loop

`run_write_loop` takes one command after another, over any number of connections, and ends
with its first failed write.  The peer reads each connection on its own.  The loop is a
function of what it consumes: the commands, the mode it finds at each `Send`, and how each
write ends.
-/

namespace CtpSystem

open Reactive

/-! ## The peer -/

/-- The payload `readFrame` takes off a stream. -/
def readPayload (stream : ByteStream) : Option (List UInt8 × ByteStream) :=
  match stream.readExact 4 with
  | .error _ => none
  | .ok (lenBuf, stream) =>
      let len := fromBeBytes lenBuf
      if len > 16 * 1024 * 1024 then none
      else
        match stream.readExact len with
        | .error _ => none
        | .ok (buf, stream) => some (buf, stream)

/-- An iteration of `read_loop` that gets an envelope has got the payload it parses. -/
theorem readFrame_eq_envelope_iff (fromSlice : List UInt8 → Except String Envelope)
    (stream rest : ByteStream) (envelope : Envelope) :
    readFrame fromSlice stream = .envelope envelope rest ↔
      ∃ payload, readPayload stream = some (payload, rest) ∧
        fromSlice payload = .ok envelope := by
  simp only [readFrame, readPayload]
  cases stream.readExact 4 with
  | error error => cases error <;> simp
  | ok header =>
      by_cases large : fromBeBytes header.1 > 16 * 1024 * 1024
      · simp [large]
      · simp only [if_neg large]
        cases header.2.readExact (fromBeBytes header.1) with
        | error error => simp
        | ok body =>
            rcases body with ⟨buf, later⟩
            cases parsed : fromSlice buf with
            | error message =>
                simp only [parsed, reduceCtorEq, Option.some.injEq, Prod.mk.injEq, false_iff]
                rintro ⟨payload, ⟨rfl, _⟩, accepted⟩
                rw [parsed] at accepted
                cases accepted
            | ok parsedEnvelope =>
                simp only [parsed, FrameRead.envelope.injEq, Option.some.injEq, Prod.mk.injEq]
                constructor
                · rintro ⟨rfl, rfl⟩
                  exact ⟨buf, ⟨rfl, rfl⟩, parsed⟩
                · rintro ⟨payload, ⟨rfl, rfl⟩, accepted⟩
                  rw [parsed] at accepted
                  cases accepted
                  exact ⟨rfl, rfl⟩

/-- The payloads of so many iterations of `read_loop`.  The loop may also end before, at a
payload it cannot parse or an envelope it refuses. -/
def readPayloads : Nat → ByteStream → List (List UInt8)
  | 0, _ => []
  | count + 1, stream =>
      match readPayload stream with
      | none => []
      | some (payload, rest) => payload :: readPayloads count rest

theorem readPayload_of_short {bytes : List UInt8} {failure : Option String}
    (short : bytes.length < 4) : readPayload ⟨bytes, failure⟩ = none := by
  have missing : ¬ 4 ≤ bytes.length := Nat.not_le.mpr short
  cases failure <;> simp [readPayload, ByteStream.readExact, missing]

/-- After a whole length, the payload is read if it is there. -/
theorem readPayload_toBeBytes {len : Nat} (fits : len ≤ 16 * 1024 * 1024) (rest : List UInt8)
    (failure : Option String) :
    readPayload ⟨toBeBytes len ++ rest, failure⟩ =
      if len ≤ rest.length then some (rest.take len, ⟨rest.drop len, failure⟩) else none := by
  have length : fromBeBytes (toBeBytes len) = len := fromBeBytes_toBeBytes (by omega)
  have header := readExact_append (toBeBytes len) rest failure
  simp only [readPayload]
  rw [show 4 = (toBeBytes len).length from rfl, header]
  simp only [length, if_neg (Nat.not_lt.mpr fits), ByteStream.readExact]
  by_cases enough : len ≤ rest.length
  · simp only [if_pos enough]
  · cases failure <;> simp only [if_neg enough]

/-- The frames of the transport. -/
def transportFraming : Framing UInt8 (List UInt8) where
  frame := frame
  read bytes := (readPayload ⟨bytes, none⟩).map fun read => (read.1, read.2.bytes)
  fits payload := payload.length ≤ 16 * 1024 * 1024
  read_nil := rfl
  read_frame payload rest fits := by
    rw [frame, List.append_assoc, readPayload_toBeBytes fits]
    simp
  read_cut payload bytes fits within cut := by
    by_cases headed : bytes.length < 4
    · rw [readPayload_of_short headed]
      rfl
    · have header : toBeBytes payload.length <+: bytes :=
        List.prefix_of_prefix_length_le (List.prefix_append _ _) within
          (Nat.le_of_not_lt headed)
      rcases header with ⟨rest, rfl⟩
      have part := (List.prefix_append_right_inj _).mp within
      have missing : ¬ payload.length ≤ rest.length := by
        intro enough
        exact cut (by rw [frame, part.eq_of_length_le enough])
      rw [readPayload_toBeBytes fits, if_neg missing]
      rfl

/-- How a stream ends does not matter to the payloads before its end. -/
theorem readPayload_failure (bytes : List UInt8) (failure : Option String) :
    readPayload ⟨bytes, failure⟩ =
      (readPayload ⟨bytes, none⟩).map fun read => (read.1, ⟨read.2.bytes, failure⟩) := by
  by_cases headed : bytes.length < 4
  · rw [readPayload_of_short headed, readPayload_of_short headed]
    rfl
  · simp only [readPayload, ByteStream.readExact, if_pos (Nat.le_of_not_lt headed)]
    by_cases large : fromBeBytes (bytes.take 4) > 16 * 1024 * 1024
    · simp only [if_pos large, Option.map_none]
    · simp only [if_neg large]
      by_cases enough : fromBeBytes (bytes.take 4) ≤ (bytes.drop 4).length
      · simp only [if_pos enough, Option.map_some]
      · cases failure <;> simp only [if_neg enough, Option.map_none]

/-- The peer reads with the framing of the transport, however its stream ends. -/
theorem readPayloads_eq_reads (count : Nat) (stream : ByteStream) :
    readPayloads count stream = transportFraming.reads count stream.bytes := by
  induction count generalizing stream with
  | zero => rfl
  | succ count ih =>
      rcases stream with ⟨bytes, failure⟩
      simp only [readPayloads, Framing.reads, readPayload_failure bytes failure]
      cases read : readPayload ⟨bytes, none⟩ with
      | none => simp [transportFraming, read]
      | some found => simp [transportFraming, read, ih]

/-! ## The writer task -/

/-- How the write of a frame ends: all of it is accepted, or so many bytes are and then a
write or the flush fails. -/
inductive WriteOutcome where
  | completes
  | fails (accepted : Nat)
  deriving DecidableEq

/-- Whether the whole frame of a payload is accepted. -/
def WriteOutcome.isWhole (outcome : WriteOutcome) (payload : List UInt8) : Bool :=
  match outcome with
  | .completes => true
  | .fails accepted => (frame payload).length ≤ accepted

/-- A command as `run_write_loop` consumes it: each `Update` brings a new connection, and
for a `Send` the mode it finds and how the write ends, if it writes. -/
inductive Consumed where
  | update
  | send (payload : List UInt8) (mode : ConnectionMode) (outcome : WriteOutcome)
  deriving DecidableEq

/-- `run_write_loop`: the connections are numbered in the order they are installed. -/
structure WriteLoop where
  connection : Nat := 0
  running : Bool := true
  deriving DecidableEq

namespace WriteLoop

/-- One iteration of `run_write_loop`, with the bytes it gives to its connection. -/
def step (loop : WriteLoop) (command : Consumed) : WriteLoop × List (Nat × List UInt8) :=
  if loop.running then
    match command with
    | .update => ({ loop with connection := loop.connection + 1 }, [])
    | .send payload mode outcome =>
        if mode = .active then
          match outcome with
          | .completes => (loop, [(loop.connection, frame payload)])
          | .fails accepted =>
              ({ loop with running := false },
                [(loop.connection, (frame payload).take accepted)])
        else (loop, [])
  else (loop, [])

/-- The writer task of a new client. -/
def machine : Machine WriteLoop Consumed (Nat × List UInt8) where
  init := {}
  step := step

/-- The bytes given to a connection. -/
def bytesOn (connection : Nat) (writes : List (Nat × List UInt8)) : List UInt8 :=
  (writes.filter (·.1 = connection)).flatMap (·.2)

/-- The `Send`s whose frames are written to the last byte, with their connections. -/
def written : WriteLoop → List Consumed → List (Nat × List UInt8)
  | _, [] => []
  | loop, .update :: rest => written (machine.next loop .update) rest
  | loop, .send payload mode outcome :: rest =>
      let later := written (machine.next loop (.send payload mode outcome)) rest
      if loop.running ∧ mode = .active ∧ outcome.isWhole payload then
        (loop.connection, payload) :: later
      else later

/-- Every `Send`, with the connection of the last `Update` before it. -/
def addressed : Nat → List Consumed → List (Nat × List UInt8)
  | _, [] => []
  | connection, .update :: rest => addressed (connection + 1) rest
  | connection, .send payload _ _ :: rest =>
      (connection, payload) :: addressed connection rest

/-- The number of connections, the first included. -/
def connections (commands : List Consumed) : Nat :=
  commands.count .update + 1

/-- What the peer decodes, one connection after the other, when it has received so much of
each and has gone so often through its loop. -/
def decoded (commands : List Consumed) (received : Nat → ByteStream) (count : Nat → Nat) :
    List (Nat × List UInt8) :=
  (List.range (connections commands)).flatMap fun connection =>
    (readPayloads (count connection) (received connection)).map (connection, ·)

/-! ## What is written -/

theorem next_of_stopped {loop : WriteLoop} (stopped : loop.running = false)
    (command : Consumed) : machine.next loop command = loop := by
  simp [machine, Machine.next, step, stopped]

theorem outputs_of_stopped {loop : WriteLoop} (stopped : loop.running = false)
    (commands : List Consumed) : machine.outputs loop commands = [] := by
  induction commands with
  | nil => rfl
  | cons command rest ih =>
      rw [Machine.outputs, next_of_stopped stopped, ih]
      simp [machine, Machine.emits, step, stopped]

theorem written_of_stopped {loop : WriteLoop} (stopped : loop.running = false)
    (commands : List Consumed) : written loop commands = [] := by
  induction commands with
  | nil => rfl
  | cons command rest ih =>
      cases command <;> simp [written, next_of_stopped stopped, ih, stopped]

/-- What is written is sent, in the same order. -/
theorem written_sublist (loop : WriteLoop) (commands : List Consumed) :
    (written loop commands).Sublist (addressed loop.connection commands) := by
  induction commands generalizing loop with
  | nil => exact List.Sublist.slnil
  | cons command rest ih =>
      cases running : loop.running with
      | false =>
          rw [written_of_stopped running]
          exact List.nil_sublist _
      | true =>
          cases command with
          | update =>
              have later := ih (machine.next loop .update)
              simpa [machine, Machine.next, step, running, written, addressed] using later
          | send payload mode outcome =>
              have same : (machine.next loop (.send payload mode outcome)).connection =
                  loop.connection := by
                simp only [machine, Machine.next, step, running, if_true]
                split
                · cases outcome <;> rfl
                · rfl
              have later := ih (machine.next loop (.send payload mode outcome))
              rw [same] at later
              simp only [written, addressed]
              split
              · exact later.cons_cons _
              · exact later.cons _

/-- The payloads written on a connection. -/
def writtenOn (connection : Nat) (loop : WriteLoop) (commands : List Consumed) :
    List (List UInt8) :=
  ((written loop commands).filter (·.1 = connection)).map (·.2)

/-- Every payload sent fits into a frame. -/
def Fits (commands : List Consumed) : Prop :=
  ∀ payload mode outcome, .send payload mode outcome ∈ commands →
    payload.length ≤ 16 * 1024 * 1024

@[simp] theorem bytesOn_nil (connection : Nat) : bytesOn connection [] = [] := rfl

@[simp] theorem bytesOn_cons (connection number : Nat) (bytes : List UInt8)
    (writes : List (Nat × List UInt8)) :
    bytesOn connection ((number, bytes) :: writes) =
      (if number = connection then bytes else []) ++ bytesOn connection writes := by
  by_cases same : number = connection <;> simp [bytesOn, same]

theorem outputs_completes {loop : WriteLoop} (running : loop.running = true)
    (payload : List UInt8) (rest : List Consumed) :
    machine.outputs loop (.send payload .active .completes :: rest) =
      (loop.connection, frame payload) :: machine.outputs loop rest := by
  simp [Machine.outputs, Machine.emits, Machine.next, machine, step, running]

theorem outputs_fails {loop : WriteLoop} (running : loop.running = true)
    (payload : List UInt8) (accepted : Nat) (rest : List Consumed) :
    machine.outputs loop (.send payload .active (.fails accepted) :: rest) =
      [(loop.connection, (frame payload).take accepted)] := by
  rw [Machine.outputs]
  have stopped : (machine.next loop (.send payload .active (.fails accepted))).running =
      false := by
    simp [Machine.next, machine, step, running]
  rw [outputs_of_stopped stopped]
  simp [Machine.emits, machine, step, running]

theorem writtenOn_completes {loop : WriteLoop} (running : loop.running = true)
    (payload : List UInt8) (rest : List Consumed) (connection : Nat) :
    writtenOn connection loop (.send payload .active .completes :: rest) =
      (if loop.connection = connection then [payload] else []) ++
        writtenOn connection loop rest := by
  have same : machine.next loop (.send payload .active .completes) = loop := by
    simp [Machine.next, machine, step, running]
  by_cases here : loop.connection = connection <;>
    simp [writtenOn, written, running, WriteOutcome.isWhole, same, here]

theorem writtenOn_fails {loop : WriteLoop} (running : loop.running = true)
    (payload : List UInt8) (accepted : Nat) (rest : List Consumed) (connection : Nat) :
    writtenOn connection loop (.send payload .active (.fails accepted) :: rest) =
      if (frame payload).length ≤ accepted ∧ loop.connection = connection then [payload]
      else [] := by
  have stopped : (machine.next loop (.send payload .active (.fails accepted))).running =
      false := by
    simp [Machine.next, machine, step, running]
  by_cases whole : (frame payload).length ≤ accepted <;>
    by_cases here : loop.connection = connection <;>
    simp [writtenOn, written, written_of_stopped stopped, running, WriteOutcome.isWhole,
      whole, here]

/-- The bytes of a connection are the frames written on it, and after them at most the
start of a frame that a failed write has cut short. -/
theorem bytesOn_outputs (loop : WriteLoop) {commands : List Consumed} (fits : Fits commands)
    (connection : Nat) :
    ∃ cut, (∀ start, start <+: cut → transportFraming.read start = none) ∧
      bytesOn connection (machine.outputs loop commands) =
        transportFraming.stream (writtenOn connection loop commands) ++ cut := by
  induction commands generalizing loop with
  | nil => exact ⟨[], transportFraming.silent_of_nil, rfl⟩
  | cons command rest ih =>
      have later := fun next => ih next fun payload mode outcome member =>
        fits payload mode outcome (List.mem_cons_of_mem _ member)
      cases running : loop.running with
      | false =>
          refine ⟨[], transportFraming.silent_of_nil, ?_⟩
          rw [outputs_of_stopped running, writtenOn, written_of_stopped running]
          rfl
      | true =>
          cases command with
          | update =>
              have quiet : machine.emits loop .update = [] := by
                simp [machine, Machine.emits, step, running]
              rw [Machine.outputs, quiet]
              exact later (machine.next loop .update)
          | send payload mode outcome =>
              by_cases active : mode = .active
              · subst active
                have fitting := fits payload .active outcome List.mem_cons_self
                cases outcome with
                | completes =>
                    rcases later loop with ⟨cut, silent, same⟩
                    refine ⟨cut, silent, ?_⟩
                    rw [outputs_completes running, writtenOn_completes running, bytesOn_cons,
                      same, ← List.append_assoc, Framing.stream_append]
                    split
                    · rw [Framing.stream_cons, Framing.stream_nil, List.append_nil]
                      rfl
                    · rfl
                | fails accepted =>
                    rw [outputs_fails running, writtenOn_fails running, bytesOn_cons,
                      bytesOn_nil, List.append_nil]
                    by_cases here : loop.connection = connection
                    · by_cases whole : (frame payload).length ≤ accepted
                      · refine ⟨[], transportFraming.silent_of_nil, ?_⟩
                        rw [if_pos here, if_pos ⟨whole, here⟩, List.take_of_length_le whole,
                          Framing.stream_cons, Framing.stream_nil]
                        simp [transportFraming]
                      · refine ⟨(frame payload).take accepted, ?_, ?_⟩
                        · apply transportFraming.silent_of_cut fitting (List.take_prefix _ _)
                          intro same
                          have length := congrArg List.length same
                          simp only [transportFraming, List.length_take] at length
                          omega
                        · rw [if_pos here, if_neg fun both => whole both.1]
                          rfl
                    · refine ⟨[], transportFraming.silent_of_nil, ?_⟩
                      rw [if_neg here, if_neg fun both => here both.2]
                      rfl
              · have quiet : machine.emits loop (.send payload mode outcome) = [] := by
                  simp [machine, Machine.emits, step, running, active]
                have skipped : writtenOn connection loop (.send payload mode outcome :: rest) =
                    writtenOn connection
                      (machine.next loop (.send payload mode outcome)) rest := by
                  simp [writtenOn, written, active]
                rw [Machine.outputs, quiet, skipped]
                exact later (machine.next loop (.send payload mode outcome))

/-! ## What is sent -/

/-- The `Send`s without their connections, in the order they are consumed. -/
def sends (commands : List Consumed) : List (List UInt8) :=
  commands.filterMap fun command =>
    match command with
    | .update => none
    | .send payload _ _ => some payload

theorem addressed_payloads (connection : Nat) (commands : List Consumed) :
    (addressed connection commands).map (·.2) = sends commands := by
  induction commands generalizing connection with
  | nil => rfl
  | cons command rest ih =>
      cases command with
      | update => exact ih (connection + 1)
      | send payload mode outcome => simp [addressed, sends, ih connection]

theorem mem_addressed {connection : Nat} {commands : List Consumed}
    {entry : Nat × List UInt8} (member : entry ∈ addressed connection commands) :
    connection ≤ entry.1 ∧ entry.1 < connection + connections commands ∧
      ∃ mode outcome, .send entry.2 mode outcome ∈ commands := by
  induction commands generalizing connection with
  | nil => cases member
  | cons command rest ih =>
      cases command with
      | update =>
          rcases ih member with ⟨lower, upper, mode, outcome, sent⟩
          refine ⟨by omega, ?_, mode, outcome, List.mem_cons_of_mem _ sent⟩
          simp only [connections, List.count_cons_self] at upper ⊢
          omega
      | send payload mode outcome =>
          have same : connections (.send payload mode outcome :: rest) = connections rest := by
            simp [connections]
          rw [same]
          rcases List.mem_cons.mp member with rfl | later
          · exact ⟨le_rfl, by simp [connections], mode, outcome, List.mem_cons_self⟩
          · rcases ih later with ⟨lower, upper, mode, outcome, sent⟩
            exact ⟨lower, upper, mode, outcome, List.mem_cons_of_mem _ sent⟩

theorem addressed_sorted (connection : Nat) (commands : List Consumed) :
    (addressed connection commands).Pairwise (fun earlier later => earlier.1 ≤ later.1) := by
  induction commands generalizing connection with
  | nil => exact List.Pairwise.nil
  | cons command rest ih =>
      cases command with
      | update => exact ih (connection + 1)
      | send payload mode outcome =>
          rw [addressed, List.pairwise_cons]
          exact ⟨fun entry member => (mem_addressed member).1, ih connection⟩

/-! ## What is decoded -/

/-- The peer decodes the payloads written on a connection, up to where it has got. -/
theorem readPayloads_within {commands : List Consumed} (fits : Fits commands)
    {connection : Nat} {received : ByteStream}
    (arrived : received.bytes <+: bytesOn connection (machine.outputs machine.init commands))
    (count : Nat) :
    readPayloads count received <+: writtenOn connection machine.init commands := by
  rcases bytesOn_outputs machine.init fits connection with ⟨cut, silent, bytes⟩
  rw [bytes] at arrived
  rw [readPayloads_eq_reads]
  apply transportFraming.reads_within _ silent arrived
  intro payload member
  rcases List.mem_map.mp member with ⟨entry, among, rfl⟩
  have sent := (written_sublist machine.init commands).mem (List.mem_filter.mp among).1
  rcases mem_addressed sent with ⟨_, _, mode, outcome, consumed⟩
  exact fits entry.2 mode outcome consumed

/-- The payloads written on a connection, with the connection. -/
theorem map_writtenOn (connection : Nat) (loop : WriteLoop) (commands : List Consumed) :
    (writtenOn connection loop commands).map (connection, ·) =
      (written loop commands).filter (·.1 = connection) := by
  rw [writtenOn, List.map_map]
  conv_rhs => rw [← List.map_id ((written loop commands).filter (·.1 = connection))]
  apply List.map_congr_left
  intro entry member
  have same : entry.1 = connection := of_decide_eq_true (List.mem_filter.mp member).2
  exact Prod.ext same.symm rfl

/-- What the peer decodes, over all connections, are `Send`s in their order, each at most
once, on the connection of the last `Update` before it, and with its whole frame written. -/
theorem decoded_sublist {commands : List Consumed} (fits : Fits commands)
    (received : Nat → ByteStream)
    (arrived : ∀ connection, (received connection).bytes <+:
      bytesOn connection (machine.outputs machine.init commands))
    (count : Nat → Nat) :
    (decoded commands received count).Sublist (written machine.init commands) ∧
      (written machine.init commands).Sublist (addressed 0 commands) ∧
      ((decoded commands received count).map (·.2)).Sublist (sends commands) := by
  have sent : (written machine.init commands).Sublist (addressed 0 commands) :=
    written_sublist machine.init commands
  have parts := flatMap_filter_of_sorted (written machine.init commands)
    (connections commands) ((addressed_sorted 0 commands).sublist sent) (by
      intro entry member
      have bound := (mem_addressed (sent.mem member)).2.1
      omega)
  have among : (decoded commands received count).Sublist (written machine.init commands) := by
    rw [← parts]
    apply List.Sublist.flatMap_right
    intro connection _
    rw [← map_writtenOn]
    exact ((readPayloads_within fits (arrived connection) (count connection)).map _).sublist
  refine ⟨among, sent, ?_⟩
  rw [← addressed_payloads 0]
  exact (among.trans sent).map _

/-- Two connections: a payload is written and read, one is skipped, one is cut short. -/
def cutShort : List Consumed :=
  [.send [7] .active .completes, .send [8] .reconnect .completes, .update,
    .send [9] .active .completes, .send [5, 6] .active (.fails 5)]

theorem cutShort_decoded :
    (decoded cutShort (fun connection => ⟨bytesOn connection
        (machine.outputs machine.init cutShort), none⟩) (fun _ => 3)).Sublist
          (written machine.init cutShort) ∧
      (written machine.init cutShort).Sublist (addressed 0 cutShort) ∧
      ((decoded cutShort (fun connection => ⟨bytesOn connection
        (machine.outputs machine.init cutShort), none⟩) (fun _ => 3)).map (·.2)).Sublist
          (sends cutShort) := by
  apply decoded_sublist
  · intro payload mode outcome sent
    simp only [cutShort, List.mem_cons, Consumed.send.injEq, reduceCtorEq, List.not_mem_nil,
      or_false, false_or] at sent
    rcases sent with ⟨rfl, _⟩ | ⟨rfl, _⟩ | ⟨rfl, _⟩ | ⟨rfl, _⟩ <;> simp
  · intro connection
    exact List.prefix_rfl

example : decoded cutShort (fun connection => ⟨bytesOn connection
    (machine.outputs machine.init cutShort), none⟩) (fun _ => 3) = [(0, [7]), (1, [9])] := by
  decide +kernel

end WriteLoop

end CtpSystem
