import CtpSystem.Network.WriteLoop

/-!
# Framing in both directions

Four loops share one frame format: the server's `read_loop` and `write_loop` and the client's
`run_read_loop` and `run_write_loop`.  The bytes of a connection arrive in chunks, and a read
loop is at any moment as far as the bytes that arrived allow.  Both read loops refuse a length
above 16 MiB; the server's also ends at a payload it cannot parse or whose handling fails.
-/

namespace CtpSystem

open Reactive

/-! ## Reading chunks -/

/-- What arrived on a connection: the chunks in their order, and how the stream ended, if it
did. -/
structure Arrived where
  chunks : List (List UInt8)
  ending : Option ReadError := none
  deriving DecidableEq

def Arrived.bytes (arrived : Arrived) : List UInt8 := arrived.chunks.flatten

/-- How far a read gets with what arrived. -/
inductive Reading where
  | ready (bytes : List UInt8) (rest : Arrived)
  | pending
  | failed (error : ReadError)
  | tooLarge (len : Nat)
  deriving DecidableEq

/-- A read that wants more than arrived. -/
def Arrived.short (arrived : Arrived) : Reading :=
  match arrived.ending with
  | none => .pending
  | some error => .failed error

/-- `read_exact`, which fills its buffer from one chunk after the other. -/
def Arrived.readExact (arrived : Arrived) (count : Nat) : Reading :=
  match takeChunks count arrived.chunks with
  | some (bytes, chunks) => .ready bytes { arrived with chunks := chunks }
  | none => arrived.short

/-- A length and a payload, as both read loops read them. -/
def Arrived.readFrame (arrived : Arrived) : Reading :=
  match arrived.readExact 4 with
  | .ready lenBuf rest =>
      let len := fromBeBytes lenBuf
      if len > 16 * 1024 * 1024 then .tooLarge len
      else rest.readExact len
  | other => other

/-- Where a read loop stands: between two iterations, waiting for bytes, or ended. -/
inductive LoopStage where
  | running
  | waiting
  | ended
  deriving DecidableEq

/-- What a read loop did: the payloads it delivered, the bytes it had before it wherever it
read a length, and where it stands. -/
structure LoopTrace where
  delivered : List (List UInt8)
  lengthReads : List (List UInt8)
  stage : LoopStage
  deriving DecidableEq

/-- So many iterations of a read loop; `proceeds` tells whether the loop goes on after a
payload, the index of which it is given. -/
def frameLoop (proceeds : Nat → List UInt8 → Bool) : Nat → Nat → Arrived → LoopTrace
  | 0, _, _ => ⟨[], [], .running⟩
  | count + 1, index, arrived =>
      match arrived.readFrame with
      | .ready payload rest =>
          if proceeds index payload then
            let later := frameLoop proceeds count (index + 1) rest
            ⟨payload :: later.delivered, arrived.bytes :: later.lengthReads, later.stage⟩
          else ⟨[payload], [arrived.bytes], .ended⟩
      | .pending => ⟨[], [arrived.bytes], .waiting⟩
      | .failed _ | .tooLarge _ => ⟨[], [arrived.bytes], .ended⟩

/-- `run_read_loop` of the client: the handler is given each payload and cannot fail. -/
def runReadLoop (arrived : Arrived) (count : Nat) : LoopTrace :=
  frameLoop (fun _ _ => true) count 0 arrived

/-- The server goes on after a payload that parses and whose envelope is handled without an
error, which depends on the state it meets. -/
def serverProceeds (fromSlice : List UInt8 → Except String Envelope)
    (handles : Nat → Envelope → Bool) (index : Nat) (payload : List UInt8) : Bool :=
  match fromSlice payload with
  | .error _ => false
  | .ok envelope => handles index envelope

/-- `read_loop` of the server. -/
def readLoop (fromSlice : List UInt8 → Except String Envelope)
    (handles : Nat → Envelope → Bool) (arrived : Arrived) (count : Nat) : LoopTrace :=
  frameLoop (serverProceeds fromSlice handles) count 0 arrived

/-! ## The written streams -/

/-- The bytes `write_loop` of the server writes; an envelope that cannot be encoded ends it. -/
def writeLoop (toVec : Envelope → Except String (List UInt8)) : List Envelope → List UInt8
  | [] => []
  | envelope :: rest =>
      match toVec envelope with
      | .error _ => []
      | .ok payload => toBeBytes payload.length ++ payload ++ writeLoop toVec rest

/-- The bytes `run_write_loop` of the client writes for payloads sent over one connection. -/
def runWriteLoop (payloads : List (List UInt8)) : List UInt8 :=
  WriteLoop.bytesOn 0 (WriteLoop.machine.outputs {}
    (payloads.map fun payload => .send payload .active .completes))

theorem writeLoop_eq_stream {toVec : Envelope → Except String (List UInt8)}
    {envelopes : List Envelope} {payloads : List (List UInt8)}
    (encoded : envelopes.map toVec = payloads.map .ok) :
    writeLoop toVec envelopes = transportFraming.stream payloads := by
  induction envelopes generalizing payloads with
  | nil =>
      cases payloads with
      | nil => rfl
      | cons payload payloads => cases encoded
  | cons envelope envelopes ih =>
      cases payloads with
      | nil => cases encoded
      | cons payload payloads =>
          rw [List.map_cons, List.map_cons, List.cons.injEq] at encoded
          simp only [writeLoop, encoded.1, ih encoded.2, Framing.stream_cons]
          rfl

theorem runWriteLoop_eq_stream (payloads : List (List UInt8)) :
    runWriteLoop payloads = transportFraming.stream payloads := by
  induction payloads with
  | nil => rfl
  | cons payload payloads ih =>
      rw [runWriteLoop, List.map_cons, WriteLoop.outputs_completes rfl, WriteLoop.bytesOn_cons,
        if_pos rfl, Framing.stream_cons, ← ih]
      rfl

/-! ## One iteration -/

theorem Arrived.readExact_append {arrived : Arrived} {taken more : List UInt8}
    (whole : arrived.bytes = taken ++ more) :
    ∃ rest : Arrived, arrived.readExact taken.length = .ready taken rest ∧ rest.bytes = more ∧
      rest.ending = arrived.ending := by
  rcases takeChunks_append whole with ⟨chunks, found, left⟩
  exact ⟨{ arrived with chunks := chunks }, by rw [readExact, found], left, rfl⟩

theorem Arrived.readExact_of_short {arrived : Arrived} {count : Nat}
    (short : arrived.bytes.length < count) : arrived.readExact count = arrived.short := by
  rw [readExact, takeChunks_of_short short]

/-- What is there of the wanted bytes is read, whatever the chunks. -/
theorem Arrived.readExact_of_enough {arrived : Arrived} {count : Nat}
    (enough : count ≤ arrived.bytes.length) :
    ∃ rest : Arrived, arrived.readExact count = .ready (arrived.bytes.take count) rest ∧
      rest.bytes = arrived.bytes.drop count := by
  rcases readExact_append (List.take_append_drop count arrived.bytes).symm with
    ⟨rest, read, left, -⟩
  rw [List.length_take_of_le enough] at read
  exact ⟨rest, read, left⟩

/-- A read loop takes off its chunks the payload that is taken off their bytes. -/
theorem Arrived.readFrame_eq_readPayload (arrived : Arrived) (failure : Option String) :
    readPayload ⟨arrived.bytes, failure⟩ =
      match arrived.readFrame with
      | .ready payload rest => some (payload, ⟨rest.bytes, failure⟩)
      | _ => none := by
  by_cases headed : arrived.bytes.length < 4
  · rw [readPayload_of_short headed, readFrame, readExact_of_short headed, Arrived.short]
    cases arrived.ending <;> rfl
  · have headed := Nat.le_of_not_lt headed
    rcases readExact_of_enough headed with ⟨rest, read, left⟩
    simp only [readPayload, ByteStream.readExact, if_pos headed, readFrame, read]
    by_cases large : fromBeBytes (arrived.bytes.take 4) > 16 * 1024 * 1024
    · simp only [if_pos large]
    · simp only [if_neg large, ← left]
      by_cases enough : fromBeBytes (arrived.bytes.take 4) ≤ rest.bytes.length
      · rcases readExact_of_enough enough with ⟨later, read, left⟩
        simp only [if_pos enough, read, left]
      · rw [readExact_of_short (Nat.lt_of_not_le enough), Arrived.short]
        cases failure <;> cases rest.ending <;> simp only [if_neg enough]

/-- Payloads the read loops accept the length of. -/
def readable (payload : List UInt8) : Bool := payload.length ≤ 16 * 1024 * 1024

/-- What an iteration finds of the frames of some payloads: a whole frame, a length that is
too large, or less than either. -/
inductive FrameCase (arrived : Arrived) : List (List UInt8) → Reading → Prop where
  | whole (payload : List UInt8) (payloads : List (List UInt8)) (rest : Arrived) :
      readable payload = true → arrived.bytes = frame payload ++ rest.bytes →
      rest.bytes <+: transportFraming.stream payloads → rest.ending = arrived.ending →
      FrameCase arrived (payload :: payloads) (.ready payload rest)
  | large (payload : List UInt8) (payloads : List (List UInt8)) :
      readable payload = false → 4 ≤ arrived.bytes.length →
      FrameCase arrived (payload :: payloads) (.tooLarge payload.length)
  | cut (payload : List UInt8) (payloads : List (List UInt8)) :
      (arrived.bytes.length < if readable payload then (frame payload).length else 4) →
      FrameCase arrived (payload :: payloads) arrived.short
  | finished : arrived.bytes = [] → FrameCase arrived [] arrived.short

/-- The payloads are of lengths a `u32` holds. -/
def ShortPayloads (payloads : List (List UInt8)) : Prop :=
  ∀ payload ∈ payloads, payload.length < 4294967296

theorem Arrived.readFrame_of_short {arrived : Arrived} (short : arrived.bytes.length < 4) :
    arrived.readFrame = arrived.short := by
  rw [readFrame, readExact_of_short short, Arrived.short]
  cases arrived.ending <;> rfl

/-- After a whole length, what is read is decided by the length. -/
theorem Arrived.readFrame_of_header {arrived : Arrived} {len : Nat} {body : List UInt8}
    (small : len < 4294967296) (headed : arrived.bytes = toBeBytes len ++ body) :
    ∃ rest : Arrived, rest.bytes = body ∧ rest.ending = arrived.ending ∧
      arrived.readFrame =
        if len > 16 * 1024 * 1024 then .tooLarge len else rest.readExact len := by
  rcases readExact_append headed with ⟨rest, read, left, ending⟩
  refine ⟨rest, left, ending, ?_⟩
  have four : arrived.readExact 4 = .ready (toBeBytes len) rest := read
  simp only [readFrame, four, fromBeBytes_toBeBytes small]

theorem length_header_append (len : Nat) (body : List UInt8) :
    (toBeBytes len ++ body).length = 4 + body.length := by
  simp only [toBeBytes, List.length_append, List.length_map, List.length_cons,
    List.length_nil]

/-- Once the length is there, it and the rest of the bytes decide the case. -/
theorem readFrame_case_of_header {arrived : Arrived} {payload body : List UInt8}
    {payloads : List (List UInt8)} (small : payload.length < 4294967296)
    (header : arrived.bytes = toBeBytes payload.length ++ body)
    (within : body <+: payload ++ transportFraming.stream payloads) :
    FrameCase arrived (payload :: payloads) arrived.readFrame := by
  have long : arrived.bytes.length = 4 + body.length := by
    rw [header, length_header_append]
  rcases Arrived.readFrame_of_header small header with ⟨rest, rfl, ending, read⟩
  rw [read]
  by_cases large : payload.length > 16 * 1024 * 1024
  · rw [if_pos large]
    exact .large payload payloads (by simp [readable, large]) (by omega)
  · rw [if_neg large]
    have fits : readable payload = true := by simpa [readable] using large
    by_cases missing : rest.bytes.length < payload.length
    · rw [Arrived.readExact_of_short missing, Arrived.short, ending, ← Arrived.short]
      refine .cut payload payloads ?_
      rw [if_pos fits, frame, length_header_append]
      omega
    · have present : payload <+: rest.bytes :=
        List.prefix_of_prefix_length_le (List.prefix_append _ _) within
          (Nat.le_of_not_lt missing)
      rcases present with ⟨more, whole⟩
      rcases Arrived.readExact_append whole.symm with ⟨later, read, rfl, after⟩
      rw [read]
      rw [← whole] at within
      refine .whole payload payloads later fits ?_
        ((List.prefix_append_right_inj _).mp within) (after.trans ending)
      rw [frame, List.append_assoc, whole, header]

/-- Every iteration finds one of the cases. -/
theorem readFrame_case {payloads : List (List UInt8)} (short : ShortPayloads payloads)
    {arrived : Arrived} (within : arrived.bytes <+: transportFraming.stream payloads) :
    FrameCase arrived payloads arrived.readFrame := by
  cases payloads with
  | nil =>
      have empty : arrived.bytes = [] := List.prefix_nil.mp within
      rw [Arrived.readFrame_of_short (by rw [empty]; decide)]
      exact .finished empty
  | cons payload payloads =>
      have split : transportFraming.stream (payload :: payloads) =
          toBeBytes payload.length ++ (payload ++ transportFraming.stream payloads) :=
        List.append_assoc ..
      rw [split] at within
      by_cases headed : arrived.bytes.length < 4
      · rw [Arrived.readFrame_of_short headed]
        refine .cut payload payloads ?_
        rw [frame, length_header_append]
        split <;> omega
      · have started : toBeBytes payload.length <+: arrived.bytes :=
          List.prefix_of_prefix_length_le (List.prefix_append _ _) within
            (Nat.le_of_not_lt headed)
        rcases started with ⟨body, header⟩
        rw [← header] at within
        exact readFrame_case_of_header (short payload List.mem_cons_self) header.symm
          ((List.prefix_append_right_inj _).mp within)

/-! ## What is delivered -/

/-- The payloads whose frames lie in so many of the first bytes of the stream, before the first
that is too large. -/
def wholePayloads (payloads : List (List UInt8)) (cut : Nat) : List (List UInt8) :=
  transportFraming.completed (payloads.takeWhile readable) cut

/-- The payloads up to the first after which the loop does not go on, which is the last. -/
def upToRefused (proceeds : Nat → List UInt8 → Bool) :
    Nat → List (List UInt8) → List (List UInt8)
  | _, [] => []
  | index, payload :: payloads =>
      payload :: if proceeds index payload then upToRefused proceeds (index + 1) payloads else []

/-- A loop that always goes on gets all of them. -/
theorem upToRefused_always (index : Nat) (payloads : List (List UInt8)) :
    upToRefused (fun _ _ => true) index payloads = payloads := by
  induction payloads generalizing index with
  | nil => rfl
  | cons payload payloads ih => rw [upToRefused, if_pos rfl, ih]

section Loop

variable {proceeds : Nat → List UInt8 → Bool} {index : Nat} {payload : List UInt8}
  {payloads : List (List UInt8)} {arrived : Arrived}

@[simp] theorem wholePayloads_nil (cut : Nat) : wholePayloads [] cut = [] := rfl

theorem wholePayloads_of_large (large : readable payload = false) (cut : Nat) :
    wholePayloads (payload :: payloads) cut = [] := by
  rw [wholePayloads, List.takeWhile_cons_of_neg (by simp [large])]
  rfl

theorem wholePayloads_of_cut
    (cut : arrived.bytes.length < if readable payload then (frame payload).length else 4) :
    wholePayloads (payload :: payloads) arrived.bytes.length = [] := by
  cases fits : readable payload with
  | false => exact wholePayloads_of_large fits _
  | true =>
      rw [fits, if_pos rfl] at cut
      have missing : ¬(transportFraming.frame payload).length ≤ arrived.bytes.length :=
        Nat.not_le.mpr cut
      rw [wholePayloads, List.takeWhile_cons_of_pos fits, Framing.completed, if_neg missing]

theorem wholePayloads_of_whole (fits : readable payload = true) (more : Nat) :
    wholePayloads (payload :: payloads) ((frame payload).length + more) =
      payload :: wholePayloads payloads more := by
  have present : (transportFraming.frame payload).length ≤ (frame payload).length + more :=
    Nat.le_add_right _ _
  have left : (frame payload).length + more - (transportFraming.frame payload).length = more :=
    Nat.add_sub_cancel_left _ _
  rw [wholePayloads, List.takeWhile_cons_of_pos fits, Framing.completed, if_pos present, left]
  rfl

/-- The stage of a loop that wants more than arrived. -/
def Arrived.shortStage (arrived : Arrived) : LoopStage :=
  match arrived.ending with
  | none => .waiting
  | some _ => .ended

theorem frameLoop_of_short (read : arrived.readFrame = arrived.short) (count : Nat) :
    frameLoop proceeds (count + 1) index arrived =
      ⟨[], [arrived.bytes], arrived.shortStage⟩ := by
  rw [frameLoop, read, Arrived.short, Arrived.shortStage]
  cases arrived.ending <;> rfl

theorem frameLoop_of_large {len : Nat} (read : arrived.readFrame = .tooLarge len)
    (count : Nat) :
    frameLoop proceeds (count + 1) index arrived = ⟨[], [arrived.bytes], .ended⟩ := by
  rw [frameLoop, read]

theorem frameLoop_of_ready {rest : Arrived} (read : arrived.readFrame = .ready payload rest)
    (count : Nat) :
    frameLoop proceeds (count + 1) index arrived =
      if proceeds index payload then
        let later := frameLoop proceeds count (index + 1) rest
        ⟨payload :: later.delivered, arrived.bytes :: later.lengthReads, later.stage⟩
      else ⟨[payload], [arrived.bytes], .ended⟩ := by
  rw [frameLoop, read]

/-- A read loop delivers the whole payloads up to a refused one, as far as its iterations
go. -/
theorem delivered_eq (short : ShortPayloads payloads)
    (within : arrived.bytes <+: transportFraming.stream payloads) (count : Nat) :
    (frameLoop proceeds count index arrived).delivered =
      (upToRefused proceeds index (wholePayloads payloads arrived.bytes.length)).take count := by
  induction count generalizing index payloads arrived with
  | zero => rfl
  | succ count ih =>
      have found := readFrame_case short within
      generalize read : arrived.readFrame = reading at found
      cases found with
      | finished empty =>
          rw [frameLoop_of_short read, wholePayloads_nil, upToRefused, List.take_nil]
      | cut payload payloads cut =>
          rw [frameLoop_of_short read, wholePayloads_of_cut cut, upToRefused, List.take_nil]
      | large payload payloads large headed =>
          rw [frameLoop_of_large read, wholePayloads_of_large large, upToRefused, List.take_nil]
      | whole payload payloads rest fits split later ending =>
          have tail := fun payload member => short payload (List.mem_cons_of_mem _ member)
          rw [frameLoop_of_ready read, split, List.length_append, wholePayloads_of_whole fits,
            upToRefused]
          cases proceeds index payload with
          | false => exact congrArg (payload :: ·) List.take_nil.symm
          | true => exact congrArg (payload :: ·) (ih tail later)

/-- Every length is read where a frame begins. -/
theorem lengthReads_boundary (short : ShortPayloads payloads)
    (within : arrived.bytes <+: transportFraming.stream payloads) (count : Nat) :
    ∀ unread ∈ (frameLoop proceeds count index arrived).lengthReads,
      ∃ earlier, earlier <+: payloads ∧
        arrived.bytes = transportFraming.stream earlier ++ unread := by
  induction count generalizing index payloads arrived with
  | zero => exact fun unread member => absurd member List.not_mem_nil
  | succ count ih =>
      intro unread member
      have here : unread = arrived.bytes → ∃ earlier, earlier <+: payloads ∧
          arrived.bytes = transportFraming.stream earlier ++ unread := by
        rintro rfl
        exact ⟨[], List.nil_prefix, rfl⟩
      have found := readFrame_case short within
      generalize read : arrived.readFrame = reading at found
      cases found with
      | finished | cut =>
          rw [frameLoop_of_short read] at member
          exact here (List.mem_singleton.mp member)
      | large =>
          rw [frameLoop_of_large read] at member
          exact here (List.mem_singleton.mp member)
      | whole payload payloads rest fits split later ending =>
          have tail := fun payload member => short payload (List.mem_cons_of_mem _ member)
          rw [frameLoop_of_ready read] at member
          cases goes : proceeds index payload with
          | false =>
              rw [goes] at member
              exact here (List.mem_singleton.mp member)
          | true =>
              rw [goes] at member
              rcases List.mem_cons.mp member with first | after
              · exact here first
              · rcases ih tail later unread after with ⟨earlier, started, boundary⟩
                refine ⟨payload :: earlier, (List.prefix_cons_inj _).mpr started, ?_⟩
                rw [split, boundary, Framing.stream_cons, List.append_assoc]
                rfl

/-! ## Where a loop ends -/

/-- The loop does not go on after one of the payloads. -/
def Refuses (proceeds : Nat → List UInt8 → Bool) (index : Nat)
    (payloads : List (List UInt8)) : Prop :=
  ∃ place payload, payloads[place]? = some payload ∧ proceeds (index + place) payload = false

/-- The length of a payload that is too large arrived. -/
def LargeBegun (payloads : List (List UInt8)) (cut : Nat) : Prop :=
  ∃ earlier payload later, payloads = earlier ++ payload :: later ∧
    readable payload = false ∧ (transportFraming.stream earlier).length + 4 ≤ cut

theorem not_refuses_nil : ¬Refuses proceeds index [] := by
  rintro ⟨place, payload, found, -⟩
  cases found

theorem refuses_cons :
    Refuses proceeds index (payload :: payloads) ↔
      proceeds index payload = false ∨ Refuses proceeds (index + 1) payloads := by
  constructor
  · rintro ⟨place, refused, found, stops⟩
    cases place with
    | zero =>
        cases found
        exact .inl stops
    | succ place =>
        rw [Nat.add_comm place, ← Nat.add_assoc] at stops
        exact .inr ⟨place, refused, found, stops⟩
  · rintro (first | ⟨place, refused, found, stops⟩)
    · exact ⟨0, payload, rfl, first⟩
    · refine ⟨place + 1, refused, found, ?_⟩
      rwa [Nat.add_comm place, ← Nat.add_assoc]

theorem largeBegun_cons (fits : readable payload = true) (more : Nat) :
    LargeBegun (payload :: payloads) ((frame payload).length + more) ↔
      LargeBegun payloads more := by
  have framed (earlier : List (List UInt8)) :
      (transportFraming.stream (payload :: earlier)).length =
        (frame payload).length + (transportFraming.stream earlier).length :=
    List.length_append
  constructor
  · rintro ⟨earlier, large, later, split, tooLarge, begun⟩
    cases earlier with
    | nil =>
        cases split
        rw [fits] at tooLarge
        cases tooLarge
    | cons first earlier =>
        cases split
        rw [framed] at begun
        exact ⟨earlier, large, later, rfl, tooLarge, by omega⟩
  · rintro ⟨earlier, large, later, rfl, tooLarge, begun⟩
    exact ⟨payload :: earlier, large, later, rfl, tooLarge, by rw [framed]; omega⟩

theorem not_largeBegun_of_cut
    (cut : arrived.bytes.length < if readable payload then (frame payload).length else 4) :
    ¬LargeBegun (payload :: payloads) arrived.bytes.length := by
  rintro ⟨earlier, large, later, split, tooLarge, begun⟩
  cases earlier with
  | nil =>
      cases split
      rw [tooLarge] at cut
      have cut : arrived.bytes.length < 4 := cut
      omega
  | cons first earlier =>
      cases split
      have framed : (transportFraming.stream (payload :: earlier)).length =
          (frame payload).length + (transportFraming.stream earlier).length :=
        List.length_append
      split at cut <;> omega

theorem shortStage_ended_iff (arrived : Arrived) :
    arrived.shortStage = .ended ↔ arrived.ending.isSome := by
  rw [Arrived.shortStage]
  cases arrived.ending <;> simp

/-- A loop that is through with the whole payloads has ended exactly where the stream has, a
payload was refused, or the length of one that is too large arrived. -/
theorem stage_ended_iff (short : ShortPayloads payloads)
    (within : arrived.bytes <+: transportFraming.stream payloads) {count : Nat}
    (through : (wholePayloads payloads arrived.bytes.length).length < count) :
    (frameLoop proceeds count index arrived).stage = .ended ↔
      arrived.ending.isSome ∨
        Refuses proceeds index (wholePayloads payloads arrived.bytes.length) ∨
        LargeBegun payloads arrived.bytes.length := by
  induction count generalizing index payloads arrived with
  | zero => exact absurd through (Nat.not_lt_zero _)
  | succ count ih =>
      have found := readFrame_case short within
      generalize read : arrived.readFrame = reading at found
      cases found with
      | finished empty =>
          have none : ¬LargeBegun [] arrived.bytes.length := by
            rintro ⟨earlier, payload, later, split, -⟩
            exact absurd split (by simp)
          rw [frameLoop_of_short read, wholePayloads_nil, shortStage_ended_iff]
          simp only [not_refuses_nil, none, or_false]
      | cut payload payloads cut =>
          rw [frameLoop_of_short read, wholePayloads_of_cut cut, shortStage_ended_iff]
          simp only [not_refuses_nil, not_largeBegun_of_cut cut, or_false]
      | large payload payloads large headed =>
          rw [frameLoop_of_large read]
          apply iff_of_true rfl
          exact .inr (.inr ⟨[], payload, payloads, rfl, large, by simpa using headed⟩)
      | whole payload payloads rest fits split later ending =>
          have tail := fun payload member => short payload (List.mem_cons_of_mem _ member)
          rw [split, List.length_append, wholePayloads_of_whole fits] at through ⊢
          rw [frameLoop_of_ready read, largeBegun_cons fits, refuses_cons, ← ending]
          cases goes : proceeds index payload with
          | false => exact iff_of_true rfl (.inr (.inl (.inl rfl)))
          | true =>
              simp only [if_true, Bool.true_eq_false, false_or]
              exact ih tail later (Nat.lt_of_succ_lt_succ through)

end Loop

/-! ## Both directions -/

/-- What a read loop does with the bytes that arrived of the frames of some payloads, after
any number of iterations: `owed` is what it has to deliver, and it may end at a payload it
refused. -/
structure ReadsBack (loop : Nat → LoopTrace) (owed : List (List UInt8)) (refused : Prop)
    (payloads : List (List UInt8)) (arrived : Arrived) : Prop where
  /-- It delivers what it has to, in order and byte for byte, and nothing else. -/
  delivered : ∀ count, (loop count).delivered = owed.take count
  /-- It reads a length only where a frame begins. -/
  lengths : ∀ count, ∀ unread ∈ (loop count).lengthReads, ∃ earlier, earlier <+: payloads ∧
    arrived.bytes = transportFraming.stream earlier ++ unread
  /-- It ends, for good, with the stream, at a refused payload, or at the length of one that
  is too large. -/
  ends : ∀ count, (wholePayloads payloads arrived.bytes.length).length < count →
    ((loop count).stage = .ended ↔
      arrived.ending.isSome ∨ refused ∨ LargeBegun payloads arrived.bytes.length)

theorem readsBack_frameLoop (proceeds : Nat → List UInt8 → Bool)
    {payloads : List (List UInt8)} (short : ShortPayloads payloads) {arrived : Arrived}
    (within : arrived.bytes <+: transportFraming.stream payloads) :
    ReadsBack (fun count => frameLoop proceeds count 0 arrived)
      (upToRefused proceeds 0 (wholePayloads payloads arrived.bytes.length))
      (Refuses proceeds 0 (wholePayloads payloads arrived.bytes.length)) payloads arrived where
  delivered := delivered_eq short within
  lengths := lengthReads_boundary short within
  ends _ := stage_ended_iff short within

/-- Each read loop reads back what the opposite write loop wrote, whatever part of it arrived
and in whatever chunks: the payloads whose frames arrived whole, before the first that is too
large.  The server's loop also ends at the first payload it refuses. -/
theorem framing_reads_back {payloads : List (List UInt8)} (short : ShortPayloads payloads)
    (arrived : Arrived) :
    (∀ toVec envelopes, envelopes.map toVec = payloads.map .ok →
      arrived.bytes <+: writeLoop toVec envelopes →
        ReadsBack (runReadLoop arrived) (wholePayloads payloads arrived.bytes.length) False
          payloads arrived) ∧
    (arrived.bytes <+: runWriteLoop payloads → ∀ fromSlice handles,
      ReadsBack (readLoop fromSlice handles arrived)
        (upToRefused (serverProceeds fromSlice handles) 0
          (wholePayloads payloads arrived.bytes.length))
        (Refuses (serverProceeds fromSlice handles) 0
          (wholePayloads payloads arrived.bytes.length)) payloads arrived) := by
  constructor
  · intro toVec envelopes encoded within
    rw [writeLoop_eq_stream encoded] at within
    have reads := readsBack_frameLoop (fun _ _ => true) short within
    have never : ¬Refuses (fun _ _ => true) 0
        (wholePayloads payloads arrived.bytes.length) := by
      rintro ⟨place, payload, -, stops⟩
      cases stops
    rwa [upToRefused_always, eq_false never] at reads
  · intro within fromSlice handles
    rw [runWriteLoop_eq_stream] at within
    exact readsBack_frameLoop (serverProceeds fromSlice handles) short within

/-- A beat the client sends, which is no envelope. -/
def beatBytes : List UInt8 := [112, 105, 110, 103]

/-- The first frame of two and the start of the second, in three chunks. -/
def Arrived.sample : Arrived := ⟨[[0, 0], [0, 4, 112, 105, 110, 103, 0], [0, 0]], none⟩

/-- The first beat is read back in both directions, and the second waited for. -/
theorem beats_read_back :
    ReadsBack (runReadLoop .sample) (wholePayloads [beatBytes, beatBytes] 11) False
        [beatBytes, beatBytes] .sample ∧
      ReadsBack (readLoop parseSample (fun _ _ => true) .sample)
        (upToRefused (serverProceeds parseSample fun _ _ => true) 0
          (wholePayloads [beatBytes, beatBytes] 11))
        (Refuses (serverProceeds parseSample fun _ _ => true) 0
          (wholePayloads [beatBytes, beatBytes] 11)) [beatBytes, beatBytes] .sample := by
  have short : ShortPayloads [beatBytes, beatBytes] := by
    unfold ShortPayloads
    decide
  have reads := framing_reads_back short .sample
  exact ⟨reads.1 (fun _ => .ok beatBytes) [.helloSample, .helloSample] rfl (by decide),
    reads.2 (by decide) parseSample fun _ _ => true⟩

/-- The server does not read back two beats: it ends at the first, which it cannot parse. -/
theorem second_beat_unread :
    ¬ReadsBack
      (readLoop parseSample (fun _ _ => true) ⟨[runWriteLoop [beatBytes, beatBytes]], none⟩)
      (wholePayloads [beatBytes, beatBytes] 16) False [beatBytes, beatBytes]
      ⟨[runWriteLoop [beatBytes, beatBytes]], none⟩ := by
  intro reads
  have delivered := reads.delivered 2
  revert delivered
  decide

end CtpSystem
