import CtpSystem.Server.AccountStates
import CtpSystem.Server.ReadLoop

/-!
# What an ended connection leaves behind

The frames of a market-data connection register and subscribe under client ids of their
own.  Only a stream that ends where a length is due is cleaned up after, and only for the
client id of the last hello.
-/

namespace CtpSystem

open Reactive

namespace GatewayInput

/-- An input is an envelope that was read. -/
def isFrame : GatewayInput → Bool
  | .envelope _ _ _ _ => true
  | .disconnected _ | .accountState _ _ => false

/-- An input uses a client id on the market-data side. -/
def names (client : String) : GatewayInput → Prop
  | .envelope .marketData _ _ sent =>
      sent.greeting = some ⟨client⟩ ∨ sent.clientId = some ⟨client⟩
  | .envelope .trading _ _ _ | .accountState _ _ => False
  | .disconnected clientId => clientId.asStr = client

/-- An input is a market-data hello of a client or a subscription under its id. -/
def joins (client : String) : GatewayInput → Prop
  | .envelope .marketData _ _ sent =>
      sent.greeting = some ⟨client⟩ ∨
        ∃ instruments, sent = ⟨some ⟨client⟩, .subscribeMarketData instruments⟩
  | .envelope .trading _ _ _ | .accountState _ _ | .disconnected _ => False

theorem names_of_joins {client : String} {input : GatewayInput} (joined : input.joins client) :
    input.names client := by
  cases input with
  | accountState | disconnected => exact joined.elim
  | envelope kind peer outbound sent =>
      cases kind with
      | trading => exact joined.elim
      | marketData =>
          rcases joined with greeted | ⟨instruments, rfl⟩
          · exact Or.inl greeted
          · exact Or.inr rfl

/-- An envelope that tells about a channel greets in the client's name. -/
theorem greeting_of_registration {client peer : String} {outbound : EnvelopeTx}
    {sent : Envelope} {word : Option EnvelopeTx}
    (told : (GatewayInput.envelope .marketData peer outbound sent).registration client =
      some word) :
    sent.greeting = some ⟨client⟩ := by
  rcases Option.bind_eq_some_iff.mp told with ⟨clientId, greeted, told⟩
  split at told
  next same =>
    subst same
    exact greeted
  next => contradiction

theorem names_of_registration {client : String} {input : GatewayInput}
    {word : Option EnvelopeTx} (told : input.registration client = some word) :
    input.names client := by
  cases input with
  | accountState => cases told
  | disconnected clientId =>
      simp only [registration] at told
      split at told
      next same => exact same
      next => contradiction
  | envelope kind peer outbound sent =>
      cases kind with
      | trading => cases told
      | marketData => exact Or.inl (greeting_of_registration told)

theorem joins_of_registered {client : String} {input : GatewayInput} {outbound : EnvelopeTx}
    (told : input.registration client = some (some outbound)) : input.joins client := by
  cases input with
  | accountState => cases told
  | disconnected clientId =>
      simp only [registration] at told
      split at told <;> simp at told
  | envelope kind peer outbound sent =>
      cases kind with
      | trading => cases told
      | marketData => exact Or.inl (greeting_of_registration told)

theorem names_of_interest {client key : String} {input : GatewayInput} {word : Bool}
    (told : input.interest client key = some word) : input.names client := by
  rcases Option.bind_eq_some_iff.mp told with ⟨call, called, told⟩
  cases input with
  | accountState => cases called
  | disconnected clientId =>
      cases called
      simp only [TableCall.interest] at told
      split at told
      next same => exact same
      next => contradiction
  | envelope kind peer outbound sent =>
      cases kind with
      | trading => cases called
      | marketData =>
          rcases sent with ⟨sender, payload⟩
          cases payload with
          | subscribeMarketData instruments | unsubscribeMarketData instruments =>
              rcases Option.map_eq_some_iff.mp called with ⟨clientId, rfl, rfl⟩
              simp only [TableCall.interest] at told
              split at told
              next same => exact Or.inr (congrArg some (congrArg ClientId.mk same.1))
              next => contradiction
          | _ => cases called

theorem joins_of_subscribed {client key : String} {input : GatewayInput}
    (told : input.interest client key = some true) : input.joins client := by
  rcases Option.bind_eq_some_iff.mp told with ⟨call, called, told⟩
  cases input with
  | accountState => cases called
  | disconnected clientId =>
      cases called
      simp only [TableCall.interest] at told
      split at told <;> simp at told
  | envelope kind peer outbound sent =>
      cases kind with
      | trading => cases called
      | marketData =>
          rcases sent with ⟨sender, payload⟩
          cases payload with
          | subscribeMarketData instruments =>
              rcases Option.map_eq_some_iff.mp called with ⟨clientId, rfl, rfl⟩
              simp only [TableCall.interest] at told
              split at told
              next same =>
                rcases same with ⟨rfl, -⟩
                exact Or.inr ⟨instruments, rfl⟩
              next => contradiction
          | unsubscribeMarketData instruments =>
              rcases Option.map_eq_some_iff.mp called with ⟨clientId, rfl, rfl⟩
              simp only [TableCall.interest] at told
              split at told <;> simp at told
          | _ => cases called

end GatewayInput

namespace Endpoints

/-- The envelopes read from a connection. -/
def framesOver (history : History) (number : Nat) : List GatewayInput :=
  history.filterMap fun asked =>
    if asked.1 = number ∧ asked.2.isFrame then some asked.2 else none

/-- No client id of a connection is used by another one. -/
def Exclusive (history : History) (number : Nat) : Prop :=
  ∀ client, (∃ input ∈ framesOver history number, input.names client) →
    ∀ asked ∈ history, asked.1 ≠ number → ¬asked.2.names client

/-- A client said hello or subscribed over a connection. -/
def Joined (history : History) (number : Nat) (client : String) : Prop :=
  ∃ input ∈ framesOver history number, input.joins client

/-- After some frames a client is registered or subscribed to an instrument. -/
def LeftBehind (frames : List GatewayInput) (client : String) : Prop :=
  (∃ outbound,
      lastWord (GatewayInput.registration client) frames = some (some outbound)) ∨
    ∃ key, lastWord (GatewayInput.interest client key) frames = some true

/-- A client is neither registered nor subscribed to any instrument. -/
def Gone (shared : ServerActorState) (client : String) : Prop :=
  channelOf shared client = none ∧
    ∀ key, client ∉ subscribersOf shared.marketDataSubscriptions key

variable (fromSlice : List UInt8 → Except String Envelope)

/-- The loop of a market-data connection runs in a step. -/
structure Runs (watched : Endpoints × History) (input : GatewayWorld × EndpointInput)
    (number : Nat) (connection : Connection) : Prop where
  turn : input.2 = .read number
  found : watched.1.connections[number]? = some connection
  kind : connection.kind = .marketData
  reading : connection.reading

/-- The loop of a connection is over after a step. -/
def Over (watched : Endpoints × History) (input : GatewayWorld × EndpointInput)
    (number : Nat) : Prop :=
  ((watched.1.step fromSlice input.1 input.2).1.connections[number]?.any (·.reading)) = false

/-- What was asked of the gateway by the end of a step. -/
def historyAfter (watched : Endpoints × History) (input : GatewayWorld × EndpointInput) :
    History :=
  watched.2 ++ (watched.1.act fromSlice input.2).toList

/-- If the step runs the loop of a connection whose client ids are its own, instruments it
leaves without subscribers are handed to the market-data actor, and if the loop is over
then, all its clients are gone. -/
def CleansUp (watched : Endpoints × History) (input : GatewayWorld × EndpointInput) :
    Prop :=
  ∀ number connection, Runs watched input number connection →
    Exclusive (historyAfter fromSlice watched input) number →
      let next := watched.1.step fromSlice input.1 input.2
      (∀ key, key ∈ watched.1.shared.marketDataSubscriptions →
        key ∉ next.1.shared.marketDataSubscriptions →
          ∃ instruments, .publish (.unsubscribe instruments) ∈ next.2 ∧
            ⟨key⟩ ∈ instruments) ∧
      (Over fromSlice watched input number →
        ∀ client, Joined (historyAfter fromSlice watched input) number client →
          Gone next.1.shared client)

/-- If the step runs the loop of a connection whose client ids are its own, the actor runs
where an instrument is left without subscribers, and where the loop is over, whatever the
frames leave behind is of the client of the last hello and the stream ends where a length
is due. -/
def CleanupSuffices (watched : Endpoints × History)
    (input : GatewayWorld × EndpointInput) : Prop :=
  ∀ number connection, Runs watched input number connection →
    Exclusive (historyAfter fromSlice watched input) number →
      (∀ key, (∃ asked ∈ watched.1.act fromSlice input.2,
          asked.2.Orphans watched.1.shared key) → input.1.marketDataClosed = false) ∧
      (Over fromSlice watched input number →
        ∀ client, LeftBehind (framesOver (historyAfter fromSlice watched input) number)
            client →
          readFrame fromSlice connection.stream = .disconnected ∧
            connection.connectedClientId = some ⟨client⟩)

/-! ## Loops that run have read frames only -/

/-- Only accepted connections asked for anything, and those still running for nothing but
what their frames say. -/
structure LoopsSound (watched : Endpoints × History) : Prop where
  known : ∀ asked ∈ watched.2, asked.1 < watched.1.connections.length
  frames : ∀ number connection, watched.1.connections[number]? = some connection →
    connection.reading → ∀ asked ∈ watched.2, asked.1 = number → asked.2.isFrame

theorem loopsSound_init (config : ServerConfig) :
    LoopsSound (recorded fromSlice config).init :=
  ⟨fun _ member => absurd member List.not_mem_nil,
    fun _ _ _ _ _ member => absurd member List.not_mem_nil⟩

/-- A loop that ran once has changed its own connection only, and if it still runs it asked
for what a frame says. -/
theorem readOnce_connections (world : GatewayWorld) (endpoints : Endpoints) (number : Nat)
    (connection : Connection) :
    ∃ later : Connection,
      (endpoints.readOnce fromSlice world number connection).1.connections =
          endpoints.connections.set number later ∧
        (later.reading → ∃ asked, asks fromSlice number connection = some asked ∧
          asked.1 = number ∧ asked.2.isFrame) := by
  simp only [readOnce, asks]
  cases readFrame fromSlice connection.stream with
  | envelope envelope rest => exact ⟨_, rfl, fun _ => ⟨_, rfl, rfl, rfl⟩⟩
  | failed message => exact ⟨_, rfl, fun runs => absurd runs Bool.false_ne_true⟩
  | disconnected =>
      cases connection.kind with
      | trading => exact ⟨_, rfl, fun runs => absurd runs Bool.false_ne_true⟩
      | marketData =>
          cases connection.connectedClientId <;>
            exact ⟨_, rfl, fun runs => absurd runs Bool.false_ne_true⟩

theorem asks_number {number : Nat} {connection : Connection} {asked : Nat × GatewayInput}
    (called : asks fromSlice number connection = some asked) : asked.1 = number := by
  simp only [asks] at called
  split at called
  · cases called
    rfl
  · split at called
    · cases called
      rfl
    · contradiction
  · contradiction

theorem loopsSound_read {endpoints : Endpoints} {history : History}
    (sound : LoopsSound (endpoints, history)) (world : GatewayWorld) {number : Nat}
    {connection : Connection} (found : endpoints.connections[number]? = some connection)
    (reading : connection.reading) :
    LoopsSound ((endpoints.readOnce fromSlice world number connection).1,
      history ++ (asks fromSlice number connection).toList) := by
  rcases readOnce_connections fromSlice world endpoints number connection with
    ⟨later, connections, frame⟩
  have bound : number < endpoints.connections.length :=
    (List.getElem?_eq_some_iff.mp found).1
  constructor
  · intro asked member
    rw [connections, List.length_set]
    rcases List.mem_append.mp member with old | new
    · exact sound.known asked old
    · rw [asks_number fromSlice (Option.mem_toList.mp new)]
      exact bound
  · intro other at_other present runs asked member same
    rw [connections] at present
    by_cases self : number = other
    · subst self
      rw [List.getElem?_set_self bound, Option.some.injEq] at present
      subst present
      rcases List.mem_append.mp member with old | new
      · exact sound.frames number connection found reading asked old same
      · rcases frame runs with ⟨asked', called, -, isFrame⟩
        rw [called] at new
        rw [List.mem_singleton.mp new]
        exact isFrame
    · rw [List.getElem?_set_ne self] at present
      rcases List.mem_append.mp member with old | new
      · exact sound.frames other at_other present runs asked old same
      · exact absurd ((asks_number fromSlice (Option.mem_toList.mp new)).symm.trans same) self

theorem loopsSound_next (config : ServerConfig) (watched : Endpoints × History)
    (input : GatewayWorld × EndpointInput) (sound : LoopsSound watched) :
    LoopsSound ((recorded fromSlice config).next watched input) := by
  rcases watched with ⟨endpoints, history⟩
  rcases input with ⟨world, input⟩
  rw [recorded_next]
  cases input with
  | accept kind peer stream =>
      simp only [step, act, Option.toList_none, List.append_nil]
      constructor
      · intro asked member
        rw [List.length_append]
        exact Nat.lt_add_right _ (sound.known asked member)
      · intro number connection found reading asked member same
        have known : number < endpoints.connections.length :=
          same ▸ sound.known asked member
        rw [List.getElem?_append_left known] at found
        exact sound.frames number connection found reading asked member same
  | hangUp number =>
      simp only [step, act, Option.toList_none, List.append_nil]
      constructor
      · intro asked member
        rw [List.length_modify]
        exact sound.known asked member
      · intro other connection found reading asked member same
        rw [List.getElem?_modify] at found
        rcases Option.map_eq_some_iff.mp found with ⟨before, present, rfl⟩
        apply sound.frames other before present _ asked member same
        split at reading <;> exact reading
  | read number =>
      simp only [step, act]
      cases found : endpoints.connections[number]? with
      | none => simpa using sound
      | some connection =>
          cases reading : connection.reading with
          | false => simpa [reading] using sound
          | true =>
              simp only [reading, if_true]
              exact loopsSound_read fromSlice sound world found reading

/-! ## What is told over one connection -/

section Told

variable {history : History} {number : Nat} {β : Type} {tells : GatewayInput → Option β}

/-- If other connections tell nothing about a topic and a connection has read frames only,
the last word is that of its frames. -/
theorem lastWord_framesOver
    (silent : ∀ asked ∈ history, asked.1 ≠ number → tells asked.2 = none)
    (frames : ∀ asked ∈ history, asked.1 = number → asked.2.isFrame) :
    lastWord (fun asked => tells asked.2) history = lastWord tells (framesOver history number) := by
  rw [framesOver, lastWord_filterMap]
  apply lastWord_congr
  intro asked member
  by_cases own : asked.1 = number
  · rw [if_pos ⟨own, frames asked member own⟩, Option.bind_some]
  · rw [if_neg (fun both => own both.1), Option.bind_none, silent asked member own]

/-- A cleanup that tells nothing about the topic either changes nothing. -/
theorem lastWord_framesOver_cleanup {clientId : ClientId}
    (silent : ∀ asked ∈ history ++ [(number, .disconnected clientId)], asked.1 ≠ number →
      tells asked.2 = none)
    (frames : ∀ asked ∈ history, asked.1 = number → asked.2.isFrame)
    (other : tells (.disconnected clientId) = none) :
    lastWord (fun asked => tells asked.2) (history ++ [(number, .disconnected clientId)]) =
      lastWord tells (framesOver (history ++ [(number, .disconnected clientId)]) number) := by
  have same : framesOver (history ++ [(number, .disconnected clientId)]) number =
      framesOver history number := by
    simp [framesOver, GatewayInput.isFrame]
  rw [lastWord_append_singleton, other, Option.none_or, same]
  apply lastWord_framesOver _ frames
  intro asked member
  exact silent asked (List.mem_append_left _ member)

end Told

/-- Whoever is left behind joined. -/
theorem joined_of_leftBehind {history : History} {number : Nat} {client : String}
    (left : LeftBehind (framesOver history number) client) :
    Joined history number client := by
  rcases left with ⟨outbound, registered⟩ | ⟨key, subscribed⟩
  · rcases exists_of_lastWord registered with ⟨input, member, told⟩
    exact ⟨input, member, GatewayInput.joins_of_registered told⟩
  · rcases exists_of_lastWord subscribed with ⟨input, member, told⟩
    exact ⟨input, member, GatewayInput.joins_of_subscribed told⟩

/-- Where frames alone have the last word on a client, it is gone unless they leave it
behind. -/
theorem gone_iff_of_frames {watched : Endpoints × History} (remembers : Remembers watched)
    {client : String} {frames : List GatewayInput}
    (channels : lastWord (fun asked => asked.2.registration client) watched.2 =
      lastWord (GatewayInput.registration client) frames)
    (interests : ∀ key, lastWord (fun asked => asked.2.interest client key) watched.2 =
      lastWord (GatewayInput.interest client key) frames) :
    Gone watched.1.shared client ↔ ¬LeftBehind frames client := by
  rw [Gone, LeftBehind, not_or, remembers.registration, channels, not_exists, not_exists]
  apply and_congr
  · cases lastWord (GatewayInput.registration client) frames with
    | none => simp
    | some word => cases word <;> simp
  · apply forall_congr'
    intro key
    have held := remembers.interest client key
    rw [interests] at held
    rw [← decide_eq_false_iff_not, held]
    cases lastWord (GatewayInput.interest client key) frames with
    | none => simp
    | some word => cases word <;> simp

section Exclusive

variable {history : History} {number : Nat} {client : String}

theorem registration_of_exclusive (exclusive : Exclusive history number)
    (joined : Joined history number client) :
    ∀ asked ∈ history, asked.1 ≠ number → asked.2.registration client = none := by
  rcases joined with ⟨input, member, joins⟩
  intro asked asker other
  cases told : asked.2.registration client with
  | none => rfl
  | some word =>
      exact absurd (GatewayInput.names_of_registration told)
        (exclusive client ⟨input, member, GatewayInput.names_of_joins joins⟩ asked asker other)

theorem interest_of_exclusive (exclusive : Exclusive history number)
    (joined : Joined history number client) (key : String) :
    ∀ asked ∈ history, asked.1 ≠ number → asked.2.interest client key = none := by
  rcases joined with ⟨input, member, joins⟩
  intro asked asker other
  cases told : asked.2.interest client key with
  | none => rfl
  | some word =>
      exact absurd (GatewayInput.names_of_interest told)
        (exclusive client ⟨input, member, GatewayInput.names_of_joins joins⟩ asked asker other)

end Exclusive

/-! ## The end of a loop -/

/-- What the loop of a market-data connection asks for: the cleanup of the client of the
last hello, or what a frame says, or nothing. -/
theorem asks_cases (number : Nat) {connection : Connection}
    (kind : connection.kind = .marketData) :
    (∃ clientId, readFrame fromSlice connection.stream = .disconnected ∧
        connection.connectedClientId = some clientId ∧
        asks fromSlice number connection = some (number, .disconnected clientId)) ∨
      ((∀ clientId, ¬(readFrame fromSlice connection.stream = .disconnected ∧
          connection.connectedClientId = some clientId)) ∧
        ∀ asked ∈ asks fromSlice number connection, asked.2.isFrame) := by
  simp only [asks, kind]
  cases readFrame fromSlice connection.stream with
  | envelope envelope rest =>
      refine Or.inr ⟨by simp, ?_⟩
      intro asked frame
      cases frame
      rfl
  | failed message => exact Or.inr ⟨by simp, by simp⟩
  | disconnected =>
      cases connection.connectedClientId with
      | none => exact Or.inr ⟨by simp, by simp⟩
      | some clientId => exact Or.inl ⟨clientId, rfl, rfl, rfl⟩

/-- A cleanup removes its client. -/
theorem gone_disconnected (shared : ServerActorState) (world : GatewayWorld)
    (clientId : ClientId) :
    Gone (gatewayStep shared world (.disconnected clientId)).1 clientId.asStr := by
  constructor
  · rw [registration_gatewayStep]
    simp [GatewayInput.registration]
  · intro key
    apply of_decide_eq_false
    rw [interest_gatewayStep]
    simp [GatewayInput.interest, GatewayInput.tableCall, TableCall.interest]

/-- A step that runs a loop asks for what the loop asks for. -/
theorem Runs.act {watched : Endpoints × History} {input : GatewayWorld × EndpointInput}
    {number : Nat} {connection : Connection} (runs : Runs watched input number connection) :
    watched.1.act fromSlice input.2 = asks fromSlice number connection := by
  rw [runs.turn]
  simp only [Endpoints.act, runs.found, runs.reading, if_true]

/-- After a step of a loop whose client ids are its own, a client that joined is gone
exactly when the frames do not leave it behind, or the step is its cleanup. -/
theorem gone_iff (config : ServerConfig) {watched : Endpoints × History}
    (remembers : Remembers watched) (sound : LoopsSound watched)
    {input : GatewayWorld × EndpointInput} {number : Nat} {connection : Connection}
    (runs : Runs watched input number connection)
    (exclusive : Exclusive (historyAfter fromSlice watched input) number) {client : String}
    (joined : Joined (historyAfter fromSlice watched input) number client) :
    Gone (watched.1.step fromSlice input.1 input.2).1.shared client ↔
      (LeftBehind (framesOver (historyAfter fromSlice watched input) number) client →
        readFrame fromSlice connection.stream = .disconnected ∧
          connection.connectedClientId = some ⟨client⟩) := by
  have later := remembers_next fromSlice config watched input remembers
  have frames := sound.frames number connection runs.found runs.reading
  have channels := registration_of_exclusive exclusive joined
  have interests := interest_of_exclusive exclusive joined
  rw [recorded_next] at later
  rcases asks_cases fromSlice number runs.kind with
    ⟨clientId, ended, greeted, asked⟩ | ⟨goesOn, asked⟩
  · have act : watched.1.act fromSlice input.2 = some (number, .disconnected clientId) :=
      (runs.act fromSlice).trans asked
    have after : historyAfter fromSlice watched input =
        watched.2 ++ [(number, .disconnected clientId)] := by
      rw [historyAfter, act]
      rfl
    by_cases same : clientId.asStr = client
    · subst same
      rw [step_shared, act, Option.elim_some]
      exact iff_of_true (gone_disconnected watched.1.shared input.1 clientId)
        (fun _ => ⟨ended, greeted⟩)
    · rw [after] at channels interests ⊢
      rw [act] at later
      rw [gone_iff_of_frames later
        (lastWord_framesOver_cleanup channels frames (if_neg same))
        (fun key => lastWord_framesOver_cleanup (interests key) frames (if_neg same))]
      apply imp_congr_right
      intro left
      rw [greeted]
      exact iff_of_false id fun both => same (congrArg ClientId.asStr (Option.some.inj both.2))
  · have own : ∀ asked ∈ historyAfter fromSlice watched input, asked.1 = number →
        asked.2.isFrame := by
      intro asked' member same
      rcases List.mem_append.mp member with old | new
      · exact frames asked' old same
      · rw [runs.act fromSlice, Option.mem_toList] at new
        exact asked asked' new
    rw [gone_iff_of_frames later (lastWord_framesOver channels own)
      (fun key => lastWord_framesOver (interests key) own)]
    apply imp_congr_right
    intro left
    exact iff_of_false id (goesOn ⟨client⟩)

/-- Instruments that leave the table in a step are handed to the market-data actor exactly
when the actor runs if the step leaves an instrument without subscribers. -/
theorem orphans_handed_iff {watched : Endpoints × History}
    (sound : TablesSound watched.1.shared) (input : GatewayWorld × EndpointInput) :
    let next := watched.1.step fromSlice input.1 input.2
    (∀ key, key ∈ watched.1.shared.marketDataSubscriptions →
        key ∉ next.1.shared.marketDataSubscriptions →
          ∃ instruments, .publish (.unsubscribe instruments) ∈ next.2 ∧
            ⟨key⟩ ∈ instruments) ↔
      ∀ key, (∃ asked ∈ watched.1.act fromSlice input.2,
        asked.2.Orphans watched.1.shared key) → input.1.marketDataClosed = false := by
  apply forall_congr'
  intro key
  rw [step_shared, step_effects]
  cases watched.1.act fromSlice input.2 with
  | none => simp
  | some asked =>
      simp only [Option.elim_some, Option.mem_some_iff, exists_eq_left',
        orphans_iff sound input.1]
      constructor
      · rintro handed ⟨present, gone⟩
        exact (handed_iff sound input.1 asked.2
          ((orphans_iff sound input.1 asked.2 key).mpr ⟨present, gone⟩)).mp
          (handed present gone)
      · intro runs present gone
        exact (handed_iff sound input.1 asked.2
          ((orphans_iff sound input.1 asked.2 key).mpr ⟨present, gone⟩)).mpr
          (runs ⟨present, gone⟩)

/-- What the runs of the endpoints keep. -/
structure Sound (watched : Endpoints × History) : Prop where
  tables : TablesSound watched.1.shared
  remembers : Remembers watched
  loops : LoopsSound watched

theorem sound_init (config : ServerConfig) : Sound (recorded fromSlice config).init := by
  have fresh := marketTables_fromConfig config
  rw [marketTables, Prod.mk.injEq, Prod.mk.injEq] at fresh
  refine ⟨⟨?_, ?_⟩, remembers_init fromSlice config, loopsSound_init fromSlice config⟩
  · intro key
    simp [recorded, Machine.observe, machine, fresh.2.2]
  · intro key present
    simp [recorded, Machine.observe, machine, fresh.2.2] at present

theorem sound_next (config : ServerConfig) (watched : Endpoints × History)
    (input : GatewayWorld × EndpointInput) (sound : Sound watched) :
    Sound ((recorded fromSlice config).next watched input) := by
  refine ⟨?_, remembers_next fromSlice config watched input sound.remembers,
    loopsSound_next fromSlice config watched input sound.loops⟩
  rw [recorded_next]
  simp only [step_shared]
  cases watched.1.act fromSlice input.2 with
  | none => exact sound.tables
  | some asked => exact tablesSound_gatewayStep sound.tables input.1 asked.2

/-- A step of a loop cleans up exactly when its cleanup suffices. -/
theorem cleansUp_iff (config : ServerConfig) {watched : Endpoints × History}
    (sound : Sound watched) (input : GatewayWorld × EndpointInput) :
    CleansUp fromSlice watched input ↔ CleanupSuffices fromSlice watched input := by
  apply forall₄_congr
  intro number connection runs exclusive
  apply and_congr (orphans_handed_iff fromSlice sound.tables input)
  apply imp_congr_right
  intro finished
  constructor
  · intro all client left
    have joined := joined_of_leftBehind left
    exact (gone_iff fromSlice config sound.remembers sound.loops runs exclusive joined).mp
      (all client joined) left
  · intro enough client joined
    exact (gone_iff fromSlice config sound.remembers sound.loops runs exclusive joined).mpr
      (enough client)

/-! ## Every run -/

/-- In every run, the loops of market-data connections clean up after all clients and hand
over all orphaned instruments exactly when at each step the cleanup suffices. -/
theorem connections_clean_up_iff (config : ServerConfig)
    (inputs : List (GatewayWorld × EndpointInput)) :
    (recorded fromSlice config).Always (CleansUp fromSlice)
        (recorded fromSlice config).init inputs ↔
      (recorded fromSlice config).Always (CleanupSuffices fromSlice)
        (recorded fromSlice config).init inputs :=
  (recorded fromSlice config).always_congr (sound_next fromSlice config)
    (fun _ input sound => cleansUp_iff fromSlice config sound input)
    (sound_init fromSlice config) inputs

/-- A terminal says hello and subscribes, and its stream ends inside the next payload. -/
def cutInputs : List (GatewayWorld × EndpointInput) :=
  let stream : ByteStream :=
    ⟨frame helloBytes ++ (frame subscribeBytes ++ toBeBytes 5), none⟩
  [.accept .marketData "10.0.0.1:9" stream, .read 0, .read 0].map (.serving, ·)

/-- The end of the stream inside a payload leaves the client in the tables. -/
theorem cutPayload_leaves_client :
    ¬(recorded parseSample .sample).Always (CleansUp parseSample)
      (recorded parseSample .sample).init (cutInputs ++ [(.serving, .read 0)]) := by
  intro always
  have runs : Runs ((recorded parseSample .sample).runFrom
      (recorded parseSample .sample).init cutInputs) (.serving, .read 0) 0
      ⟨.marketData, "10.0.0.1:9", ⟨toBeBytes 5, none⟩, some ⟨"CY"⟩, true, false⟩ :=
    ⟨rfl, by decide +kernel, rfl, rfl⟩
  have own : ∀ asked ∈ historyAfter parseSample ((recorded parseSample .sample).runFrom
      (recorded parseSample .sample).init cutInputs) (.serving, .read 0), asked.1 = 0 := by
    decide +kernel
  have cleans := (always.at_split 0 _ runs
    (fun _ _ asked member other => absurd (own asked member) other)).2
  have gone := (cleans (by rw [Over]; decide +kernel) "CY"
    ⟨.envelope .marketData "10.0.0.1:9" ⟨0⟩ .helloSample, by decide +kernel, Or.inl rfl⟩).1
  revert gone
  decide +kernel

end Endpoints

end CtpSystem
