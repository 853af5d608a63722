import CtpSystem.Trade.Connection

/-!
# Replies are made of the request's own callbacks

The actor waits for the last request its session made, under an id no other request has.
What CTP says about that request since it was made is what the queue and the pending entry
of the request hold, whatever else they hold.
-/

namespace CtpSystem

open Reactive

/-! ## Request ids -/

/-- The callbacks among the inputs. -/
def callbacksOf (inputs : List (World × ConnectionInput)) : List SpiCallback :=
  inputs.filterMap fun input =>
    match input.2 with
    | .callback callback => some callback
    | .command _ | .receive => none

/-- Request ids do not repeat before the counter wraps. -/
theorem number_of_ofNat {left right : Nat} (leftSmall : left < 4294967296)
    (rightSmall : right < 4294967296) (same : Int32.ofNat left = Int32.ofNat right) :
    left = right := by
  have bits : left % 4294967296 = right % 4294967296 :=
    congrArg (fun id : Int32 => id.toBitVec.toNat) same
  rwa [Nat.mod_eq_of_lt leftSmall, Nat.mod_eq_of_lt rightSmall] at bits

/-- The session counts its requests, and only requests that were made have answers that
wait in the queue. -/
structure Numbered (connection : TradeConnection) : Prop where
  session : ∀ session, connection.actor.session = some session →
    session.requestId = Int32.ofNat connection.sent.length ∧ session.api.isSome ∧
      session.shared.isSome
  queued : ∀ event ∈ connection.queue, ∀ requestId, event.concludes requestId = true →
    ∃ number < connection.sent.length, requestId = Int32.ofNat (number + 1)

/-- A request CTP accepted has its place among the calls. -/
theorem asked_iff {connection : TradeConnection} {kind : RequestKind} {requestId : Int32} :
    connection.asked kind requestId = true ↔
      ∃ number request, connection.sent[number]? = some (request, 0) ∧
        requestId = Int32.ofNat (number + 1) ∧ request.requestKind = some kind := by
  rw [TradeConnection.asked, List.any_eq_true]
  constructor
  · rintro ⟨⟨⟨request, rc⟩, number⟩, member, holds⟩
    simp only [Bool.and_eq_true, decide_eq_true_eq] at holds
    rcases holds with ⟨⟨rfl, same⟩, asks⟩
    exact ⟨number, request, List.mem_zipIdx_iff_getElem?.mp member, same, asks⟩
  · rintro ⟨number, request, found, same, asks⟩
    refine ⟨((request, 0), number), List.mem_zipIdx_iff_getElem?.mpr found, ?_⟩
    simp [same, asks]

/-- The id belongs to the last request of the session and to no other, and CTP accepted
that request as one of the kind. -/
structure AskedLast (sent : List (CtpRequest × Int32)) (kind : RequestKind)
    (requestId : Int32) : Prop where
  latest : requestId = Int32.ofNat sent.length
  only : ∀ number < sent.length, requestId = Int32.ofNat (number + 1) →
    number + 1 = sent.length
  accepted : ∃ request, sent.getLast? = some (request, 0) ∧ request.requestKind = some kind

/-- A request that is under way: it is the last one of the session, its callbacks so far
all ran since it was registered, and the queue holds what they emitted. -/
structure Underway (connection : TradeConnection) (kind : RequestKind) (requestId : Int32)
    (registered : SharedState) (callbacks : List SpiCallback) : Prop where
  asked : AskedLast connection.sent kind requestId
  entry : registered.entry requestId = some (kind.collected requestId [])
  shared : connection.shared = some (spi.runFrom registered (callbacks.map .callback))
  queued : connection.queue.find? (·.concludes requestId) =
    (spi.outputs registered (callbacks.map .callback)).find? (·.concludes requestId)
  fits : ∀ callback ∈ callbacks, kind.Fits requestId callback

/-- The driver waits for the request a command of the run has made, under an id no earlier
request of the session had. -/
def Waits (accountId : AccountId) (connection : TradeConnection)
    (history : List (World × ConnectionInput)) (driver : Driver) (requestId : Int32) : Prop :=
  ∃ early world command since kind registered,
    history = early ++ (world, .command command) :: since ∧
      command.requestDriver requestId = some driver ∧ command.requestKind = some kind ∧
      ((TradeConnection.machine accountId).runFrom {}
        (early ++ [(world, .command command)])).requestId = some requestId ∧
      (∀ number < ((TradeConnection.machine accountId).runFrom {} early).sent.length,
        requestId ≠ Int32.ofNat (number + 1)) ∧
      Underway connection kind requestId registered (callbacksOf since)

/-- What holds after every run. -/
structure Conversing (accountId : AccountId) (connection : TradeConnection)
    (history : List (World × ConnectionInput)) : Prop where
  reached : connection = (TradeConnection.machine accountId).runFrom {} history
  numbered : Numbered connection
  waits : ∀ driver requestId, connection.actor.driver = some driver →
    driver.rid = some requestId → Waits accountId connection history driver requestId

/-! ## Callbacks -/

section Callbacks

variable {connection : TradeConnection} {callback : SpiCallback}

/-- An answer that is queued was emitted by a callback that answers its request. -/
theorem answers_of_concludes {shared : SharedState} {event : TradeSessionEvent}
    {requestId : Int32} (emitted : event ∈ (shared.called callback).2)
    (concludes : event.concludes requestId = true) :
    callback.requestId = some requestId ∧ ∃ kind, callback.answers = some kind := by
  by_contra other
  have unanswered : callback.requestId ≠ some requestId ∨ callback.answers = none := by
    by_contra both
    rw [not_or, not_not] at both
    exact other ⟨both.1, Option.ne_none_iff_exists'.mp both.2⟩
  have silent := (called_unanswered shared unanswered).2
  exact List.find?_eq_none.mp silent event emitted concludes

theorem asked_of_answers {world : World} {kind : RequestKind} {requestId : Int32}
    (honest : AnswersRequests connection (world, .callback callback))
    (about : callback.requestId = some requestId) (answers : callback.answers = some kind) :
    connection.asked kind requestId = true := by
  simpa [AnswersRequests, about, answers] using honest

theorem called_of_shared {shared : SharedState} (present : connection.shared = some shared) :
    connection.called callback =
      { connection with
        actor :=
          { connection.actor with
            session := connection.actor.session.map fun session =>
              { session with shared := some (shared.called callback).1 } }
        queue := connection.queue ++ (shared.called callback).2 } := by
  simp only [TradeConnection.called, present]

theorem numbered_called {world : World} (numbered : Numbered connection)
    (honest : AnswersRequests connection (world, .callback callback)) :
    Numbered (connection.called callback) := by
  cases present : connection.shared with
  | none => simpa only [TradeConnection.called, present] using numbered
  | some shared =>
      rw [called_of_shared present]
      constructor
      · intro session found
        rcases Option.map_eq_some_iff.mp found with ⟨before, was, rfl⟩
        rcases numbered.session before was with ⟨counted, loaded, -⟩
        exact ⟨counted, loaded, rfl⟩
      · intro event queued requestId concludes
        rcases List.mem_append.mp queued with earlier | emitted
        · exact numbered.queued event earlier requestId concludes
        · rcases answers_of_concludes emitted concludes with ⟨about, kind, answers⟩
          rcases asked_iff.mp (asked_of_answers honest about answers) with
            ⟨number, request, found, same, -⟩
          exact ⟨number, (List.getElem?_eq_some_iff.mp found).1, same⟩

/-- A callback of the latest request is of its kind. -/
theorem fits_of_honest {world : World} {kind : RequestKind} {requestId : Int32}
    {registered : SharedState} {callbacks : List SpiCallback}
    (underway : Underway connection kind requestId registered callbacks)
    (honest : AnswersRequests connection (world, .callback callback))
    (left : IdsLeft connection (world, .callback callback)) :
    kind.Fits requestId callback := by
  intro about answered answers
  rcases asked_iff.mp (asked_of_answers honest about answers) with
    ⟨number, request, found, same, asks⟩
  have inside := (List.getElem?_eq_some_iff.mp found).1
  have last : number + 1 = connection.sent.length := by
    rw [IdsLeft] at left
    exact number_of_ofNat (by omega) (by omega) (same.symm.trans underway.asked.latest)
  rcases underway.asked.accepted with ⟨accepted, latest, asked⟩
  have index : connection.sent.length - 1 = number := by omega
  rw [List.getLast?_eq_getElem?, index, found] at latest
  cases latest
  exact Option.some.inj (asks.symm.trans asked)

theorem underway_called {world : World} {kind : RequestKind} {requestId : Int32}
    {registered : SharedState} {callbacks : List SpiCallback}
    (underway : Underway connection kind requestId registered callbacks)
    (honest : AnswersRequests connection (world, .callback callback))
    (left : IdsLeft connection (world, .callback callback)) :
    Underway (connection.called callback) kind requestId registered
      (callbacks ++ [callback]) := by
  have fits := fits_of_honest underway honest left
  have present := underway.shared
  rcases Option.bind_eq_some_iff.mp present with ⟨session, connected, -⟩
  rw [called_of_shared present]
  refine ⟨underway.asked, underway.entry, ?_, ?_, ?_⟩
  · simp only [TradeConnection.shared, connected, Option.map_some, Option.bind_some,
      List.map_append, Machine.runFrom_append]
    rfl
  · simp only [List.map_append, Machine.outputs_append, List.find?_append, underway.queued]
    congr 1
    simp [Machine.outputs, Machine.emits, spi]
  · intro other member
    rcases List.mem_append.mp member with earlier | now
    · exact underway.fits other earlier
    · rw [List.mem_singleton.mp now]
      exact fits

end Callbacks

/-! ## Commands and events -/

section Takes

variable (accountId : AccountId) {connection : TradeConnection} (world : World)
variable {input : TradeInput} {queue : List TradeSessionEvent}

@[simp] theorem take_actor :
    (connection.take accountId world input queue).1.actor =
      (TradeActor.machine accountId).next connection.actor (world, input) := by
  simp only [TradeConnection.take]
  split <;> rfl

@[simp] theorem take_effects :
    (connection.take accountId world input queue).2 =
      (TradeActor.machine accountId).emits connection.actor (world, input) := by
  simp only [TradeConnection.take]
  split <;> rfl

theorem take_resets
    (resets : ((connection.actor.connects (world, input)).isSome ||
      connection.actor.drops input) = true) :
    (connection.take accountId world input queue).1 =
      { actor := (TradeActor.machine accountId).next connection.actor (world, input) } := by
  simp only [TradeConnection.take, resets, if_true]
  rfl

theorem take_stays
    (stays : ((connection.actor.connects (world, input)).isSome ||
      connection.actor.drops input) = false) :
    (connection.take accountId world input queue).1 =
      { actor := (TradeActor.machine accountId).next connection.actor (world, input)
        queue := queue
        sent := connection.sent ++
          ((TradeActor.machine accountId).emits connection.actor
            (world, input)).filterMap Effect.call } := by
  simp only [TradeConnection.take, stays, Bool.false_eq_true, if_false]
  rfl

/-- Taking an input keeps the numbers right. -/
theorem numbered_take (numbered : Numbered connection) (part : queue ⊆ connection.queue) :
    Numbered (connection.take accountId world input queue).1 := by
  have stepped := session_case accountId connection.actor (world, input)
  cases resets : (connection.actor.connects (world, input)).isSome ||
      connection.actor.drops input with
  | true =>
      have fresh := freshSession_next accountId connection.actor (world, input) resets
      rw [take_resets accountId world resets]
      constructor
      · intro session present
        rcases fresh.unused session present with ⟨unused, loaded, shared⟩
        exact ⟨unused, loaded, shared⟩
      · intro event queued
        cases queued
  | false =>
      rw [take_stays accountId world resets]
      have loaded : ∀ session, connection.actor.session = some session →
          session.api.isSome := fun session present => (numbered.session session present).2.1
      cases stepped loaded resets with
      | kept same silent =>
          rw [silent, List.append_nil]
          constructor
          · intro session present
            exact numbered.session session (same.symm.trans present)
          · intro event queued
            exact numbered.queued event (part queued)
      | requested session rc call pending field before after made =>
          rw [made]
          rcases numbered.session session before with ⟨counted, api, shared⟩
          constructor
          · intro later present
            cases after.symm.trans present
            rcases Option.isSome_iff_exists.mp api with ⟨handle, found⟩
            rcases Option.isSome_iff_exists.mp shared with ⟨state, known⟩
            refine ⟨?_, ?_, ?_⟩
            · simp only [TradeSession.request, found, counted, List.length_append,
                List.length_singleton, Int32.ofNat_add]
              rfl
            · simp [TradeSession.request, found]
            · cases pending <;> simp [TradeSession.request, found, known]
          · intro event queued requestId concludes
            rcases numbered.queued event (part queued) requestId concludes with
              ⟨number, before, same⟩
            refine ⟨number, ?_, same⟩
            rw [List.length_append]
            omega

/-- A command that makes a request starts to wait for it. -/
theorem underway_command {command : TradeSessionCommand} (numbered : Numbered connection)
    (left : IdsLeft connection (world, .command command))
    (idle : connection.actor.driver = none) {driver : Driver} {requestId : Int32}
    (waits : (handleTradeCommand accountId world connection.actor command).state.driver =
      some driver) (waitsFor : driver.rid = some requestId) :
    ∃ kind registered, command.requestKind = some kind ∧
      command.requestDriver requestId = some driver ∧
      (connection.take accountId world (.command command) connection.queue).1.requestId =
        some requestId ∧
      (∀ number < connection.sent.length, requestId ≠ Int32.ofNat (number + 1)) ∧
      Underway (connection.take accountId world (.command command) connection.queue).1 kind
        requestId registered [] := by
  rcases handleTradeCommand_waits waits waitsFor with
    ⟨kind, session, call, field, asks, serves, present, next, requests, after, made⟩
  rcases numbered.session session present with ⟨counted, api, shared⟩
  rcases Option.isSome_iff_exists.mp api with ⟨handle, found⟩
  rcases Option.isSome_iff_exists.mp shared with ⟨state, known⟩
  have number : requestId = Int32.ofNat (connection.sent.length + 1) := by
    rw [next, counted, Int32.ofNat_add]
    rfl
  have unused : ∀ earlier < connection.sent.length, requestId ≠ Int32.ofNat (earlier + 1) := by
    intro earlier before same
    rw [IdsLeft] at left
    have equal := number_of_ofNat (by omega) (by omega) (number.symm.trans same)
    omega
  have stays : ((connection.actor.connects (world, .command command)).isSome ||
      connection.actor.drops (.command command)) = false := by
    cases command <;> first | rfl | cases asks
  have taken : connection.actor.step accountId world (.command command) =
      ((handleTradeCommand accountId world connection.actor command).state,
        (handleTradeCommand accountId world connection.actor command).outputs) := by
    simp only [TradeActor.step, idle]
  have reached : (connection.take accountId world (.command command) connection.queue).1 =
      { actor := (handleTradeCommand accountId world connection.actor command).state
        queue := connection.queue
        sent := connection.sent ++ [(field requestId, 0)] } := by
    simp only [TradeConnection.take, stays, taken, made, Bool.false_eq_true, if_false]
  have session' : (session.request 0 call (some (kind.collected requestId [])) field).session =
      { session with
        requestId := requestId
        shared := some (state.registerQuery requestId (kind.collected requestId [])) } := by
    simp only [TradeSession.request, found, known, next, Option.map_some]
  refine ⟨kind, state.registerQuery requestId (kind.collected requestId []), asks, serves,
    ?_, unused, ?_⟩
  · rw [reached, TradeConnection.requestId, after, session']
    rfl
  · rw [reached]
    refine ⟨⟨?_, ?_, ?_⟩, ?_, ?_, ?_, List.forall_mem_nil _⟩
    · rw [number, List.length_append, List.length_singleton]
    · intro earlier before same
      rw [List.length_append, List.length_singleton] at before ⊢
      by_contra other
      exact unused earlier (by omega) same
    · exact ⟨field requestId, List.getLast?_concat, requests⟩
    · exact entry_registerQuery_self _ _
    · rw [TradeConnection.shared, after, session']
      rfl
    · rw [List.map_nil, Machine.outputs, List.find?_nil, List.find?_eq_none]
      intro event queued concludes
      rcases numbered.queued event queued requestId concludes with ⟨earlier, before, same⟩
      exact unused earlier before same

/-- The event a request is concluded by is its conclusion. -/
theorem conclusion_of_queued {kind : RequestKind} {requestId : Int32}
    {registered : SharedState} {callbacks : List SpiCallback} {event : TradeSessionEvent}
    {rest : List TradeSessionEvent}
    (underway : Underway connection kind requestId registered callbacks)
    (queued : connection.queue = event :: rest)
    (concludes : event.concludes requestId = true) :
    ∃ first last later, callbacks = first ++ last :: later ∧
      (∀ callback ∈ first, callback.ends requestId = false) ∧
      last.ends requestId = true ∧
      event = kind.conclusion requestId (first ++ [last]) last := by
  have found := underway.queued
  rw [queued, List.find?_cons_of_pos concludes] at found
  exact find_conclusion underway.entry underway.fits found.symm

/-- A driver that goes on to wait skips an event that does not conclude its request. -/
theorem underway_receive {command : TradeSessionCommand} {driver : Driver}
    {kind : RequestKind} {requestId : Int32} {registered : SharedState}
    {callbacks : List SpiCallback} {event : TradeSessionEvent}
    {rest : List TradeSessionEvent}
    (underway : Underway connection kind requestId registered callbacks)
    (serves : command.requestDriver requestId = some driver)
    (asks : command.requestKind = some kind) (queued : connection.queue = event :: rest)
    (goesOn : driver.returnsOn event = false)
    (kept : ((TradeActor.machine accountId).next connection.actor
      (world, .event event)).session = connection.actor.session)
    (silent : ((TradeActor.machine accountId).emits connection.actor
      (world, .event event)).filterMap Effect.call = []) :
    Underway (connection.take accountId world (.event event) rest).1 kind requestId registered
      callbacks := by
  have other : ¬event.concludes requestId = true := by
    intro concludes
    rcases conclusion_of_queued underway queued concludes with ⟨first, last, -, -, -, -, same⟩
    have returns := (replies_conclusion serves asks world connection.actor.orderRegistry
      (first ++ [last]) last).1
    rw [← same, goesOn] at returns
    cases returns
  have stays : ((connection.actor.connects (world, .event event)).isSome ||
      connection.actor.drops (.event event)) = false := rfl
  rw [take_stays accountId world stays, silent, List.append_nil]
  refine ⟨underway.asked, underway.entry, ?_, ?_, underway.fits⟩
  · rw [← underway.shared, TradeConnection.shared, TradeConnection.shared, kept]
  · rw [← underway.queued, queued, List.find?_cons_of_neg other]

end Takes

/-- A driver that still waits after an event has waited before, and has left the session
alone. -/
theorem driver_of_event {accountId : AccountId} {world : World} {actor : TradeActor}
    {event : TradeSessionEvent} {driver : Driver} {requestId : Int32}
    (takes : actor.takesEvent = true)
    (waits : ((TradeActor.machine accountId).next actor (world, .event event)).driver =
      some driver) (waitsFor : driver.rid = some requestId) :
    actor.driver = some driver ∧ driver.returnsOn event = false ∧
      ((TradeActor.machine accountId).next actor (world, .event event)).session =
        actor.session ∧
      ((TradeActor.machine accountId).emits actor (world, .event event)).filterMap
        Effect.call = [] := by
  have stepped := TradeActor.step_case accountId actor (world, .event event)
  generalize (TradeActor.machine accountId).next actor (world, .event event) = next
    at stepped waits ⊢
  generalize (TradeActor.machine accountId).emits actor (world, .event event) = effects
    at stepped ⊢
  cases stepped with
  | ignoredEvent _ deaf =>
      rw [takes] at deaf
      cases deaf
  | idleEvent _ idle =>
      have kept : (handleLoggedInTradeEvent accountId world actor event).1.driver = none := by
        cases event <;> exact idle
      rw [kept] at waits
      cases waits
  | requestEvent _ waiting suspended request =>
      cases returns : waiting.returnsOn event with
      | true => simp [returns] at waits
      | false =>
          simp only [returns, Bool.false_eq_true, if_false] at waits
          cases waits
          refine ⟨suspended.2, returns, rfl, ?_⟩
          rw [List.filterMap_append, calls_reportPushes, calls_replies]
          rfl
  | loginEvent _ session credentials replyTo loginIds present suspended =>
      rw [reportLoginFailure_state] at waits
      rcases driveTradeLoginEvent_driver world actor session credentials replyTo loginIds
          event with ended | ⟨ids, login⟩
      · rw [ended] at waits
        cases waits
      · rw [login] at waits
        cases waits
        cases waitsFor

/-- What a step that keeps the request under way adds to the history. -/
theorem waits_append {accountId : AccountId} {connection next : TradeConnection}
    {history : List (World × ConnectionInput)} {input : World × ConnectionInput}
    {driver : Driver} {requestId : Int32}
    (waits : Waits accountId connection history driver requestId)
    (keeps : ∀ (command : TradeSessionCommand) kind registered callbacks,
      command.requestDriver requestId = some driver → command.requestKind = some kind →
        Underway connection kind requestId registered callbacks →
          Underway next kind requestId registered (callbacks ++ callbacksOf [input])) :
    Waits accountId next (history ++ [input]) driver requestId := by
  rcases waits with ⟨early, world, command, since, kind, registered, rfl, serves, asks, given,
    unused, underway⟩
  refine ⟨early, world, command, since ++ [input], kind, registered, ?_, serves, asks, given,
    unused, ?_⟩
  · rw [List.append_assoc, List.cons_append]
  · rw [callbacksOf, List.filterMap_append]
    exact keeps command kind registered _ serves asks underway

section Runs

variable {accountId : AccountId} {connection : TradeConnection}
variable {history : List (World × ConnectionInput)} {world : World}

theorem conversing_command {command : TradeSessionCommand}
    (conversing : Conversing accountId connection history)
    (left : IdsLeft connection (world, .command command)) :
    Conversing accountId
      ((TradeConnection.machine accountId).next connection (world, .command command))
      (history ++ [(world, .command command)]) := by
  have taken : (TradeConnection.machine accountId).next connection (world, .command command) =
      (connection.take accountId world (.command command) connection.queue).1 := rfl
  refine ⟨?_, ?_, ?_⟩
  · rw [Machine.runFrom_append, ← conversing.reached]
    rfl
  · rw [taken]
    exact numbered_take accountId world conversing.numbered (List.Subset.refl _)
  · intro driver requestId waits waitsFor
    rw [taken] at waits ⊢
    cases suspended : connection.actor.driver with
    | some earlier =>
        have ignored : connection.actor.step accountId world (.command command) =
            (connection.actor, []) := by
          simp only [TradeActor.step, suspended]
        have stays : ((connection.actor.connects (world, .command command)).isSome ||
            connection.actor.drops (.command command)) = false := by
          cases command <;>
            simp [TradeActor.connects, TradeActor.drops, TradeActor.releases, suspended]
        have same : (connection.take accountId world (.command command)
            connection.queue).1 = connection := by
          simp [TradeConnection.take, ignored, stays]
        rw [same] at waits ⊢
        apply waits_append (conversing.waits driver requestId waits waitsFor)
        intro command kind registered callbacks serves asks underway
        exact (List.append_nil callbacks).symm ▸ underway
    | none =>
        have handled : (handleTradeCommand accountId world connection.actor
            command).state.driver = some driver := by
          rw [take_actor] at waits
          simpa only [Machine.next, TradeActor.machine, TradeActor.step, suspended] using waits
        rcases underway_command accountId world conversing.numbered left suspended handled
          waitsFor with ⟨kind, registered, asks, serves, given, unused, underway⟩
        refine ⟨history, world, command, [], kind, registered, rfl, serves, asks, ?_, ?_,
          underway⟩
        · rw [Machine.runFrom_append, ← conversing.reached]
          exact given
        · rw [← conversing.reached]
          exact unused

theorem conversing_receive (conversing : Conversing accountId connection history) :
    Conversing accountId
      ((TradeConnection.machine accountId).next connection (world, .receive))
      (history ++ [(world, .receive)]) := by
  have reached : (TradeConnection.machine accountId).next connection (world, .receive) =
      (TradeConnection.machine accountId).runFrom {} (history ++ [(world, .receive)]) := by
    rw [Machine.runFrom_append, ← conversing.reached]
    rfl
  have same : (TradeConnection.machine accountId).next connection (world, .receive) =
        connection →
      Conversing accountId
        ((TradeConnection.machine accountId).next connection (world, .receive))
        (history ++ [(world, .receive)]) := by
    intro ignored
    refine ⟨reached, ?_, ?_⟩
    · rw [ignored]
      exact conversing.numbered
    · intro driver requestId waits waitsFor
      rw [ignored] at waits ⊢
      apply waits_append (conversing.waits driver requestId waits waitsFor)
      intro command kind registered callbacks serves asks underway
      exact (List.append_nil callbacks).symm ▸ underway
  cases queued : connection.queue with
  | nil =>
      apply same
      simp only [Machine.next, TradeConnection.machine, TradeConnection.step, queued]
  | cons event rest =>
      cases takes : connection.actor.takesEvent with
      | false =>
          apply same
          simp [Machine.next, TradeConnection.machine, TradeConnection.step, queued, takes]
      | true =>
          have taken : (TradeConnection.machine accountId).next connection (world, .receive) =
              (connection.take accountId world (.event event) rest).1 := by
            simp [Machine.next, TradeConnection.machine, TradeConnection.step, queued, takes]
          refine ⟨reached, ?_, ?_⟩
          · rw [taken]
            apply numbered_take accountId world conversing.numbered
            rw [queued]
            exact List.subset_cons_self event rest
          · intro driver requestId waits waitsFor
            rw [taken] at waits ⊢
            rw [take_actor] at waits
            rcases driver_of_event takes waits waitsFor with
              ⟨suspended, goesOn, kept, silent⟩
            apply waits_append (conversing.waits driver requestId suspended waitsFor)
            intro command kind registered callbacks serves asks underway
            have still := underway_receive accountId world underway serves asks queued goesOn
              kept silent
            exact (List.append_nil callbacks).symm ▸ still

theorem conversing_callback {callback : SpiCallback}
    (conversing : Conversing accountId connection history)
    (honest : AnswersRequests connection (world, .callback callback))
    (left : IdsLeft connection (world, .callback callback)) :
    Conversing accountId
      ((TradeConnection.machine accountId).next connection (world, .callback callback))
      (history ++ [(world, .callback callback)]) := by
  have called : (TradeConnection.machine accountId).next connection
      (world, .callback callback) = connection.called callback := rfl
  refine ⟨?_, ?_, ?_⟩
  · rw [Machine.runFrom_append, ← conversing.reached]
    rfl
  · rw [called]
    exact numbered_called conversing.numbered honest
  · intro driver requestId waits waitsFor
    rw [called] at waits ⊢
    have suspended : connection.actor.driver = some driver := by
      rw [TradeConnection.called] at waits
      split at waits <;> exact waits
    apply waits_append (conversing.waits driver requestId suspended waitsFor)
    intro command kind registered callbacks serves asks underway
    exact underway_called underway honest left

/-- Every step keeps what holds between the actor and CTP. -/
theorem conversing_next (input : World × ConnectionInput)
    (conversing : Conversing accountId connection history)
    (meets : AnswersRequests connection input ∧ IdsLeft connection input) :
    Conversing accountId ((TradeConnection.machine accountId).next connection input)
      (history ++ [input]) := by
  rcases input with ⟨world, input⟩
  cases input with
  | command command => exact conversing_command conversing meets.2
  | receive => exact conversing_receive conversing
  | callback callback => exact conversing_callback conversing meets.1 meets.2

end Runs

/-! ## What the client is told -/

/-- A login answers with account states only, on its own channel. -/
theorem loginEvent_replies {accountId : AccountId} {world : World} {actor : TradeActor}
    {session : TradeSession} {credentials : AccountCredentials} {replyTo channel : EnvelopeTx}
    {loginIds : Option (Int32 × Int32)} {event : TradeSessionEvent} {message : Message}
    (replied : Effect.reply channel message ∈ (reportLoginFailure accountId world replyTo
      (driveTradeLoginEvent world actor session credentials replyTo loginIds
        event)).outputs) :
    channel = replyTo ∧ ∃ state, message = .accountStateUpdate state := by
  have driven : Effect.reply channel message ∈ (driveTradeLoginEvent world actor session
      credentials replyTo loginIds event).outputs →
        channel = replyTo ∧ ∃ state, message = .accountStateUpdate state := by
    intro emitted
    rcases answers_driveTradeLoginEvent rfl event _ emitted with ⟨own, answers⟩
    cases message with
    | accountStateUpdate state => exact ⟨own, state, rfl⟩
    | _ => cases answers
  rw [reportLoginFailure] at replied
  split at replied
  · rcases List.mem_append.mp replied with emitted | reported
    · exact driven emitted
    · cases List.mem_singleton.mp reported
      exact ⟨rfl, _, rfl⟩
  · exact driven replied

theorem conversing_runFrom (accountId : AccountId) {inputs : List (World × ConnectionInput)}
    (honest : (TradeConnection.machine accountId).Always AnswersRequests {} inputs)
    (left : (TradeConnection.machine accountId).Always IdsLeft {} inputs) :
    Conversing accountId ((TradeConnection.machine accountId).runFrom {} inputs) inputs := by
  have initial : Conversing accountId {} [] := by
    refine ⟨rfl, ⟨?_, ?_⟩, ?_⟩
    · rintro session ⟨⟩
    · rintro event ⟨⟩
    · rintro driver requestId ⟨⟩
  apply Machine.inputs_of_always _ _ initial (honest.and left)
  intro connection history input conversing meets
  exact conversing_next input conversing meets

/-- A driver that is no login waits for a request id. -/
theorem Driver.rid_isSome (driver : Driver) (request : driver.isRequest = true) :
    driver.rid.isSome := by
  cases driver <;> first | rfl | cases request

/-- A reply on an event comes from a login, or from the driver that waits for a request. -/
theorem reply_of_receive {accountId : AccountId} {connection : TradeConnection}
    {world : World} {replyTo : EnvelopeTx} {message : Message}
    (replied : Effect.reply replyTo message ∈
      (TradeConnection.machine accountId).emits connection (world, .receive)) :
    (∃ credentials loginIds state,
      connection.actor.driver = some (.tradeLogin credentials replyTo loginIds) ∧
        message = .accountStateUpdate state) ∨
      ∃ event rest driver, connection.queue = event :: rest ∧
        connection.actor.driver = some driver ∧ driver.isRequest = true ∧
        Effect.reply replyTo message ∈
          driver.replies world connection.actor.orderRegistry event := by
  cases queued : connection.queue with
  | nil =>
      simp only [Machine.emits, TradeConnection.machine, TradeConnection.step, queued] at replied
      cases replied
  | cons event rest =>
      cases takes : connection.actor.takesEvent with
      | false =>
          simp [Machine.emits, TradeConnection.machine, TradeConnection.step, queued, takes]
            at replied
      | true =>
          have emitted : Effect.reply replyTo message ∈
              (TradeActor.machine accountId).emits connection.actor (world, .event event) := by
            have taken : Effect.reply replyTo message ∈
                (connection.take accountId world (.event event) rest).2 := by
              simpa [Machine.emits, TradeConnection.machine, TradeConnection.step, queued,
                takes] using replied
            rwa [take_effects] at taken
          have unpushed : Effect.reply replyTo message ∉
              reportPushes world connection.actor.orderRegistry event := by
            intro pushed
            rcases mem_reportPushes.mp pushed with ⟨context, update, -, -, same⟩
            cases same
          have stepped := TradeActor.step_case accountId connection.actor (world, .event event)
          generalize (TradeActor.machine accountId).next connection.actor
            (world, .event event) = next at stepped
          generalize (TradeActor.machine accountId).emits connection.actor
            (world, .event event) = effects at stepped emitted
          cases stepped with
          | ignoredEvent => cases emitted
          | idleEvent =>
              rcases idleEvent_outputs emitted with pushed | ⟨-, same⟩
              · exact absurd pushed unpushed
              · cases same
          | requestEvent _ driver waits request =>
              rcases List.mem_append.mp emitted with pushed | told
              · exact absurd pushed unpushed
              · exact Or.inr ⟨event, rest, driver, rfl, waits.2, request, told⟩
          | loginEvent _ session credentials channel loginIds present suspended =>
              rcases loginEvent_replies emitted with ⟨rfl, state, told⟩
              exact Or.inl ⟨credentials, loginIds, state, suspended, told⟩

/-- Whatever the actor replies on an event is an account state that the login it is in
sends on its own channel, or what CTP's callbacks say about the request it waits for: the
one request of the session with that id, accepted or not, made by the command whose channel
the reply goes to.  The reply is made from the callbacks between that command and the first
callback that ended the request, whatever the queue still held of earlier requests. -/
theorem replies_made_of_own_callbacks (accountId : AccountId)
    (inputs : List (World × ConnectionInput))
    (honest : (TradeConnection.machine accountId).Always AnswersRequests {} inputs)
    (left : (TradeConnection.machine accountId).Always IdsLeft {} inputs) (world : World)
    (replyTo : EnvelopeTx) (message : Message) :
    let machine := TradeConnection.machine accountId
    let connection := machine.runFrom {} inputs
    Effect.reply replyTo message ∈ machine.emits connection (world, .receive) →
      (∃ credentials loginIds state,
        connection.actor.driver = some (.tradeLogin credentials replyTo loginIds) ∧
          message = .accountStateUpdate state) ∨
        ∃ early asking command middle ending last late kind requestId,
          inputs = early ++ (asking, .command command) ::
              (middle ++ (ending, .callback last) :: late) ∧
            command.replyTo = replyTo ∧ command.requestKind = some kind ∧
            (machine.runFrom {} (early ++ [(asking, .command command)])).requestId =
              some requestId ∧
            (∀ number < (machine.runFrom {} early).sent.length,
              requestId ≠ Int32.ofNat (number + 1)) ∧
            AskedLast connection.sent kind requestId ∧
            (∀ callback ∈ callbacksOf middle, callback.ends requestId = false) ∧
            last.ends requestId = true ∧
            kind.told world connection.actor.orderRegistry command.queried requestId
              (callbacksOf middle ++ [last]) last = some message := by
  intro machine connection replied
  have conversing : Conversing accountId connection inputs :=
    conversing_runFrom accountId honest left
  rcases reply_of_receive replied with login | ⟨event, rest, driver, queued, suspended,
    request, emitted⟩
  · exact Or.inl login
  · right
    rcases Option.isSome_iff_exists.mp (driver.rid_isSome request) with ⟨requestId, waitsFor⟩
    rcases conversing.waits driver requestId suspended waitsFor with ⟨early, asking, command,
      since, kind, registered, rfl, serves, asks, given, unused, underway⟩
    cases concludes : event.concludes requestId with
    | false =>
        rw [replies_of_not_concludes waitsFor world _ concludes] at emitted
        cases emitted
    | true =>
        rcases conclusion_of_queued underway queued concludes with
          ⟨first, last, later, split, waiting, ends, rfl⟩
        rcases List.filterMap_eq_append_iff.mp split with ⟨middle, others, rfl, rfl, found⟩
        rcases List.filterMap_eq_cons_iff.mp found with
          ⟨skipped, ⟨ending, input⟩, late, rfl, silent, called, -⟩
        have last' : input = .callback last := by
          cases input with
          | callback callback => exact congrArg _ (Option.some.inj called)
          | command | receive => cases called
        subst last'
        have same : callbacksOf (middle ++ skipped) = callbacksOf middle := by
          rw [callbacksOf, List.filterMap_append, List.filterMap_eq_nil_iff.mpr silent,
            List.append_nil]
          rfl
        have told := (replies_conclusion serves asks world connection.actor.orderRegistry
          (callbacksOf middle ++ [last]) last).2
        have replied' : Effect.reply replyTo message ∈
            ((kind.told world connection.actor.orderRegistry command.queried requestId
              (callbacksOf middle ++ [last]) last).map
                (Effect.reply command.replyTo)).toList := by
          rw [← told]
          exact emitted
        rcases Option.map_eq_some_iff.mp (Option.mem_toList.mp replied') with
          ⟨answer, answered, reply⟩
        cases reply
        refine ⟨early, asking, command, middle ++ skipped, ending, last, late, kind, requestId,
          ?_, rfl, asks, given, unused, underway.asked, ?_, ends, ?_⟩
        · simp only [List.append_assoc]
        · rw [same]
          exact waiting
        · rw [same]
          exact answered

/-- A trade query is refused; the position query after it is answered from its own rows,
though the last row of the trade query comes among them. -/
theorem replies_made_of_own_callbacks_interleaved :
    let row instrumentId volume requestId isLast := ConnectionInput.callback
      (.onRspQryInvestorPosition (some (.sample instrumentId 50 volume)) none requestId isLast)
    let inputs : List (World × ConnectionInput) :=
      [.command (.login ⟨⟨"1001"⟩, "pw", "9999", "app", "auth"⟩ ⟨0⟩),
        .callback .onFrontConnected, .receive, .callback (.onRspAuthenticate none), .receive,
        .callback (.onRspUserLogin (some ⟨"20260101", 1, 7⟩) none), .receive,
        .callback (.onRspSettlementInfoConfirm none), .receive,
        .command (.queryTrades ⟨"1001"⟩ ⟨1⟩),
        .callback (.onRspQryTrade none (some ⟨90, "busy"⟩) 4 false), .receive,
        .command (.queryPosition ⟨"1001"⟩ none ⟨2⟩), row "au2612" 3 5 false,
        .callback (.onRspQryTrade none none 4 true), row "ag2612" 0 5 true, .receive].map
          fun input => (World.accepting {}, input)
    ∃ early asking command since, inputs = early ++ (asking, .command command) :: since ∧
      command.replyTo = ⟨2⟩ ∧ command.requestKind = some (.rows .positions) := by
  intro row inputs
  rcases replies_made_of_own_callbacks ⟨"1001"⟩ inputs (by decide) (by decide)
      (World.accepting {}) ⟨2⟩
      (.queryPositionResult [⟨⟨"1001"⟩, ⟨"au2612"⟩, .buy, 3, 0, ⟨0⟩, ⟨0⟩, ⟨0⟩, ⟨0⟩⟩])
      (by decide) with
    ⟨credentials, loginIds, state, -, same⟩ | ⟨early, asking, command, middle, ending, last,
      late, kind, requestId, split, channel, asks, -, -, -, -, -, told⟩
  · cases same
  · refine ⟨early, asking, command, _, split, channel, ?_⟩
    rw [asks]
    rw [RequestKind.told] at told
    split at told
    · cases told
    · cases kind with
      | account | cancel => cases told
      | rows kind =>
          cases kind with
          | positions => rfl
          | orders | trades => cases told

end CtpSystem
