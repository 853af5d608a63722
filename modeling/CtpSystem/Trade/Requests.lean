import CtpSystem.Trade.Actor
import CtpSystem.Trade.Reports

/-!
# Requests in flight

What one pass of a request driver does, and from it when a driver returns and
what a command handler has replied by the time it returns.
-/

namespace CtpSystem

open Reactive

namespace Driver

/-- A driver that waits for a submitted request, as opposed to a login. -/
def isRequest : Driver → Bool
  | .tradeLogin _ _ _ => false
  | _ => true

/-- A driver that waits for the answer to a query. -/
def isQuery : Driver → Bool
  | .tradeLogin _ _ _ | .cancelOrder _ _ _ => false
  | _ => true

/-- The events on which the receive loop of a request driver returns. -/
def returnsOn : Driver → TradeSessionEvent → Bool
  | .cancelOrder cancel _ _, .orderReturn report =>
      cancel.isTarget report && report.status.isTerminal
  | .cancelOrder _ _ _, .frontDisconnected _ => true
  | .cancelOrder _ rid _, .cancelActionOk requestId
  | .cancelOrder _ rid _, .cancelActionFailed requestId _ _
  | .queryAccount rid _, .queryAccountReady requestId _
  | .queryPositions rid _, .queryPositionsReady requestId _
  | .queryOrders _ rid _, .queryOrdersReady requestId _
  | .queryTrades _ rid _, .queryTradesReady requestId _
  | .queryAccount rid _, .queryFailed requestId _ _
  | .queryPositions rid _, .queryFailed requestId _ _
  | .queryOrders _ rid _, .queryFailed requestId _ _
  | .queryTrades _ rid _, .queryFailed requestId _ _ => requestId = rid
  | _, _ => false

/-- What a request driver sends on its reply channel for an event. -/
def replies (world : World) (orderRegistry : OrderRegistry) :
    Driver → TradeSessionEvent → List Effect
  | .tradeLogin _ _ _, _ => []
  | .cancelOrder _ rid replyTo, .cancelActionFailed requestId errorId errorMsg
  | .queryAccount rid replyTo, .queryFailed requestId errorId errorMsg
  | .queryPositions rid replyTo, .queryFailed requestId errorId errorMsg
  | .queryOrders _ rid replyTo, .queryFailed requestId errorId errorMsg
  | .queryTrades _ rid replyTo, .queryFailed requestId errorId errorMsg =>
      if requestId = rid then [sendError replyTo errorId errorMsg] else []
  | .cancelOrder _ _ _, _ => []
  | .queryAccount rid replyTo, event =>
      ((queryAccountAnswer rid event).map (.reply replyTo)).toList
  | .queryPositions rid replyTo, event =>
      ((queryPositionsAnswer rid event).map (.reply replyTo)).toList
  | .queryOrders accountId rid replyTo, event =>
      ((queryOrdersAnswer world orderRegistry accountId rid event).map
        (.reply replyTo)).toList
  | .queryTrades accountId rid replyTo, event =>
      ((queryTradesAnswer world accountId rid event).map (.reply replyTo)).toList

/-- One pass of a request driver: push what is a report, reply where the event
settles the request, and return exactly on the events that settle it. -/
theorem requestEvent_eq (world : World) (orderRegistry : OrderRegistry) (driver : Driver)
    (event : TradeSessionEvent) (request : driver.isRequest = true) :
    driver.requestEvent world orderRegistry event =
      (reportPushes world orderRegistry event ++ driver.replies world orderRegistry event,
        if driver.returnsOn event then some (.ok ()) else none) := by
  cases driver with
  | tradeLogin => simp [isRequest] at request
  | cancelOrder cancel rid replyTo =>
      cases event <;> simp [requestEvent, driveCancelOrderEvent, reportPushes, replies,
        returnsOn]
      split <;> simp_all
  | queryAccount | queryPositions | queryOrders | queryTrades =>
      cases event <;> simp [requestEvent, driveQueryAccountEvent, driveQueryPositionsEvent,
        driveQueryOrdersEvent, driveQueryTradesEvent, driveQueryEvent, waitActionableEvent,
        queryAccountAnswer, queryPositionsAnswer, queryOrdersAnswer, queryTradesAnswer,
        reportPushes, replies, returnsOn]
      all_goals split <;> simp_all

/-- The request id a request driver waits for. -/
def rid : Driver → Option Int32
  | .tradeLogin _ _ _ => none
  | .cancelOrder _ rid _ | .queryAccount rid _ | .queryPositions rid _
  | .queryOrders _ rid _ | .queryTrades _ rid _ => some rid

/-- The answers CTP can give to the driver's request. -/
def answeredBy : Driver → TradeSessionEvent → Bool
  | .cancelOrder _ rid _, .cancelActionOk requestId
  | .cancelOrder _ rid _, .cancelActionFailed requestId _ _
  | .queryAccount rid _, .queryAccountReady requestId _
  | .queryPositions rid _, .queryPositionsReady requestId _
  | .queryOrders _ rid _, .queryOrdersReady requestId _
  | .queryTrades _ rid _, .queryTradesReady requestId _
  | .queryAccount rid _, .queryFailed requestId _ _
  | .queryPositions rid _, .queryFailed requestId _ _
  | .queryOrders _ rid _, .queryFailed requestId _ _
  | .queryTrades _ rid _, .queryFailed requestId _ _ => requestId = rid
  | _, _ => false

/-- The events that end the driver's request: its answer, an error response to it,
and the loss of the front, after which it is never answered. -/
def endedBy (driver : Driver) (event : TradeSessionEvent) : Bool :=
  match event with
  | .frontDisconnected _ => driver.isRequest
  | .error _ _ requestId => driver.rid = some requestId
  | event => driver.answeredBy event

/-- The events whose arrival a driver notices without an answer: the loss of the
front for a cancel, and the last report of the order to cancel. -/
def abandonedBy : Driver → TradeSessionEvent → Bool
  | .cancelOrder _ _ _, .frontDisconnected _ => true
  | .cancelOrder cancel _ _, .orderReturn report =>
      cancel.isTarget report && report.status.isTerminal
  | _, _ => false

theorem returnsOn_eq (driver : Driver) (event : TradeSessionEvent) :
    driver.returnsOn event = (driver.answeredBy event || driver.abandonedBy event) := by
  cases driver <;> cases event <;> simp [returnsOn, answeredBy, abandonedBy]

end Driver

/-! ## When a driver returns -/

section Passes

variable (accountId : AccountId) {actor : TradeActor} {session : TradeSession}
variable {driver : Driver}

/-- A pass of a request driver leaves the actor's variables alone. -/
theorem driverEvent_eq (world : World) (event : TradeSessionEvent)
    (request : driver.isRequest = true) :
    driverEvent accountId world actor session driver event =
      ⟨{ actor with driver := if driver.returnsOn event then none else some driver },
        reportPushes world actor.orderRegistry event ++
          driver.replies world actor.orderRegistry event,
        if driver.returnsOn event then some (.ok ()) else none⟩ := by
  have called := driver.requestEvent_eq world actor.orderRegistry event request
  cases driver with
  | tradeLogin => cases request
  | cancelOrder | queryAccount | queryPositions | queryOrders | queryTrades =>
      simp only [driverEvent, called]
      generalize Driver.returnsOn _ event = returned
      cases returned <;> rfl

/-- The actor waits for an answer in a driver. -/
def TradeActor.WaitsIn (actor : TradeActor) (driver : Driver) : Prop :=
  actor.session.isSome ∧ actor.driver = some driver

theorem pass_eq (waits : actor.WaitsIn driver) (request : driver.isRequest = true)
    (input : World × TradeSessionEvent) :
    (TradeActor.driverLoop accountId).pass actor input =
      ⟨{ actor with driver := if driver.returnsOn input.2 then none else some driver },
        reportPushes input.1 actor.orderRegistry input.2 ++
          driver.replies input.1 actor.orderRegistry input.2,
        if driver.returnsOn input.2 then some (.ok ()) else none⟩ := by
  rcases waits with ⟨connected, suspended⟩
  rcases Option.isSome_iff_exists.mp connected with ⟨session, present⟩
  have unfolded : (TradeActor.driverLoop accountId).pass actor input =
      driverEvent accountId input.1 actor session driver input.2 := by
    simp only [TradeActor.driverLoop, present, suspended]
  rw [unfolded]
  exact driverEvent_eq accountId input.1 input.2 request

/-- A request driver returns exactly when one of its events is among those fed. -/
theorem returnsWithin_iff_returnsOn (waits : actor.WaitsIn driver)
    (request : driver.isRequest = true) (inputs : List (World × TradeSessionEvent)) :
    (TradeActor.driverLoop accountId).ReturnsWithin actor inputs ↔
      ∃ input ∈ inputs, driver.returnsOn input.2 = true := by
  apply ReceiveLoop.returnsWithin_iff fun actor => actor.WaitsIn driver
  · intro actor input waits
    rw [pass_eq accountId waits request input]
    cases driver.returnsOn input.2 <;> simp
  · intro actor input waits waiting
    rw [pass_eq accountId waits request input] at waiting ⊢
    cases ended : driver.returnsOn input.2 with
    | true => simp [ended] at waiting
    | false => exact ⟨waits.1, by simp⟩
  · exact waits

end Passes

/-- An order report that completes a cancel. -/
def Driver.completedBy (driver : Driver) (event : TradeSessionEvent) : Prop :=
  ∃ cancel rid replyTo report, driver = .cancelOrder cancel rid replyTo ∧
    event = .orderReturn report ∧
    cancel.isTarget report = true ∧ report.status.isTerminal = true

/-- The ending events no driver of the kind reacts to: an error response, and for
a query the loss of the front. -/
def Driver.ignores (driver : Driver) : TradeSessionEvent → Bool
  | .error _ _ _ => true
  | .frontDisconnected _ => driver.isQuery
  | _ => false

theorem isRequest_of_endedBy {driver : Driver} {event : TradeSessionEvent}
    (ends : driver.endedBy event = true) : driver.isRequest = true := by
  cases driver with
  | tradeLogin =>
      cases event <;>
        simp [Driver.endedBy, Driver.answeredBy, Driver.isRequest, Driver.rid] at ends
  | cancelOrder | queryAccount | queryPositions | queryOrders | queryTrades => rfl

/-- On an event that ends the request, a driver returns unless it ignores it. -/
theorem returnsOn_of_endedBy {driver : Driver} {event : TradeSessionEvent}
    (ends : driver.endedBy event = true) :
    driver.returnsOn event = true ↔ driver.ignores event = false := by
  rw [driver.returnsOn_eq event]
  cases driver <;> cases event <;>
    simp_all [Driver.endedBy, Driver.answeredBy, Driver.abandonedBy, Driver.ignores,
      Driver.isQuery, Driver.isRequest, Driver.rid]

/-- On any other event, only the last report of an order to cancel makes a driver
return. -/
theorem returnsOn_of_not_endedBy {driver : Driver} {event : TradeSessionEvent}
    (awaiting : driver.endedBy event = false) (request : driver.isRequest = true) :
    driver.returnsOn event = true ↔ driver.completedBy event := by
  rw [driver.returnsOn_eq event]
  cases driver <;> cases event <;>
    simp_all [Driver.endedBy, Driver.answeredBy, Driver.abandonedBy, Driver.completedBy,
      Driver.isRequest]

/-- A driver returns no later than the first event that ends its request exactly
when it does not ignore that event or, for a cancel, had seen the last report of
its order before. -/
theorem returnsWithin_firstEnding_iff (accountId : AccountId) (actor : TradeActor)
    (driver : Driver) (waits : actor.WaitsIn driver)
    (before : List (World × TradeSessionEvent)) (ending : World × TradeSessionEvent)
    (awaiting : ∀ input ∈ before, driver.endedBy input.2 = false)
    (ends : driver.endedBy ending.2 = true) :
    (TradeActor.driverLoop accountId).ReturnsWithin actor (before ++ [ending]) ↔
      driver.ignores ending.2 = false ∨ ∃ input ∈ before, driver.completedBy input.2 := by
  have request := isRequest_of_endedBy ends
  rw [returnsWithin_iff_returnsOn accountId waits request]
  constructor
  · rintro ⟨input, member, returns⟩
    rcases List.mem_append.mp member with earlier | last
    · right
      exact ⟨input, earlier,
        (returnsOn_of_not_endedBy (awaiting input earlier) request).mp returns⟩
    · left
      rw [List.mem_singleton.mp last] at returns
      exact (returnsOn_of_endedBy ends).mp returns
  · rintro (noticed | ⟨input, earlier, completed⟩)
    · exact ⟨ending, by simp, (returnsOn_of_endedBy ends).mpr noticed⟩
    · exact ⟨input, by simp [earlier],
        (returnsOn_of_not_endedBy (awaiting input earlier) request).mpr completed⟩

/-- An account query does not notice that the front was lost. -/
theorem queryAccount_misses_frontDisconnected :
    { TradeActor.online with driver := some (.queryAccount 4 ⟨0⟩) }.WaitsIn
        (.queryAccount 4 ⟨0⟩) ∧
      (Driver.queryAccount 4 ⟨0⟩).endedBy (.frontDisconnected 4097) = true ∧
      ¬(TradeActor.driverLoop ⟨"1001"⟩).ReturnsWithin
        { TradeActor.online with driver := some (.queryAccount 4 ⟨0⟩) }
        [(World.accepting {}, .frontDisconnected 4097)] := by
  refine ⟨⟨?_, rfl⟩, ?_, ?_⟩ <;> decide

/-- A cancel that is refused after a heartbeat warning has returned by then. -/
theorem cancelOrder_returns_on_cancelActionFailed :
    (TradeActor.driverLoop ⟨"1001"⟩).ReturnsWithin
      { TradeActor.online with
        driver := some (.cancelOrder ⟨⟨"1001"⟩, ⟨"au2612"⟩, none, none⟩ 4 ⟨0⟩) }
      ([(World.accepting {}, .heartBeatWarning 10)] ++
        [(World.accepting {}, .cancelActionFailed 4 26 "")]) :=
  (returnsWithin_firstEnding_iff ⟨"1001"⟩ _
    (.cancelOrder ⟨⟨"1001"⟩, ⟨"au2612"⟩, none, none⟩ 4 ⟨0⟩) ⟨by decide, rfl⟩ _ _
    (by decide) (by decide)).mpr (Or.inl (by decide))

/-! ## What a command is answered with -/

namespace TradeSessionCommand

/-- The channel a command came with. -/
def replyTo : TradeSessionCommand → EnvelopeTx
  | .login _ replyTo | .placeOrder _ _ replyTo | .cancelOrder _ replyTo
  | .queryAccount _ replyTo | .queryPosition _ _ replyTo | .queryOrders _ replyTo
  | .queryTrades _ replyTo | .logout replyTo => replyTo

/-- The four queries. -/
def isQuery : TradeSessionCommand → Bool
  | .queryAccount _ _ | .queryPosition _ _ _ | .queryOrders _ _ | .queryTrades _ _ => true
  | .login _ _ | .placeOrder _ _ _ | .cancelOrder _ _ | .logout _ => false

/-- The commands whose handlers wait for an answer of CTP: queries and cancels. -/
def awaitsAnswer : TradeSessionCommand → Bool
  | .cancelOrder _ _ | .queryAccount _ _ | .queryPosition _ _ _ | .queryOrders _ _
  | .queryTrades _ _ => true
  | .login _ _ | .placeOrder _ _ _ | .logout _ => false

/-- Whether a message settles a command: an error or the matching query result. -/
def settledBy : TradeSessionCommand → Message → Bool
  | _, .error _ _
  | .queryAccount _ _, .queryAccountResult _
  | .queryPosition _ _ _, .queryPositionResult _
  | .queryOrders _ _, .queryOrdersResult _
  | .queryTrades _ _, .queryTradesResult _ => true
  | _, _ => false

/-- Whether an effect is a settling message on the command's own channel. -/
def isAnswer (command : TradeSessionCommand) : Effect → Bool
  | .reply channel message => channel = command.replyTo && command.settledBy message
  | _ => false

/-- The driver that waits for the answer to a command's request. -/
def requestDriver : TradeSessionCommand → Int32 → Option Driver
  | .cancelOrder cancel replyTo, rid => some (.cancelOrder cancel rid replyTo)
  | .queryAccount _ replyTo, rid => some (.queryAccount rid replyTo)
  | .queryPosition _ _ replyTo, rid => some (.queryPositions rid replyTo)
  | .queryOrders accountId replyTo, rid => some (.queryOrders accountId rid replyTo)
  | .queryTrades accountId replyTo, rid => some (.queryTrades accountId rid replyTo)
  | .login _ _, _ | .placeOrder _ _ _, _ | .logout _, _ => none

end TradeSessionCommand

/-- A request of the actor gets through to CTP and is accepted by the call. -/
def Submits (actor : TradeActor) (world : World) : Prop :=
  (∃ session, actor.session = some session ∧ session.api.isSome) ∧ world.rc = 0

/-- What is due to a query, or to a cancel whose submission fails: when the
handler has returned, its channel has received exactly one settling message. -/
def AnsweredOnce (accountId : AccountId) (actor : TradeActor) (world : World)
    (command : TradeSessionCommand) (inputs : List (World × TradeSessionEvent)) : Prop :=
  let handling := actor.serve accountId world command inputs
  match command with
  | .cancelOrder _ _ =>
      actor.loggedInIds = none ∨ ¬Submits actor world →
        handling.result.isSome ∧ handling.outputs.countP command.isAnswer = 1
  | _ => handling.result.isSome → handling.outputs.countP command.isAnswer = 1

/-- A push is never an answer. -/
theorem countP_reportPushes (command : TradeSessionCommand) (world : World)
    (orderRegistry : OrderRegistry) (event : TradeSessionEvent) :
    (reportPushes world orderRegistry event).countP command.isAnswer = 0 := by
  rw [List.countP_eq_zero]
  intro effect member
  rcases mem_reportPushes.mp member with ⟨context, message, -, -, rfl⟩
  simp [TradeSessionCommand.isAnswer, pushEnvelopeToClient]

/-- A pass of a query driver answers the query exactly when it returns. -/
theorem countP_replies {command : TradeSessionCommand} {rid : Int32} {driver : Driver}
    (query : command.isQuery = true) (serves : command.requestDriver rid = some driver)
    (world : World) (orderRegistry : OrderRegistry) (event : TradeSessionEvent) :
    (driver.replies world orderRegistry event).countP command.isAnswer =
      if driver.returnsOn event then 1 else 0 := by
  cases command <;> simp only [TradeSessionCommand.isQuery, reduceCtorEq] at query
  all_goals
    simp only [TradeSessionCommand.requestDriver, Option.some.injEq] at serves
    subst serves
    cases event <;> simp [Driver.replies, Driver.returnsOn, queryAccountAnswer,
      queryPositionsAnswer, queryOrdersAnswer, queryTradesAnswer]
    all_goals split <;> simp_all [TradeSessionCommand.isAnswer,
      TradeSessionCommand.settledBy, TradeSessionCommand.replyTo, sendError]

/-- A call of the TraderApi is never an answer. -/
theorem countP_requested (command : TradeSessionCommand) (called : TradeSession.Called) :
    (TradeActor.requested called).countP command.isAnswer = 0 := by
  simp [List.countP_eq_zero, TradeActor.requested, TradeSessionCommand.isAnswer]

/-- A query driver that has returned has answered its query once. -/
theorem countP_feed_queryDriver (accountId : AccountId) {command : TradeSessionCommand}
    {rid : Int32} {driver : Driver} (query : command.isQuery = true)
    (serves : command.requestDriver rid = some driver) (request : driver.isRequest = true)
    {actor : TradeActor} (waits : actor.WaitsIn driver)
    {inputs : List (World × TradeSessionEvent)}
    (returned : (TradeActor.driverLoop accountId).ReturnsWithin actor inputs) :
    ((TradeActor.driverLoop accountId).feed actor inputs).outputs.countP
      command.isAnswer = 1 := by
  apply ReceiveLoop.countP_feed (fun actor => actor.WaitsIn driver) _ _ waits returned
  · intro actor input waits waiting
    rw [pass_eq accountId waits request input] at waiting ⊢
    cases ended : driver.returnsOn input.2 with
    | true => simp [ended] at waiting
    | false =>
        simp only [List.countP_append, countP_reportPushes,
          countP_replies query serves input.1 actor.orderRegistry input.2, ended]
        exact ⟨rfl, waits.1, rfl⟩
  · intro actor input waits returns
    rw [pass_eq accountId waits request input] at returns ⊢
    cases ended : driver.returnsOn input.2 with
    | false => simp [ended] at returns
    | true =>
        simp [countP_reportPushes, countP_replies query serves input.1 actor.orderRegistry input.2,
          ended]

/-- The drivers of commands are request drivers. -/
theorem isRequest_of_requestDriver {command : TradeSessionCommand} {rid : Int32}
    {driver : Driver} (serves : command.requestDriver rid = some driver) :
    driver.isRequest = true := by
  cases command <;> simp only [TradeSessionCommand.requestDriver, Option.some.injEq,
    reduceCtorEq] at serves
  all_goals
    subst serves
    rfl

/-- While logged in, a query or a cancel submits one request and waits for its
answer in the command's driver. -/
theorem handleTradeCommand_request (accountId : AccountId) (world : World)
    {actor : TradeActor} {command : TradeSessionCommand}
    (loggedIn : actor.loggedInIds.isSome)
    (answered : command.awaitsAnswer = true) :
    ∃ (called : TradeSession → TradeSession.Called) (driver : Int32 → Driver),
      (∀ session : TradeSession, (∃ rid, (called session).result = .ok rid) ↔
        session.api.isSome ∧ world.rc = 0) ∧
      (∀ rid, command.requestDriver rid = some (driver rid)) ∧
      handleTradeCommand accountId world actor command =
        withSession actor fun session => actor.submit [] (called session) driver := by
  rcases Option.isSome_iff_exists.mp loggedIn with ⟨ids, loggedInAs⟩
  simp only [handleTradeCommand, loggedIn, if_true]
  cases command with
  | cancelOrder cancel replyTo =>
      refine ⟨fun session => session.cancelOrder world.rc cancel ids.1 ids.2, _,
        fun session => session.request_result .., fun rid => rfl, ?_⟩
      simp only [handleLoggedInTradeCommand, loggedInAs]
      rfl
  | queryAccount =>
      exact ⟨fun session => session.queryTradingAccount world.rc, _,
        fun session => session.request_result .., fun rid => rfl, rfl⟩
  | queryPosition queried instrumentId =>
      exact ⟨fun session => session.queryInvestorPosition world.rc
          (instrumentId.map (·.asStr)), _,
        fun session => session.request_result .., fun rid => rfl, rfl⟩
  | queryOrders =>
      exact ⟨fun session => session.queryOrders world.rc none, _,
        fun session => session.request_result .., fun rid => rfl, rfl⟩
  | queryTrades =>
      exact ⟨fun session => session.queryTrades world.rc none, _,
        fun session => session.request_result .., fun rid => rfl, rfl⟩
  | login | placeOrder | logout => simp [TradeSessionCommand.awaitsAnswer] at answered

/-- A handler that has returned at once replies nothing more. -/
theorem serve_of_returned {accountId : AccountId} {actor : TradeActor} {world : World}
    {command : TradeSessionCommand}
    (returned : (handleTradeCommand accountId world actor command).result.isSome)
    (inputs : List (World × TradeSessionEvent)) :
    actor.serve accountId world command inputs =
      handleTradeCommand accountId world actor command := by
  rcases Option.isSome_iff_exists.mp returned with ⟨result, equal⟩
  simp only [TradeActor.serve, equal]

/-- A handler that is suspended goes on in its driver. -/
theorem serve_of_waiting {accountId : AccountId} {actor : TradeActor} {world : World}
    {command : TradeSessionCommand}
    (waiting : (handleTradeCommand accountId world actor command).result = none)
    (inputs : List (World × TradeSessionEvent)) :
    actor.serve accountId world command inputs =
      { (TradeActor.driverLoop accountId).feed
          (handleTradeCommand accountId world actor command).state inputs with
        outputs := (handleTradeCommand accountId world actor command).outputs ++
          ((TradeActor.driverLoop accountId).feed
            (handleTradeCommand accountId world actor command).state inputs).outputs } := by
  simp only [TradeActor.serve, waiting]

/-- Logged out, a query or a cancel is answered with one error. -/
theorem answeredOnce_of_loggedOut (accountId : AccountId) {actor : TradeActor}
    (world : World) {command : TradeSessionCommand}
    (inputs : List (World × TradeSessionEvent)) (loggedOut : actor.loggedInIds = none)
    (answered : command.awaitsAnswer = true) :
    AnsweredOnce accountId actor world command inputs := by
  have refused : handleTradeCommand accountId world actor command =
      actor.finish
        [sendError command.replyTo (-11) "account is not logged in; command rejected"]
        (.ok ()) := by
    cases command with
    | login | placeOrder | logout => simp [TradeSessionCommand.awaitsAnswer] at answered
    | _ => simp [handleTradeCommand, loggedOut, handleLoggedOutTradeCommand,
        TradeSessionCommand.replyTo]
  have returned : (handleTradeCommand accountId world actor command).result.isSome := by
    rw [refused, TradeActor.finish_result, Option.isSome_some]
  have served := serve_of_returned returned inputs
  have once : [sendError command.replyTo (-11)
      "account is not logged in; command rejected"].countP command.isAnswer = 1 := by
    cases command <;> simp [sendError, TradeSessionCommand.isAnswer,
      TradeSessionCommand.settledBy]
  simp only [AnsweredOnce]
  rw [served, refused]
  cases command <;> simp [TradeActor.finish, once]

/-- Logged in, a request that does not get through is answered with nothing. -/
theorem handleTradeCommand_unsubmitted (accountId : AccountId) {actor : TradeActor}
    {world : World} {command : TradeSessionCommand} (loggedIn : actor.loggedInIds.isSome)
    (answered : command.awaitsAnswer = true) (refused : ¬Submits actor world) :
    (handleTradeCommand accountId world actor command).result.isSome ∧
      (handleTradeCommand accountId world actor command).outputs.countP
        command.isAnswer = 0 := by
  rcases handleTradeCommand_request accountId world loggedIn answered with
    ⟨called, driver, accepted, -, handled⟩
  rw [handled]
  cases present : actor.session with
  | none => simp [withSession, present, TradeActor.finish]
  | some session =>
      simp only [withSession, present]
      cases outcome : (called session).result with
      | error message =>
          rw [TradeActor.submit_of_error outcome]
          exact ⟨rfl, countP_requested command (called session)⟩
      | ok rid =>
          have through := (accepted session).mp ⟨rid, outcome⟩
          exact absurd ⟨⟨session, present, through.1⟩, through.2⟩ refused

/-- Logged in, a request that gets through leaves the handler in its driver. -/
theorem handleTradeCommand_submitted (accountId : AccountId) {actor : TradeActor}
    {world : World} {command : TradeSessionCommand} (loggedIn : actor.loggedInIds.isSome)
    (answered : command.awaitsAnswer = true) (submits : Submits actor world) :
    (handleTradeCommand accountId world actor command).result = none ∧
      (handleTradeCommand accountId world actor command).outputs.countP
        command.isAnswer = 0 ∧
      ∃ rid driver, command.requestDriver rid = some driver ∧
        (handleTradeCommand accountId world actor command).state.WaitsIn driver := by
  rcases handleTradeCommand_request accountId world loggedIn answered with
    ⟨called, driver, accepted, serves, handled⟩
  rcases submits with ⟨⟨session, present, loaded⟩, zero⟩
  rcases (accepted session).mpr ⟨loaded, zero⟩ with ⟨rid, outcome⟩
  rw [handled]
  simp only [withSession, present]
  rw [TradeActor.submit_of_ok outcome]
  exact ⟨rfl, countP_requested command (called session), rid, driver rid, serves rid,
    rfl, rfl⟩

/-- A query is answered exactly once, and a cancel that cannot be submitted gets
exactly one error, exactly when the actor is logged out or the request gets
through to CTP: a request that fails to submit leaves its handler through `?`
and is only logged. -/
theorem answeredOnce_iff (accountId : AccountId) (actor : TradeActor) (world : World)
    (command : TradeSessionCommand) (inputs : List (World × TradeSessionEvent))
    (answered : command.awaitsAnswer = true) :
    AnsweredOnce accountId actor world command inputs ↔
      actor.loggedInIds = none ∨ Submits actor world := by
  by_cases loggedIn : actor.loggedInIds.isSome
  · have someone : actor.loggedInIds ≠ none := Option.isSome_iff_ne_none.mp loggedIn
    simp only [someone, false_or]
    by_cases submits : Submits actor world
    · simp only [submits, iff_true]
      rcases handleTradeCommand_submitted accountId loggedIn answered submits with
        ⟨waiting, silent, rid, driver, serves, waits⟩
      have request := isRequest_of_requestDriver serves
      have onReturn (query : command.isQuery = true)
          (returned : (actor.serve accountId world command inputs).result.isSome) :
          (actor.serve accountId world command inputs).outputs.countP
            command.isAnswer = 1 := by
        rw [serve_of_waiting waiting inputs] at returned ⊢
        rw [List.countP_append, silent, Nat.zero_add]
        exact countP_feed_queryDriver accountId query serves request waits returned
      cases command with
      | login | placeOrder | logout => simp [TradeSessionCommand.awaitsAnswer] at answered
      | cancelOrder => simp [AnsweredOnce, someone, submits]
      | queryAccount | queryPosition | queryOrders | queryTrades => exact onReturn rfl
    · simp only [submits, iff_false]
      rcases handleTradeCommand_unsubmitted accountId loggedIn answered submits with
        ⟨returned, unanswered⟩
      have served := serve_of_returned returned inputs
      simp only [AnsweredOnce]
      rw [served]
      cases command <;> simp [returned, unanswered, submits]
  · have loggedOut : actor.loggedInIds = none := by simpa using loggedIn
    simp only [loggedOut, true_or, iff_true]
    exact answeredOnce_of_loggedOut accountId world inputs loggedOut answered

/-- A query whose CTP call is refused is answered with nothing. -/
theorem refusedQuery_unanswered :
    ¬AnsweredOnce ⟨"1001"⟩ TradeActor.online { World.accepting {} with rc := -2 }
      (.queryAccount ⟨"1001"⟩ ⟨0⟩) [] := by
  simp only [AnsweredOnce]
  decide

/-- A query that gets through and fails at CTP is answered once. -/
theorem failedQuery_answeredOnce :
    AnsweredOnce ⟨"1001"⟩ TradeActor.online (World.accepting {})
      (.queryAccount ⟨"1001"⟩ ⟨0⟩) [(World.accepting {}, .queryFailed 4 90 "")] := by
  have submits : Submits TradeActor.online (World.accepting {}) := by
    refine ⟨⟨_, rfl, ?_⟩, rfl⟩
    decide
  exact (answeredOnce_iff ⟨"1001"⟩ _ _ _ _ (by decide)).mpr (Or.inr submits)

end CtpSystem
