import CtpSystem.Library.ReceiveLoop
import CtpSystem.Server.State

/-!
# Request drivers of the trade session actor

A driver submits a CTP request and then receives session events until the
request is settled.  Each driver is split where the source awaits: a part that
runs until the first `recv`, and the body of its receive loop.
-/

namespace CtpSystem

open Reactive

/-- What surrounds one step of an actor: the clock, the return code of the one
CTP call the step may make, and the outcome of a connect. -/
structure Surroundings where
  clock : Clock
  rc : Int32
  connect : Except String Unit

/-- What one step of an actor can observe outside its own variables. -/
structure World extends Surroundings where
  shared : ServerActorState

/-- A world in which every call is accepted and the clock stands still. -/
def World.accepting (shared : ServerActorState) : World where
  clock := ⟨⟨0⟩, fun _ => none⟩
  rc := 0
  connect := .ok ()
  shared := shared

/-- The receive loop an actor is suspended in, with the loop's own variables. -/
inductive Driver where
  | tradeLogin (credentials : AccountCredentials) (replyTo : EnvelopeTx)
      (loginIds : Option (Int32 × Int32))
  | cancelOrder (cancel : CancelRequest) (rid : Int32) (replyTo : EnvelopeTx)
  | queryAccount (rid : Int32) (replyTo : EnvelopeTx)
  | queryPositions (rid : Int32) (replyTo : EnvelopeTx)
  | queryOrders (accountId : AccountId) (rid : Int32) (replyTo : EnvelopeTx)
  | queryTrades (accountId : AccountId) (rid : Int32) (replyTo : EnvelopeTx)
  deriving DecidableEq

/-- The variables of the actor's task, and where it is suspended: in a driver, or
at the top of its loop. -/
structure TradeActor where
  session : Option TradeSession := none
  loggedInIds : Option (Int32 × Int32) := none
  orderRegistry : OrderRegistry := ∅
  driver : Option Driver := none

/-- A piece of command handling: it has returned, or is suspended in a driver. -/
abbrev Handling := Turn TradeActor Effect (Except String Unit)

namespace TradeActor

/-- Go on waiting in a driver. -/
def waitIn (actor : TradeActor) (driver : Driver) (effects : List Effect) : Handling :=
  ⟨{ actor with driver := some driver }, effects, none⟩

/-- Return to the top of the loop. -/
def finish (actor : TradeActor) (effects : List Effect) (result : Except String Unit) :
    Handling :=
  ⟨{ actor with driver := none }, effects, some result⟩

/-- The calls a request method made, as effects. -/
def requested (called : TradeSession.Called) : List Effect :=
  called.sent.map fun sent => .request sent.1 sent.2

/-- A request method makes its one call exactly when the api is loaded. -/
theorem mem_requested_request {session : TradeSession} {rc : Int32} {call : String}
    {pending : Option PendingQuery} {field : Int32 → CtpRequest} {effect : Effect} :
    effect ∈ requested (session.request rc call pending field) ↔
      session.api.isSome ∧ effect = .request (field (session.requestId + 1)) rc := by
  cases loaded : session.api <;> simp [requested, TradeSession.request, loaded]

/-- Submit a request, leaving through `?` where it fails and otherwise waiting in
the driver for the request id it was given. -/
def submit (actor : TradeActor) (effects : List Effect) (called : TradeSession.Called)
    (driver : Int32 → Driver) : Handling :=
  let actor := { actor with session := some called.session }
  match called.result with
  | .error message => actor.finish (effects ++ requested called) (.error message)
  | .ok rid => actor.waitIn (driver rid) (effects ++ requested called)

section Fields

variable (actor : TradeActor) (driver : Driver) (effects : List Effect)

@[simp] theorem waitIn_session :
    (actor.waitIn driver effects).state.session = actor.session := rfl

@[simp] theorem waitIn_loggedInIds :
    (actor.waitIn driver effects).state.loggedInIds = actor.loggedInIds := rfl

@[simp] theorem waitIn_orderRegistry :
    (actor.waitIn driver effects).state.orderRegistry = actor.orderRegistry := rfl

@[simp] theorem waitIn_driver :
    (actor.waitIn driver effects).state.driver = some driver := rfl

@[simp] theorem waitIn_outputs : (actor.waitIn driver effects).outputs = effects := rfl

@[simp] theorem waitIn_result : (actor.waitIn driver effects).result = none := rfl

variable (result : Except String Unit)

@[simp] theorem finish_session :
    (actor.finish effects result).state.session = actor.session := rfl

@[simp] theorem finish_loggedInIds :
    (actor.finish effects result).state.loggedInIds = actor.loggedInIds := rfl

@[simp] theorem finish_orderRegistry :
    (actor.finish effects result).state.orderRegistry = actor.orderRegistry := rfl

@[simp] theorem finish_driver : (actor.finish effects result).state.driver = none := rfl

@[simp] theorem finish_outputs : (actor.finish effects result).outputs = effects := rfl

@[simp] theorem finish_result : (actor.finish effects result).result = some result := rfl

end Fields

theorem submit_of_error {actor : TradeActor} {effects : List Effect}
    {called : TradeSession.Called} {message : String}
    (failed : called.result = .error message) (driver : Int32 → Driver) :
    actor.submit effects called driver =
      { actor with session := some called.session }.finish (effects ++ requested called)
        (.error message) := by
  simp only [submit, failed]

theorem submit_of_ok {actor : TradeActor} {effects : List Effect}
    {called : TradeSession.Called} {rid : Int32} (accepted : called.result = .ok rid)
    (driver : Int32 → Driver) :
    actor.submit effects called driver =
      { actor with session := some called.session }.waitIn (driver rid)
        (effects ++ requested called) := by
  simp only [submit, accepted]

section Submit

variable (actor : TradeActor) (effects : List Effect) (called : TradeSession.Called)
variable (driver : Int32 → Driver)

@[simp] theorem submit_session :
    (actor.submit effects called driver).state.session = some called.session := by
  cases outcome : called.result with
  | error message => rw [submit_of_error outcome, finish_session]
  | ok rid => rw [submit_of_ok outcome, waitIn_session]

@[simp] theorem submit_loggedInIds :
    (actor.submit effects called driver).state.loggedInIds = actor.loggedInIds := by
  cases outcome : called.result with
  | error message => rw [submit_of_error outcome, finish_loggedInIds]
  | ok rid => rw [submit_of_ok outcome, waitIn_loggedInIds]

@[simp] theorem submit_orderRegistry :
    (actor.submit effects called driver).state.orderRegistry = actor.orderRegistry := by
  cases outcome : called.result with
  | error message => rw [submit_of_error outcome, finish_orderRegistry]
  | ok rid => rw [submit_of_ok outcome, waitIn_orderRegistry]

@[simp] theorem submit_outputs :
    (actor.submit effects called driver).outputs = effects ++ requested called := by
  cases outcome : called.result with
  | error message => rw [submit_of_error outcome, finish_outputs]
  | ok rid => rw [submit_of_ok outcome, waitIn_outputs]

/-- After a submission the actor is at the top of its loop or in the driver. -/
theorem submit_driver :
    (actor.submit effects called driver).state.driver = none ∨
      ∃ rid, (actor.submit effects called driver).state.driver = some (driver rid) := by
  cases outcome : called.result with
  | error message => exact Or.inl (by rw [submit_of_error outcome, finish_driver])
  | ok rid => exact Or.inr ⟨rid, by rw [submit_of_ok outcome, waitIn_driver]⟩

end Submit

end TradeActor

/-! ## Login -/

/-- `trade_session_config`. -/
def tradeSessionConfig (credentials : AccountCredentials) : TradeSessionConfig where
  accountId := credentials.accountId.asStr
  brokerId := credentials.brokerId
  password := credentials.password
  appId := credentials.appId
  authCode := credentials.authCode

/-- `drive_trade_login` up to its receive loop.  A session left over from before
is used as it is, whatever credentials it was made with. -/
def driveTradeLogin (world : World) (actor : TradeActor)
    (credentials : AccountCredentials) (replyTo : EnvelopeTx) : Handling :=
  match actor.loggedInIds with
  | some ids =>
      actor.finish
        [sendAccountState replyTo (loggedInState world.clock credentials.accountId ids)]
        (.ok ())
  | none =>
      let connected : Except String TradeSession :=
        match actor.session with
        | some session => .ok session
        | none => (TradeSession.new (tradeSessionConfig credentials)).connect world.connect
      match connected with
      | .error message => actor.finish [] (.error message)
      | .ok session =>
          { actor with session := some session }.waitIn (.tradeLogin credentials replyTo none)
            [sendAccountState replyTo
              (accountState world.clock credentials.accountId .connecting)]

/-- One pass of the receive loop of `drive_trade_login`. -/
def driveTradeLoginEvent (world : World) (actor : TradeActor) (session : TradeSession)
    (credentials : AccountCredentials) (replyTo : EnvelopeTx)
    (loginIds : Option (Int32 × Int32)) (event : TradeSessionEvent) : Handling :=
  let wait := actor.waitIn (.tradeLogin credentials replyTo loginIds)
  let fail message := actor.finish [] (.error message)
  let notify state :=
    sendAccountState replyTo (accountState world.clock credentials.accountId state)
  match event with
  | .frontConnected =>
      actor.submit [notify .authenticating] (session.authenticate world.rc) fun _ =>
        .tradeLogin credentials replyTo loginIds
  | .authenticateOk =>
      actor.submit [] (session.login world.rc) fun _ =>
        .tradeLogin credentials replyTo loginIds
  | .loginOk _ frontId sessionId =>
      actor.submit [] (session.confirmSettlement world.rc) fun _ =>
        .tradeLogin credentials replyTo (some (frontId, sessionId))
  | .settlementConfirmed =>
      let ids := loginIds.getD (0, 0)
      { actor with loggedInIds := some ids }.finish
        [sendAccountState replyTo (loggedInState world.clock credentials.accountId ids)]
        (.ok ())
  | .frontDisconnected _ => wait [notify .disconnected]
  | .authenticateFailed errorId errorMsg =>
      fail ("authenticate failed: " ++ toString errorId ++ " " ++ errorMsg)
  | .loginFailed errorId errorMsg =>
      fail ("login failed: " ++ toString errorId ++ " " ++ errorMsg)
  | .settlementConfirmFailed errorId errorMsg =>
      fail ("settlement confirm failed: " ++ toString errorId ++ " " ++ errorMsg)
  | .error errorId errorMsg requestId =>
      fail ("trade error request_id=" ++ toString requestId ++ ": " ++
        toString errorId ++ " " ++ errorMsg)
  | .heartBeatWarning _ | .orderInsertRejected _ _ => wait []
  | .orderReturn _ | .tradeReturn _ => wait []
  | .queryAccountReady _ _ | .queryPositionsReady _ _ | .queryOrdersReady _ _
  | .queryTradesReady _ _ | .queryFailed _ _ _ | .cancelActionOk _
  | .cancelActionFailed _ _ _ => wait []

/-! ## Orders and cancels -/

/-- The context captured for an order when it is submitted. -/
def orderContext (clock : Clock) (clientId : ClientId) (order : OrderRequest) :
    OrderContext where
  clientId := clientId
  clientOrderId := order.clientOrderId
  accountId := order.accountId
  instrumentId := order.instrumentId
  direction := order.direction
  offset := order.offset
  orderType := order.orderType
  price := order.price
  volume := order.volume
  insertedAt := clock.now

/-- `register_and_insert_order`: the context is stored before the insert is tried
and stays where the insert fails. -/
def registerAndInsertOrder (world : World) (actor : TradeActor) (session : TradeSession)
    (clientId : ClientId) (order : OrderRequest) : TradeActor × TradeSession.Called :=
  let context := orderContext world.clock clientId order
  let called := session.insertOrder world.rc order
  ({ actor with
      session := some called.session
      orderRegistry := actor.orderRegistry.insert context.orderRefKey context },
    called)

/-- `drive_cancel_order` up to its receive loop. -/
def driveCancelOrder (world : World) (actor : TradeActor) (session : TradeSession)
    (cancel : CancelRequest) (frontId sessionId : Int32) (replyTo : EnvelopeTx) :
    Handling :=
  actor.submit [] (session.cancelOrder world.rc cancel frontId sessionId) fun rid =>
    .cancelOrder cancel rid replyTo

/-- A report is about the order to cancel when either id matches as it stands. -/
def CancelRequest.isTarget (cancel : CancelRequest) (report : OrderReport) : Bool :=
  cancel.clientOrderId = some report.clientOrderId ||
    (cancel.exchangeOrderId.isSome && cancel.exchangeOrderId = report.exchangeOrderId)

/-- Statuses after which an order does not change any more. -/
def OrderStatus.isTerminal : OrderStatus → Bool
  | .cancelled | .filled | .rejected => true
  | .submitted | .accepted | .partiallyFilled | .unknown => false

/-- One pass of the receive loop of `drive_cancel_order`. -/
def driveCancelOrderEvent (world : World) (orderRegistry : OrderRegistry)
    (cancel : CancelRequest) (rid : Int32) (replyTo : EnvelopeTx) :
    TradeSessionEvent → List Effect × Option (Except String Unit)
  | .orderReturn report =>
      (pushOrderReport world.shared world.clock orderRegistry report,
        if cancel.isTarget report && report.status.isTerminal then some (.ok ()) else none)
  | .tradeReturn report =>
      (pushTradeReport world.shared world.clock orderRegistry report, none)
  | .cancelActionOk requestId =>
      ([], if requestId = rid then some (.ok ()) else none)
  | .cancelActionFailed requestId errorId errorMsg =>
      if requestId = rid then ([sendError replyTo errorId errorMsg], some (.ok ()))
      else ([], none)
  | .frontDisconnected _ => ([], some (.ok ()))
  | _ => ([], none)

/-! ## Queries -/

/-- One pass of `wait_actionable_event`: reports are pushed and every other event
is handed to the caller. -/
def waitActionableEvent (world : World) (orderRegistry : OrderRegistry) :
    TradeSessionEvent → List Effect × Option TradeSessionEvent
  | .orderReturn report =>
      (pushOrderReport world.shared world.clock orderRegistry report, none)
  | .tradeReturn report =>
      (pushTradeReport world.shared world.clock orderRegistry report, none)
  | event => ([], some event)

/-- Common part of the receive loops of the query drivers.  `ready` reads the
answer that belongs to the query off an event. -/
def driveQueryEvent (ready : TradeSessionEvent → Option Message) (world : World)
    (orderRegistry : OrderRegistry) (rid : Int32) (replyTo : EnvelopeTx)
    (event : TradeSessionEvent) : List Effect × Option (Except String Unit) :=
  match waitActionableEvent world orderRegistry event with
  | (effects, none) => (effects, none)
  | (effects, some event) =>
      match ready event, event with
      | some answer, _ => (effects ++ [.reply replyTo answer], some (.ok ()))
      | none, .queryFailed requestId errorId errorMsg =>
          if requestId = rid then
            (effects ++ [sendError replyTo errorId errorMsg], some (.ok ()))
          else (effects, none)
      | none, _ => (effects, none)

/-- `lookup_client_id`. -/
def lookupClientId (orderRegistry : OrderRegistry) (clientOrderId : ClientOrderId) :
    Option ClientId :=
  (orderRegistry.lookup (orderRefLookupKey clientOrderId)).map (·.clientId)

/-- `default_query_client_id`: the client of whichever registry entry comes first. -/
def defaultQueryClientId (orderRegistry : OrderRegistry) : ClientId :=
  match orderRegistry.entries.head? with
  | some entry => entry.2.clientId
  | none => ⟨"query"⟩

/-- `order_report_to_wire_order`: a queried order carries no submit-time context. -/
def orderReportToWireOrder (now : DateTime) (report : OrderReport)
    (accountId : AccountId) (clientId : ClientId) : Order where
  clientOrderId := report.clientOrderId
  exchangeOrderId := report.exchangeOrderId
  accountId := accountId
  clientId := clientId
  instrumentId := report.instrumentId
  direction := report.direction
  offset := report.offset
  orderType := .limit
  volume := report.volumeTotal
  volumeTraded := report.volumeTraded
  price := report.price
  status := report.status
  statusMsg := report.statusMsg
  insertedAt := now
  updatedAt := now

/-- The answer `drive_query_account` waits for. -/
def queryAccountAnswer (rid : Int32) : TradeSessionEvent → Option Message
  | .queryAccountReady requestId balance =>
      if requestId = rid then some (.queryAccountResult balance) else none
  | _ => none

/-- The answer `drive_query_positions` waits for. -/
def queryPositionsAnswer (rid : Int32) : TradeSessionEvent → Option Message
  | .queryPositionsReady requestId positions =>
      if requestId = rid then some (.queryPositionResult positions) else none
  | _ => none

/-- The answer `drive_query_orders` waits for. -/
def queryOrdersAnswer (world : World) (orderRegistry : OrderRegistry)
    (accountId : AccountId) (rid : Int32) : TradeSessionEvent → Option Message
  | .queryOrdersReady requestId orders =>
      if requestId = rid then
        some (.queryOrdersResult (orders.map fun report =>
          orderReportToWireOrder world.clock.now report accountId
            ((lookupClientId orderRegistry report.clientOrderId).getD
              (defaultQueryClientId orderRegistry))))
      else none
  | _ => none

/-- The answer `drive_query_trades` waits for. -/
def queryTradesAnswer (world : World) (accountId : AccountId) (rid : Int32) :
    TradeSessionEvent → Option Message
  | .queryTradesReady requestId trades =>
      if requestId = rid then
        some (.queryTradesResult (trades.map (·.intoTrade world.clock accountId)))
      else none
  | _ => none

/-- `drive_query_account` up to its receive loop. -/
def driveQueryAccount (world : World) (actor : TradeActor) (session : TradeSession)
    (replyTo : EnvelopeTx) : Handling :=
  actor.submit [] (session.queryTradingAccount world.rc) fun rid =>
    .queryAccount rid replyTo

/-- `drive_query_positions` up to its receive loop. -/
def driveQueryPositions (world : World) (actor : TradeActor) (session : TradeSession)
    (instrumentId : Option String) (replyTo : EnvelopeTx) : Handling :=
  actor.submit [] (session.queryInvestorPosition world.rc instrumentId) fun rid =>
    .queryPositions rid replyTo

/-- `drive_query_orders` up to its receive loop. -/
def driveQueryOrders (world : World) (actor : TradeActor) (session : TradeSession)
    (accountId : AccountId) (replyTo : EnvelopeTx) : Handling :=
  actor.submit [] (session.queryOrders world.rc none) fun rid =>
    .queryOrders accountId rid replyTo

/-- `drive_query_trades` up to its receive loop. -/
def driveQueryTrades (world : World) (actor : TradeActor) (session : TradeSession)
    (accountId : AccountId) (replyTo : EnvelopeTx) : Handling :=
  actor.submit [] (session.queryTrades world.rc none) fun rid =>
    .queryTrades accountId rid replyTo

/-- One pass of the receive loop of `drive_query_account`. -/
def driveQueryAccountEvent (world : World) (orderRegistry : OrderRegistry) (rid : Int32)
    (replyTo : EnvelopeTx) : TradeSessionEvent → List Effect × Option (Except String Unit) :=
  driveQueryEvent (queryAccountAnswer rid) world orderRegistry rid replyTo

/-- One pass of the receive loop of `drive_query_positions`. -/
def driveQueryPositionsEvent (world : World) (orderRegistry : OrderRegistry) (rid : Int32)
    (replyTo : EnvelopeTx) : TradeSessionEvent → List Effect × Option (Except String Unit) :=
  driveQueryEvent (queryPositionsAnswer rid) world orderRegistry rid replyTo

/-- One pass of the receive loop of `drive_query_orders`. -/
def driveQueryOrdersEvent (world : World) (orderRegistry : OrderRegistry)
    (accountId : AccountId) (rid : Int32) (replyTo : EnvelopeTx) :
    TradeSessionEvent → List Effect × Option (Except String Unit) :=
  driveQueryEvent (queryOrdersAnswer world orderRegistry accountId rid) world orderRegistry
    rid replyTo

/-- One pass of the receive loop of `drive_query_trades`. -/
def driveQueryTradesEvent (world : World) (orderRegistry : OrderRegistry)
    (accountId : AccountId) (rid : Int32) (replyTo : EnvelopeTx) :
    TradeSessionEvent → List Effect × Option (Except String Unit) :=
  driveQueryEvent (queryTradesAnswer world accountId rid) world orderRegistry rid replyTo

/-- One pass of the receive loop of a driver that waits for a submitted request. -/
def Driver.requestEvent (world : World) (orderRegistry : OrderRegistry) :
    Driver → TradeSessionEvent → List Effect × Option (Except String Unit)
  | .cancelOrder cancel rid replyTo =>
      driveCancelOrderEvent world orderRegistry cancel rid replyTo
  | .queryAccount rid replyTo => driveQueryAccountEvent world orderRegistry rid replyTo
  | .queryPositions rid replyTo => driveQueryPositionsEvent world orderRegistry rid replyTo
  | .queryOrders accountId rid replyTo =>
      driveQueryOrdersEvent world orderRegistry accountId rid replyTo
  | .queryTrades accountId rid replyTo =>
      driveQueryTradesEvent world orderRegistry accountId rid replyTo
  | .tradeLogin _ _ _ => fun _ => ([], none)

end CtpSystem
