import CtpSystem.Domain.Reports

/-!
# CTP trade session

One TraderApi connection: the requests it sends, the queries it has pending and
the events its callbacks put into the session's event channel.  The CTP library
is outside the repository, so the return code of a request call and the outcome
of a connect are arguments.  Character arrays of the CTP structures are the
strings `try_to_string().unwrap_or_default()` reads from them.
-/

namespace CtpSystem

/-- Per-account configuration, without the addresses and paths that only the CTP
library reads. -/
structure TradeSessionConfig where
  accountId : String
  brokerId : String
  password : String
  appId : String
  authCode : String
  deriving DecidableEq

/-- Events of a trade session, in the order its callbacks emit them. -/
inductive TradeSessionEvent where
  | frontConnected
  | frontDisconnected (reason : Int32)
  | heartBeatWarning (timeLapse : Int32)
  | authenticateOk
  | authenticateFailed (errorId : Int32) (errorMsg : String)
  | loginOk (tradingDay : String) (frontId sessionId : Int32)
  | loginFailed (errorId : Int32) (errorMsg : String)
  | settlementConfirmed
  | settlementConfirmFailed (errorId : Int32) (errorMsg : String)
  | error (errorId : Int32) (errorMsg : String) (requestId : Int32)
  | orderInsertRejected (errorId : Int32) (errorMsg : String)
  | orderReturn (report : OrderReport)
  | tradeReturn (report : TradeReport)
  | queryAccountReady (requestId : Int32) (balance : AccountBalance)
  | queryPositionsReady (requestId : Int32) (positions : List Position)
  | queryOrdersReady (requestId : Int32) (orders : List OrderReport)
  | queryTradesReady (requestId : Int32) (trades : List TradeReport)
  | queryFailed (requestId errorId : Int32) (errorMsg : String)
  | cancelActionOk (requestId : Int32)
  | cancelActionFailed (requestId errorId : Int32) (errorMsg : String)
  deriving DecidableEq

/-- Rows collected so far for a pending request. -/
inductive PendingQuery where
  | account
  | positions (rows : List Position)
  | orders (rows : List OrderReport)
  | trades (rows : List TradeReport)
  | cancel
  deriving DecidableEq

/-- State shared with the CTP callback thread: pending queries by request id. -/
structure SharedState where
  pendingQueries : HashMap Int32 PendingQuery := ∅

/-- `SharedState::register_query`. -/
def SharedState.registerQuery (shared : SharedState) (requestId : Int32)
    (kind : PendingQuery) : SharedState :=
  ⟨shared.pendingQueries.insert requestId kind⟩

/-! ## Requests -/

/-- Order insert fields, with the CTP character constants spelled out. -/
structure InputOrderField where
  brokerId : String
  investorId : String
  userId : String
  accountId : String
  instrumentId : String
  orderRef : String
  orderPriceType : Char
  direction : Char
  combOffsetFlag : String
  combHedgeFlag : String
  limitPrice : F64
  volumeTotalOriginal : Int32
  timeCondition : Char
  volumeCondition : Char
  minVolume : Int32
  contingentCondition : Char
  forceCloseReason : Char
  isAutoSuspend : Int32
  userForceClose : Int32
  isSwapOrder : Int32
  requestId : Int32
  deriving DecidableEq

/-- Order action fields; an absent id leaves its field empty. -/
structure InputOrderActionField where
  brokerId : String
  investorId : String
  userId : String
  frontId : Int32
  sessionId : Int32
  actionFlag : Char
  instrumentId : String
  orderSysId : Option String
  orderRef : Option String
  requestId : Int32
  deriving DecidableEq

/-- Calls of the TraderApi.  Their strings are those handed to `set_str`, before the arrays of
the C structs cut them. -/
inductive CtpRequest where
  | authenticate (brokerId userId userProductInfo authCode appId : String)
  | userLogin (brokerId userId password userProductInfo : String)
  | settlementInfoConfirm (brokerId investorId accountId : String)
  | orderInsert (field : InputOrderField)
  | orderAction (field : InputOrderActionField)
  | qryTradingAccount (brokerId investorId currencyId : String)
  | qryInvestorPosition (brokerId investorId : String) (instrumentId : Option String)
  | qryOrder (brokerId investorId : String) (instrumentId : Option String)
  | qryTrade (brokerId investorId : String) (instrumentId : Option String)
  deriving DecidableEq

/-- Handle of the loaded CTP library. -/
structure TraderApi where
  deriving DecidableEq

/-- One CTP TraderApi connection.  It keeps a sender of its own event channel, so
receiving from that channel never reports it closed. -/
structure TradeSession where
  config : TradeSessionConfig
  api : Option TraderApi := none
  shared : Option SharedState := none
  requestId : Int32 := 0

namespace TradeSession

/-- A session that is not connected yet. -/
def new (config : TradeSessionConfig) : TradeSession := { config }

/-- Load the library and register the callbacks, unless the library refuses. -/
def connect (session : TradeSession) (outcome : Except String Unit) :
    Except String TradeSession :=
  match outcome with
  | .error message => .error message
  | .ok () => .ok { session with api := some {}, shared := some {} }

/-- What a request method leaves behind: the session with its request counter
advanced, the call made on the TraderApi with its return code, and the result. -/
structure Called where
  session : TradeSession
  sent : List (CtpRequest × Int32)
  result : Except String Int32

/-- Common part of the request methods: take the next request id, register a
pending query where there is one, and call the api under the name `call`. -/
def request (session : TradeSession) (rc : Int32) (call : String)
    (pending : Option PendingQuery) (field : Int32 → CtpRequest) : Called :=
  let requestId := session.requestId + 1
  let shared :=
    match pending with
    | none => session.shared
    | some kind => session.shared.map (·.registerQuery requestId kind)
  let session := { session with requestId := requestId, shared := shared }
  match session.api with
  | none => ⟨session, [], .error "Trade session is not connected"⟩
  | some _ =>
      ⟨session, [(field requestId, rc)],
        if rc = 0 then .ok requestId
        else .error (call ++ " returned " ++ toString rc)⟩

/-- Issue client authentication. -/
def authenticate (session : TradeSession) (rc : Int32) : Called :=
  session.request rc "req_authenticate" none fun _ =>
    .authenticate session.config.brokerId session.config.accountId "quantSystem"
      session.config.authCode session.config.appId

/-- Issue user login. -/
def login (session : TradeSession) (rc : Int32) : Called :=
  session.request rc "req_user_login" none fun _ =>
    .userLogin session.config.brokerId session.config.accountId
      session.config.password "quantSystem"

/-- Confirm the settlement information. -/
def confirmSettlement (session : TradeSession) (rc : Int32) : Called :=
  session.request rc "req_settlement_info_confirm" none fun _ =>
    .settlementInfoConfirm session.config.brokerId session.config.accountId
      session.config.accountId

end TradeSession

/-- CTP `Direction` of an order. -/
def directionFlag : Direction → Char
  | .buy => '0'
  | .sell => '1'

/-- CTP `CombOffsetFlag` of an order. -/
def offsetFlag : OffsetFlag → String
  | .open => "0"
  | .close => "1"
  | .closeToday => "3"
  | .closeYesterday => "4"

/-- CTP `OrderPriceType`: any price or limit price. -/
def orderPriceType : OrderType → Char
  | .market => '1'
  | .limit | .fak | .fok => '2'

/-- CTP `TimeCondition`: immediate-or-cancel or good-for-day. -/
def timeCondition : OrderType → Char
  | .fak | .fok => '1'
  | .limit | .market => '3'

/-- CTP `VolumeCondition`: complete volume or any volume. -/
def volumeCondition : OrderType → Char
  | .fok => '3'
  | .limit | .market | .fak => '1'

namespace TradeSession

/-- Submit an order; its `OrderRef` is the normalized client order id. -/
def insertOrder (session : TradeSession) (rc : Int32) (order : OrderRequest) : Called :=
  session.request rc "req_order_insert" none fun requestId =>
    .orderInsert {
      brokerId := session.config.brokerId
      investorId := session.config.accountId
      userId := session.config.accountId
      accountId := session.config.accountId
      instrumentId := order.instrumentId.asStr
      orderRef := normalizeOrderRef order.clientOrderId.asStr
      orderPriceType := orderPriceType order.orderType
      direction := directionFlag order.direction
      combOffsetFlag := offsetFlag order.offset
      combHedgeFlag := "1"
      limitPrice := order.price
      volumeTotalOriginal := order.volume
      timeCondition := timeCondition order.orderType
      volumeCondition := volumeCondition order.orderType
      minVolume := 1
      contingentCondition := '1'
      forceCloseReason := '0'
      isAutoSuspend := 0
      userForceClose := 0
      isSwapOrder := 0
      requestId := requestId }

/-- Submit an order action that deletes an order. -/
def cancelOrder (session : TradeSession) (rc : Int32) (cancel : CancelRequest)
    (frontId sessionId : Int32) : Called :=
  session.request rc "req_order_action" (some .cancel) fun requestId =>
    .orderAction {
      brokerId := session.config.brokerId
      investorId := session.config.accountId
      userId := session.config.accountId
      frontId := frontId
      sessionId := sessionId
      actionFlag := '0'
      instrumentId := cancel.instrumentId.asStr
      orderSysId := cancel.exchangeOrderId.map (·.asStr)
      orderRef := cancel.clientOrderId.map fun id => normalizeOrderRef id.asStr
      requestId := requestId }

/-- Query the account's funds. -/
def queryTradingAccount (session : TradeSession) (rc : Int32) : Called :=
  session.request rc "req_qry_trading_account" (some .account) fun _ =>
    .qryTradingAccount session.config.brokerId session.config.accountId "CNY"

/-- Query positions, of one instrument where it is given. -/
def queryInvestorPosition (session : TradeSession) (rc : Int32)
    (instrumentId : Option String) : Called :=
  session.request rc "req_qry_investor_position" (some (.positions [])) fun _ =>
    .qryInvestorPosition session.config.brokerId session.config.accountId instrumentId

/-- Query orders, of one instrument where it is given. -/
def queryOrders (session : TradeSession) (rc : Int32)
    (instrumentId : Option String) : Called :=
  session.request rc "req_qry_order" (some (.orders [])) fun _ =>
    .qryOrder session.config.brokerId session.config.accountId instrumentId

/-- Query trades, of one instrument where it is given. -/
def queryTrades (session : TradeSession) (rc : Int32)
    (instrumentId : Option String) : Called :=
  session.request rc "req_qry_trade" (some (.trades [])) fun _ =>
    .qryTrade session.config.brokerId session.config.accountId instrumentId

/-- A request succeeds exactly when the api is loaded and the call returns zero. -/
theorem request_result (session : TradeSession) (rc : Int32) (call : String)
    (pending : Option PendingQuery) (field : Int32 → CtpRequest) :
    (∃ requestId, (session.request rc call pending field).result = .ok requestId) ↔
      session.api.isSome ∧ rc = 0 := by
  cases loaded : session.api with
  | none => simp [request, loaded]
  | some api =>
      by_cases accepted : rc = 0 <;> simp [request, loaded, accepted]

/-- A request that is accepted has the next request id. -/
theorem requestId_of_ok {session : TradeSession} {rc : Int32} {call : String}
    {pending : Option PendingQuery} {field : Int32 → CtpRequest} {rid : Int32}
    (accepted : (session.request rc call pending field).result = .ok rid) :
    rid = session.requestId + 1 := by
  cases loaded : session.api with
  | none => simp [request, loaded] at accepted
  | some api =>
      simp only [request, loaded] at accepted
      split at accepted
      · cases accepted
        rfl
      · cases accepted

end TradeSession

/-! ## Callbacks -/

/-- Error information of a response. -/
structure RspInfoField where
  errorId : Int32
  errorMsg : String
  deriving DecidableEq

/-- Order status push.  The front and session the order belongs to are part of
the structure; the code does not read them. -/
structure OrderField where
  frontId : Int32
  sessionId : Int32
  orderRef : String
  orderSysId : String
  instrumentId : String
  direction : Int8
  combOffsetFlag : List UInt8
  limitPrice : F64
  volumeTotalOriginal : Int32
  volumeTraded : Int32
  orderStatus : UInt8
  statusMsg : String
  insertDate : String
  updateTime : String
  deriving DecidableEq

/-- Fill push. -/
structure TradeField where
  orderRef : String
  orderSysId : String
  instrumentId : String
  direction : Int8
  offsetFlag : UInt8
  tradeId : String
  price : F64
  volume : Int32
  tradeDate : String
  tradeTime : String
  deriving DecidableEq

/-- An empty string as an absent value. -/
def nonEmpty (value : String) : Option String :=
  if value = "" then none else some value

/-- Read an order push; it fails on a direction that is neither buy nor sell. -/
def orderFieldToReport (order : OrderField) : Except String OrderReport :=
  match directionFromCtp order.direction with
  | none => .error ("unknown CTP direction " ++ toString order.direction)
  | some direction => .ok {
      clientOrderId := ⟨order.orderRef⟩
      exchangeOrderId := (nonEmpty order.orderSysId).map (⟨·⟩)
      instrumentId := ⟨order.instrumentId⟩
      direction := direction
      offset := offsetFromCtp (order.combOffsetFlag.head?.getD 48)
      price := order.limitPrice
      volumeTotal := order.volumeTotalOriginal
      volumeTraded := order.volumeTraded
      status := orderStatusFromCtp order.orderStatus
      statusMsg := nonEmpty order.statusMsg
      exchangeTime :=
        if order.insertDate = "" ∧ order.updateTime = "" then none
        else some (order.insertDate ++ " " ++ order.updateTime) }

/-- Read a fill push. -/
def tradeFieldToReport (trade : TradeField) : Except String TradeReport :=
  match directionFromCtp trade.direction with
  | none => .error ("unknown CTP direction " ++ toString trade.direction)
  | some direction => .ok {
      tradeId := trade.tradeId
      clientOrderId := (nonEmpty trade.orderRef).map (⟨·⟩)
      exchangeOrderId := ⟨trade.orderSysId⟩
      instrumentId := ⟨trade.instrumentId⟩
      direction := direction
      offset := offsetFromCtp trade.offsetFlag
      price := trade.price
      volume := trade.volume
      tradeDate := trade.tradeDate
      tradeTime := trade.tradeTime }

/-- `on_rtn_order`: the event it emits; a report that does not parse is only logged. -/
def onRtnOrder (order : Option OrderField) : Option TradeSessionEvent :=
  match order.map orderFieldToReport with
  | some (.ok report) => some (.orderReturn report)
  | _ => none

/-- `on_rtn_trade`. -/
def onRtnTrade (trade : Option TradeField) : Option TradeSessionEvent :=
  match trade.map tradeFieldToReport with
  | some (.ok report) => some (.tradeReturn report)
  | _ => none

/-- `on_rsp_order_insert`: the refused order itself is not read. -/
def onRspOrderInsert (_inputOrder : Option InputOrderField)
    (rspInfo : Option RspInfoField) : Option TradeSessionEvent :=
  match rspInfo with
  | some info =>
      if info.errorId ≠ 0 then some (.orderInsertRejected info.errorId info.errorMsg)
      else none
  | none => none

/-- `on_err_rtn_order_insert`: no error id is taken for success here. -/
def onErrRtnOrderInsert (_inputOrder : Option InputOrderField)
    (rspInfo : Option RspInfoField) : Option TradeSessionEvent :=
  rspInfo.map fun info => .orderInsertRejected info.errorId info.errorMsg

end CtpSystem
