import CtpSystem.Library.Machine
import CtpSystem.Trade.Session

/-!
# Callbacks of the trade session

The TraderSpi callbacks run on a thread of the CTP library.  They turn what CTP reports
into events of the session, and collect the rows of a query in the pending entry of its
request id until the last row.
-/

namespace CtpSystem

open Reactive

/-! ## Fields of responses -/

/-- Login response. -/
structure RspUserLoginField where
  tradingDay : String
  frontId : Int32
  sessionId : Int32
  deriving DecidableEq

/-- Funds of an account. -/
structure TradingAccountField where
  accountId : String
  balance : F64
  available : F64
  currMargin : F64
  frozenMargin : F64
  commission : F64
  closeProfit : F64
  positionProfit : F64
  deriving DecidableEq

/-- Position row. -/
structure InvestorPositionField where
  instrumentId : String
  posiDirection : Int8
  investorId : String
  position : Int32
  ydPosition : Int32
  openCost : F64
  positionCost : F64
  useMargin : F64
  positionProfit : F64
  deriving DecidableEq

/-- Map CTP `PosiDirection`: net long and net short. -/
def posiDirectionFromCtp (flag : Int8) : Option Direction :=
  if flag = 50 then some .buy
  else if flag = 51 then some .sell
  else none

/-- `trading_account_to_balance`. -/
def tradingAccountToBalance (account : TradingAccountField) : AccountBalance where
  accountId := ⟨account.accountId⟩
  balance := account.balance
  available := account.available
  currMargin := account.currMargin
  frozenMargin := account.frozenMargin
  commission := account.commission
  closeProfit := account.closeProfit
  positionProfit := account.positionProfit

/-- `investor_position_to_position`: it fails on a direction that is not net. -/
def investorPositionToPosition (pos : InvestorPositionField) : Except String Position :=
  match posiDirectionFromCtp pos.posiDirection with
  | none => .error ("unknown position direction " ++ toString pos.posiDirection)
  | some direction => .ok {
      accountId := ⟨pos.investorId⟩
      instrumentId := ⟨pos.instrumentId⟩
      direction := direction
      volume := pos.position
      ydVolume := pos.ydPosition
      openCost := pos.openCost
      positionCost := pos.positionCost
      useMargin := pos.useMargin
      unrealizedPnl := pos.positionProfit }

/-! ## Queries with rows -/

/-- The queries whose answers come in rows. -/
inductive QueryKind where
  | positions
  | orders
  | trades
  deriving DecidableEq

namespace QueryKind

/-- The rows as CTP reports them. -/
abbrev Field : QueryKind → Type
  | .positions => InvestorPositionField
  | .orders => OrderField
  | .trades => TradeField

/-- The rows as the server collects them. -/
abbrev Row : QueryKind → Type
  | .positions => Position
  | .orders => OrderReport
  | .trades => TradeReport

/-- The row a callback collects: one that converts, and for a position has a volume. -/
def convert : (kind : QueryKind) → kind.Field → Option kind.Row
  | .positions, field =>
      (investorPositionToPosition field).toOption.filter (·.volume ≠ 0)
  | .orders, field => (orderFieldToReport field).toOption
  | .trades, field => (tradeFieldToReport field).toOption

/-- The pending entry of a query with some rows. -/
def pending : (kind : QueryKind) → List kind.Row → PendingQuery
  | .positions, rows => .positions rows
  | .orders, rows => .orders rows
  | .trades, rows => .trades rows

/-- The rows of a pending entry of this kind. -/
def rowsOf : (kind : QueryKind) → PendingQuery → Option (List kind.Row)
  | .positions, .positions rows => some rows
  | .orders, .orders rows => some rows
  | .trades, .trades rows => some rows
  | _, _ => none

/-- The event that hands over the rows. -/
def ready : (kind : QueryKind) → Int32 → List kind.Row → TradeSessionEvent
  | .positions, requestId, rows => .queryPositionsReady requestId rows
  | .orders, requestId, rows => .queryOrdersReady requestId rows
  | .trades, requestId, rows => .queryTradesReady requestId rows

@[simp] theorem rowsOf_pending (kind : QueryKind) (rows : List kind.Row) :
    kind.rowsOf (kind.pending rows) = some rows := by
  cases kind <;> rfl

end QueryKind

namespace SharedState

/-- Drop the pending entry and emit an event. -/
def finishQuery (shared : SharedState) (requestId : Int32) (event : TradeSessionEvent) :
    SharedState × List TradeSessionEvent :=
  (⟨shared.pendingQueries.erase requestId⟩, [event])

/-- Common part of `append_position`, `append_order` and `append_trade`: a row for a
request that is not pending, or pending as something else, is dropped. -/
def append (kind : QueryKind) (shared : SharedState) (requestId : Int32) (row : kind.Row) :
    SharedState :=
  match (shared.pendingQueries.lookup requestId).bind kind.rowsOf with
  | none => shared
  | some rows =>
      ⟨shared.pendingQueries.insert requestId (kind.pending (rows ++ [row]))⟩

def appendPosition : SharedState → Int32 → Position → SharedState := append .positions

def appendOrder : SharedState → Int32 → OrderReport → SharedState := append .orders

def appendTrade : SharedState → Int32 → TradeReport → SharedState := append .trades

/-- Common part of `take_positions`, `take_orders` and `take_trades`. -/
def take (kind : QueryKind) (shared : SharedState) (requestId : Int32) :
    SharedState × List kind.Row :=
  (⟨shared.pendingQueries.erase requestId⟩,
    ((shared.pendingQueries.lookup requestId).bind kind.rowsOf).getD [])

def takePositions : SharedState → Int32 → SharedState × List Position := take .positions

def takeOrders : SharedState → Int32 → SharedState × List OrderReport := take .orders

def takeTrades : SharedState → Int32 → SharedState × List TradeReport := take .trades

/-- `query_error`. -/
def queryError (shared : SharedState) (requestId : Int32) (info : RspInfoField) :
    SharedState × List TradeSessionEvent :=
  shared.finishQuery requestId (.queryFailed requestId info.errorId info.errorMsg)

end SharedState

/-- The error a response carries. -/
def refusal (rspInfo : Option RspInfoField) : Option RspInfoField :=
  rspInfo.filter (·.errorId ≠ 0)

/-- Common part of the callbacks of queries with rows. -/
def onRspQry (kind : QueryKind) (shared : SharedState) (field : Option kind.Field)
    (rspInfo : Option RspInfoField) (requestId : Int32) (isLast : Bool) :
    SharedState × List TradeSessionEvent :=
  match refusal rspInfo with
  | some info => shared.queryError requestId info
  | none =>
      let shared := (field.bind kind.convert).elim shared (shared.append kind requestId)
      if isLast then
        let (shared, rows) := shared.take kind requestId
        (shared, [kind.ready requestId rows])
      else (shared, [])

def onRspQryInvestorPosition : SharedState → Option InvestorPositionField →
    Option RspInfoField → Int32 → Bool → SharedState × List TradeSessionEvent :=
  onRspQry .positions

def onRspQryOrder : SharedState → Option OrderField → Option RspInfoField → Int32 → Bool →
    SharedState × List TradeSessionEvent :=
  onRspQry .orders

def onRspQryTrade : SharedState → Option TradeField → Option RspInfoField → Int32 → Bool →
    SharedState × List TradeSessionEvent :=
  onRspQry .trades

/-- `on_rsp_qry_trading_account`: only the last response is read. -/
def onRspQryTradingAccount (shared : SharedState) (field : Option TradingAccountField)
    (rspInfo : Option RspInfoField) (requestId : Int32) (isLast : Bool) :
    SharedState × List TradeSessionEvent :=
  match refusal rspInfo with
  | some info => shared.queryError requestId info
  | none =>
      if isLast then
        shared.finishQuery requestId
          (.queryAccountReady requestId
            ((field.map tradingAccountToBalance).getD
              ⟨⟨""⟩, ⟨0⟩, ⟨0⟩, ⟨0⟩, ⟨0⟩, ⟨0⟩, ⟨0⟩, ⟨0⟩⟩))
      else (shared, [])

/-- `on_rsp_order_action`. -/
def onRspOrderAction (shared : SharedState) (rspInfo : Option RspInfoField)
    (requestId : Int32) : SharedState × List TradeSessionEvent :=
  match refusal rspInfo with
  | some info =>
      shared.finishQuery requestId (.cancelActionFailed requestId info.errorId info.errorMsg)
  | none => shared.finishQuery requestId (.cancelActionOk requestId)

/-! ## Connection and login -/

/-- Common part of the responses that carry nothing but an error: the event of a refusal
and the event of an acceptance. -/
def onRsp (refused : Int32 → String → TradeSessionEvent) (accepted : TradeSessionEvent)
    (rspInfo : Option RspInfoField) : TradeSessionEvent :=
  match refusal rspInfo with
  | some info => refused info.errorId info.errorMsg
  | none => accepted

def onRspAuthenticate : Option RspInfoField → TradeSessionEvent :=
  onRsp .authenticateFailed .authenticateOk

/-- `on_rsp_user_login`: without a login field the ids are zero. -/
def onRspUserLogin (field : Option RspUserLoginField) : Option RspInfoField →
    TradeSessionEvent :=
  onRsp .loginFailed
    (.loginOk ((field.map (·.tradingDay)).getD "") ((field.map (·.frontId)).getD 0)
      ((field.map (·.sessionId)).getD 0))

def onRspSettlementInfoConfirm : Option RspInfoField → TradeSessionEvent :=
  onRsp .settlementConfirmFailed .settlementConfirmed

/-- `on_rsp_error`: the error id is not looked at. -/
def onRspError (rspInfo : Option RspInfoField) (requestId : Int32) :
    Option TradeSessionEvent :=
  rspInfo.map fun info => .error info.errorId info.errorMsg requestId

/-- The callbacks of the TraderSpi, with what they are called with. -/
inductive SpiCallback where
  | onFrontConnected
  | onFrontDisconnected (reason : Int32)
  | onHeartBeatWarning (timeLapse : Int32)
  | onRspAuthenticate (rspInfo : Option RspInfoField)
  | onRspUserLogin (field : Option RspUserLoginField) (rspInfo : Option RspInfoField)
  | onRspSettlementInfoConfirm (rspInfo : Option RspInfoField)
  | onRspError (rspInfo : Option RspInfoField) (requestId : Int32)
  | onRspOrderInsert (inputOrder : Option InputOrderField) (rspInfo : Option RspInfoField)
  | onErrRtnOrderInsert (inputOrder : Option InputOrderField)
      (rspInfo : Option RspInfoField)
  | onRtnOrder (order : Option OrderField)
  | onRtnTrade (trade : Option TradeField)
  | onRspOrderAction (rspInfo : Option RspInfoField) (requestId : Int32)
  | onRspQryTradingAccount (field : Option TradingAccountField)
      (rspInfo : Option RspInfoField) (requestId : Int32) (isLast : Bool)
  | onRspQryInvestorPosition (field : Option InvestorPositionField)
      (rspInfo : Option RspInfoField) (requestId : Int32) (isLast : Bool)
  | onRspQryOrder (field : Option OrderField) (rspInfo : Option RspInfoField)
      (requestId : Int32) (isLast : Bool)
  | onRspQryTrade (field : Option TradeField) (rspInfo : Option RspInfoField)
      (requestId : Int32) (isLast : Bool)
  deriving DecidableEq

/-- Run a callback: the shared state after it, and the events it emits. -/
def SharedState.called (shared : SharedState) :
    SpiCallback → SharedState × List TradeSessionEvent
  | .onFrontConnected => (shared, [.frontConnected])
  | .onFrontDisconnected reason => (shared, [.frontDisconnected reason])
  | .onHeartBeatWarning timeLapse => (shared, [.heartBeatWarning timeLapse])
  | .onRspAuthenticate rspInfo => (shared, [CtpSystem.onRspAuthenticate rspInfo])
  | .onRspUserLogin field rspInfo => (shared, [CtpSystem.onRspUserLogin field rspInfo])
  | .onRspSettlementInfoConfirm rspInfo =>
      (shared, [CtpSystem.onRspSettlementInfoConfirm rspInfo])
  | .onRspError rspInfo requestId =>
      (shared, (CtpSystem.onRspError rspInfo requestId).toList)
  | .onRspOrderInsert inputOrder rspInfo =>
      (shared, (CtpSystem.onRspOrderInsert inputOrder rspInfo).toList)
  | .onErrRtnOrderInsert inputOrder rspInfo =>
      (shared, (CtpSystem.onErrRtnOrderInsert inputOrder rspInfo).toList)
  | .onRtnOrder order => (shared, (CtpSystem.onRtnOrder order).toList)
  | .onRtnTrade trade => (shared, (CtpSystem.onRtnTrade trade).toList)
  | .onRspOrderAction rspInfo requestId =>
      CtpSystem.onRspOrderAction shared rspInfo requestId
  | .onRspQryTradingAccount field rspInfo requestId isLast =>
      CtpSystem.onRspQryTradingAccount shared field rspInfo requestId isLast
  | .onRspQryInvestorPosition field rspInfo requestId isLast =>
      CtpSystem.onRspQryInvestorPosition shared field rspInfo requestId isLast
  | .onRspQryOrder field rspInfo requestId isLast =>
      CtpSystem.onRspQryOrder shared field rspInfo requestId isLast
  | .onRspQryTrade field rspInfo requestId isLast =>
      CtpSystem.onRspQryTrade shared field rspInfo requestId isLast

/-- What happens to the shared state of a session: a request method registers a query, or
CTP runs a callback. -/
inductive SpiInput where
  | registerQuery (requestId : Int32) (kind : PendingQuery)
  | callback (callback : SpiCallback)
  deriving DecidableEq

/-- The shared state of a connected session; its outputs go to the event channel. -/
def spi : Machine SharedState SpiInput TradeSessionEvent where
  init := {}
  step shared
    | .registerQuery requestId kind => (shared.registerQuery requestId kind, [])
    | .callback callback => shared.called callback

end CtpSystem
