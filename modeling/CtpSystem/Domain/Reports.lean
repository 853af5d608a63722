import CtpSystem.Domain.Types

/-!
# Exchange reports and order correlation

A report names its order only by the CTP `OrderRef`.  The context captured when
a client submits an order is stored under the normalized client order id and
found again under the normalized `OrderRef` of the report.
-/

namespace CtpSystem

/-! ## CTP field values -/

/-- `char::is_ascii_alphanumeric`. -/
def isAsciiAlphanumeric (c : Char) : Bool :=
  (c.val ≥ 48 && c.val ≤ 57) || (c.val ≥ 65 && c.val ≤ 90) || (c.val ≥ 97 && c.val ≤ 122)

/-- The stable lookup key of an order ref: its first twelve ASCII alphanumerics. -/
def normalizeOrderRef (value : String) : String :=
  String.ofList ((value.toList.filter isAsciiAlphanumeric).take 12)

example : normalizeOrderRef "abc123!@#" = "abc123" := by decide

/-- Map CTP `Direction`, a C `char`. -/
def directionFromCtp (value : Int8) : Option Direction :=
  if value = 48 then some .buy
  else if value = 49 then some .sell
  else none

/-- Map CTP offset flag (`CombOffsetFlag[0]`); every other flag reads as open. -/
def offsetFromCtp (flag : UInt8) : OffsetFlag :=
  if flag = 48 then .open
  else if flag = 49 then .close
  else if flag = 51 then .closeToday
  else if flag = 52 then .closeYesterday
  else .open

/-- Map CTP `OrderStatus` into the domain lifecycle status. -/
def orderStatusFromCtp (status : UInt8) : OrderStatus :=
  if status = 48 then .filled
  else if status = 49 ∨ status = 50 then .partiallyFilled
  else if status = 51 ∨ status = 52 then .accepted
  else if status = 53 then .cancelled
  else if status = 97 ∨ status = 98 ∨ status = 99 then .submitted
  else .unknown

/-! ## Order context -/

/-- Server-side context captured when a client submits an order. -/
structure OrderContext where
  clientId : ClientId
  clientOrderId : ClientOrderId
  accountId : AccountId
  instrumentId : InstrumentId
  direction : Direction
  offset : OffsetFlag
  orderType : OrderType
  price : F64
  volume : Int32
  insertedAt : DateTime
  deriving DecidableEq

/-- The registry key of a context. -/
def OrderContext.orderRefKey (context : OrderContext) : String :=
  normalizeOrderRef context.clientOrderId.asStr

/-- The registry key looked up for a report. -/
def orderRefLookupKey (clientOrderId : ClientOrderId) : String :=
  normalizeOrderRef clientOrderId.asStr

/-- Contexts of the orders submitted through an actor, by normalized order ref. -/
abbrev OrderRegistry := HashMap String OrderContext

/-! ## Reports -/

/-- Normalized order status update from the exchange. -/
structure OrderReport where
  clientOrderId : ClientOrderId
  exchangeOrderId : Option ExchangeOrderId
  instrumentId : InstrumentId
  direction : Direction
  offset : OffsetFlag
  price : F64
  volumeTotal : Int32
  volumeTraded : Int32
  status : OrderStatus
  statusMsg : Option String
  exchangeTime : Option String
  deriving DecidableEq

/-- Merge an exchange report with submit-time context into a wire order. -/
def OrderReport.intoOrder (report : OrderReport) (now : DateTime)
    (context : OrderContext) : Order where
  clientOrderId := report.clientOrderId
  exchangeOrderId := report.exchangeOrderId
  accountId := context.accountId
  clientId := context.clientId
  instrumentId := report.instrumentId
  direction := report.direction
  offset := report.offset
  orderType := context.orderType
  volume := report.volumeTotal
  volumeTraded := report.volumeTraded
  price := report.price
  status := report.status
  statusMsg := report.statusMsg
  insertedAt := context.insertedAt
  updatedAt := now

/-- Normalized trade/fill report from the exchange. -/
structure TradeReport where
  tradeId : String
  clientOrderId : Option ClientOrderId
  exchangeOrderId : ExchangeOrderId
  instrumentId : InstrumentId
  direction : Direction
  offset : OffsetFlag
  price : F64
  volume : Int32
  tradeDate : String
  tradeTime : String
  deriving DecidableEq

/-- What the code asks of the clock and of the date library: the current time,
and `NaiveDateTime::parse_from_str` with the format `%Y%m%d %H:%M:%S`. -/
structure Clock where
  now : DateTime
  parseFromStr : String → Option DateTime

/-- The time of a fill, or the current time where the exchange's pieces do not parse. -/
def parseExchangeTradeTime (clock : Clock) (tradeDate tradeTime : String) : DateTime :=
  (clock.parseFromStr (tradeDate ++ " " ++ tradeTime)).getD clock.now

/-- Build a wire trade for a client push. -/
def TradeReport.intoTrade (report : TradeReport) (clock : Clock)
    (accountId : AccountId) : Trade where
  tradeId := report.tradeId
  exchangeOrderId := report.exchangeOrderId
  clientOrderId := report.clientOrderId
  accountId := accountId
  instrumentId := report.instrumentId
  direction := report.direction
  offset := report.offset
  price := report.price
  volume := report.volume
  tradeTime := parseExchangeTradeTime clock report.tradeDate report.tradeTime

end CtpSystem
