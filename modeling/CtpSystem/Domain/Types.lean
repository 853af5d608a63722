import Mathlib.Data.List.AList
import Mathlib.Data.Finset.Basic

/-!
# Identifiers, enumerations and trading value types

The domain model shared by server and client.  Identifiers are wrapped strings,
the hash maps of the source are association lists without duplicate keys, and
its hash sets are finite sets: an iteration order matters only where a map is
asked for its first value.
Floating-point amounts are only ever copied, so they are kept as their bits.
-/

namespace CtpSystem

/-- A hash map.  The order of its entries stands for the iteration order. -/
abbrev HashMap (κ ν : Type) := AList fun _ : κ => ν

/-- The bits of an IEEE double.  What is computed with them is a parameter. -/
structure F64 where
  bits : UInt64
  deriving DecidableEq, Repr

/-- A UTC instant in nanoseconds. -/
structure DateTime where
  nanos : Int
  deriving DecidableEq, Repr

/-! ## Identifiers -/

/-- Logical trading terminal / client process id. -/
structure ClientId where
  asStr : String
  deriving DecidableEq, Repr

/-- CTP investor / trading account id. -/
structure AccountId where
  asStr : String
  deriving DecidableEq, Repr

/-- Instrument / contract id. -/
structure InstrumentId where
  asStr : String
  deriving DecidableEq, Repr

/-- Client-side order id. -/
structure ClientOrderId where
  asStr : String
  deriving DecidableEq, Repr

/-- Exchange / CTP order sys id. -/
structure ExchangeOrderId where
  asStr : String
  deriving DecidableEq, Repr

/-! ## Enumerations -/

/-- Direction of a futures order / position. -/
inductive Direction where
  | buy
  | sell
  deriving DecidableEq, Repr

/-- Open vs close for CTP futures. -/
inductive OffsetFlag where
  | open
  | close
  | closeToday
  | closeYesterday
  deriving DecidableEq, Repr

/-- Order price type. -/
inductive OrderType where
  | limit
  | market
  | fak
  | fok
  deriving DecidableEq, Repr

/-- Lifecycle status of an order. -/
inductive OrderStatus where
  | submitted
  | accepted
  | partiallyFilled
  | filled
  | cancelled
  | rejected
  | unknown
  deriving DecidableEq, Repr

/-- CTP account / session connection state. -/
inductive ConnectionState where
  | disconnected
  | connecting
  | connected
  | authenticating
  | loggedIn
  | error
  deriving DecidableEq, Repr

/-- Client permission relative to an account. -/
inductive ClientPermission where
  | full
  | queryOnly
  | tradeOnly
  deriving DecidableEq, Repr

/-! ## Value types -/

/-- Credentials used when a client asks the server to log into a CTP account. -/
structure AccountCredentials where
  accountId : AccountId
  password : String
  brokerId : String
  appId : String
  authCode : String
  deriving DecidableEq, Repr

/-- Snapshot of a CTP account connection as seen by the server. -/
structure AccountState where
  accountId : AccountId
  state : ConnectionState
  frontId : Option Int32
  sessionId : Option Int32
  updatedAt : DateTime
  deriving DecidableEq

/-- Order submit request. -/
structure OrderRequest where
  clientOrderId : ClientOrderId
  accountId : AccountId
  instrumentId : InstrumentId
  direction : Direction
  offset : OffsetFlag
  orderType : OrderType
  volume : Int32
  price : F64
  deriving DecidableEq

/-- Cancel request. -/
structure CancelRequest where
  accountId : AccountId
  instrumentId : InstrumentId
  clientOrderId : Option ClientOrderId
  exchangeOrderId : Option ExchangeOrderId
  deriving DecidableEq

/-- Live order state. -/
structure Order where
  clientOrderId : ClientOrderId
  exchangeOrderId : Option ExchangeOrderId
  accountId : AccountId
  clientId : ClientId
  instrumentId : InstrumentId
  direction : Direction
  offset : OffsetFlag
  orderType : OrderType
  volume : Int32
  volumeTraded : Int32
  price : F64
  status : OrderStatus
  statusMsg : Option String
  insertedAt : DateTime
  updatedAt : DateTime
  deriving DecidableEq

/-- Fill / trade report. -/
structure Trade where
  tradeId : String
  exchangeOrderId : ExchangeOrderId
  clientOrderId : Option ClientOrderId
  accountId : AccountId
  instrumentId : InstrumentId
  direction : Direction
  offset : OffsetFlag
  price : F64
  volume : Int32
  tradeTime : DateTime
  deriving DecidableEq

/-- Position snapshot. -/
structure Position where
  accountId : AccountId
  instrumentId : InstrumentId
  direction : Direction
  volume : Int32
  ydVolume : Int32
  openCost : F64
  positionCost : F64
  useMargin : F64
  unrealizedPnl : F64
  deriving DecidableEq

/-- Account fund / margin snapshot. -/
structure AccountBalance where
  accountId : AccountId
  balance : F64
  available : F64
  currMargin : F64
  frozenMargin : F64
  commission : F64
  closeProfit : F64
  positionProfit : F64
  deriving DecidableEq

end CtpSystem
