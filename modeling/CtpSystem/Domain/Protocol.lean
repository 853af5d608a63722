import CtpSystem.Domain.Types

/-!
# Client ↔ server wire protocol

Messages as they stand in an envelope.  The request id and the time stamp of an
envelope are written but never read by the server, so they are left out.
-/

namespace CtpSystem

/-- Depth tick pushed to the subscribers of an instrument. -/
structure MarketDataTickMessage where
  instrumentId : InstrumentId
  exchangeId : String
  lastPrice : F64
  volume : Int32
  turnover : F64
  openInterest : F64
  bidPrice1 : F64
  bidVolume1 : Int32
  askPrice1 : F64
  askVolume1 : Int32
  updateTime : String
  updateMillisec : Int32
  tradingDay : String
  deriving DecidableEq

/-- Message variants exchanged between client and server; those from `helloAck`
on go from the server to a client. -/
inductive Message where
  | hello (clientId : ClientId)
  | accountLogin (credentials : AccountCredentials)
  | accountLogout (accountId : AccountId)
  | marketDataHello (clientId : ClientId)
  | subscribeMarketData (instruments : List InstrumentId)
  | unsubscribeMarketData (instruments : List InstrumentId)
  | placeOrder (order : OrderRequest)
  | cancelOrder (cancel : CancelRequest)
  | queryAccount (accountId : AccountId)
  | queryPosition (accountId : AccountId) (instrumentId : Option InstrumentId)
  | queryOrders (accountId : AccountId)
  | queryTrades (accountId : AccountId)
  | helloAck (accepted : Bool) (message : String)
  | accountStateUpdate (state : AccountState)
  | marketDataTick (tick : MarketDataTickMessage)
  | orderUpdate (order : Order)
  | tradeUpdate (trade : Trade)
  | queryAccountResult (balance : AccountBalance)
  | queryPositionResult (positions : List Position)
  | queryOrdersResult (orders : List Order)
  | queryTradesResult (trades : List Trade)
  | error (code : Int32) (message : String)
  deriving DecidableEq

/-- Envelope wrapping every framed message on the wire. -/
structure Envelope where
  clientId : Option ClientId
  payload : Message
  deriving DecidableEq

/-- The sending half of one connection's outbound queue. -/
structure EnvelopeTx where
  id : Nat
  deriving DecidableEq, Repr

end CtpSystem
