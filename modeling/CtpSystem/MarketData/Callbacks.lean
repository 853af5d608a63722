import CtpSystem.Library.BoundedQueue
import CtpSystem.MarketData.Dispatch
import CtpSystem.Network.TcpClient
import CtpSystem.Trade.Callbacks

/-!
# Callbacks of the market-data session

The MdSpi callbacks run on a thread of the CTP library and hand events to the actor over a
channel of fixed capacity, without waiting.  Ticks and the events the login depends on
share that channel.
-/

namespace CtpSystem

open Reactive

/-- Depth market data as CTP reports it. -/
structure DepthMarketDataField where
  instrumentId : String
  exchangeId : String
  lastPrice : F64
  volume : Int32
  turnover : F64
  openInterest : F64
  bidPrice1 : F64
  bidVolume1 : Int32
  askPrice1 : F64
  askVolume1 : Int32
  updateTime : String
  updateMillisec : Int32
  tradingDay : String
  deriving DecidableEq

/-- The callbacks of the MdSpi, with what they are called with. -/
inductive MdSpiCallback where
  | onFrontConnected
  | onFrontDisconnected (reason : Int32)
  | onHeartBeatWarning (timeLapse : Int32)
  | onRspUserLogin (field : Option RspUserLoginField) (rspInfo : Option RspInfoField)
  | onRspSubMarketData (instrumentId : Option String) (rspInfo : Option RspInfoField)
  | onRspError (rspInfo : Option RspInfoField) (requestId : Int32)
  | onRtnDepthMarketData (field : Option DepthMarketDataField)
  deriving DecidableEq

namespace MdSpiCallback

/-- `on_rsp_user_login`. -/
def rspUserLogin (field : Option RspUserLoginField) (rspInfo : Option RspInfoField) :
    CtpEvent :=
  match refusal rspInfo with
  | some info => .loginFailed info.errorId info.errorMsg
  | none => .loginOk ((field.map (·.tradingDay)).getD "")

/-- `on_rsp_sub_market_data`. -/
def rspSubMarketData (instrumentId : Option String) (rspInfo : Option RspInfoField) :
    CtpEvent :=
  match refusal rspInfo with
  | some info => .subscribeFailed (instrumentId.getD "") info.errorId info.errorMsg
  | none => .subscribeOk (instrumentId.getD "")

/-- `on_rtn_depth_market_data`. -/
def rtnDepthMarketData (field : DepthMarketDataField) : CtpEvent :=
  .marketData {
    instrumentId := field.instrumentId
    exchangeId := field.exchangeId
    lastPrice := field.lastPrice
    volume := field.volume
    turnover := field.turnover
    openInterest := field.openInterest
    bidPrice1 := field.bidPrice1
    bidVolume1 := field.bidVolume1
    askPrice1 := field.askPrice1
    askVolume1 := field.askVolume1
    updateTime := field.updateTime
    updateMillisec := field.updateMillisec
    tradingDay := field.tradingDay }

/-- The event a callback emits, if any. -/
def event : MdSpiCallback → Option CtpEvent
  | .onFrontConnected => some .frontConnected
  | .onFrontDisconnected reason => some (.frontDisconnected reason)
  | .onHeartBeatWarning timeLapse => some (.heartBeatWarning timeLapse)
  | .onRspUserLogin field rspInfo => some (rspUserLogin field rspInfo)
  | .onRspSubMarketData instrumentId rspInfo => some (rspSubMarketData instrumentId rspInfo)
  | .onRspError rspInfo requestId =>
      rspInfo.map fun info => .error info.errorId info.errorMsg requestId
  | .onRtnDepthMarketData field => field.map rtnDepthMarketData

/-- The mode a callback stores, if any. -/
def mode : MdSpiCallback → Option ConnectionMode
  | .onFrontConnected => some .active
  | .onFrontDisconnected _ => some .reconnect
  | .onRspUserLogin _ rspInfo => if (refusal rspInfo).isSome then none else some .active
  | .onHeartBeatWarning _ | .onRspSubMarketData _ _ | .onRspError _ _
  | .onRtnDepthMarketData _ => none

end MdSpiCallback

/-- The events the actor's login depends on. -/
def CtpEvent.isControl : CtpEvent → Bool
  | .frontConnected | .frontDisconnected _ | .loginOk _ | .loginFailed _ _ | .error _ _ _ =>
      true
  | .heartBeatWarning _ | .subscribeOk _ | .subscribeFailed _ _ _ | .marketData _ => false

/-- `event_buffer` of a session's configuration. -/
def CtpEvent.defaultBuffer : Nat := 4096

/-! ## The channel -/

/-- The market-data side of the server with the connection mode and the event channel of its
session. -/
structure MdLink where
  system : MarketDataSystem := {}
  mode : ConnectionMode := .reconnect
  queue : List CtpEvent := []

/-- What happens next: CTP runs a callback, the actor receives an event, or anything that
happens without the channel. -/
inductive MdLinkInput where
  | callback (callback : MdSpiCallback)
  | receive (surroundings : MdSurroundings)
  | other (input : MarketDataInput)

/-- Something that happened at the channel, or that the actor did. -/
inductive MdLinkEffect where
  | emitted (event : CtpEvent)
  | received (event : CtpEvent)
  | actor (effect : MdEffect)
  deriving DecidableEq

namespace MdLinkEffect

def emission : MdLinkEffect → Option CtpEvent
  | .emitted event => some event
  | .received _ | .actor _ => none

def reception : MdLinkEffect → Option CtpEvent
  | .received event => some event
  | .emitted _ | .actor _ => none

end MdLinkEffect

namespace MdLink

/-- `MdSpiHandler::emit`: an event that finds the channel full is dropped. -/
def emit (link : MdLink) (eventBuffer : Nat) (event : CtpEvent) : MdLink :=
  if link.queue.length < eventBuffer then { link with queue := link.queue ++ [event] }
  else link

/-- Run a callback; there are none before a session is connected. -/
def called (link : MdLink) (eventBuffer : Nat) (callback : MdSpiCallback) :
    MdLink × List MdLinkEffect :=
  match link.system.actor.session with
  | none => (link, [])
  | some _ =>
      let link := { link with mode := callback.mode.getD link.mode }
      match callback.event with
      | none => (link, [])
      | some event => (link.emit eventBuffer event, [.emitted event])

/-- The actor receives the next event, in its loop or while a command waits for the login. -/
def receive (link : MdLink) (surroundings : MdSurroundings) : MdLink × List MdLinkEffect :=
  match link.system.actor.session, link.queue with
  | none, _ | _, [] => (link, [])
  | some _, event :: rest =>
      let (system, effects) := link.system.step (.event surroundings event)
      ({ link with system := system, queue := rest },
        .received event :: effects.map .actor)

/-- One step; events reach the actor over the channel only. -/
def step (eventBuffer : Nat) (link : MdLink) : MdLinkInput → MdLink × List MdLinkEffect
  | .callback callback => link.called eventBuffer callback
  | .receive surroundings => link.receive surroundings
  | .other (.event _ _) => (link, [])
  | .other input =>
      let (system, effects) := link.system.step input
      ({ link with system := system }, effects.map .actor)

/-- The market-data side with an event channel of the given capacity. -/
def machine (eventBuffer : Nat) : Machine MdLink MdLinkInput MdLinkEffect where
  init := {}
  step := step eventBuffer

end MdLink

end CtpSystem
