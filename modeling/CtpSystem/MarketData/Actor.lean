import CtpSystem.Library.Machine
import CtpSystem.MarketData.Subscriptions
import CtpSystem.Server.Whitelist

/-!
# The market-data session actor

The task of `MarketDataSessionActor::spawn`.  It handles one command or event at a
time; a command that arrives while the session is not logged in waits for the login
inside its handler, which then receives the session's events itself.
-/

namespace CtpSystem

open Reactive

/-! ## The session -/

/-- Normalized depth tick of the CTP market-data client. -/
structure MarketDataTick where
  instrumentId : String
  exchangeId : String
  lastPrice : F64
  volume : Int32
  turnover : F64
  openInterest : F64
  bidPrice1 : F64
  bidVolume1 : Int32
  askPrice1 : F64
  askVolume1 : Int32
  updateTime : String
  updateMillisec : Int32
  tradingDay : String
  deriving DecidableEq

/-- Events of the market-data session. -/
inductive CtpEvent where
  | frontConnected
  | frontDisconnected (reason : Int32)
  | heartBeatWarning (timeLapse : Int32)
  | loginOk (tradingDay : String)
  | loginFailed (errorId : Int32) (errorMsg : String)
  | subscribeOk (instrumentId : String)
  | subscribeFailed (instrumentId : String) (errorId : Int32) (errorMsg : String)
  | marketData (tick : MarketDataTick)
  | error (errorId : Int32) (errorMsg : String) (requestId : Int32)
  deriving DecidableEq

/-- Calls of the MdApi. -/
inductive MdRequest where
  | userLogin (brokerId userId password : String)
  | subscribeMarketData (instruments : List String)
  | unsubscribeMarketData (instruments : List String)
  deriving DecidableEq

/-- Configuration of the shared session, without addresses and paths. -/
structure MdSessionConfig where
  brokerId : String
  userId : String
  password : String
  deriving DecidableEq

/-- The shared market-data session; `client` says whether it is connected. -/
structure MdSession where
  config : MdSessionConfig
  client : Bool := false
  deriving DecidableEq

/-- What surrounds one step of the actor: the environment variables of the session, the
outcome of a connect, and the return code of the one CTP call the step may make. -/
structure MdSurroundings where
  brokerId : Option String
  serverUserId : Option String
  userId : Option String
  serverPassword : Option String
  password : Option String
  connect : Except String Unit
  rc : Int32

/-- Surroundings in which the session is configured and every call accepted. -/
def MdSurroundings.accepting : MdSurroundings where
  brokerId := none
  serverUserId := some "md"
  userId := none
  serverPassword := some "secret"
  password := none
  connect := .ok ()
  rc := 0

/-- `server_md_credentials`. -/
def serverMdCredentials (surroundings : MdSurroundings) : Except String (String × String) :=
  match surroundings.serverUserId <|> surroundings.userId,
    surroundings.serverPassword <|> surroundings.password with
  | none, _ => .error "missing CTP_SERVER_USER_ID for market-data session"
  | some _, none => .error "missing CTP_SERVER_PASSWORD for market-data session"
  | some userId, some password =>
      if trim userId = "" ∨ trim password = "" then
        .error "CTP_SERVER_USER_ID / CTP_SERVER_PASSWORD must not be empty"
      else .ok (userId, password)

/-- `create_md_session`. -/
def createMdSession (surroundings : MdSurroundings) : Except String MdSession :=
  match serverMdCredentials surroundings with
  | .error message => .error message
  | .ok (userId, password) =>
      .ok { config := ⟨surroundings.brokerId.getD "9999", userId, password⟩ }

namespace MdSession

/-- `connect`. -/
def connect (session : MdSession) (surroundings : MdSurroundings) :
    Except String MdSession :=
  match surroundings.connect with
  | .error message => .error message
  | .ok () => .ok { session with client := true }

/-- Common part of the request methods: the call made and the result. -/
def request (session : MdSession) (rc : Int32) (call : String) (request : MdRequest) :
    List (MdRequest × Int32) × Except String Unit :=
  if session.client then
    ([(request, rc)], if rc = 0 then .ok () else .error (call ++ " returned " ++ toString rc))
  else ([], .error "MD session is not connected")

def login (session : MdSession) (rc : Int32) :
    List (MdRequest × Int32) × Except String Unit :=
  session.request rc "req_user_login"
    (.userLogin session.config.brokerId session.config.userId session.config.password)

def subscribe (session : MdSession) (rc : Int32) (instruments : List String) :
    List (MdRequest × Int32) × Except String Unit :=
  session.request rc "subscribe_market_data" (.subscribeMarketData instruments)

def unsubscribe (session : MdSession) (rc : Int32) (instruments : List String) :
    List (MdRequest × Int32) × Except String Unit :=
  session.request rc "unsubscribe_market_data" (.unsubscribeMarketData instruments)

end MdSession

/-! ## The actor -/

/-- Something the market-data actor does: a call of the MdApi with its return code, or
a tick handed to the outbound queues of its subscribers. -/
inductive MdEffect where
  | request (request : MdRequest) (rc : Int32)
  | fanout (subscribers : Multiset EnvelopeTx) (message : Message)
  deriving DecidableEq

/-- The variables of the actor's task, and the command whose handler waits for the
login, if there is one. -/
structure MdActor where
  session : Option MdSession := none
  loggedIn : Bool := false
  waiting : Option MarketDataSessionCommand := none
  deriving DecidableEq

/-- The message of a tick. -/
def marketDataTickMessage (tick : MarketDataTick) : MarketDataTickMessage where
  instrumentId := ⟨tick.instrumentId⟩
  exchangeId := tick.exchangeId
  lastPrice := tick.lastPrice
  volume := tick.volume
  turnover := tick.turnover
  openInterest := tick.openInterest
  bidPrice1 := tick.bidPrice1
  bidVolume1 := tick.bidVolume1
  askPrice1 := tick.askPrice1
  askVolume1 := tick.askVolume1
  updateTime := tick.updateTime
  updateMillisec := tick.updateMillisec
  tradingDay := tick.tradingDay

/-- `fanout_market_data_tick`. -/
def fanoutMarketDataTick (shared : ServerActorState) (tick : MarketDataTick) : MdEffect :=
  let clients := (shared.marketDataSubscriptions.lookup tick.instrumentId).getD ∅
  .fanout
    (clients.val.filterMap fun clientId =>
      (shared.marketDataClients.lookup clientId).map (·.outbound))
    (.marketDataTick (marketDataTickMessage tick))

/-- The calls of a request method, as effects. -/
def mdRequested (called : List (MdRequest × Int32) × Except String Unit) : List MdEffect :=
  called.1.map fun sent => .request sent.1 sent.2

/-- A connected session makes the call, whatever comes of it. -/
theorem mdRequested_request {session : MdSession} (connected : session.client = true)
    (rc : Int32) (call : String) (request : MdRequest) :
    mdRequested (session.request rc call request) = [.request request rc] := by
  rw [mdRequested, MdSession.request, if_pos connected]
  rfl

/-- The request a command is for. -/
def performCommand (session : MdSession) (rc : Int32) :
    MarketDataSessionCommand → List (MdRequest × Int32) × Except String Unit
  | .subscribe instruments => session.subscribe rc (instruments.map (·.asStr))
  | .unsubscribe instruments => session.unsubscribe rc (instruments.map (·.asStr))

namespace MdActor

/-- `handle_market_data_command` up to its wait for the login. -/
def handleMarketDataCommand (actor : MdActor) (surroundings : MdSurroundings)
    (session : MdSession) (command : MarketDataSessionCommand) : MdActor × List MdEffect :=
  if actor.loggedIn then
    ({ actor with session := some session },
      mdRequested (performCommand session surroundings.rc command))
  else ({ actor with session := some session, waiting := some command }, [])

/-- One pass of `wait_market_data_login`, and what follows it where it returns: on the
login the command is performed, on an error it is dropped. -/
def waitMarketDataLogin (actor : MdActor) (surroundings : MdSurroundings)
    (session : MdSession) (command : MarketDataSessionCommand) :
    CtpEvent → MdActor × List MdEffect
  | .frontConnected =>
      let called := session.login surroundings.rc
      match called.2 with
      | .ok () => (actor, mdRequested called)
      | .error _ => ({ actor with waiting := none }, mdRequested called)
  | .loginOk _ =>
      ({ actor with loggedIn := true, waiting := none },
        mdRequested (performCommand session surroundings.rc command))
  | .loginFailed _ _ | .error _ _ _ => ({ actor with waiting := none }, [])
  | .frontDisconnected _ | .heartBeatWarning _ | .subscribeOk _ | .subscribeFailed _ _ _
  | .marketData _ => (actor, [])

/-- `resubscribe_market_data`. -/
def resubscribeMarketData (surroundings : MdSurroundings) (shared : ServerActorState)
    (session : MdSession) : List MdEffect :=
  let instruments := shared.currentMarketDataSubscriptions
  if instruments = [] then []
  else mdRequested (session.subscribe surroundings.rc (instruments.map (·.asStr)))

/-- `handle_market_data_event`. -/
def handleMarketDataEvent (actor : MdActor) (surroundings : MdSurroundings)
    (shared : ServerActorState) (session : MdSession) : CtpEvent → MdActor × List MdEffect
  | .frontConnected => (actor, mdRequested (session.login surroundings.rc))
  | .loginOk _ =>
      ({ actor with loggedIn := true }, resubscribeMarketData surroundings shared session)
  | .marketData tick => (actor, [fanoutMarketDataTick shared tick])
  | .frontDisconnected _ => ({ actor with loggedIn := false }, [])
  | .loginFailed _ _ => ({ actor with loggedIn := false }, [])
  | .subscribeOk _ | .subscribeFailed _ _ _ | .heartBeatWarning _ | .error _ _ _ =>
      (actor, [])

/-- The actor takes a command now. -/
def takesCommand (actor : MdActor) : Bool :=
  actor.waiting.isNone

/-- One command: the first one creates and connects the session, and is dropped where
that fails. -/
def command (actor : MdActor) (surroundings : MdSurroundings)
    (command : MarketDataSessionCommand) : MdActor × List MdEffect :=
  match actor.session with
  | some session => actor.handleMarketDataCommand surroundings session command
  | none =>
      match createMdSession surroundings with
      | .error _ => (actor, [])
      | .ok created =>
          match created.connect surroundings with
          | .error _ => (actor, [])
          | .ok session => actor.handleMarketDataCommand surroundings session command

/-- One event of the session, received by the login wait where one is going on and by
the loop of the task otherwise. -/
def event (actor : MdActor) (surroundings : MdSurroundings) (shared : ServerActorState)
    (event : CtpEvent) : MdActor × List MdEffect :=
  match actor.session, actor.waiting with
  | none, _ => (actor, [])
  | some session, some command => actor.waitMarketDataLogin surroundings session command event
  | some session, none => actor.handleMarketDataEvent surroundings shared session event

end MdActor

end CtpSystem
