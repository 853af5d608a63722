import CtpSystem.Library.Response
import CtpSystem.MarketData.Fanout
import CtpSystem.MarketData.Relogin

/-!
# Commands that fail

A command of the market-data actor can fail as it is taken, while it waits for the login,
at the call it is for, or because the task has ended.  Its error is logged and nobody else
is told, in particular not the subscription table.
-/

namespace CtpSystem

open Reactive

namespace MdActor

/-- `handle_market_data_command` fails without having waited. -/
def handlingFails (actor : MdActor) (surroundings : MdSurroundings) (session : MdSession)
    (command : MarketDataSessionCommand) : Bool :=
  actor.loggedIn && !(performCommand session surroundings.rc command).2.isOk

/-- A command fails as it is taken. -/
def commandFails (actor : MdActor) (surroundings : MdSurroundings)
    (command : MarketDataSessionCommand) : Bool :=
  match actor.session with
  | some session => actor.handlingFails surroundings session command
  | none =>
      match createMdSession surroundings with
      | .error _ => true
      | .ok created =>
          match created.connect surroundings with
          | .error _ => true
          | .ok session => actor.handlingFails surroundings session command

/-- A command that waits for the login fails with an event. -/
def waitFails (surroundings : MdSurroundings) (session : MdSession)
    (command : MarketDataSessionCommand) : CtpEvent → Bool
  | .frontConnected => !(session.login surroundings.rc).2.isOk
  | .loginOk _ => !(performCommand session surroundings.rc command).2.isOk
  | .loginFailed _ _ | .error _ _ _ => true
  | .frontDisconnected _ | .heartBeatWarning _ | .subscribeOk _ | .subscribeFailed _ _ _
  | .marketData _ => false

/-- The command that fails with an event, if one does. -/
def failedWith (actor : MdActor) (surroundings : MdSurroundings) (event : CtpEvent) :
    Option MarketDataSessionCommand :=
  match actor.session, actor.waiting with
  | some session, some command =>
      if waitFails surroundings session command event then some command else none
  | _, _ => none

end MdActor

/-- The market-data side, and whether the task of its actor has ended. -/
structure MdService where
  system : MarketDataSystem := {}
  stopped : Bool := false

/-- What happens next: as before, or the session's event channel turns out closed. -/
inductive MdServiceInput where
  | other (input : MarketDataInput)
  | eventsEnd

/-- Something the actor did, or a command that failed. -/
inductive MdServiceEffect where
  | actor (effect : MdEffect)
  | failed (command : MarketDataSessionCommand)
  deriving DecidableEq

namespace MdService

/-- A step of the market-data side, with the commands that fail in it. -/
def proceed (service : MdService) (input : MarketDataInput)
    (failed : List MarketDataSessionCommand) : MdService × List MdServiceEffect :=
  let (system, effects) := service.system.step input
  ({ service with system := system }, effects.map .actor ++ failed.map .failed)

/-- The session's events end: a waiting command fails, and the loop of the task breaks and
drops what its channel holds. -/
def endEvents (service : MdService) : MdService × List MdServiceEffect :=
  match service.stopped, service.system.actor.session, service.system.actor.waiting with
  | true, _, _ | _, none, _ => (service, [])
  | false, some _, some command =>
      ({ service with
        system := { service.system with
          actor := { service.system.actor with waiting := none } } }, [.failed command])
  | false, some _, none =>
      (⟨{ service.system with channel := [] }, true⟩, service.system.channel.map .failed)

/-- One step: a command enqueued after the task has ended fails. -/
def step (service : MdService) : MdServiceInput → MdService × List MdServiceEffect
  | .eventsEnd => service.endEvents
  | .other (.publish number) =>
      if service.stopped then
        ({ service with
          system := { service.system with pending := service.system.pending.eraseIdx number } },
          (service.system.pending[number]?.map .failed).toList)
      else service.proceed (.publish number) []
  | .other (.command surroundings) =>
      if service.stopped then (service, [])
      else
        service.proceed (.command surroundings)
          (service.system.channel.head?.filter fun command =>
            service.system.actor.takesCommand &&
              service.system.actor.commandFails surroundings command).toList
  | .other (.event surroundings event) =>
      if service.stopped then (service, [])
      else
        service.proceed (.event surroundings event)
          (service.system.actor.failedWith surroundings event).toList
  | .other input => service.proceed input []

/-- The market-data side of a fresh server. -/
def machine : Machine MdService MdServiceInput MdServiceEffect where
  init := {}
  step := step

end MdService

/-! ## What is given up and what is requested -/

/-- The instruments a failed command would have subscribed. -/
def MdServiceEffect.givenUp : MdServiceEffect → List String
  | .failed command => command.subscribed
  | .actor _ => []

/-- The instruments an effect passes to `subscribe`. -/
def MdServiceEffect.subscribed : MdServiceEffect → List String
  | .actor effect => effect.subscribed
  | .failed _ => []

namespace MdService

/-- The subscription table. -/
def table (service : MdService) : SubscriptionTable :=
  service.system.shared.marketDataSubscriptions

/-- A step in which a Subscribe command fails that names an instrument. -/
def GivesUp (service : MdService) (input : MdServiceInput) (key : String) : Prop :=
  key ∈ (machine.emits service input).flatMap MdServiceEffect.givenUp

/-- A step after which an instrument is requested or no longer in the table. -/
def RequestsOrDrops (key : String) (service : MdService) (input : MdServiceInput) : Prop :=
  key ∈ (machine.emits service input).flatMap MdServiceEffect.subscribed ∨
    key ∉ (machine.next service input).table

/-- A client subscribes to an instrument. -/
def Subscribes (key : String) (_service : MdService) : MdServiceInput → Prop
  | .other (.subscribe _ instruments) => ⟨key⟩ ∈ instruments
  | _ => False

/-- What an input tells about the interest of a client in an instrument. -/
def interest (client key : String) : MdServiceInput → Option Bool
  | .other input => input.interest client key
  | .eventsEnd => none

/-- A step that leads to a request for an instrument of the table: the actor, logged in,
takes a command that names it, or a login ends the wait of such a command, or a login is seen
by the loop of the task. -/
def Asks (key : String) (service : MdService) : MdServiceInput → Prop
  | .other (.command _) =>
      service.stopped = false ∧ service.system.actor.takesCommand = true ∧
        service.system.actor.loggedIn = true ∧
        ∃ command ∈ service.system.channel.head?, key ∈ command.subscribed
  | .other (.event _ (.loginOk _)) =>
      service.stopped = false ∧ service.system.actor.session.isSome = true ∧
        ∀ command ∈ service.system.actor.waiting, key ∈ command.subscribed
  | _ => False

/-- A step that mends a failure: the instrument is asked for again, or the last subscriber
of it leaves. -/
def Mends (key : String) (service : MdService) (input : MdServiceInput) : Prop :=
  service.Asks key input ∨
    ∀ client ∈ subscribersOf service.table key, interest client key input = some false

end MdService

end CtpSystem
