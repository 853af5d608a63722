import CtpSystem.Domain.OrderRefs
import CtpSystem.Library.Journal
import CtpSystem.Trade.Delivery

/-!
# The actor and its venue

One account's actor together with what CTP is assumed to do: an accepted insert
creates an order under the front and session of the connection, an `OrderRef`
identifies an order only within those, reports echo it, and orders placed from
other sessions are reported too.
-/

namespace CtpSystem

open Reactive

/-! ## CTP's side -/

/-- A `PlaceOrder` the actor registered, and whether the insert got through. -/
structure Placement where
  replyTo : EnvelopeTx
  context : OrderContext
  submitted : Bool

/-- An order of the account at CTP.  Its creator is the number of a placement, or
none where another session placed it. -/
structure VenueOrder where
  frontId : Int32
  sessionId : Int32
  orderRef : String
  creator : Option Nat
  deriving DecidableEq

/-- CTP takes no second order under the same front, session and order ref. -/
def addOrder (orders : List VenueOrder) (order : VenueOrder) : List VenueOrder :=
  if orders.any fun known => known.frontId = order.frontId ∧
      known.sessionId = order.sessionId ∧ known.orderRef = order.orderRef then orders
  else orders ++ [order]

/-- The order ref of an insert that the call accepts. -/
def insertedRef : Effect → Option String
  | .request (.orderInsert field) rc => if rc = 0 then some field.orderRef else none
  | _ => none

/-- What reaches the venue next: a command for the actor with CTP's verdict on the
insert it may cause, an order placed elsewhere, a callback of CTP about one of its
orders or about a refused placement, or any other session event. -/
inductive VenueInput where
  | command (command : TradeSessionCommand) (accepted : Bool)
  | external (frontId sessionId : Int32) (orderRef : String)
  | orderReport (number : Nat) (field : OrderField)
  | tradeReport (number : Nat) (field : TradeField)
  | rspOrderInsert (placement : Nat) (inputOrder : Option InputOrderField)
      (rspInfo : Option RspInfoField)
  | errRtnOrderInsert (placement : Nat) (inputOrder : Option InputOrderField)
      (rspInfo : Option RspInfoField)
  | event (event : TradeSessionEvent)

/-- Events that only the callbacks about orders emit. -/
def TradeSessionEvent.isOrderEvent : TradeSessionEvent → Bool
  | .orderReturn _ | .tradeReturn _ | .orderInsertRejected _ _ => true
  | _ => false

/-- The actor, the placements behind its registry and the account's orders at CTP. -/
structure Venue where
  actor : TradeActor
  placements : Journal String Placement
  orders : List VenueOrder

namespace Venue

/-- The order a report callback is about. -/
def described (venue : Venue) : VenueInput → Option VenueOrder
  | .orderReport number _ | .tradeReport number _ => venue.orders[number]?
  | _ => none

/-- The placement a refusal is about: one whose insert got through. -/
def refused (venue : Venue) : VenueInput → Option Placement
  | .rspOrderInsert placement _ _ | .errRtnOrderInsert placement _ _ =>
      (venue.placements.writes[placement]?.map (·.2)).filter (·.submitted)
  | _ => none

/-- The session event an input puts before the actor. -/
def incoming (venue : Venue) (input : VenueInput) : Option TradeSessionEvent :=
  match input with
  | .command _ _ | .external _ _ _ => none
  | .orderReport _ field =>
      (venue.described input).bind fun order =>
        onRtnOrder (some { field with
          frontId := order.frontId, sessionId := order.sessionId, orderRef := order.orderRef })
  | .tradeReport _ field =>
      (venue.described input).bind fun order =>
        onRtnTrade (some { field with orderRef := order.orderRef })
  | .rspOrderInsert _ inputOrder rspInfo =>
      (venue.refused input).bind fun _ => onRspOrderInsert inputOrder rspInfo
  | .errRtnOrderInsert _ inputOrder rspInfo =>
      (venue.refused input).bind fun _ => onErrRtnOrderInsert inputOrder rspInfo
  | .event event => if event.isOrderEvent then none else some event

/-- The placements after a command. -/
def placementsAfter (venue : Venue) (world : World) (command : TradeSessionCommand)
    (submitted : Bool) : Journal String Placement :=
  match venue.actor.registers command with
  | some (clientId, order, replyTo) =>
      let context := orderContext world.clock clientId order
      venue.placements.write context.orderRefKey ⟨replyTo, context, submitted⟩
  | none =>
      if venue.actor.releases command then venue.placements.clear else venue.placements

/-- The orders after a command that inserted under the given order ref. -/
def ordersAfter (venue : Venue) (inserted : Option String) (accepted : Bool) :
    List VenueOrder :=
  match inserted, venue.actor.loggedInIds with
  | some orderRef, some (frontId, sessionId) =>
      if accepted then
        addOrder venue.orders
          ⟨frontId, sessionId, orderRef, some venue.placements.writes.length⟩
      else venue.orders
  | _, _ => venue.orders

/-- One step of the venue. -/
def step (accountId : AccountId) (venue : Venue) (world : World) (input : VenueInput) :
    Venue × List Effect :=
  match input with
  | .command command accepted =>
      let (actor, effects) := venue.actor.step accountId world (.command command)
      let inserted := effects.findSome? insertedRef
      (⟨actor, venue.placementsAfter world command inserted.isSome,
        venue.ordersAfter inserted accepted⟩, effects)
  | .external frontId sessionId orderRef =>
      ({ venue with orders := addOrder venue.orders ⟨frontId, sessionId, orderRef, none⟩ }, [])
  | input =>
      match venue.incoming input with
      | some event =>
          let (actor, effects) := venue.actor.step accountId world (.event event)
          ({ venue with actor := actor }, effects)
      | none => (venue, [])

/-- The venue of an account, before any command. -/
def machine (accountId : AccountId) : Machine Venue (World × VenueInput) Effect where
  init := ⟨{}, Journal.empty, []⟩
  step venue input := venue.step accountId input.1 input.2

/-- The inputs of a login that goes through. -/
def loginInputs (world : World) (credentials : AccountCredentials) (replyTo : EnvelopeTx)
    (frontId sessionId : Int32) : List (World × VenueInput) :=
  (TradeActor.loginInputs world credentials replyTo frontId sessionId).map fun input =>
    match input.2 with
    | .command command => (input.1, .command command true)
    | .event event => (input.1, .event event)

/-! ## Steps -/

theorem insertedRef_of_asks {request : CtpRequest} {rc : Int32}
    (asks : request.asks = true) : insertedRef (.request request rc) = none := by
  cases request <;> first | rfl | cases asks

/-- An insert carries the normalized order ref of its order. -/
theorem insertedRef_insertOrder {session : TradeSession} {rc : Int32} {order : OrderRequest}
    {clock : Clock} {clientId : ClientId} {effect : Effect} {orderRef : String}
    (requested : effect ∈ TradeActor.requested (session.insertOrder rc order))
    (inserted : insertedRef effect = some orderRef) :
    orderRef = (orderContext clock clientId order).orderRefKey := by
  rw [TradeSession.insertOrder, TradeActor.mem_requested_request] at requested
  rw [requested.2] at inserted
  simp only [insertedRef, Option.ite_none_right_eq_some, Option.some.injEq] at inserted
  exact inserted.2.symm

/-- Only a registered order is inserted, and under its normalized order ref. -/
theorem insertedRef_command {accountId : AccountId} {actor : TradeActor} {world : World}
    {command : TradeSessionCommand} {effect : Effect} {orderRef : String}
    (emitted : effect ∈
      (TradeActor.machine accountId).emits actor (world, .command command))
    (inserted : insertedRef effect = some orderRef) :
    ∃ clientId order replyTo, actor.registers command = some (clientId, order, replyTo) ∧
      orderRef = (orderContext world.clock clientId order).orderRefKey := by
  have stepped := TradeActor.step_case accountId actor (world, .command command)
  generalize (TradeActor.machine accountId).next actor (world, .command command) = next
    at stepped
  generalize (TradeActor.machine accountId).emits actor (world, .command command) = effects
    at stepped emitted
  cases stepped with
  | ignoredCommand => simp at emitted
  | command _ idle =>
      have handled := tradeCommand_case accountId world actor command
      generalize same : handleTradeCommand accountId world actor command = handling
        at handled emitted
      cases handled with
      | login credentials replyTo loggedOut =>
          rcases handleTradeCommand_loggedOut accountId world loggedOut (same ▸ emitted) with
            ⟨message, rfl⟩
          simp [insertedRef] at inserted
      | rejected | known | logout =>
          rw [List.mem_singleton.mp emitted] at inserted
          simp [insertedRef, sendAccountState] at inserted
      | unconnected => cases emitted
      | placed clientId order replyTo session rid loggedIn connected =>
          exact ⟨clientId, order, replyTo,
            by simp [TradeActor.registers, idle, loggedIn, connected],
            insertedRef_insertOrder emitted inserted⟩
      | unplaced clientId order replyTo session message loggedIn connected =>
          rcases List.mem_append.mp emitted with requested | reported
          · exact ⟨clientId, order, replyTo,
              by simp [TradeActor.registers, idle, loggedIn, connected],
              insertedRef_insertOrder requested inserted⟩
          · rw [List.mem_singleton.mp reported] at inserted
            cases inserted
      | request _ session call pending field driver _ _ _ _ asks =>
          rw [TradeActor.submit_outputs, List.nil_append, TradeActor.mem_requested_request]
            at emitted
          rw [emitted.2, insertedRef_of_asks (asks (session.requestId + 1))] at inserted
          cases inserted

/-- The kinds of steps of a venue. -/
inductive StepCase (accountId : AccountId) (venue : Venue) (world : World) :
    VenueInput → Venue → List Effect → Prop where
  /-- The actor is given a command. -/
  | command (command : TradeSessionCommand) (accepted : Bool) :
      StepCase accountId venue world (.command command accepted)
        ⟨(TradeActor.machine accountId).next venue.actor (world, .command command),
          venue.placementsAfter world command
            (((TradeActor.machine accountId).emits venue.actor
              (world, .command command)).findSome? insertedRef).isSome,
          venue.ordersAfter
            (((TradeActor.machine accountId).emits venue.actor
              (world, .command command)).findSome? insertedRef) accepted⟩
        ((TradeActor.machine accountId).emits venue.actor (world, .command command))
  /-- An order is placed from another session. -/
  | external (frontId sessionId : Int32) (orderRef : String) :
      StepCase accountId venue world (.external frontId sessionId orderRef)
        { venue with orders := addOrder venue.orders ⟨frontId, sessionId, orderRef, none⟩ } []
  /-- The actor is given an event. -/
  | event (input : VenueInput) (event : TradeSessionEvent)
      (incoming : venue.incoming input = some event) :
      StepCase accountId venue world input
        { venue with
          actor := (TradeActor.machine accountId).next venue.actor (world, .event event) }
        ((TradeActor.machine accountId).emits venue.actor (world, .event event))
  /-- Nothing reaches the actor. -/
  | nothing (input : VenueInput) (absent : venue.incoming input = none) :
      StepCase accountId venue world input venue []

/-- Every step is one of those cases. -/
theorem step_case (accountId : AccountId) (venue : Venue) (input : World × VenueInput) :
    StepCase accountId venue input.1 input.2 ((machine accountId).next venue input)
      ((machine accountId).emits venue input) := by
  rcases input with ⟨world, input⟩
  cases input with
  | command command accepted => exact .command command accepted
  | external frontId sessionId orderRef => exact .external frontId sessionId orderRef
  | orderReport | tradeReport | rspOrderInsert | errRtnOrderInsert | event =>
      simp only [Machine.next, Machine.emits, machine, step]
      split
      next event incoming => exact .event _ event incoming
      next absent => exact .nothing _ absent

end Venue

end CtpSystem
