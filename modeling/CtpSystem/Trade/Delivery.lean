import CtpSystem.Trade.Steps

/-!
# Delivery of order and trade reports

Which updates a step pushes.  Every loop but the login delivers a report that
finds a context exactly once; a login drops it, and nothing else is ever pushed.
-/

namespace CtpSystem

open Reactive

/-- A message pushed to a client id. -/
def Effect.isPush : Effect → Bool
  | .push _ _ _ => true
  | _ => false

/-- The pushes among some effects. -/
def pushesOf (effects : List Effect) : List Effect :=
  effects.filter Effect.isPush

/-- The actor is suspended in a login. -/
def TradeActor.inLogin (actor : TradeActor) : Bool :=
  match actor.driver with
  | some (.tradeLogin _ _ _) => true
  | _ => false

/-! ## Pushes of the handlers -/

@[simp] theorem pushesOf_append (first second : List Effect) :
    pushesOf (first ++ second) = pushesOf first ++ pushesOf second := by
  simp only [pushesOf, List.filter_append]

@[simp] theorem pushesOf_nil : pushesOf [] = [] := rfl

@[simp] theorem pushesOf_sendError (replyTo : EnvelopeTx) (code : Int32) (message : String) :
    pushesOf [sendError replyTo code message] = [] := rfl

@[simp] theorem pushesOf_sendAccountState (replyTo : EnvelopeTx) (state : AccountState)
    (rest : List Effect) :
    pushesOf (sendAccountState replyTo state :: rest) = pushesOf rest := rfl

@[simp] theorem pushesOf_requested (called : TradeSession.Called) :
    pushesOf (TradeActor.requested called) = [] := by
  rw [pushesOf, List.filter_eq_nil_iff]
  intro effect member
  rcases List.mem_map.mp member with ⟨sent, -, rfl⟩
  simp [Effect.isPush]

/-- Routing pushes and does nothing else. -/
@[simp] theorem pushesOf_reportPushes (world : World) (orderRegistry : OrderRegistry)
    (event : TradeSessionEvent) :
    pushesOf (reportPushes world orderRegistry event) =
      reportPushes world orderRegistry event := by
  rw [pushesOf, List.filter_eq_self]
  intro effect member
  rcases mem_reportPushes.mp member with ⟨context, message, -, -, rfl⟩
  rfl

/-- The replies of a driver are not pushes. -/
@[simp] theorem pushesOf_replies (world : World) (orderRegistry : OrderRegistry)
    (driver : Driver) (event : TradeSessionEvent) :
    pushesOf (driver.replies world orderRegistry event) = [] := by
  rw [pushesOf, List.filter_eq_nil_iff]
  cases driver <;> cases event <;>
    simp [Driver.replies, queryAccountAnswer, queryPositionsAnswer, queryOrdersAnswer,
      queryTradesAnswer, sendError, Effect.isPush]

section Handlers

variable (accountId : AccountId) (world : World) (actor : TradeActor)

/-- At the top of the loop exactly the reports are pushed. -/
theorem pushesOf_handleLoggedInTradeEvent (event : TradeSessionEvent) :
    pushesOf (handleLoggedInTradeEvent accountId world actor event).2 =
      reportPushes world actor.orderRegistry event := by
  cases event with
  | orderReturn report => exact pushesOf_reportPushes world _ (.orderReturn report)
  | tradeReturn report => exact pushesOf_reportPushes world _ (.tradeReturn report)
  | _ => rfl

@[simp] theorem pushesOf_reportLoginFailure (replyTo : EnvelopeTx) (login : Handling) :
    pushesOf (reportLoginFailure accountId world replyTo login).outputs =
      pushesOf login.outputs := by
  rw [reportLoginFailure]
  split <;> simp

/-- A login pushes nothing. -/
theorem pushesOf_driveTradeLoginEvent (session : TradeSession)
    (credentials : AccountCredentials) (replyTo : EnvelopeTx)
    (loginIds : Option (Int32 × Int32)) (event : TradeSessionEvent) :
    pushesOf (driveTradeLoginEvent world actor session credentials replyTo loginIds
      event).outputs = [] := by
  cases event <;> simp [driveTradeLoginEvent]

theorem pushesOf_driveTradeLogin (credentials : AccountCredentials)
    (replyTo : EnvelopeTx) :
    pushesOf (driveTradeLogin world actor credentials replyTo).outputs = [] := by
  rw [driveTradeLogin]
  split
  · simp
  · simp only
    split <;> simp

/-- A command pushes nothing. -/
theorem pushesOf_handleTradeCommand (command : TradeSessionCommand) :
    pushesOf (handleTradeCommand accountId world actor command).outputs = [] := by
  have handled := tradeCommand_case accountId world actor command
  generalize handleTradeCommand accountId world actor command = handling at handled ⊢
  cases handled with
  | login credentials replyTo => simp [pushesOf_driveTradeLogin]
  | rejected => rfl
  | known | logout | unconnected | placed | unplaced | request => simp

end Handlers

/-! ## Every run -/

/-- What one step delivers. -/
structure Delivers (actor : TradeActor) (input : World × TradeInput)
    (effects : List Effect) : Prop where
  /-- A report that finds a context is delivered exactly once outside a login. -/
  once : ∀ event context, input.2 = .event event → actor.takesEvent = true →
    actor.inLogin = false → routedTo actor.orderRegistry event = some context →
      ∃ update, updateOf input.1.clock context event = some update ∧
        pushesOf effects =
          [.push context.clientId (input.1.shared.outboundOf context.clientId) update]
  /-- A login delivers none. -/
  login : actor.inLogin = true → pushesOf effects = []
  /-- Nothing else is delivered. -/
  only : (∀ event, input.2 = .event event → actor.takesEvent = true →
    routedTo actor.orderRegistry event = none) → pushesOf effects = []

/-- A step outside a login that takes an event pushes what the event is due. -/
theorem delivers_of_reportPushes {actor : TradeActor} {world : World}
    {event : TradeSessionEvent} {effects : List Effect} (takes : actor.takesEvent = true)
    (outside : actor.inLogin = false)
    (pushed : pushesOf effects = reportPushes world actor.orderRegistry event) :
    Delivers actor (world, .event event) effects := by
  rw [reportPushes_eq] at pushed
  constructor
  · intro taken context equal _ _ routed
    cases TradeInput.event.inj equal
    rcases Option.isSome_iff_exists.mp (updateOf_isSome_of_routedTo routed world.clock) with
      ⟨update, merged⟩
    refine ⟨update, merged, ?_⟩
    simpa [routed, merged, pushEnvelopeToClient] using pushed
  · intro inside
    rw [outside] at inside
    cases inside
  · intro unrouted
    simpa [unrouted event rfl takes] using pushed

/-- A step that takes no report, or takes it in a login, pushes nothing. -/
theorem delivers_of_silent {actor : TradeActor} {input : World × TradeInput}
    {effects : List Effect} (silent : pushesOf effects = [])
    (untaken : ∀ event, input.2 = .event event → actor.takesEvent = true →
      actor.inLogin = true) :
    Delivers actor input effects := by
  refine ⟨?_, fun _ => silent, fun _ => silent⟩
  intro event context equal takes outside _
  rw [untaken event equal takes] at outside
  cases outside

/-- Every step delivers as described. -/
theorem delivers_step (accountId : AccountId) (actor : TradeActor)
    (input : World × TradeInput) :
    Delivers actor input ((TradeActor.machine accountId).emits actor input) := by
  rcases input with ⟨world, input⟩
  have stepped := TradeActor.step_case accountId actor (world, input)
  generalize (TradeActor.machine accountId).next actor (world, input) = next at stepped
  generalize (TradeActor.machine accountId).emits actor (world, input) = effects at stepped ⊢
  cases stepped with
  | ignoredCommand command busy => exact delivers_of_silent rfl (by simp)
  | ignoredEvent event deaf => exact delivers_of_silent rfl (by simp [deaf])
  | command command idle =>
      exact delivers_of_silent (pushesOf_handleTradeCommand accountId world actor command)
        (by simp)
  | idleEvent event idle connected loggedIn =>
      apply delivers_of_reportPushes (TradeActor.takesEvent_of_loggedIn connected loggedIn)
        (by simp [TradeActor.inLogin, idle])
      exact pushesOf_handleLoggedInTradeEvent accountId world actor event
  | requestEvent event driver waits request =>
      have outside : actor.inLogin = false := by
        cases driver <;> simp_all [TradeActor.inLogin, waits.2, Driver.isRequest]
      apply delivers_of_reportPushes (TradeActor.takesEvent_of_waitsIn waits) outside
      simp
  | loginEvent event session credentials replyTo loginIds connected suspended =>
      apply delivers_of_silent
      · rw [pushesOf_reportLoginFailure, pushesOf_driveTradeLoginEvent]
      · simp [TradeActor.inLogin, suspended]

/-- A pushed message is the update of a report taken outside a login, made from the
context the report finds and addressed to that context's client. -/
theorem push_inversion {accountId : AccountId} {actor : TradeActor} {world : World}
    {input : TradeInput} {clientId : ClientId} {outbound : Option EnvelopeTx}
    {message : Message}
    (pushed : Effect.push clientId outbound message ∈
      (TradeActor.machine accountId).emits actor (world, input)) :
    ∃ event context, input = .event event ∧ actor.takesEvent = true ∧
      actor.inLogin = false ∧ routedTo actor.orderRegistry event = some context ∧
      updateOf world.clock context event = some message ∧ clientId = context.clientId := by
  have delivers := delivers_step accountId actor (world, input)
  have member : Effect.push clientId outbound message ∈
      pushesOf ((TradeActor.machine accountId).emits actor (world, input)) :=
    List.mem_filter.mpr ⟨pushed, rfl⟩
  cases outside : actor.inLogin with
  | true => simp [delivers.login outside] at member
  | false =>
      by_contra none
      have silent := delivers.only fun event equal takes => by
        cases routed : routedTo actor.orderRegistry event with
        | none => rfl
        | some context =>
            rcases delivers.once event context equal takes outside routed with
              ⟨update, merged, only⟩
            rw [only, List.mem_singleton, Effect.push.injEq] at member
            rcases member with ⟨rfl, -, rfl⟩
            exact absurd ⟨event, context, equal, takes, rfl, routed, merged, rfl⟩ none
      simp [silent] at member

/-- Along every run, every report taken outside a login whose order ref finds a
context is delivered exactly once, a login delivers none, and nothing else is. -/
theorem reports_delivered (accountId : AccountId) (inputs : List (World × TradeInput)) :
    (TradeActor.machine accountId).Always
      (fun actor input =>
        Delivers actor input ((TradeActor.machine accountId).emits actor input))
      (TradeActor.machine accountId).init inputs :=
  (TradeActor.machine accountId).always_of_forall (delivers_step accountId) _ inputs

/-- A report that arrives while the actor logs in again is not delivered, although
the registry still holds its order from before the front was lost. -/
theorem reloginReport_undelivered :
    let world := World.accepting
      (({} : ServerActorState).registerTradingClient ⟨"alice"⟩ "" ⟨0⟩)
    let credentials : AccountCredentials := ⟨⟨"1001"⟩, "", "9999", "", ""⟩
    let order : OrderRequest :=
      ⟨⟨"a1"⟩, ⟨"1001"⟩, ⟨"au2612"⟩, .buy, .open, .limit, 1, ⟨0⟩⟩
    let report : OrderReport :=
      ⟨⟨"a1"⟩, none, ⟨"au2612"⟩, .buy, .open, ⟨0⟩, 1, 1, .filled, none, none⟩
    let actor := (TradeActor.machine ⟨"1001"⟩).runFrom (TradeActor.machine ⟨"1001"⟩).init
      (TradeActor.loginInputs world credentials ⟨0⟩ 1 7 ++
        [.command (.placeOrder ⟨"alice"⟩ order ⟨0⟩), .event (.frontDisconnected 4097),
          .command (.login credentials ⟨0⟩)].map fun input => (world, input))
    actor.takesEvent = true ∧
      (routedTo actor.orderRegistry (.orderReturn report)).isSome ∧
      pushesOf ((TradeActor.machine ⟨"1001"⟩).emits actor
        (world, .event (.orderReturn report))) = [] := by
  decide

end CtpSystem
