import CtpSystem.Trade.Venue

/-!
# Refused orders

A `PlaceOrder` is refused at once, by the actor or by the return code of the insert,
or later through a callback.  What is refused at once is answered on the channel of
the command; a refusal that comes later is only logged, in every loop.
-/

namespace CtpSystem

open Reactive

/-- A message that tells a client that an order was refused. -/
def Effect.isRefusal : Effect → Bool
  | .reply _ (.error _ _) | .push _ _ (.error _ _) => true
  | .reply _ (.orderUpdate order) | .push _ _ (.orderUpdate order) =>
      order.status = .rejected
  | _ => false

/-- A message that reaches a client, by its id or on the channel of its command. -/
def Effect.reaches (clientId : ClientId) (channel : EnvelopeTx) : Effect → Bool
  | .reply replyTo _ => replyTo = channel
  | .push addressed _ _ => addressed = clientId
  | _ => false

/-- The client is told of a refusal, and nobody else is. -/
def RefusalReported (clientId : ClientId) (channel : EnvelopeTx) (effects : List Effect) :
    Prop :=
  (∃ effect ∈ effects, effect.isRefusal = true ∧ effect.reaches clientId channel = true) ∧
    ∀ effect ∈ effects, effect.isRefusal = true → effect.reaches clientId channel = true

/-- A single error among effects that are no refusals reports the refusal. -/
theorem refusalReported_of_sendError (clientId : ClientId) (channel : EnvelopeTx)
    (effects : List Effect) (others : ∀ effect ∈ effects, effect.isRefusal = false)
    (code : Int32) (message : String) :
    RefusalReported clientId channel (effects ++ [sendError channel code message]) := by
  constructor
  · refine ⟨sendError channel code message, by simp, rfl, ?_⟩
    simp [sendError, Effect.reaches]
  · intro effect member refusal
    rcases List.mem_append.mp member with other | own
    · rw [others effect other] at refusal
      cases refusal
    · rw [List.mem_singleton.mp own]
      simp [sendError, Effect.reaches]

namespace Venue

/-- No order is refused silently by a step: neither a `PlaceOrder` the actor takes and
cannot submit, nor a submitted one whose refusal the actor takes. -/
structure RefusalsReported (accountId : AccountId) (venue : Venue)
    (input : World × VenueInput) : Prop where
  atOnce : ∀ clientId order replyTo accepted,
    input.2 = .command (.placeOrder clientId order replyTo) accepted →
      venue.actor.takesCommand = true →
      venue.actor.loggedInIds = none ∨ ¬Submits venue.actor input.1 →
        RefusalReported clientId replyTo ((machine accountId).emits venue input)
  later : ∀ placement event, venue.refused input.2 = some placement →
    venue.incoming input.2 = some event → venue.actor.takesEvent = true →
      RefusalReported placement.context.clientId placement.replyTo
        ((machine accountId).emits venue input)

/-- The actor does not take the event of a refusal callback. -/
def NoLateRefusal (venue : Venue) (input : World × VenueInput) : Prop :=
  ∀ placement event, venue.refused input.2 = some placement →
    venue.incoming input.2 = some event → venue.actor.takesEvent = false

/-- A `PlaceOrder` that cannot be submitted is answered with an error. -/
theorem refusalReported_atOnce (accountId : AccountId) {actor : TradeActor} {world : World}
    (connected : actor.Connected) (idle : actor.takesCommand = true)
    (refused : actor.loggedInIds = none ∨ ¬Submits actor world) (clientId : ClientId)
    (order : OrderRequest) (replyTo : EnvelopeTx) :
    RefusalReported clientId replyTo ((TradeActor.machine accountId).emits actor
      (world, .command (.placeOrder clientId order replyTo))) := by
  have taken : (TradeActor.machine accountId).emits actor
      (world, .command (.placeOrder clientId order replyTo)) =
        (handleTradeCommand accountId world actor
          (.placeOrder clientId order replyTo)).outputs := by
    have top : actor.driver = none := by simpa [TradeActor.takesCommand] using idle
    simp [Machine.emits, TradeActor.machine, TradeActor.step, top]
  rw [taken]
  cases ids : actor.loggedInIds with
  | none =>
      simp only [handleTradeCommand, ids, handleLoggedOutTradeCommand]
      exact refusalReported_of_sendError clientId replyTo [] (by simp) _ _
  | some pair =>
      have loggedIn : actor.loggedInIds.isSome := by simp [ids]
      rcases Option.isSome_iff_exists.mp (connected loggedIn) with ⟨session, present⟩
      rw [handleTradeCommand_placeOrder_outputs accountId world loggedIn present]
      cases outcome : (session.insertOrder world.rc order).result with
      | error message =>
          apply refusalReported_of_sendError
          intro effect member
          rcases List.mem_map.mp member with ⟨sent, -, rfl⟩
          rfl
      | ok rid =>
          have submitted := (session.request_result ..).mp ⟨rid, outcome⟩
          have submits : Submits actor world :=
            ⟨⟨session, present, submitted.1⟩, submitted.2⟩
          rcases refused with loggedOut | unsubmitted
          · simp [ids] at loggedOut
          · exact absurd submits unsubmitted

/-- The event of a refusal callback is only logged, in whichever loop it is taken. -/
theorem emits_orderInsertRejected (accountId : AccountId) (actor : TradeActor)
    (world : World) (errorId : Int32) (errorMsg : String) :
    (TradeActor.machine accountId).emits actor
      (world, .event (.orderInsertRejected errorId errorMsg)) = [] := by
  have stepped := TradeActor.step_case accountId actor
    (world, .event (.orderInsertRejected errorId errorMsg))
  generalize (TradeActor.machine accountId).next actor
    (world, .event (.orderInsertRejected errorId errorMsg)) = next at stepped
  generalize (TradeActor.machine accountId).emits actor
    (world, .event (.orderInsertRejected errorId errorMsg)) = effects at stepped ⊢
  cases stepped with
  | ignoredEvent | idleEvent | loginEvent => rfl
  | requestEvent _ driver => cases driver <;> rfl

/-- A refusal callback emits a rejection or nothing. -/
theorem incoming_of_refused {venue : Venue} {input : VenueInput} {placement : Placement}
    {event : TradeSessionEvent} (refused : venue.refused input = some placement)
    (incoming : venue.incoming input = some event) :
    ∃ errorId errorMsg, event = .orderInsertRejected errorId errorMsg := by
  cases input with
  | rspOrderInsert number inputOrder rspInfo =>
      rcases Option.bind_eq_some_iff.mp incoming with ⟨placed, -, emitted⟩
      simp only [onRspOrderInsert] at emitted
      split at emitted
      next info =>
        split at emitted
        · exact ⟨_, _, (Option.some.inj emitted).symm⟩
        · simp at emitted
      next => simp at emitted
  | errRtnOrderInsert number inputOrder rspInfo =>
      rcases Option.bind_eq_some_iff.mp incoming with ⟨placed, -, emitted⟩
      rcases Option.map_eq_some_iff.mp emitted with ⟨info, -, equal⟩
      exact ⟨_, _, equal.symm⟩
  | _ => simp [Venue.refused] at refused

/-- A step refuses nothing silently exactly when it takes no late refusal. -/
theorem refusalsReported_iff (accountId : AccountId) {venue : Venue}
    (connected : venue.actor.Connected) (input : World × VenueInput) :
    RefusalsReported accountId venue input ↔ NoLateRefusal venue input := by
  rcases input with ⟨world, input⟩
  constructor
  · intro reported placement event refused incoming
    by_contra takes
    rw [Bool.not_eq_false] at takes
    rcases (reported.later placement event refused incoming takes).1 with
      ⟨effect, member, -⟩
    rcases incoming_of_refused refused incoming with ⟨errorId, errorMsg, rfl⟩
    have stepped := step_case accountId venue (world, input)
    generalize (machine accountId).next venue (world, input) = next at stepped
    generalize (machine accountId).emits venue (world, input) = effects at stepped member
    cases stepped with
    | command | external => simp [Venue.incoming] at incoming
    | nothing _ absent => simp [absent] at incoming
    | event _ event equal =>
        rw [equal, Option.some.injEq] at incoming
        rw [incoming, emits_orderInsertRejected] at member
        simp at member
  · intro noneLate
    constructor
    · intro clientId order replyTo accepted equal idle refused
      subst equal
      exact refusalReported_atOnce accountId connected idle refused clientId order replyTo
    · intro placement event refused incoming takes
      rw [noneLate placement event refused incoming] at takes
      cases takes

/-- Every step of the venue keeps the actor connected. -/
theorem venue_connected_next (accountId : AccountId) (venue : Venue)
    (input : World × VenueInput) (connected : venue.actor.Connected) :
    ((machine accountId).next venue input).actor.Connected := by
  rcases input with ⟨world, input⟩
  have stepped := step_case accountId venue (world, input)
  generalize (machine accountId).next venue (world, input) = next at stepped ⊢
  generalize (machine accountId).emits venue (world, input) = effects at stepped
  cases stepped with
  | external | nothing => exact connected
  | command | event => exact connected_next accountId venue.actor _ connected

/-- Along every run, no order is refused silently exactly when the actor takes no
event of a refusal callback. -/
theorem refusals_reported_iff (accountId : AccountId) (inputs : List (World × VenueInput)) :
    (machine accountId).Always (RefusalsReported accountId) (machine accountId).init inputs ↔
      (machine accountId).Always NoLateRefusal (machine accountId).init inputs := by
  apply Machine.always_congr (machine accountId) (venue_connected_next accountId)
  · intro venue input connected
    exact refusalsReported_iff accountId connected input
  · intro loggedIn
    simp [machine] at loggedIn

/-- An order whose insert gets through is refused by `on_rsp_order_insert`; the whole
run sends no message that tells of a refusal. -/
theorem lateRefusal_silent :
    let world := World.accepting
      (({} : ServerActorState).registerTradingClient ⟨"alice"⟩ "" ⟨0⟩)
    let inputs :=
      loginInputs world ⟨⟨"1001"⟩, "", "9999", "", ""⟩ ⟨0⟩ 1 7 ++
        [(world, .command (.placeOrder ⟨"alice"⟩
          ⟨⟨"a1"⟩, ⟨"1001"⟩, ⟨"au2612"⟩, .buy, .open, .limit, 1, ⟨0⟩⟩ ⟨0⟩) false)] ++
      [(world, .rspOrderInsert 0 none (some ⟨31, ""⟩))]
    ¬(machine ⟨"1001"⟩).Always (RefusalsReported ⟨"1001"⟩) (machine ⟨"1001"⟩).init inputs ∧
      ∀ effect ∈ (machine ⟨"1001"⟩).outputs (machine ⟨"1001"⟩).init inputs,
        effect.isRefusal = false := by
  constructor
  · intro reported
    have last := reported.at_split
    rcases (last.later _ _ rfl rfl (by decide)).1 with ⟨effect, member, -⟩
    exact absurd member (List.not_mem_nil)
  · decide

end Venue

end CtpSystem
