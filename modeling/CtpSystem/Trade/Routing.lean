import CtpSystem.Trade.Venue

/-!
# Soundness of report routing

Whose context a report finds.  The registry is the table of a journal whose writes
are the placements, so each context is traced to the `PlaceOrder` it was built from,
and routing is sound exactly where no later placement has taken over the key.
-/

namespace CtpSystem

open Reactive

namespace Venue

/-- What holds in every state of a venue: the registry holds the contexts of the
placements it is traced to, and every order created by a placement carries the
placement's key as its order ref. -/
structure Coherent (venue : Venue) : Prop where
  traced : ∀ key, venue.actor.orderRegistry.lookup key =
    (venue.placements.find key).map (·.context)
  keyed : ∀ entry ∈ venue.placements.writes, entry.1 = entry.2.context.orderRefKey
  created : ∀ order ∈ venue.orders, ∀ number, order.creator = some number →
    ∃ placement, venue.placements.writes[number]? = some (order.orderRef, placement)

theorem mem_addOrder {orders : List VenueOrder} {order new : VenueOrder}
    (member : order ∈ addOrder orders new) : order ∈ orders ∨ order = new := by
  rw [addOrder] at member
  split at member
  · exact Or.inl member
  · rcases List.mem_append.mp member with known | added
    · exact Or.inl known
    · exact Or.inr (List.mem_singleton.mp added)

/-- The only order a command can add is the one it inserted. -/
theorem mem_ordersAfter {venue : Venue} {inserted : Option String} {accepted : Bool}
    {order : VenueOrder} (member : order ∈ venue.ordersAfter inserted accepted) :
    order ∈ venue.orders ∨ inserted = some order.orderRef ∧
      order.creator = some venue.placements.writes.length := by
  simp only [ordersAfter] at member
  split at member
  next orderRef frontId sessionId =>
    split at member
    · rcases mem_addOrder member with known | rfl
      · exact Or.inl known
      · exact Or.inr ⟨rfl, rfl⟩
    · exact Or.inl member
  next => exact Or.inl member

/-- A command keeps the registry traced. -/
theorem traced_command (accountId : AccountId) {venue : Venue} (coherent : venue.Coherent)
    (world : World) (command : TradeSessionCommand) (submitted : Bool) (key : String) :
    ((TradeActor.machine accountId).next venue.actor
        (world, .command command)).orderRegistry.lookup key =
      ((venue.placementsAfter world command submitted).find key).map (·.context) := by
  rw [TradeActor.orderRegistry_next_command, placementsAfter]
  cases registered : venue.actor.registers command with
  | none =>
      cases released : venue.actor.releases command with
      | true => rfl
      | false => exact coherent.traced key
  | some placed =>
      rcases placed with ⟨clientId, order, replyTo⟩
      simp only
      rw [Journal.find_write]
      by_cases same : key = (orderContext world.clock clientId order).orderRefKey
      · rw [same, AList.lookup_insert, if_pos rfl, Option.map_some]
      · rw [AList.lookup_insert_ne same, if_neg same, coherent.traced key]

/-- Every step keeps a venue coherent. -/
theorem coherent_next (accountId : AccountId) (venue : Venue) (input : World × VenueInput)
    (coherent : venue.Coherent) : ((machine accountId).next venue input).Coherent := by
  rcases input with ⟨world, input⟩
  have stepped := step_case accountId venue (world, input)
  generalize (machine accountId).next venue (world, input) = next at stepped ⊢
  generalize (machine accountId).emits venue (world, input) = effects at stepped
  cases stepped with
  | nothing => exact coherent
  | external frontId sessionId orderRef =>
      refine ⟨coherent.traced, coherent.keyed, ?_⟩
      intro order member number creator
      rcases mem_addOrder member with known | rfl
      · exact coherent.created order known number creator
      · simp at creator
  | event _ event incoming =>
      refine ⟨?_, coherent.keyed, coherent.created⟩
      intro key
      rw [TradeActor.orderRegistry_next_event]
      exact coherent.traced key
  | command command accepted =>
      refine ⟨traced_command accountId coherent world command _, ?_, ?_⟩
      · intro entry member
        simp only [placementsAfter] at member
        split at member
        next clientId order replyTo registered =>
          rw [Journal.writes_write, List.mem_append] at member
          rcases member with old | new
          · exact coherent.keyed entry old
          · rw [List.mem_singleton.mp new]
        next =>
          split at member <;> exact coherent.keyed entry member
      · intro order member number creator
        simp only [placementsAfter]
        rcases mem_ordersAfter member with known | ⟨inserted, numbered⟩
        · rcases coherent.created order known number creator with ⟨placement, present⟩
          have bound := (List.getElem?_eq_some_iff.mp present).1
          refine ⟨placement, ?_⟩
          split
          · rw [Journal.writes_write, List.getElem?_append_left bound, present]
          · split <;> exact present
        · rcases List.exists_of_findSome?_eq_some inserted with ⟨effect, emitted, insert⟩
          rcases insertedRef_command emitted insert with
            ⟨clientId, placed, replyTo, registered, equal⟩
          rw [numbered, Option.some.injEq] at creator
          rw [registered, ← creator, equal]
          exact ⟨_, List.getElem?_concat_length⟩

/-! ## The condition and the property -/

/-- A report the actor takes outside a login and that finds a context. -/
def Routes (venue : Venue) (input : VenueInput) (event : TradeSessionEvent)
    (context : OrderContext) : Prop :=
  venue.incoming input = some event ∧ venue.actor.takesEvent = true ∧
    venue.actor.inLogin = false ∧ routedTo venue.actor.orderRegistry event = some context

/-- Every update a step pushes describes an order that was created by the placement
its context was built from, and goes to the client of that placement. -/
def RoutingSound (accountId : AccountId) (venue : Venue) (input : World × VenueInput) :
    Prop :=
  ∀ clientId outbound message,
    Effect.push clientId outbound message ∈ (machine accountId).emits venue input →
      ∃ event order key number placement,
        venue.incoming input.2 = some event ∧ venue.described input.2 = some order ∧
        order.creator = some number ∧
        venue.placements.writes[number]? = some (key, placement) ∧
        reportKey event = some key ∧ venue.placements.origin.lookup key = some number ∧
        placement.context.clientId = clientId ∧
        updateOf input.1.clock placement.context event = some message

/-- The order of every report that finds a context was placed through the actor, and
no `PlaceOrder` the actor registered later has the same normalized client order id. -/
def RoutingUndisturbed (venue : Venue) (input : World × VenueInput) : Prop :=
  ∀ event context order, venue.Routes input.2 event context →
    venue.described input.2 = some order →
      ∃ number, order.creator = some number ∧
        ∀ later entry, number < later → venue.placements.writes[later]? = some entry →
          entry.2.context.orderRefKey ≠ order.orderRef

/-- An order callback emits a report under the order's ref. -/
theorem reportKey_onRtnOrder {field : OrderField} {event : TradeSessionEvent}
    (emitted : onRtnOrder (some field) = some event) :
    reportKey event = some (normalizeOrderRef field.orderRef) := by
  cases direction : directionFromCtp field.direction with
  | none => simp [onRtnOrder, orderFieldToReport, direction] at emitted
  | some direction =>
      simp only [onRtnOrder, Option.map_some, orderFieldToReport, direction,
        Option.some.injEq] at emitted
      rw [← emitted]
      rfl

/-- A trade callback emits a report under the order's ref, where that is not empty. -/
theorem reportKey_onRtnTrade {field : TradeField} {event : TradeSessionEvent}
    (emitted : onRtnTrade (some field) = some event) (keyed : (reportKey event).isSome) :
    reportKey event = some (normalizeOrderRef field.orderRef) := by
  cases direction : directionFromCtp field.direction with
  | none => simp [onRtnTrade, tradeFieldToReport, direction] at emitted
  | some direction =>
      simp only [onRtnTrade, Option.map_some, tradeFieldToReport, direction,
        Option.some.injEq] at emitted
      rw [← emitted] at keyed ⊢
      simp only [reportKey, nonEmpty] at keyed ⊢
      split at keyed
      · simp at keyed
      next present => simp [present, orderRefLookupKey]

/-- A report that is routed is about an order, and carries the order's ref. -/
theorem described_of_routes {venue : Venue} {input : VenueInput} {event : TradeSessionEvent}
    {context : OrderContext} (routes : venue.Routes input event context) :
    ∃ order, venue.described input = some order ∧
      reportKey event = some (normalizeOrderRef order.orderRef) := by
  rcases routes with ⟨incoming, -, -, routed⟩
  have keyed : (reportKey event).isSome := by
    rcases Option.bind_eq_some_iff.mp routed with ⟨key, equal, -⟩
    simp [equal]
  cases input with
  | command | external => simp [Venue.incoming] at incoming
  | orderReport number field =>
      rcases Option.bind_eq_some_iff.mp incoming with ⟨order, described, emitted⟩
      have key := reportKey_onRtnOrder emitted
      exact ⟨order, described, key⟩
  | tradeReport number field =>
      rcases Option.bind_eq_some_iff.mp incoming with ⟨order, described, emitted⟩
      have key := reportKey_onRtnTrade emitted keyed
      exact ⟨order, described, key⟩
  | rspOrderInsert placement inputOrder rspInfo =>
      rcases Option.bind_eq_some_iff.mp incoming with ⟨placed, -, emitted⟩
      simp only [onRspOrderInsert] at emitted
      split at emitted
      · split at emitted
        · rw [Option.some.injEq] at emitted
          simp [← emitted, reportKey] at keyed
        · simp at emitted
      · simp at emitted
  | errRtnOrderInsert placement inputOrder rspInfo =>
      rcases Option.bind_eq_some_iff.mp incoming with ⟨placed, -, emitted⟩
      rcases Option.map_eq_some_iff.mp emitted with ⟨info, -, rfl⟩
      simp [reportKey] at keyed
  | event event =>
      simp only [Venue.incoming, Option.ite_none_left_eq_some, Option.some.injEq] at incoming
      rcases incoming with ⟨other, rfl⟩
      cases event <;> simp_all [reportKey, TradeSessionEvent.isOrderEvent]

/-- A routed report is pushed, made from the context it finds. -/
theorem push_of_routes (accountId : AccountId) {venue : Venue} (world : World)
    {input : VenueInput} {event : TradeSessionEvent} {context : OrderContext}
    (routes : venue.Routes input event context) :
    ∃ update, updateOf world.clock context event = some update ∧
      Effect.push context.clientId (world.shared.outboundOf context.clientId) update ∈
        (machine accountId).emits venue (world, input) := by
  rcases routes with ⟨incoming, takes, outside, routed⟩
  have stepped := step_case accountId venue (world, input)
  generalize (machine accountId).next venue (world, input) = next at stepped
  generalize (machine accountId).emits venue (world, input) = effects at stepped ⊢
  cases stepped with
  | command | external => simp [Venue.incoming] at incoming
  | nothing _ absent => simp [absent] at incoming
  | event _ taken equal =>
      rw [equal, Option.some.injEq] at incoming
      subst incoming
      have delivers := delivers_step accountId venue.actor (world, .event taken)
      rcases delivers.once taken context rfl takes outside routed with
        ⟨update, merged, only⟩
      have member : Effect.push context.clientId (world.shared.outboundOf context.clientId)
          update ∈ pushesOf ((TradeActor.machine accountId).emits venue.actor
            (world, .event taken)) := by
        rw [only]
        exact List.mem_singleton_self _
      exact ⟨update, merged, (List.mem_filter.mp member).1⟩

/-- Whatever is pushed is a routed report. -/
theorem routes_of_push {accountId : AccountId} {venue : Venue} {world : World}
    {input : VenueInput} {clientId : ClientId} {outbound : Option EnvelopeTx}
    {message : Message}
    (pushed : Effect.push clientId outbound message ∈
      (machine accountId).emits venue (world, input)) :
    ∃ event context, venue.Routes input event context ∧
      updateOf world.clock context event = some message ∧ clientId = context.clientId := by
  have stepped := step_case accountId venue (world, input)
  generalize (machine accountId).next venue (world, input) = next at stepped
  generalize (machine accountId).emits venue (world, input) = effects at stepped pushed
  cases stepped with
  | external => simp at pushed
  | nothing => simp at pushed
  | command command accepted =>
      rcases push_inversion pushed with ⟨event, context, equal, -⟩
      simp at equal
  | event _ event incoming =>
      rcases push_inversion pushed with
        ⟨taken, context, equal, takes, outside, routed, merged, addressed⟩
      cases TradeInput.event.inj equal
      exact ⟨event, context, ⟨incoming, takes, outside, routed⟩, merged, addressed⟩

theorem mem_orders_of_described {venue : Venue} {input : VenueInput} {order : VenueOrder}
    (described : venue.described input = some order) : order ∈ venue.orders := by
  cases input with
  | orderReport | tradeReport => exact List.mem_of_getElem? described
  | _ => simp [Venue.described] at described

/-- In a coherent venue a created order carries its placement's normalized key. -/
theorem created_of_described {venue : Venue} (coherent : venue.Coherent)
    {input : VenueInput} {order : VenueOrder} {number : Nat}
    (described : venue.described input = some order)
    (creator : order.creator = some number) :
    ∃ placement, venue.placements.writes[number]? = some (order.orderRef, placement) ∧
      normalizeOrderRef order.orderRef = order.orderRef := by
  rcases coherent.created order (mem_orders_of_described described) number creator with
    ⟨placement, written⟩
  have keyed : order.orderRef = placement.context.orderRefKey :=
    coherent.keyed _ (List.mem_of_getElem? written)
  refine ⟨placement, written, ?_⟩
  rw [keyed, OrderContext.orderRefKey, normalizeOrderRef_idempotent]

/-- In a coherent venue a routed report is traced to the placement its context was
built from. -/
theorem traced_of_routes {venue : Venue} (coherent : venue.Coherent) {input : VenueInput}
    {event : TradeSessionEvent} {context : OrderContext}
    (routes : venue.Routes input event context) :
    ∃ order number placement, venue.described input = some order ∧
      reportKey event = some (normalizeOrderRef order.orderRef) ∧
      venue.placements.origin.lookup (normalizeOrderRef order.orderRef) = some number ∧
      venue.placements.writes[number]? = some (normalizeOrderRef order.orderRef, placement) ∧
      placement.context = context := by
  rcases described_of_routes routes with ⟨order, described, keyed⟩
  have routed := routes.2.2.2
  rw [routedTo, keyed, Option.bind_some, coherent.traced] at routed
  rcases Option.map_eq_some_iff.mp routed with ⟨placement, found, built⟩
  rcases Journal.find_eq_some_iff.mp found with ⟨number, traced, written⟩
  exact ⟨order, number, placement, described, keyed, traced, written, built⟩

/-- In a coherent venue a step routes soundly exactly when its report, if it finds a
context at all, was placed through the actor and not taken over since. -/
theorem routingSound_iff (accountId : AccountId) {venue : Venue} (coherent : venue.Coherent)
    (input : World × VenueInput) :
    RoutingSound accountId venue input ↔ RoutingUndisturbed venue input := by
  rcases input with ⟨world, input⟩
  constructor
  · intro sound event context order routes described
    rcases push_of_routes accountId world routes with ⟨update, -, pushed⟩
    rcases sound _ _ _ pushed with ⟨pushedEvent, pushedOrder, key, number, placement,
      incoming, about, creator, written, -, traced, -, -⟩
    have sameOrder : pushedOrder = order := Option.some.inj (about.symm.trans described)
    subst sameOrder
    rcases created_of_described coherent about creator with ⟨creating, created, -⟩
    have sameKey : key = pushedOrder.orderRef :=
      congrArg Prod.fst (Option.some.inj (written.symm.trans created))
    refine ⟨number, creator, ?_⟩
    intro later entry after present
    rw [← coherent.keyed entry (List.mem_of_getElem? present), ← sameKey]
    exact venue.placements.latest traced after present
  · intro undisturbed clientId outbound message pushed
    rcases routes_of_push pushed with ⟨event, context, routes, merged, addressed⟩
    rcases traced_of_routes coherent routes with
      ⟨order, origin, placement, described, keyed, traced, written, built⟩
    rcases undisturbed event context order routes described with ⟨number, creator, latest⟩
    rcases created_of_described coherent described creator with
      ⟨creating, created, normalized⟩
    rw [normalized] at keyed traced written
    have tabled : (venue.placements.find order.orderRef).isSome := by
      rw [Journal.find_eq_some_iff.mpr ⟨origin, traced, written⟩, Option.isSome_some]
    have createdLast : venue.placements.origin.lookup order.orderRef = some number := by
      rw [Journal.origin_eq_iff_latest tabled created]
      intro later entry after present
      rw [coherent.keyed entry (List.mem_of_getElem? present)]
      exact latest later entry after present
    have sameOrigin : number = origin := Option.some.inj (createdLast.symm.trans traced)
    subst sameOrigin
    refine ⟨event, order, order.orderRef, number, placement, routes.1, described, creator,
      written, keyed, traced, ?_, ?_⟩
    · rw [built, addressed]
    · rw [built]
      exact merged

/-- Along every run of an account's actor with its venue, every pushed update goes to
the client whose `PlaceOrder` created the order exactly when, at every report that
finds a context, the order was placed through the actor and no later `PlaceOrder` of
the actor has the same normalized client order id. -/
theorem reports_soundly_routed_iff (accountId : AccountId)
    (inputs : List (World × VenueInput)) :
    (machine accountId).Always (RoutingSound accountId) (machine accountId).init inputs ↔
      (machine accountId).Always RoutingUndisturbed (machine accountId).init inputs := by
  apply Machine.always_congr (machine accountId) (coherent_next accountId)
  · intro venue input coherent
    exact routingSound_iff accountId coherent input
  · constructor
    · intro key
      rfl
    · simp [machine, Journal.empty]
    · simp [machine]

/-- Alice places `a1`, then the insert of Bob's `a-1` is refused; the report of Alice's
order goes to Bob. -/
theorem collidingRefs_misrouted :
    ¬(machine ⟨"1001"⟩).Always (RoutingSound ⟨"1001"⟩) (machine ⟨"1001"⟩).init
      (let world := World.accepting
        ((({} : ServerActorState).registerTradingClient ⟨"alice"⟩ "" ⟨0⟩).registerTradingClient
          ⟨"bob"⟩ "" ⟨1⟩)
      let order (id : String) : OrderRequest :=
        ⟨⟨id⟩, ⟨"1001"⟩, ⟨"au2612"⟩, .buy, .open, .limit, 1, ⟨0⟩⟩
      loginInputs world ⟨⟨"1001"⟩, "", "9999", "", ""⟩ ⟨0⟩ 1 7 ++
        [(world, .command (.placeOrder ⟨"alice"⟩ (order "a1") ⟨0⟩) true),
        ({ world with rc := -2 }, .command (.placeOrder ⟨"bob"⟩ (order "a-1") ⟨1⟩) true)] ++
      [(world, .orderReport 0
        ⟨1, 7, "a1", "", "au2612", 48, [48], ⟨0⟩, 1, 1, 48, "", "", ""⟩)]) := by
  intro sound
  have last := sound.at_split
  have pushed := last ⟨"bob"⟩ (some ⟨1⟩)
    (.orderUpdate ⟨⟨"a1"⟩, none, ⟨"1001"⟩, ⟨"bob"⟩, ⟨"au2612"⟩, .buy, .open, .limit, 1, 1,
      ⟨0⟩, .filled, none, ⟨0⟩, ⟨0⟩⟩) (by decide)
  rcases pushed with ⟨event, order, key, number, placement, -, described, creator, written,
    -, -, addressed, -⟩
  cases described
  cases creator
  cases written
  revert addressed
  decide

end Venue

end CtpSystem
