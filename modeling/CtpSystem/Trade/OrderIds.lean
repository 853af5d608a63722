import CtpSystem.Trade.Venue

/-!
# Client order ids on their way through CTP

An insert carries the normalized client order id and CTP's reports echo it.  The key found
for a report is the key its order was registered under, as long as there is something to
echo.  The update pushed for a report is made from the report: the context says who is told,
the id is the order ref.  The context is stored before the insert is tried, and an insert that
fails leaves it where that of an earlier order under the same key may have been.
-/

namespace CtpSystem

open Reactive

/-! ## Keys -/

/-- The key of an order is of use on its whole way through CTP, given what CTP makes of an
order ref. -/
structure OrderRefSurvives (echo : String → String) (world : World) (actor : TradeActor)
    (session : TradeSession) (clientId : ClientId) (order : OrderRequest) : Prop where
  /-- The order ref fits the field: at most twelve ASCII bytes. -/
  fits : (normalizeOrderRef order.clientOrderId.asStr).utf8ByteSize ≤ 12 ∧
    ∀ c ∈ (normalizeOrderRef order.clientOrderId.asStr).toList, c.toNat < 128
  /-- It is its own normal form, padded or not. -/
  stable : ∀ padded, PaddedWith (normalizeOrderRef order.clientOrderId.asStr) padded →
    normalizeOrderRef padded = normalizeOrderRef order.clientOrderId.asStr
  /-- It is not empty if the order is accepted. -/
  nonEmpty :
    (registerAndInsertOrder world actor session clientId order).2.result.isOk = true →
      normalizeOrderRef order.clientOrderId.asStr ≠ ""
  /-- A report of the order is looked up under the key the order is stored under. -/
  found : (registerAndInsertOrder world actor session clientId order).2.result.isOk = true →
    ∀ field rc, (.orderInsert field, rc) ∈
        (registerAndInsertOrder world actor session clientId order).2.sent →
      ∀ clientOrderId : ClientOrderId, clientOrderId.asStr = echo field.orderRef →
        orderRefLookupKey clientOrderId =
          (orderContext world.clock clientId order).orderRefKey

/-- The insert of an order carries its key as the order ref. -/
theorem orderRef_of_sent {world : World} {actor : TradeActor} {session : TradeSession}
    {clientId : ClientId} {order : OrderRequest} {field : InputOrderField} {rc : Int32}
    (sent : (.orderInsert field, rc) ∈
      (registerAndInsertOrder world actor session clientId order).2.sent) :
    field.orderRef = normalizeOrderRef order.clientOrderId.asStr := by
  simp only [registerAndInsertOrder, TradeSession.insertOrder, TradeSession.request] at sent
  split at sent
  · cases sent
  · cases List.mem_singleton.mp sent
    rfl

/-- An insert succeeds exactly when the library is loaded and accepts the call. -/
theorem accepted_iff (world : World) (actor : TradeActor) (session : TradeSession)
    (clientId : ClientId) (order : OrderRequest) :
    (registerAndInsertOrder world actor session clientId order).2.result.isOk = true ↔
      session.api.isSome ∧ world.rc = 0 := by
  rw [← session.request_result]
  simp only [registerAndInsertOrder, TradeSession.insertOrder]
  cases (session.request world.rc "req_order_insert" none _).result with
  | error message => simp [Except.isOk, Except.toBool]
  | ok rid => simp [Except.isOk, Except.toBool]

/-- The key of an order survives the way through CTP exactly when, its insert accepted, the
client order id has a letter or digit. -/
theorem order_ref_survives_iff {echo : String → String}
    (echoes : ∀ orderRef, orderRef ≠ "" → PaddedWith orderRef (echo orderRef))
    (world : World) (actor : TradeActor) (session : TradeSession) (clientId : ClientId)
    (order : OrderRequest) :
    OrderRefSurvives echo world actor session clientId order ↔
      (session.api.isSome ∧ world.rc = 0 →
        ∃ c ∈ order.clientOrderId.asStr.toList, isAsciiAlphanumeric c = true) := by
  have nonEmpty : normalizeOrderRef order.clientOrderId.asStr ≠ "" ↔
      ∃ c ∈ order.clientOrderId.asStr.toList, isAsciiAlphanumeric c = true := by
    simp [normalizeOrderRef_eq_empty_iff]
  rw [← accepted_iff world actor session clientId order, ← nonEmpty]
  constructor
  · intro survives
    exact survives.nonEmpty
  · intro present
    have again : ∀ padded, PaddedWith (normalizeOrderRef order.clientOrderId.asStr) padded →
        normalizeOrderRef padded = normalizeOrderRef order.clientOrderId.asStr := by
      intro padded around
      rw [normalizeOrderRef_of_padded around, normalizeOrderRef_idempotent]
    refine ⟨ascii_normalizeOrderRef _, again, present, ?_⟩
    intro accepted field rc sent clientOrderId reported
    rw [orderRefLookupKey, reported, orderRef_of_sent sent]
    exact again _ (echoes _ (present accepted))

/-- CTP pads an order ref with blanks, and chooses one where there is none. -/
def echoSample (orderRef : String) : String :=
  if orderRef = "" then "           1" else orderRef ++ "   "

/-- The session of an account that is logged in. -/
def TradeSession.sample : TradeSession :=
  ⟨⟨"1001", "9999", "", "", ""⟩, some {}, some {}, 3⟩

/-- An order under an id of which four characters are left. -/
theorem ord1_survives :
    OrderRefSurvives echoSample (World.accepting {}) TradeActor.online .sample ⟨"CY"⟩
        ⟨⟨"ord-1"⟩, ⟨"1001"⟩, ⟨"au2612"⟩, .buy, .open, .limit, 1, ⟨0⟩⟩ ↔
      (TradeSession.sample.api.isSome ∧ (World.accepting {}).rc = 0 →
        ∃ c ∈ "ord-1".toList, isAsciiAlphanumeric c = true) := by
  apply order_ref_survives_iff
  intro orderRef present
  refine ⟨"", "   ", by simp, by simp [isAsciiAlphanumeric], ?_⟩
  rw [echoSample, if_neg present, String.empty_append]

/-- An order under an id without letters and digits is accepted under an empty order ref. -/
theorem marks_not_survive :
    ¬OrderRefSurvives echoSample (World.accepting {}) TradeActor.online .sample ⟨"CY"⟩
      ⟨⟨"###"⟩, ⟨"1001"⟩, ⟨"au2612"⟩, .buy, .open, .limit, 1, ⟨0⟩⟩ := by
  intro survives
  exact survives.nonEmpty (by decide) (by decide)

/-! ## Ids -/

/-- The event is what a callback makes of an order or a fill under an order ref. -/
def TradeSessionEvent.Echoes (event : TradeSessionEvent) (orderRef : String) : Prop :=
  (∃ field : OrderField, field.orderRef = orderRef ∧ onRtnOrder (some field) = some event) ∨
    ∃ field : TradeField, field.orderRef = orderRef ∧ onRtnTrade (some field) = some event

/-- The client order id an update carries. -/
def Message.updatedOrderId : Message → Option ClientOrderId
  | .orderUpdate order => some order.clientOrderId
  | .tradeUpdate trade => trade.clientOrderId
  | _ => none

/-- A run in which an order is placed, up to a later moment. -/
structure PlacedRun where
  before : List (World × TradeInput)
  world : World
  clientId : ClientId
  order : OrderRequest
  replyTo : EnvelopeTx
  between : List (World × TradeInput)

namespace PlacedRun

/-- The step that places the order. -/
def place (run : PlacedRun) : World × TradeInput :=
  (run.world, .command (.placeOrder run.clientId run.order run.replyTo))

/-- The actor at the later moment. -/
def actor (accountId : AccountId) (run : PlacedRun) : TradeActor :=
  (TradeActor.machine accountId).runFrom (TradeActor.machine accountId).init
    (run.before ++ run.place :: run.between)

/-- The order is inserted under an order ref, and the insert is accepted. -/
def Inserts (accountId : AccountId) (run : PlacedRun) (orderRef : String) : Prop :=
  ∃ effect ∈ (TradeActor.machine accountId).emits
      ((TradeActor.machine accountId).runFrom (TradeActor.machine accountId).init run.before)
      run.place,
    insertedRef effect = some orderRef

end PlacedRun

/-- An accepted insert carries the normalized client order id. -/
theorem PlacedRun.Inserts.orderRef_eq {accountId : AccountId} {run : PlacedRun}
    {orderRef : String} (inserted : run.Inserts accountId orderRef) :
    orderRef = normalizeOrderRef run.order.clientOrderId.asStr := by
  rcases inserted with ⟨effect, emitted, sent⟩
  rcases Venue.insertedRef_command emitted sent with ⟨clientId, order, replyTo, registers, rfl⟩
  rw [TradeActor.registers, Option.ite_none_right_eq_some, Option.some.injEq, Prod.mk.injEq,
    Prod.mk.injEq] at registers
  rcases registers with ⟨-, -, rfl, -⟩
  rfl

/-- The update made from a report that finds a context carries the order ref as its client
order id. -/
theorem updatedOrderId_of_echoes {event : TradeSessionEvent} {orderRef : String}
    (echoes : event.Echoes orderRef) {orderRegistry : OrderRegistry} {context : OrderContext}
    (routed : routedTo orderRegistry event = some context) {clock : Clock} {message : Message}
    (updated : updateOf clock context event = some message) :
    message.updatedOrderId = some ⟨orderRef⟩ := by
  rcases echoes with ⟨field, rfl, emitted⟩ | ⟨field, rfl, emitted⟩
  · rw [onRtnOrder, Option.map_some, orderFieldToReport] at emitted
    cases direction : directionFromCtp field.direction with
    | none => simp [direction] at emitted
    | some side =>
        simp only [direction] at emitted
        cases emitted
        cases updated
        rfl
  · rw [onRtnTrade, Option.map_some, tradeFieldToReport] at emitted
    cases direction : directionFromCtp field.direction with
    | none => simp [direction] at emitted
    | some side =>
        simp only [direction] at emitted
        cases emitted
        cases updated
        by_cases absent : field.orderRef = ""
        · simp [routedTo, reportKey, nonEmpty, absent] at routed
        · simp [Message.updatedOrderId, TradeReport.intoTrade, nonEmpty, absent]

/-- The update a client is pushed for a report echoing its order carries the client order id
of the request exactly when that id has the form of an order ref. -/
theorem order_id_comes_back_iff (accountId : AccountId) {run : PlacedRun} {orderRef : String}
    (inserted : run.Inserts accountId orderRef) {event : TradeSessionEvent}
    (echoes : event.Echoes orderRef) {world : World} {clientId : ClientId}
    {outbound : Option EnvelopeTx} {message : Message}
    (pushed : Effect.push clientId outbound message ∈
      (TradeActor.machine accountId).emits (run.actor accountId) (world, .event event)) :
    message.updatedOrderId = some run.order.clientOrderId ↔
      IsOrderRef run.order.clientOrderId.asStr := by
  rcases push_inversion pushed with ⟨other, context, same, -, -, routed, updated, -⟩
  cases TradeInput.event.inj same
  rw [updatedOrderId_of_echoes echoes routed updated, inserted.orderRef_eq,
    ← normalizeOrderRef_eq_self_iff, Option.some.injEq]
  constructor
  · intro equal
    exact congrArg ClientOrderId.asStr equal
  · intro equal
    exact congrArg ClientOrderId.mk equal

/-- An order placed right after a login. -/
def PlacedRun.sample (clientOrderId : ClientOrderId) : PlacedRun where
  before := TradeActor.loginInputs (World.accepting {}) ⟨⟨"1001"⟩, "", "9999", "", ""⟩ ⟨0⟩ 1 7
  world := World.accepting {}
  clientId := ⟨"CY"⟩
  order := ⟨clientOrderId, ⟨"1001"⟩, ⟨"au2612"⟩, .buy, .open, .limit, 1, ⟨0⟩⟩
  replyTo := ⟨0⟩
  between := []

/-- CTP's push of that order when it is filled, and the report made of it. -/
def OrderField.filled (orderRef : String) : OrderField :=
  ⟨1, 7, orderRef, "88", "au2612", 48, [48], ⟨0⟩, 1, 1, 48, "", "20260101", "09:30:00"⟩

def OrderReport.filled (orderRef : String) : OrderReport :=
  ⟨⟨orderRef⟩, some ⟨"88"⟩, ⟨"au2612"⟩, .buy, .open, ⟨0⟩, 1, 1, .filled, none,
    some "20260101 09:30:00"⟩

/-- What the client of the order is pushed. -/
def Message.filled (clientOrderId : ClientOrderId) (orderRef : String) : Message :=
  .orderUpdate ((OrderReport.filled orderRef).intoOrder ⟨0⟩
    (orderContext (World.accepting {}).clock ⟨"CY"⟩ (PlacedRun.sample clientOrderId).order))

/-- An order under an id of the form of an order ref. -/
theorem plainId_comes_back :
    (Message.filled ⟨"ord1"⟩ "ord1").updatedOrderId =
        some (PlacedRun.sample ⟨"ord1"⟩).order.clientOrderId ↔
      IsOrderRef (PlacedRun.sample ⟨"ord1"⟩).order.clientOrderId.asStr := by
  have inserted : (PlacedRun.sample ⟨"ord1"⟩).Inserts ⟨"1001"⟩ "ord1" := by
    unfold PlacedRun.Inserts
    decide
  have echoes : (TradeSessionEvent.orderReturn (.filled "ord1")).Echoes "ord1" :=
    Or.inl ⟨.filled "ord1", rfl, by decide⟩
  have pushed : Effect.push ⟨"CY"⟩ none (Message.filled ⟨"ord1"⟩ "ord1") ∈
      (TradeActor.machine ⟨"1001"⟩).emits ((PlacedRun.sample ⟨"ord1"⟩).actor ⟨"1001"⟩)
        (World.accepting {}, .event (.orderReturn (.filled "ord1"))) := by
    decide
  exact order_id_comes_back_iff ⟨"1001"⟩ inserted echoes pushed

/-- An order with a hyphen in its client order id: the accepted insert carries the id without
the hyphen, and so does the update pushed for the report that echoes it. -/
theorem hyphenatedId_changed :
    (PlacedRun.sample ⟨"ord-1"⟩).Inserts ⟨"1001"⟩ "ord1" ∧
      (TradeSessionEvent.orderReturn (.filled "ord1")).Echoes "ord1" ∧
      Effect.push ⟨"CY"⟩ none (Message.filled ⟨"ord-1"⟩ "ord1") ∈
        (TradeActor.machine ⟨"1001"⟩).emits ((PlacedRun.sample ⟨"ord-1"⟩).actor ⟨"1001"⟩)
          (World.accepting {}, .event (.orderReturn (.filled "ord1"))) ∧
      (Message.filled ⟨"ord-1"⟩ "ord1").updatedOrderId ≠
        some (PlacedRun.sample ⟨"ord-1"⟩).order.clientOrderId := by
  refine ⟨?_, Or.inl ⟨.filled "ord1", rfl, by decide⟩, by decide, by decide⟩
  unfold PlacedRun.Inserts
  decide

/-! ## Inserts that fail -/

/-- The contexts are what they were: under every key, for every report, and in every push a
report causes. -/
structure SameContexts (registry earlier : OrderRegistry) : Prop where
  stored : ∀ key, registry.lookup key = earlier.lookup key
  routed : ∀ event, routedTo registry event = routedTo earlier event
  pushed : ∀ world event,
    reportPushes world registry event = reportPushes world earlier event

/-- Reports are routed by what the registry has under their keys. -/
theorem sameContexts_iff {registry earlier : OrderRegistry} :
    SameContexts registry earlier ↔ ∀ key, registry.lookup key = earlier.lookup key := by
  constructor
  · intro same
    exact same.stored
  · intro stored
    have routed (event : TradeSessionEvent) :
        routedTo registry event = routedTo earlier event := by
      rw [routedTo, routedTo, funext stored]
    refine ⟨stored, routed, ?_⟩
    intro world event
    rw [reportPushes_eq, reportPushes_eq, routed]

/-- A failed insert leaves the registry as it was. -/
def FailureKeepsRegistry (world : World) (actor : TradeActor) (session : TradeSession)
    (clientId : ClientId) (order : OrderRequest) : Prop :=
  (registerAndInsertOrder world actor session clientId order).2.result.isOk = false →
    SameContexts (registerAndInsertOrder world actor session clientId order).1.orderRegistry
      actor.orderRegistry

/-- Storing a context changes nothing exactly where it is stored already. -/
theorem sameContexts_insert_iff {registry : OrderRegistry} {key : String}
    {context : OrderContext} :
    SameContexts (registry.insert key context) registry ↔
      registry.lookup key = some context := by
  rw [sameContexts_iff]
  constructor
  · intro same
    rw [← same key, AList.lookup_insert]
  · intro present other
    by_cases asked : other = key
    · rw [asked, AList.lookup_insert, present]
    · exact AList.lookup_insert_ne asked

/-- A failed insert leaves the registry as it was exactly when the insert does not fail, or
the registry has the very context of the order under its key. -/
theorem failure_keeps_registry_iff (world : World) (actor : TradeActor)
    (session : TradeSession) (clientId : ClientId) (order : OrderRequest) :
    FailureKeepsRegistry world actor session clientId order ↔
      (session.api.isSome ∧ world.rc = 0) ∨
        actor.orderRegistry.lookup (normalizeOrderRef order.clientOrderId.asStr) =
          some (orderContext world.clock clientId order) := by
  have stored : (registerAndInsertOrder world actor session clientId order).1.orderRegistry =
      actor.orderRegistry.insert (normalizeOrderRef order.clientOrderId.asStr)
        (orderContext world.clock clientId order) := rfl
  rw [FailureKeepsRegistry, stored, sameContexts_insert_iff,
    ← accepted_iff world actor session clientId order, ← Bool.not_eq_true, or_iff_not_imp_left]

/-- An order of one client is live when another client's insert under the same order ref is
refused: from then on the live order's reports are routed to the other client. -/
theorem refused_insert_takes_over :
    ¬FailureKeepsRegistry { World.accepting {} with rc := -1 }
      { TradeActor.online with
        orderRegistry := AList.singleton "ord1"
          (orderContext (World.accepting {}).clock ⟨"CX"⟩
            ⟨⟨"ord1"⟩, ⟨"1001"⟩, ⟨"au2612"⟩, .buy, .open, .limit, 1, ⟨0⟩⟩) }
      .sample ⟨"CY"⟩ ⟨⟨"ord-1"⟩, ⟨"1001"⟩, ⟨"au2612"⟩, .sell, .open, .limit, 2, ⟨0⟩⟩ := by
  intro keeps
  have same := (keeps (by decide)).routed (.orderReturn (.filled "ord1"))
  revert same
  decide

end CtpSystem
