import CtpSystem.Trade.Drivers

/-!
# Routing of order and trade reports

Every loop that routes reports does so in the same way: the normalized order ref
of the report selects a registry context, and the client of that context is sent
the update merged from both.
-/

namespace CtpSystem

/-- The pushes an order or trade report causes wherever reports are routed. -/
def reportPushes (world : World) (orderRegistry : OrderRegistry) :
    TradeSessionEvent → List Effect
  | .orderReturn report =>
      pushOrderReport world.shared world.clock orderRegistry report
  | .tradeReturn report =>
      pushTradeReport world.shared world.clock orderRegistry report
  | _ => []

/-- The registry key of a report: its normalized order ref, where it has one. -/
def reportKey : TradeSessionEvent → Option String
  | .orderReturn report => some (orderRefLookupKey report.clientOrderId)
  | .tradeReturn report => report.clientOrderId.map orderRefLookupKey
  | _ => none

/-- The update made from a report and a context. -/
def updateOf (clock : Clock) (context : OrderContext) : TradeSessionEvent → Option Message
  | .orderReturn report => some (.orderUpdate (report.intoOrder clock.now context))
  | .tradeReturn report => some (.tradeUpdate (report.intoTrade clock context.accountId))
  | _ => none

/-- The context a report finds in the registry. -/
def routedTo (orderRegistry : OrderRegistry) (event : TradeSessionEvent) :
    Option OrderContext :=
  (reportKey event).bind orderRegistry.lookup

/-- A report causes exactly one push, for the context it finds, or none. -/
theorem reportPushes_eq (world : World) (orderRegistry : OrderRegistry)
    (event : TradeSessionEvent) :
    reportPushes world orderRegistry event =
      (routedTo orderRegistry event).toList.flatMap fun context =>
        (updateOf world.clock context event).toList.map
          (pushEnvelopeToClient world.shared context.clientId) := by
  cases event with
  | orderReturn report =>
      simp only [reportPushes, pushOrderReport, routedTo, reportKey, Option.bind_some]
      cases orderRegistry.lookup (orderRefLookupKey report.clientOrderId) <;>
        simp [updateOf]
  | tradeReturn report =>
      simp only [reportPushes, pushTradeReport, routedTo, reportKey]
      cases report.clientOrderId with
      | none => simp
      | some clientOrderId =>
          simp only [Option.map_some, Option.bind_some]
          cases orderRegistry.lookup (orderRefLookupKey clientOrderId) <;> simp [updateOf]
  | _ => simp [reportPushes, routedTo, reportKey]

/-- Every push is made from the context its report finds. -/
theorem mem_reportPushes {world : World} {orderRegistry : OrderRegistry}
    {event : TradeSessionEvent} {effect : Effect} :
    effect ∈ reportPushes world orderRegistry event ↔
      ∃ context message, routedTo orderRegistry event = some context ∧
        updateOf world.clock context event = some message ∧
        effect = pushEnvelopeToClient world.shared context.clientId message := by
  rw [reportPushes_eq]
  simp only [List.mem_flatMap, Option.mem_toList, List.mem_map]
  constructor
  · rintro ⟨context, routed, message, updated, rfl⟩
    exact ⟨context, message, routed, updated, rfl⟩
  · rintro ⟨context, message, routed, updated, rfl⟩
    exact ⟨context, routed, message, updated, rfl⟩

/-- A report that finds a context can be merged with it. -/
theorem updateOf_isSome_of_routedTo {orderRegistry : OrderRegistry}
    {event : TradeSessionEvent} {context : OrderContext}
    (routed : routedTo orderRegistry event = some context) (clock : Clock) :
    (updateOf clock context event).isSome := by
  cases event <;> simp_all [routedTo, reportKey, updateOf]

/-- The account an update carries. -/
def Message.updateAccount : Message → Option AccountId
  | .orderUpdate order => some order.accountId
  | .tradeUpdate trade => some trade.accountId
  | _ => none

/-- An update carries the account of its context. -/
theorem updateAccount_updateOf {clock : Clock} {context : OrderContext}
    {event : TradeSessionEvent} {message : Message}
    (updated : updateOf clock context event = some message) :
    message.updateAccount = some context.accountId := by
  cases event with
  | orderReturn | tradeReturn =>
      rw [← Option.some.inj updated]
      rfl
  | _ => simp [updateOf] at updated

end CtpSystem
