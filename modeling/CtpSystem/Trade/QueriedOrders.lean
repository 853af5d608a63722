import Mathlib.Data.List.Forall2
import CtpSystem.Trade.Reports

/-!
# Queried orders

`drive_query_orders` makes its orders from the reports of the answer and takes only the
client id from the registry, the first entry's where the order ref is not registered.  A
push of the same report takes the account, the order type and the time of insertion from the
context as well, and there is none for an unregistered order ref.
-/

namespace CtpSystem

/-- The order made from one report of an answer. -/
def queriedOrder (world : World) (orderRegistry : OrderRegistry) (accountId : AccountId)
    (report : OrderReport) : Order :=
  orderReportToWireOrder world.clock.now report accountId
    ((lookupClientId orderRegistry report.clientOrderId).getD
      (defaultQueryClientId orderRegistry))

/-- The context a report finds in the registry. -/
def contextOf (orderRegistry : OrderRegistry) (report : OrderReport) : Option OrderContext :=
  orderRegistry.lookup (orderRefLookupKey report.clientOrderId)

/-- An answer to the query is passed on, with an order for each report. -/
theorem driveQueryOrdersEvent_ready (world : World) (orderRegistry : OrderRegistry)
    (accountId : AccountId) (rid : Int32) (replyTo : EnvelopeTx)
    (reports : List OrderReport) :
    driveQueryOrdersEvent world orderRegistry accountId rid replyTo
        (.queryOrdersReady rid reports) =
      ([.reply replyTo (.queryOrdersResult
        (reports.map (queriedOrder world orderRegistry accountId)))], some (.ok ())) := by
  simp only [driveQueryOrdersEvent, driveQueryEvent, waitActionableEvent, queryOrdersAnswer,
    if_true, List.nil_append]
  rfl

/-! ## Queries and pushes -/

/-- An order but for the time of its last update. -/
def Order.untimed (order : Order) : Order :=
  { order with updatedAt := ⟨0⟩ }

/-- The order is the one a push of the report would carry. -/
def MatchesPush (orderRegistry : OrderRegistry) (report : OrderReport) (order : Order) : Prop :=
  ∀ shared clock, ∃ clientId pushed,
    pushOrderReport shared clock orderRegistry report =
        [pushEnvelopeToClient shared clientId (.orderUpdate pushed)] ∧
      order.untimed = pushed.untimed

/-- The answer to the query has, for each registered report, the order a push would carry. -/
def QueryMatchesPushes (world : World) (orderRegistry : OrderRegistry)
    (accountId : AccountId) (rid : Int32) (replyTo : EnvelopeTx)
    (reports : List OrderReport) : Prop :=
  ∃ orders,
    driveQueryOrdersEvent world orderRegistry accountId rid replyTo
        (.queryOrdersReady rid reports) =
      ([.reply replyTo (.queryOrdersResult orders)], some (.ok ())) ∧
    List.Forall₂
      (fun report order => (contextOf orderRegistry report).isSome →
        MatchesPush orderRegistry report order) reports orders

/-- A registered report is answered with the order a push would carry exactly when its
context has what the query assumes: a limit order of the queried account, inserted now. -/
theorem matchesPush_iff (world : World) {orderRegistry : OrderRegistry}
    (accountId : AccountId) {report : OrderReport} {context : OrderContext}
    (registered : contextOf orderRegistry report = some context) :
    MatchesPush orderRegistry report (queriedOrder world orderRegistry accountId report) ↔
      context.orderType = .limit ∧ context.insertedAt = world.clock.now ∧
        context.accountId = accountId := by
  have found : orderRegistry.lookup (orderRefLookupKey report.clientOrderId) = some context :=
    registered
  have pushes (shared : ServerActorState) (clock : Clock) :
      pushOrderReport shared clock orderRegistry report =
        [pushEnvelopeToClient shared context.clientId
          (.orderUpdate (report.intoOrder clock.now context))] := by
    simp only [pushOrderReport, found]
  have same (clock : Clock) :
      (queriedOrder world orderRegistry accountId report).untimed =
          (report.intoOrder clock.now context).untimed ↔
        context.orderType = .limit ∧ context.insertedAt = world.clock.now ∧
          context.accountId = accountId := by
    simp only [queriedOrder, lookupClientId, found, Option.map_some, Option.getD_some,
      Order.untimed, orderReportToWireOrder, OrderReport.intoOrder, Order.mk.injEq]
    constructor
    · rintro ⟨-, -, account, -, -, -, -, orderType, -, -, -, -, -, inserted, -⟩
      exact ⟨orderType.symm, inserted.symm, account.symm⟩
    · rintro ⟨orderType, inserted, account⟩
      rw [orderType, inserted, account]
      simp
  constructor
  · intro matching
    rcases matching {} world.clock with ⟨clientId, pushed, push, agrees⟩
    rw [pushes, List.cons.injEq] at push
    simp only [pushEnvelopeToClient, Effect.push.injEq, Message.orderUpdate.injEq] at push
    rw [← push.1.2.2] at agrees
    exact (same world.clock).mp agrees
  · intro assumed shared clock
    exact ⟨_, _, pushes shared clock, (same clock).mpr assumed⟩

/-- The answer to a query has the orders pushes would carry, but for the time of the last
update, exactly when every registered report is of a limit order of the queried account that
was inserted at the time of the answer. -/
theorem query_matches_pushes_iff (world : World) (orderRegistry : OrderRegistry)
    (accountId : AccountId) (rid : Int32) (replyTo : EnvelopeTx)
    (reports : List OrderReport) :
    QueryMatchesPushes world orderRegistry accountId rid replyTo reports ↔
      ∀ report ∈ reports, ∀ context, contextOf orderRegistry report = some context →
        context.orderType = .limit ∧ context.insertedAt = world.clock.now ∧
          context.accountId = accountId := by
  have answer := driveQueryOrdersEvent_ready world orderRegistry accountId rid replyTo reports
  have orderly : QueryMatchesPushes world orderRegistry accountId rid replyTo reports ↔
      ∀ report ∈ reports, (contextOf orderRegistry report).isSome →
        MatchesPush orderRegistry report (queriedOrder world orderRegistry accountId report) := by
    rw [QueryMatchesPushes, answer]
    simp only [Prod.mk.injEq, List.cons.injEq, Effect.reply.injEq,
      Message.queryOrdersResult.injEq, true_and, and_true, exists_eq_left']
    rw [List.forall₂_map_right_iff, List.forall₂_same]
  rw [orderly]
  apply forall₂_congr
  intro report member
  constructor
  · intro agrees context registered
    have present : (contextOf orderRegistry report).isSome := by
      rw [registered, Option.isSome_some]
    exact (matchesPush_iff world accountId registered).mp (agrees present)
  · intro assumed present
    rcases Option.isSome_iff_exists.mp present with ⟨context, registered⟩
    exact (matchesPush_iff world accountId registered).mpr (assumed context registered)

/-- A market order submitted through the actor is answered as a limit order. -/
theorem market_order_differs :
    ¬QueryMatchesPushes (World.accepting {})
      (AList.singleton "a1" ⟨⟨"desk"⟩, ⟨"a1"⟩, ⟨"1001"⟩, ⟨"au2612"⟩, .buy, .open, .market, ⟨0⟩,
        1, ⟨0⟩⟩)
      ⟨"1001"⟩ 4 ⟨0⟩
      [⟨⟨"a1"⟩, none, ⟨"au2612"⟩, .buy, .open, ⟨0⟩, 1, 0, .accepted, none, none⟩] := by
  rintro ⟨orders, answer, matching⟩
  rw [driveQueryOrdersEvent_ready] at answer
  simp only [Prod.mk.injEq, List.cons.injEq, Effect.reply.injEq,
    Message.queryOrdersResult.injEq, true_and, and_true] at answer
  rw [← answer, List.forall₂_map_right_iff, List.forall₂_same] at matching
  have matched := matching _ List.mem_cons_self (by decide)
  exact absurd ((matchesPush_iff (World.accepting {}) ⟨"1001"⟩ rfl).mp matched).1 (by decide)

/-! ## Orders nobody registered -/

/-- The orders an answer to the query is passed on with. -/
def answeredOrders (world : World) (orderRegistry : OrderRegistry) (accountId : AccountId)
    (rid : Int32) (replyTo : EnvelopeTx) (reports : List OrderReport) : List Order :=
  match (driveQueryOrdersEvent world orderRegistry accountId rid replyTo
      (.queryOrdersReady rid reports)).1 with
  | [.reply _ (.queryOrdersResult orders)] => orders
  | _ => []

@[simp] theorem answeredOrders_eq (world : World) (orderRegistry : OrderRegistry)
    (accountId : AccountId) (rid : Int32) (replyTo : EnvelopeTx) (reports : List OrderReport) :
    answeredOrders world orderRegistry accountId rid replyTo reports =
      reports.map (queriedOrder world orderRegistry accountId) := by
  rw [answeredOrders, driveQueryOrdersEvent_ready]

/-- The registry of the same actor, had the client submitted no order. -/
def registryWithout (orderRegistry : OrderRegistry) (clientId : ClientId) : OrderRegistry where
  entries := orderRegistry.entries.filter fun entry => entry.2.clientId ≠ clientId
  nodupKeys := orderRegistry.nodupKeys.sublist List.filter_sublist

/-- The answer does not depend on how the registry is iterated, and an unregistered order
is credited to no client on account of that client's other orders: without them it would be
credited in the same way. -/
structure CreditsOnlyOwners (world : World) (orderRegistry : OrderRegistry)
    (accountId : AccountId) (rid : Int32) (replyTo : EnvelopeTx)
    (reports : List OrderReport) : Prop where
  orderFree : ∀ iterated : OrderRegistry, iterated.entries.Perm orderRegistry.entries →
    driveQueryOrdersEvent world iterated accountId rid replyTo (.queryOrdersReady rid reports) =
      driveQueryOrdersEvent world orderRegistry accountId rid replyTo
        (.queryOrdersReady rid reports)
  uncredited : ∀ (place : Nat) (report : OrderReport) (order : Order),
    reports[place]? = some report →
    contextOf orderRegistry report = none →
    (answeredOrders world orderRegistry accountId rid replyTo reports)[place]? = some order →
    (answeredOrders world (registryWithout orderRegistry order.clientId) accountId rid replyTo
      reports)[place]?.map Order.clientId = some order.clientId

theorem contextOf_registryWithout_of_none {orderRegistry : OrderRegistry}
    {report : OrderReport} (clientId : ClientId)
    (unregistered : contextOf orderRegistry report = none) :
    contextOf (registryWithout orderRegistry clientId) report = none := by
  rw [contextOf, AList.lookup_eq_none, AList.mem_keys] at unregistered ⊢
  exact fun present => unregistered ((List.filter_sublist.map Sigma.fst).subset present)

/-- An unregistered order is credited to the client of the registry's first entry. -/
theorem queriedOrder_clientId_of_none {world : World} {orderRegistry : OrderRegistry}
    {accountId : AccountId} {report : OrderReport}
    (unregistered : contextOf orderRegistry report = none) :
    (queriedOrder world orderRegistry accountId report).clientId =
      defaultQueryClientId orderRegistry := by
  have missing : orderRegistry.lookup (orderRefLookupKey report.clientOrderId) = none :=
    unregistered
  simp only [queriedOrder, orderReportToWireOrder, lookupClientId, missing, Option.map_none,
    Option.getD_none]

/-- What is iterated first matters to the unregistered orders alone. -/
theorem queriedOrder_of_perm (world : World) (accountId : AccountId)
    {registry iterated : OrderRegistry} (permuted : iterated.entries.Perm registry.entries)
    {report : OrderReport}
    (settled : (contextOf registry report).isSome ∨
      defaultQueryClientId iterated = defaultQueryClientId registry) :
    queriedOrder world iterated accountId report =
      queriedOrder world registry accountId report := by
  have same : lookupClientId iterated report.clientOrderId =
      lookupClientId registry report.clientOrderId := by
    rw [lookupClientId, lookupClientId, AList.perm_lookup permuted]
  rcases settled with registered | default
  · rcases Option.isSome_iff_exists.mp registered with ⟨context, registered⟩
    have known : lookupClientId registry report.clientOrderId = some context.clientId := by
      rw [lookupClientId, ← contextOf, registered, Option.map_some]
    rw [queriedOrder, queriedOrder, same, known, Option.getD_some, Option.getD_some]
  · rw [queriedOrder, queriedOrder, same, default]

/-- Where every order in the registry is the placeholder's own, so is the default. -/
theorem defaultQueryClientId_of_placeholder {orderRegistry : OrderRegistry}
    (placeholder : ∀ entry ∈ orderRegistry.entries, entry.2.clientId = ⟨"query"⟩) :
    defaultQueryClientId orderRegistry = ⟨"query"⟩ := by
  rw [defaultQueryClientId]
  cases first : orderRegistry.entries.head? with
  | none => rfl
  | some entry => exact placeholder entry (List.mem_of_mem_head? first)

/-- Any entry of a registry can be the first one iterated. -/
theorem exists_iterated_first {orderRegistry : OrderRegistry} {entry}
    (member : entry ∈ orderRegistry.entries) :
    ∃ iterated : OrderRegistry, iterated.entries.Perm orderRegistry.entries ∧
      defaultQueryClientId iterated = entry.2.clientId := by
  rcases List.append_of_mem member with ⟨before, after, split⟩
  have permuted : (entry :: (before ++ after)).Perm orderRegistry.entries := by
    rw [split]
    exact List.perm_middle.symm
  exact ⟨⟨entry :: (before ++ after), (List.perm_nodupKeys permuted).mpr orderRegistry.nodupKeys⟩,
    permuted, rfl⟩

/-- The default that a client's own orders make can be without them only where the client
is the placeholder. -/
theorem defaultQueryClientId_registryWithout {orderRegistry : OrderRegistry}
    (same : defaultQueryClientId (registryWithout orderRegistry
      (defaultQueryClientId orderRegistry)) = defaultQueryClientId orderRegistry) :
    defaultQueryClientId orderRegistry = ⟨"query"⟩ := by
  cases first : (registryWithout orderRegistry
      (defaultQueryClientId orderRegistry)).entries.head? with
  | none =>
      rw [← same, defaultQueryClientId, first]
  | some entry =>
      have member := List.mem_of_mem_head? first
      have other := of_decide_eq_true (List.mem_filter.mp member).2
      rw [defaultQueryClientId, first] at same
      exact absurd same other

section Credits

variable {world : World} {orderRegistry : OrderRegistry} {accountId : AccountId} {rid : Int32}
  {replyTo : EnvelopeTx} {reports : List OrderReport} {report : OrderReport}

/-- Where an unregistered order is credited to nobody on account of other orders, the
default is the placeholder. -/
theorem CreditsOnlyOwners.default_eq
    (credits : CreditsOnlyOwners world orderRegistry accountId rid replyTo reports)
    (reported : report ∈ reports) (unregistered : contextOf orderRegistry report = none) :
    defaultQueryClientId orderRegistry = ⟨"query"⟩ := by
  rcases List.mem_iff_getElem?.mp reported with ⟨place, placed⟩
  have uncredited := credits.uncredited place report _ placed unregistered
    (by rw [answeredOrders_eq, List.getElem?_map, placed, Option.map_some])
  rw [queriedOrder_clientId_of_none unregistered, answeredOrders_eq, List.getElem?_map,
    placed, Option.map_some, Option.map_some, Option.some.injEq,
    queriedOrder_clientId_of_none (contextOf_registryWithout_of_none _ unregistered)]
    at uncredited
  exact defaultQueryClientId_registryWithout uncredited

/-- Where an unregistered order is answered alike in every iteration order, so is the
default. -/
theorem CreditsOnlyOwners.iterated_eq
    (credits : CreditsOnlyOwners world orderRegistry accountId rid replyTo reports)
    (reported : report ∈ reports) (unregistered : contextOf orderRegistry report = none)
    {iterated : OrderRegistry} (permuted : iterated.entries.Perm orderRegistry.entries) :
    defaultQueryClientId iterated = defaultQueryClientId orderRegistry := by
  have answer := credits.orderFree iterated permuted
  rw [driveQueryOrdersEvent_ready, driveQueryOrdersEvent_ready] at answer
  simp only [Prod.mk.injEq, List.cons.injEq, Effect.reply.injEq,
    Message.queryOrdersResult.injEq, true_and, and_true, List.map_inj_left] at answer
  have unknown : contextOf iterated report = none :=
    (AList.perm_lookup permuted).trans unregistered
  have agrees := congrArg Order.clientId (answer report reported)
  rwa [queriedOrder_clientId_of_none unregistered, queriedOrder_clientId_of_none unknown]
    at agrees

/-- What is iterated first matters to an answer only if it has an unregistered order. -/
theorem driveQueryOrdersEvent_of_perm {iterated : OrderRegistry}
    (permuted : iterated.entries.Perm orderRegistry.entries)
    (settled : ∀ report ∈ reports, (contextOf orderRegistry report).isSome ∨
      defaultQueryClientId iterated = defaultQueryClientId orderRegistry) :
    driveQueryOrdersEvent world iterated accountId rid replyTo (.queryOrdersReady rid reports) =
      driveQueryOrdersEvent world orderRegistry accountId rid replyTo
        (.queryOrdersReady rid reports) := by
  have same : reports.map (queriedOrder world iterated accountId) =
      reports.map (queriedOrder world orderRegistry accountId) := by
    apply List.map_congr_left
    intro report reported
    exact queriedOrder_of_perm world accountId permuted (settled report reported)
  rw [driveQueryOrdersEvent_ready, driveQueryOrdersEvent_ready, same]

theorem creditsOnlyOwners_of_registered
    (registered : ∀ report ∈ reports, (contextOf orderRegistry report).isSome) :
    CreditsOnlyOwners world orderRegistry accountId rid replyTo reports := by
  constructor
  · intro iterated permuted
    exact driveQueryOrdersEvent_of_perm permuted fun report reported =>
      .inl (registered report reported)
  · intro place report order placed unregistered
    have present := registered report (List.mem_of_getElem? placed)
    rw [unregistered] at present
    cases present

theorem creditsOnlyOwners_of_placeholder
    (placeholder : ∀ entry ∈ orderRegistry.entries, entry.2.clientId = ⟨"query"⟩) :
    CreditsOnlyOwners world orderRegistry accountId rid replyTo reports := by
  have default := defaultQueryClientId_of_placeholder placeholder
  constructor
  · intro iterated permuted
    apply driveQueryOrdersEvent_of_perm permuted
    intro report reported
    right
    rw [default]
    apply defaultQueryClientId_of_placeholder
    intro entry member
    exact placeholder entry (permuted.mem_iff.mp member)
  · intro place report order placed unregistered answered
    have credited : order.clientId = ⟨"query"⟩ := by
      rw [answeredOrders_eq, List.getElem?_map, placed, Option.map_some,
        Option.some.injEq] at answered
      rw [← answered, queriedOrder_clientId_of_none unregistered, default]
    have fewer : defaultQueryClientId (registryWithout orderRegistry order.clientId) =
        ⟨"query"⟩ := by
      apply defaultQueryClientId_of_placeholder
      intro entry member
      exact placeholder entry (List.mem_of_mem_filter member)
    rw [answeredOrders_eq, List.getElem?_map, placed, Option.map_some, Option.map_some,
      queriedOrder_clientId_of_none (contextOf_registryWithout_of_none _ unregistered), fewer,
      credited]

end Credits

/-- An answer credits only owners exactly when every order in it is registered, or the
registry holds no order of any client but the placeholder. -/
theorem credits_only_owners_iff (world : World) (orderRegistry : OrderRegistry)
    (accountId : AccountId) (rid : Int32) (replyTo : EnvelopeTx)
    (reports : List OrderReport) :
    CreditsOnlyOwners world orderRegistry accountId rid replyTo reports ↔
      (∀ report ∈ reports, (contextOf orderRegistry report).isSome) ∨
        ∀ entry ∈ orderRegistry.entries, entry.2.clientId = ⟨"query"⟩ := by
  constructor
  · intro credits
    by_cases registered : ∀ report ∈ reports, (contextOf orderRegistry report).isSome
    · exact .inl registered
    · right
      intro entry member
      push Not at registered
      rcases registered with ⟨report, reported, unregistered⟩
      have unregistered : contextOf orderRegistry report = none := by
        simpa using unregistered
      rcases exists_iterated_first member with ⟨iterated, permuted, default⟩
      rw [← default, credits.iterated_eq reported unregistered permuted,
        credits.default_eq reported unregistered]
  · rintro (registered | placeholder)
    · exact creditsOnlyOwners_of_registered registered
    · exact creditsOnlyOwners_of_placeholder placeholder

/-- An order nobody registered is credited to the one client that has another. -/
theorem unknown_order_credited :
    ¬CreditsOnlyOwners (World.accepting {})
      (AList.singleton "a1" ⟨⟨"desk"⟩, ⟨"a1"⟩, ⟨"1001"⟩, ⟨"au2612"⟩, .buy, .open, .limit, ⟨0⟩,
        1, ⟨0⟩⟩)
      ⟨"1001"⟩ 4 ⟨0⟩
      [⟨⟨"b2"⟩, none, ⟨"au2612"⟩, .buy, .open, ⟨0⟩, 1, 0, .accepted, none, none⟩] := by
  intro credits
  have uncredited := credits.uncredited 0 _ _ rfl rfl rfl
  revert uncredited
  decide

end CtpSystem
