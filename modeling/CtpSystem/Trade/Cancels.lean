import CtpSystem.Trade.Venue

/-!
# Cancels and the logins of their orders

CTP knows an order without an exchange id by the front and the session it was inserted
under and by its order ref.  A history of the run remembers, for each accepted insert, the
ids of the login response in force then, and says which order a cancel means.
-/

namespace CtpSystem

open Reactive

/-! ## What a run remembers -/

/-- What happened so far. -/
structure CancelHistory where
  /-- The ids of the last login response. -/
  inForce : Option (Int32 × Int32) := none
  /-- The ids the last completed login was completed with. -/
  completed : Option (Int32 × Int32) := none
  /-- The accepted inserts with the ids in force at the time, newest first. -/
  inserted : List (ClientOrderId × (Int32 × Int32)) := []

/-- The ids of a login response the actor takes, whoever is waiting. -/
def TradeActor.loginResponse (actor : TradeActor) : TradeInput → Option (Int32 × Int32)
  | .event (.loginOk _ frontId sessionId) =>
      if actor.takesEvent then some (frontId, sessionId) else none
  | _ => none

/-- The order a step inserts, where the call accepts it. -/
def TradeActor.inserts (accountId : AccountId) (actor : TradeActor)
    (input : World × TradeInput) : Option ClientOrderId :=
  match input.2 with
  | .command (.placeOrder _ order _) =>
      if (((machine accountId).emits actor input).findSome? insertedRef).isSome then
        some order.clientOrderId
      else none
  | _ => none

/-- The history after one step. -/
def CancelHistory.record (accountId : AccountId) (history : CancelHistory)
    (actor : TradeActor) (input : World × TradeInput) : CancelHistory where
  inForce := (actor.loginResponse input.2).or history.inForce
  completed := (actor.completes input.2).or history.completed
  inserted :=
    ((actor.inserts accountId input).bind fun clientOrderId =>
      history.inForce.map fun ids => (clientOrderId, ids)).toList ++ history.inserted

/-- The actor of an account, watched for the logins of its orders. -/
def watchOrders (accountId : AccountId) :
    Machine (TradeActor × CancelHistory) (World × TradeInput) Effect :=
  (TradeActor.machine accountId).observe {} (CancelHistory.record accountId)

/-! ## The order a cancel means -/

/-- The order meant by a cancel without an exchange order id: the one inserted last under
its client order id, with the ids in force at its insert. -/
def CancelHistory.meant (history : CancelHistory) :
    TradeInput → Option (ClientOrderId × (Int32 × Int32))
  | .command (.cancelOrder cancel _) =>
      if cancel.exchangeOrderId = none then
        cancel.clientOrderId.bind fun clientOrderId =>
          (history.inserted.lookup clientOrderId).map fun ids => (clientOrderId, ids)
      else none
  | _ => none

/-- The order action an effect sends. -/
def Effect.orderAction : Effect → Option InputOrderActionField
  | .request (.orderAction field) _ => some field
  | _ => none

/-- A cancel names the order it means, by its order ref and the ids of its login. -/
def NamesItsOrder (accountId : AccountId) (watched : TradeActor × CancelHistory)
    (input : World × TradeInput) : Prop :=
  ∀ order ∈ watched.2.meant input.2,
    ∀ field ∈ ((TradeActor.machine accountId).emits watched.1 input).filterMap
        Effect.orderAction,
      field.orderRef = some (normalizeOrderRef order.1.asStr) ∧
        (field.frontId, field.sessionId) = order.2

instance (accountId : AccountId) (watched : TradeActor × CancelHistory)
    (input : World × TradeInput) : Decidable (NamesItsOrder accountId watched input) :=
  inferInstanceAs (Decidable (∀ order ∈ watched.2.meant input.2, ∀ field ∈ _, _ ∧ _))

/-- The actor takes a command that makes a request. -/
def TradeActor.canRequest (actor : TradeActor) : Bool :=
  actor.driver.isNone && actor.loggedInIds.isSome && actor.session.any (·.api.isSome)

/-- The login completed last before a cancel is sent has brought the ids that were in
force when the order it means was inserted. -/
def SameLogin (watched : TradeActor × CancelHistory) (input : World × TradeInput) : Prop :=
  ∀ order ∈ watched.2.meant input.2,
    watched.1.canRequest = true → watched.2.completed = some order.2

/-! ## What a cancel sends -/

section Sends

variable (accountId : AccountId) {actor : TradeActor} (world : World)
variable (cancel : CancelRequest) (replyTo : EnvelopeTx)

/-- A cancel taken while logged in calls the session. -/
theorem emits_cancelOrder {session : TradeSession} {ids : Int32 × Int32}
    (idle : actor.driver = none) (loggedIn : actor.loggedInIds = some ids)
    (present : actor.session = some session) :
    (TradeActor.machine accountId).emits actor
        (world, .command (.cancelOrder cancel replyTo)) =
      TradeActor.requested (session.cancelOrder world.rc cancel ids.1 ids.2) := by
  simp [Machine.emits, TradeActor.machine, TradeActor.step, idle, handleTradeCommand,
    loggedIn, handleLoggedInTradeCommand, withSession, present, driveCancelOrder]

/-- A cancel that cannot be sent sends nothing. -/
theorem orderActions_of_refused (refused : actor.canRequest = false) :
    ((TradeActor.machine accountId).emits actor
      (world, .command (.cancelOrder cancel replyTo))).filterMap Effect.orderAction = [] := by
  cases suspended : actor.driver with
  | some driver =>
      simp [Machine.emits, TradeActor.machine, TradeActor.step, suspended]
  | none =>
      cases ids : actor.loggedInIds with
      | none =>
          simp [Machine.emits, TradeActor.machine, TradeActor.step, suspended,
            handleTradeCommand, ids, handleLoggedOutTradeCommand, Effect.orderAction,
            sendError]
      | some ids =>
          cases present : actor.session with
          | none =>
              simp [Machine.emits, TradeActor.machine, TradeActor.step, suspended,
                handleTradeCommand, ids, handleLoggedInTradeCommand, withSession, present]
          | some session =>
              have unloaded : session.api = none := by
                simpa [TradeActor.canRequest, suspended, ids, present] using refused
              rw [emits_cancelOrder accountId world cancel replyTo suspended ids present]
              simp only [TradeSession.cancelOrder, TradeSession.request, unloaded]
              rfl

/-- A cancel that can be sent sends one order action, under the order ref of its client
order id and the login ids of the actor. -/
theorem orderActions_of_sent (sent : actor.canRequest = true) :
    ∃ field : InputOrderActionField,
      ((TradeActor.machine accountId).emits actor
          (world, .command (.cancelOrder cancel replyTo))).filterMap Effect.orderAction =
        [field] ∧
      field.orderRef = cancel.clientOrderId.map (fun id => normalizeOrderRef id.asStr) ∧
      actor.loggedInIds = some (field.frontId, field.sessionId) := by
  simp only [TradeActor.canRequest, Bool.and_eq_true, Option.isNone_iff_eq_none,
    Option.any_eq_true] at sent
  rcases sent with ⟨⟨suspended, loggedIn⟩, session, present, loaded⟩
  rcases Option.isSome_iff_exists.mp loggedIn with ⟨ids, loggedInAs⟩
  rcases Option.isSome_iff_exists.mp loaded with ⟨api, handle⟩
  rw [emits_cancelOrder accountId world cancel replyTo suspended loggedInAs present]
  simp only [TradeSession.cancelOrder, TradeSession.request, handle, TradeActor.requested,
    List.map_cons, List.map_nil]
  exact ⟨_, rfl, rfl, loggedInAs⟩

end Sends

/-! ## Runs -/

/-- The login ids of the actor are those of the login completed last. -/
def FollowsLogins (watched : TradeActor × CancelHistory) : Prop :=
  ∀ ids, watched.1.loggedInIds = some ids → watched.2.completed = some ids

theorem followsLogins_next (accountId : AccountId) (watched : TradeActor × CancelHistory)
    (input : World × TradeInput) (follows : FollowsLogins watched) :
    FollowsLogins ((watchOrders accountId).next watched input) := by
  rcases watched with ⟨actor, history⟩
  intro ids loggedIn
  simp only [watchOrders, Machine.observe_next, TradeActor.loggedInIds_next]
    at loggedIn
  simp only [watchOrders, Machine.observe_next, CancelHistory.record]
  cases completed : actor.completes input.2 with
  | some brought =>
      rw [completed, Option.some_or] at loggedIn
      rw [Option.some_or]
      exact loggedIn
  | none =>
      rw [completed, Option.none_or] at loggedIn
      rw [Option.none_or]
      split at loggedIn
      · cases loggedIn
      · exact follows ids loggedIn

/-- A cancel that means an order is a cancel by its client order id alone. -/
theorem meant_inversion {history : CancelHistory} {input : TradeInput}
    {order : ClientOrderId × (Int32 × Int32)} (meant : history.meant input = some order) :
    ∃ cancel replyTo, input = .command (.cancelOrder cancel replyTo) ∧
      cancel.clientOrderId = some order.1 := by
  cases input with
  | event event => cases meant
  | command command =>
      cases command with
      | cancelOrder cancel replyTo =>
          refine ⟨cancel, replyTo, rfl, ?_⟩
          simp only [CancelHistory.meant, Option.ite_none_right_eq_some,
            Option.bind_eq_some_iff, Option.map_eq_some_iff] at meant
          rcases meant with ⟨-, clientOrderId, given, ids, -, rfl⟩
          exact given
      | login | placeOrder | queryAccount | queryPosition | queryOrders | queryTrades
      | logout => cases meant

/-- A cancel names the order it means exactly when the login has stayed the same. -/
theorem namesItsOrder_iff (accountId : AccountId) (watched : TradeActor × CancelHistory)
    (input : World × TradeInput) (follows : FollowsLogins watched) :
    NamesItsOrder accountId watched input ↔ SameLogin watched input := by
  rcases watched with ⟨actor, history⟩
  rcases input with ⟨world, input⟩
  apply forall₂_congr
  intro order meant
  rcases meant_inversion meant with ⟨cancel, replyTo, rfl, given⟩
  cases sent : actor.canRequest with
  | false =>
      rw [orderActions_of_refused accountId world cancel replyTo sent]
      exact iff_of_true (List.forall_mem_nil _) (fun able => absurd able Bool.false_ne_true)
  | true =>
      rcases orderActions_of_sent accountId world cancel replyTo sent with
        ⟨field, actions, orderRef, loggedIn⟩
      have completed : history.completed = some (field.frontId, field.sessionId) :=
        follows _ loggedIn
      rw [given] at orderRef
      simp only [actions, List.forall_mem_singleton, orderRef, completed, Option.map_some,
        Option.some.injEq, true_and, forall_const]

/-- Along a run every cancel by client order id names the order it means, by the ids that
were in force at its insert, exactly when each such cancel is sent under a login with the
same ids. -/
theorem cancels_name_orders_iff (accountId : AccountId) (inputs : List (World × TradeInput)) :
    (watchOrders accountId).Always (NamesItsOrder accountId) (watchOrders accountId).init
        inputs ↔
      (watchOrders accountId).Always SameLogin (watchOrders accountId).init inputs := by
  have initial : FollowsLogins (watchOrders accountId).init := by
    intro ids loggedIn
    cases loggedIn
  exact Machine.always_congr _ (followsLogins_next accountId) (namesItsOrder_iff accountId)
    initial inputs

/-- An order is placed, the front is lost and the account logs in again: the cancel of the
order carries the ids of the new login. -/
theorem cancelAfterRelogin_misnames :
    ¬(watchOrders ⟨"1001"⟩).Always (NamesItsOrder ⟨"1001"⟩) (watchOrders ⟨"1001"⟩).init
      (TradeActor.loginInputs (World.accepting {}) ⟨⟨"1001"⟩, "", "9999", "", ""⟩ ⟨0⟩ 1 7 ++
        [.command (.placeOrder ⟨"CY"⟩
            ⟨⟨"a1"⟩, ⟨"1001"⟩, ⟨"au2612"⟩, .buy, .open, .limit, 1, ⟨0⟩⟩ ⟨0⟩),
          .event (.frontDisconnected 4097)].map (fun input => (World.accepting {}, input)) ++
        TradeActor.loginInputs (World.accepting {}) ⟨⟨"1001"⟩, "", "9999", "", ""⟩ ⟨0⟩ 1 8 ++
        [(World.accepting {}, .command (.cancelOrder
          ⟨⟨"1001"⟩, ⟨"au2612"⟩, some ⟨"a1"⟩, none⟩ ⟨0⟩))]) := by
  decide

end CtpSystem
