import CtpSystem.Trade.Steps

/-!
# Logout

Two handlers take a logout: that of a logged-in actor releases the session, the ids and the
registry, the other only answers.  The session outlives a lost front and a failed login, so
what a logout leaves depends on how the actor came to be logged out.
-/

namespace CtpSystem

open Reactive

namespace TradeActor

/-- The actor takes the input, and it is a logout. -/
def takesLogout (actor : TradeActor) : TradeInput → Bool
  | .command command => command.isLogout && actor.takesCommand
  | .event _ => false

/-- Nothing is left of a session, and whatever follows, the actor does what a new one does. -/
structure Released (accountId : AccountId) (actor : TradeActor) : Prop where
  session : actor.session = none
  loggedInIds : actor.loggedInIds = none
  orderRegistry : actor.orderRegistry = ∅
  fresh : ∀ inputs, (machine accountId).outputs actor inputs =
    (machine accountId).outputs (machine accountId).init inputs

/-- A logout the actor takes releases the session. -/
def ReleasesOnLogout (accountId : AccountId) (actor : TradeActor)
    (input : World × TradeInput) : Prop :=
  actor.takesLogout input.2 = true →
    Released accountId ((machine accountId).next actor input)

/-- A logout finds the actor logged in, or without a session. -/
def LogoutFinds (actor : TradeActor) (input : World × TradeInput) : Prop :=
  actor.takesLogout input.2 = true → actor.loggedInIds.isSome ∨ actor.session = none

end TradeActor

/-! ## What is kept without a session -/

/-- Without a session no order is registered. -/
def TradeActor.Unregistered (actor : TradeActor) : Prop :=
  actor.session = none → actor.orderRegistry = ∅

theorem unregistered_next (accountId : AccountId) (actor : TradeActor)
    (input : World × TradeInput) (unregistered : actor.Unregistered) :
    ((TradeActor.machine accountId).next actor input).Unregistered := by
  intro absent
  have setup := setup_next accountId actor input
  rw [absent, Option.map_none, eq_comm, Option.or_eq_none_iff] at setup
  have before : actor.drops input.2 = false → actor.session = none := by
    intro kept
    simpa [kept] using setup.2
  rcases input with ⟨world, input⟩
  cases input with
  | event event =>
      rw [TradeActor.orderRegistry_next_event]
      exact unregistered (before rfl)
  | command command =>
      rw [TradeActor.orderRegistry_next_command]
      cases released : actor.releases command with
      | true =>
          cases command with
          | logout replyTo => rfl
          | _ => cases released
      | false =>
          have missing : actor.session = none := before released
          have unplaced : actor.registers command = none := by
            cases command <;> simp [TradeActor.registers, missing]
          simp only [unplaced, Bool.false_eq_true, if_false]
          exact unregistered missing

/-- What a run keeps: a logged-in actor has a session, and without one nothing is
registered. -/
theorem sessionless_next (accountId : AccountId) (actor : TradeActor)
    (input : World × TradeInput) (kept : actor.Connected ∧ actor.Unregistered) :
    ((TradeActor.machine accountId).next actor input).Connected ∧
      ((TradeActor.machine accountId).next actor input).Unregistered :=
  ⟨connected_next accountId actor input kept.1, unregistered_next accountId actor input kept.2⟩

/-! ## The two handlers -/

section Handlers

variable (accountId : AccountId) {actor : TradeActor} (world : World) (replyTo : EnvelopeTx)

/-- Logged in, a logout leaves the actor as it was spawned. -/
theorem next_logout_loggedIn (idle : actor.driver = none)
    (loggedIn : actor.loggedInIds.isSome) :
    (TradeActor.machine accountId).next actor (world, .command (.logout replyTo)) =
      (TradeActor.machine accountId).init := by
  simp [Machine.next, TradeActor.machine, TradeActor.step, idle, handleTradeCommand,
    loggedIn, handleLoggedInTradeCommand, TradeActor.finish]

/-- Logged out, a logout leaves the actor as it is. -/
theorem next_logout_loggedOut (idle : actor.driver = none)
    (loggedOut : actor.loggedInIds = none) :
    (TradeActor.machine accountId).next actor (world, .command (.logout replyTo)) =
      actor := by
  cases actor
  simp only at idle loggedOut
  simp [Machine.next, TradeActor.machine, TradeActor.step, idle, handleTradeCommand,
    loggedOut, handleLoggedOutTradeCommand, TradeActor.finish]

end Handlers

/-- An actor as it was spawned is released. -/
theorem released_init (accountId : AccountId) :
    TradeActor.Released accountId (TradeActor.machine accountId).init :=
  ⟨rfl, rfl, rfl, fun _ => rfl⟩

/-- A logged-out actor without a session is as it was spawned, at the top of its loop. -/
theorem eq_init_of_sessionless (accountId : AccountId) {actor : TradeActor}
    (idle : actor.driver = none) (loggedOut : actor.loggedInIds = none)
    (absent : actor.session = none) (unregistered : actor.Unregistered) :
    actor = (TradeActor.machine accountId).init := by
  have empty := unregistered absent
  cases actor
  simp only at idle loggedOut absent empty
  rw [idle, loggedOut, absent, empty]
  rfl

/-- A step releases the session on a logout exactly when the logout finds the actor logged
in or without a session. -/
theorem releasesOnLogout_iff (accountId : AccountId) (actor : TradeActor)
    (input : World × TradeInput) (kept : actor.Connected ∧ actor.Unregistered) :
    actor.ReleasesOnLogout accountId input ↔ actor.LogoutFinds input := by
  rcases input with ⟨world, input⟩
  apply forall_congr'
  intro taken
  cases input with
  | event event => cases taken
  | command command =>
      rcases (Bool.and_eq_true _ _).mp taken with ⟨logout, takes⟩
      have idle : actor.driver = none := Option.isNone_iff_eq_none.mp takes
      cases command with
      | login | placeOrder | cancelOrder | queryAccount | queryPosition | queryOrders
      | queryTrades => cases logout
      | logout replyTo =>
          cases ids : actor.loggedInIds with
          | some loggedIn =>
              have online : actor.loggedInIds.isSome := by rw [ids, Option.isSome_some]
              rw [next_logout_loggedIn accountId world replyTo idle online]
              exact iff_of_true (released_init accountId) (Or.inl rfl)
          | none =>
              rw [next_logout_loggedOut accountId world replyTo idle ids]
              constructor
              · intro released
                exact Or.inr released.session
              · rintro (online | absent)
                · cases online
                · rw [eq_init_of_sessionless accountId idle ids absent kept.2]
                  exact released_init accountId

/-- Along every run, each logout that is taken leaves neither session nor ids nor registry,
and an actor that behaves as a new one, exactly when each of them finds the actor logged in
or without a session. -/
theorem logout_releases_iff (accountId : AccountId) (inputs : List (World × TradeInput)) :
    (TradeActor.machine accountId).Always (TradeActor.ReleasesOnLogout accountId)
        (TradeActor.machine accountId).init inputs ↔
      (TradeActor.machine accountId).Always TradeActor.LogoutFinds
        (TradeActor.machine accountId).init inputs := by
  apply Machine.always_congr _ (sessionless_next accountId) (releasesOnLogout_iff accountId)
  constructor
  · intro loggedIn
    cases loggedIn
  · intro _
    rfl

/-- The front is lost after a login; then the account is logged out. -/
def TradeInput.logoutAfterDrop : List (World × TradeInput) :=
  (TradeActor.loginInputs (World.accepting {}) ⟨⟨"1001"⟩, "", "9999", "", ""⟩ ⟨0⟩ 1 7 ++
    [(World.accepting {}, .event (.frontDisconnected 4097))]) ++
      [(World.accepting {}, .command (.logout ⟨0⟩))]

/-- The session is still there after that logout. -/
theorem logoutAfterDrop_keeps :
    ¬(TradeActor.machine ⟨"1001"⟩).Always (TradeActor.ReleasesOnLogout ⟨"1001"⟩)
      (TradeActor.machine ⟨"1001"⟩).init TradeInput.logoutAfterDrop := by
  intro releases
  have released := Machine.Always.at_split releases (by decide)
  have absent := congrArg Option.isSome released.session
  revert absent
  decide

end CtpSystem
