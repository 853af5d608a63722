import Mathlib.Algebra.Order.Ring.Rat
import Mathlib.Data.Rat.Floor
import Mathlib.Order.Lattice
import CtpSystem.Library.Machine

/-!
# Exponential backoff

`ExponentialBackoff` hands out the delays between the attempts to reconnect.  The delay of the
next attempt grows by a factor, is cut to whole milliseconds and kept between two bounds; what
is returned adds a jitter taken from the clock.  The factor is the value of a double, and its
product with a delay is taken to be exact.
-/

namespace CtpSystem

open Reactive

/-- Where `next_duration` panics. -/
inductive BackoffPanic where
  | jitterMsOverflow
  | delayOverflow
  deriving DecidableEq

/-- A computation that goes on returns exactly what its second part returns. -/
theorem bind_eq_ok_iff {ε α β : Type} {first : Except ε α} {rest : α → Except ε β}
    {result : β} :
    (first >>= rest) = .ok result ↔ ∃ value, first = .ok value ∧ rest value = .ok result := by
  constructor
  · intro returned
    cases first with
    | error failure => cases returned
    | ok value => exact ⟨value, rfl, returned⟩
  · rintro ⟨value, rfl, returned⟩
    exact returned

/-! ## Durations -/

/-- `Duration::MAX` in nanoseconds. -/
def Duration.maxNanos : Nat := 18446744073709551615 * 1000000000 + 999999999

/-- A `Duration`, as nanoseconds. -/
@[ext] structure Duration where
  nanos : Nat
  fits : nanos ≤ Duration.maxNanos
  deriving DecidableEq

namespace Duration

instance : LinearOrder Duration := LinearOrder.lift' nanos fun _ _ => Duration.ext

def zero : Duration := ⟨0, Nat.zero_le _⟩

/-- `Duration::from_millis`. -/
def fromMillis (millis : UInt64) : Duration where
  nanos := millis.toNat * 1000000
  fits := by
    have small := millis.toNat_lt
    rw [maxNanos]
    omega

/-- `Add for Duration`, which panics on overflow. -/
def add (duration other : Duration) : Except BackoffPanic Duration :=
  if fits : duration.nanos + other.nanos ≤ maxNanos then
    .ok ⟨duration.nanos + other.nanos, fits⟩
  else .error .delayOverflow

theorem nanos_fromMillis (millis : UInt64) :
    (fromMillis millis).nanos = millis.toNat * 1000000 := rfl

/-- A sum that is returned is the sum. -/
theorem add_eq_ok_iff {duration other sum : Duration} :
    duration.add other = .ok sum ↔ sum.nanos = duration.nanos + other.nanos := by
  rw [add]
  constructor
  · intro returned
    split at returned
    · cases returned
      rfl
    · cases returned
  · intro same
    rw [dif_pos (same ▸ sum.fits), Except.ok.injEq]
    exact Duration.ext same.symm

theorem exists_add {duration other : Duration}
    (fits : duration.nanos + other.nanos ≤ maxNanos) : ∃ sum, duration.add other = .ok sum :=
  ⟨⟨_, fits⟩, add_eq_ok_iff.mpr rfl⟩

/-- `as_secs_f64`. -/
def asSecs (duration : Duration) : ℚ := duration.nanos / 1000000000

end Duration

/-! ## The backoff -/

/-- The parameters of a backoff, the delay it has grown to, and whether the next attempt may
still be made at once. -/
structure ExponentialBackoff where
  delayInitial : Duration
  delayMax : Duration
  delayCurrent : Duration
  factor : ℚ
  jitterMs : UInt64
  immediateReconnect : Bool
  deriving DecidableEq

/-- What the wall clock shows past the last full second, in nanoseconds; nothing where it
stands before the epoch. -/
abbrev SubsecNanos := Option (Fin 1000000000)

namespace ExponentialBackoff

/-- `new`; a factor that is no finite number is in no range. -/
def new (delayInitial delayMax : Duration) (factor : Option ℚ) (jitterMs : UInt64)
    (immediateFirst : Bool) : Except String ExponentialBackoff :=
  if delayInitial = .zero then .error "delay_initial must be non-zero"
  else if delayMax < delayInitial then .error "delay_max must be >= delay_initial"
  else
    match factor with
    | none => .error "factor must be in [1.0, 100.0]"
    | some factor =>
        if 1 ≤ factor ∧ factor ≤ 100 then
          .ok ⟨delayInitial, delayMax, delayInitial, factor, jitterMs, immediateFirst⟩
        else .error "factor must be in [1.0, 100.0]"

variable (backoff : ExponentialBackoff)

/-- The jitter in milliseconds.  A jitter of `u64::MAX` cannot be made a modulus: the addition
overflows, or where it wraps the modulus is zero. -/
def jitter (clock : SubsecNanos) : Except BackoffPanic UInt64 :=
  if backoff.jitterMs = 0 then .ok 0
  else if backoff.jitterMs.toNat + 1 < UInt64.size then
    .ok (.ofNat ((clock.elim 0 Fin.val) % (backoff.jitterMs.toNat + 1)))
  else .error .jitterMsOverflow

/-- The delay of the attempt after the next one. -/
def nextDelay : Duration :=
  let nextMs : UInt64 :=
    .ofNatClamp (backoff.delayCurrent.asSecs * backoff.factor * 1000).floor.toNat
  max (min (.fromMillis nextMs) backoff.delayMax) backoff.delayInitial

/-- `next_duration`. -/
def nextDuration (clock : SubsecNanos) :
    Except BackoffPanic (Duration × ExponentialBackoff) :=
  if backoff.immediateReconnect ∧ backoff.delayCurrent = backoff.delayInitial then
    .ok (.zero, { backoff with immediateReconnect := false })
  else do
    let jitter ← backoff.jitter clock
    let delay ← backoff.delayCurrent.add (.fromMillis jitter)
    return (delay, { backoff with delayCurrent := backoff.nextDelay })

/-- `reset`. -/
def reset : ExponentialBackoff :=
  { backoff with delayCurrent := backoff.delayInitial, immediateReconnect := false }

end ExponentialBackoff

/-- The calls made on a backoff. -/
inductive BackoffCall where
  | nextDuration (clock : SubsecNanos)
  | reset
  deriving DecidableEq

/-- A backoff under calls, and the delays it returns.  After a panic nothing is returned. -/
def ExponentialBackoff.machine (backoff : ExponentialBackoff) :
    Machine (Except BackoffPanic ExponentialBackoff) BackoffCall Duration where
  init := .ok backoff
  step
    | .error panic, _ => (.error panic, [])
    | .ok backoff, .reset => (.ok backoff.reset, [])
    | .ok backoff, .nextDuration clock =>
        match backoff.nextDuration clock with
        | .error panic => (.error panic, [])
        | .ok (delay, backoff) => (.ok backoff, [delay])

/-! ## What the calls keep -/

section Bounds

variable {delayInitial delayMax : Duration} {factor : Option ℚ} {jitterMs : UInt64}
  {immediateFirst : Bool} {backoff : ExponentialBackoff}

/-- A delay under `u64::MAX` milliseconds leaves room for any jitter. -/
def Duration.u64MaxMillis : Duration := .fromMillis 18446744073709551615

theorem Duration.fromMillis_le (millis : UInt64) : fromMillis millis ≤ u64MaxMillis := by
  have small := millis.toNat_lt
  show millis.toNat * 1000000 ≤ 18446744073709551615 * 1000000
  omega

/-- A backoff made from the parameters, after some calls. -/
structure Steady (delayInitial delayMax : Duration) (jitterMs : UInt64)
    (backoff : ExponentialBackoff) : Prop where
  initial_eq : backoff.delayInitial = delayInitial
  max_eq : backoff.delayMax = delayMax
  jitter_eq : backoff.jitterMs = jitterMs
  positive : 0 < delayInitial.nanos
  initial_le : delayInitial ≤ backoff.delayCurrent
  le_max : backoff.delayCurrent ≤ delayMax
  settled : backoff.delayCurrent = delayInitial ∨ backoff.delayCurrent ≤ .u64MaxMillis

theorem steady_of_new
    (accepted : ExponentialBackoff.new delayInitial delayMax factor jitterMs immediateFirst =
      .ok backoff) :
    Steady delayInitial delayMax jitterMs backoff ∧
      backoff.immediateReconnect = immediateFirst := by
  unfold ExponentialBackoff.new at accepted
  split at accepted
  · contradiction
  · rename_i nonzero
    split at accepted
    · contradiction
    · rename_i ordered
      cases factor with
      | none => contradiction
      | some factor =>
          simp only at accepted
          split at accepted
          · cases accepted
            have positive : 0 < delayInitial.nanos :=
              Nat.pos_of_ne_zero fun none => nonzero (Duration.ext none)
            exact ⟨⟨rfl, rfl, rfl, positive, le_rfl, not_lt.mp ordered, .inl rfl⟩, rfl⟩
          · contradiction

/-- A jitter other than `u64::MAX` is the remainder of the clock's nanoseconds. -/
theorem jitter_eq_ok (modulus : backoff.jitterMs.toNat + 1 < UInt64.size)
    (clock : SubsecNanos) :
    backoff.jitter clock =
      .ok (.ofNat (clock.elim 0 Fin.val % (backoff.jitterMs.toNat + 1))) := by
  rw [ExponentialBackoff.jitter, if_pos modulus]
  split
  · rename_i none
    rw [none, show (0 : UInt64).toNat + 1 = 1 from rfl, Nat.mod_one]
    rfl
  · rfl

theorem modulus_of_jitter {clock : SubsecNanos} {jitter : UInt64}
    (drawn : backoff.jitter clock = .ok jitter) : backoff.jitterMs.toNat + 1 < UInt64.size := by
  rw [ExponentialBackoff.jitter] at drawn
  split at drawn
  · rename_i none
    rw [none]
    decide
  · split at drawn
    · assumption
    · contradiction

theorem jitter_of_ok {clock : SubsecNanos} {jitter : UInt64}
    (drawn : backoff.jitter clock = .ok jitter) :
    jitter.toNat = clock.elim 0 Fin.val % (backoff.jitterMs.toNat + 1) := by
  have modulus := modulus_of_jitter drawn
  rw [jitter_eq_ok modulus] at drawn
  cases drawn
  apply UInt64.toNat_ofNat_of_lt'
  have bounded : clock.elim 0 Fin.val % (backoff.jitterMs.toNat + 1) <
      backoff.jitterMs.toNat + 1 := Nat.mod_lt _ backoff.jitterMs.toNat.succ_pos
  omega

/-- The jitter is at most the parameter, and less than a second's nanoseconds. -/
theorem jitter_le {clock : SubsecNanos} {jitter : UInt64}
    (drawn : backoff.jitter clock = .ok jitter) :
    jitter.toNat ≤ min backoff.jitterMs.toNat 999999999 := by
  have shown : clock.elim 0 Fin.val ≤ 999999999 := by
    cases clock with
    | none => exact Nat.zero_le _
    | some nanos => exact Nat.le_of_lt_succ nanos.isLt
  have remainder := Nat.mod_le (clock.elim 0 Fin.val) (backoff.jitterMs.toNat + 1)
  have bounded : clock.elim 0 Fin.val % (backoff.jitterMs.toNat + 1) <
      backoff.jitterMs.toNat + 1 := Nat.mod_lt _ backoff.jitterMs.toNat.succ_pos
  rw [jitter_of_ok drawn]
  omega

/-- The next delay is between the bounds, and of whole milliseconds unless it is the first. -/
theorem steady_nextDelay (steady : Steady delayInitial delayMax jitterMs backoff) :
    Steady delayInitial delayMax jitterMs { backoff with delayCurrent := backoff.nextDelay } := by
  have ordered := steady.initial_le.trans steady.le_max
  refine ⟨steady.initial_eq, steady.max_eq, steady.jitter_eq, steady.positive, ?_, ?_, ?_⟩
  · simp only [ExponentialBackoff.nextDelay, steady.initial_eq]
    exact le_max_right _ _
  · simp only [ExponentialBackoff.nextDelay, steady.initial_eq, steady.max_eq]
    exact max_le (min_le_right _ _) ordered
  · simp only [ExponentialBackoff.nextDelay, steady.initial_eq, steady.max_eq]
    rcases max_choice (min (Duration.fromMillis (.ofNatClamp
        (backoff.delayCurrent.asSecs * backoff.factor * 1000).floor.toNat)) delayMax)
      delayInitial with grown | first
    · rw [grown]
      exact .inr ((min_le_left _ _).trans (Duration.fromMillis_le _))
    · exact .inl first

theorem steady_reset (steady : Steady delayInitial delayMax jitterMs backoff) :
    Steady delayInitial delayMax jitterMs backoff.reset :=
  ⟨steady.initial_eq, steady.max_eq, steady.jitter_eq, steady.positive,
    steady.initial_eq.ge, steady.initial_eq.le.trans (steady.initial_le.trans steady.le_max),
    .inl steady.initial_eq⟩

/-- The flag, as a number of delays that may still be zero. -/
def zerosLeft (immediate : Bool) : Nat := if immediate then 1 else 0

/-- After a panic no delay is returned any more. -/
def zerosAhead : Except BackoffPanic ExponentialBackoff → Nat
  | .ok backoff => zerosLeft backoff.immediateReconnect
  | .error _ => 0

/-- A delay that is not the immediate one. -/
structure SpacedDelay (delayInitial delayMax : Duration) (jitterMs : UInt64)
    (delay : Duration) : Prop where
  initial_le : delayInitial ≤ delay
  le_max : delay.nanos ≤ delayMax.nanos + jitterMs.toNat * 1000000

/-- A call that returns either uses up the immediate delay, or returns a spaced one and moves
on. -/
theorem nextDuration_of_ok (steady : Steady delayInitial delayMax jitterMs backoff)
    {clock : SubsecNanos} {delay : Duration} {later : ExponentialBackoff}
    (returned : backoff.nextDuration clock = .ok (delay, later)) :
    Steady delayInitial delayMax jitterMs later ∧
      ((delay = .zero ∧ backoff.immediateReconnect = true ∧ later.immediateReconnect = false) ∨
        (delay ≠ .zero ∧ later.immediateReconnect = backoff.immediateReconnect ∧
          SpacedDelay delayInitial delayMax jitterMs delay)) := by
  rw [ExponentialBackoff.nextDuration] at returned
  split at returned
  · rename_i immediate
    cases returned
    exact ⟨⟨steady.initial_eq, steady.max_eq, steady.jitter_eq, steady.positive,
      steady.initial_le, steady.le_max, steady.settled⟩, .inl ⟨rfl, immediate.1, rfl⟩⟩
  · rcases bind_eq_ok_iff.mp returned with ⟨jitter, drawn, returned⟩
    rcases bind_eq_ok_iff.mp returned with ⟨sum, summed, returned⟩
    cases returned
    refine ⟨steady_nextDelay steady, .inr ?_⟩
    have nanos := Duration.add_eq_ok_iff.mp summed
    rw [Duration.nanos_fromMillis] at nanos
    have above : delayInitial.nanos ≤ backoff.delayCurrent.nanos := steady.initial_le
    have below : backoff.delayCurrent.nanos ≤ delayMax.nanos := steady.le_max
    have positive := steady.positive
    have drawn := jitter_le drawn
    rw [steady.jitter_eq] at drawn
    refine ⟨?_, rfl, ?_, ?_⟩
    · intro none
      rw [none] at nanos
      have empty : Duration.zero.nanos = 0 := rfl
      omega
    · show delayInitial.nanos ≤ delay.nanos
      omega
    · omega

/-- A call returns where the jitter has a modulus and fits on top of the delay. -/
theorem nextDuration_returns (steady : Steady delayInitial delayMax jitterMs backoff)
    (modulus : jitterMs.toNat + 1 < UInt64.size)
    (fits : delayInitial.nanos + min jitterMs.toNat 999999999 * 1000000 ≤ Duration.maxNanos)
    (clock : SubsecNanos) :
    ∃ returned, backoff.nextDuration clock = .ok returned := by
  have drawn : ∃ jitter, backoff.jitter clock = .ok jitter :=
    ⟨_, jitter_eq_ok (by rwa [steady.jitter_eq]) clock⟩
  rcases drawn with ⟨jitter, drawn⟩
  have small := jitter_le drawn
  rw [steady.jitter_eq] at small
  have sum : backoff.delayCurrent.nanos + (Duration.fromMillis jitter).nanos ≤
      Duration.maxNanos := by
    rw [Duration.nanos_fromMillis]
    rcases steady.settled with first | settled
    · have same := congrArg Duration.nanos first
      omega
    · have whole : backoff.delayCurrent.nanos ≤ 18446744073709551615 * 1000000 := settled
      simp only [Duration.maxNanos] at fits ⊢
      omega
  rcases Duration.exists_add sum with ⟨delay, summed⟩
  rw [ExponentialBackoff.nextDuration]
  split
  · exact ⟨_, rfl⟩
  · exact ⟨_, bind_eq_ok_iff.mpr ⟨jitter, drawn, bind_eq_ok_iff.mpr ⟨delay, summed, rfl⟩⟩⟩

/-! ## Runs -/

/-- What holds of a backoff and the delays it returned so far. -/
structure BackoffInvariant (delayInitial delayMax : Duration) (jitterMs : UInt64)
    (immediateFirst : Bool) (state : Except BackoffPanic ExponentialBackoff)
    (delays : List Duration) : Prop where
  steady : ∀ backoff, state = .ok backoff → Steady delayInitial delayMax jitterMs backoff
  zeros : delays.count .zero + zerosAhead state ≤ zerosLeft immediateFirst
  spaced : ∀ delay ∈ delays, delay ≠ .zero → SpacedDelay delayInitial delayMax jitterMs delay

/-- A backoff is started with all its zeros ahead, and keeps the bounds. -/
theorem backoffInvariant_start
    (accepted : ExponentialBackoff.new delayInitial delayMax factor jitterMs immediateFirst =
      .ok backoff) :
    BackoffInvariant delayInitial delayMax jitterMs immediateFirst (.ok backoff) [] := by
  rcases steady_of_new accepted with ⟨steady, immediate⟩
  refine ⟨?_, ?_, by simp⟩
  · rintro _ ⟨⟩
    exact steady
  · rw [zerosAhead, immediate, List.count_nil, Nat.zero_add]

/-- A delay that is returned uses up the zero or is spaced. -/
theorem backoffInvariant_returned {delays : List Duration}
    (kept : BackoffInvariant delayInitial delayMax jitterMs immediateFirst (.ok backoff) delays)
    {clock : SubsecNanos} {delay : Duration} {later : ExponentialBackoff}
    (returned : backoff.nextDuration clock = .ok (delay, later)) :
    BackoffInvariant delayInitial delayMax jitterMs immediateFirst (.ok later)
      (delays ++ [delay]) := by
  have zeros := kept.zeros
  rcases nextDuration_of_ok (kept.steady backoff rfl) returned with ⟨moved, immediate | spaced⟩
  · rcases immediate with ⟨rfl, before, after⟩
    refine ⟨?_, ?_, ?_⟩
    · rintro _ ⟨⟩
      exact moved
    · rw [zerosAhead, before] at zeros
      rw [zerosAhead, after, List.count_append, List.count_singleton_self]
      exact zeros
    · intro delay member nonzero
      rcases List.mem_append.mp member with earlier | now
      · exact kept.spaced delay earlier nonzero
      · exact absurd (List.mem_singleton.mp now) nonzero
  · rcases spaced with ⟨nonzero, same, within⟩
    refine ⟨?_, ?_, ?_⟩
    · rintro _ ⟨⟩
      exact moved
    · rw [zerosAhead, same, List.count_append, List.count_singleton, beq_false_of_ne nonzero]
      exact zeros
    · intro other member otherNonzero
      rcases List.mem_append.mp member with earlier | now
      · exact kept.spaced other earlier otherNonzero
      · rw [List.mem_singleton.mp now]
        exact within

theorem backoffInvariant_step (start : ExponentialBackoff)
    (state : Except BackoffPanic ExponentialBackoff) (delays : List Duration)
    (call : BackoffCall)
    (kept : BackoffInvariant delayInitial delayMax jitterMs immediateFirst state delays) :
    BackoffInvariant delayInitial delayMax jitterMs immediateFirst
      (start.machine.next state call) (delays ++ start.machine.emits state call) := by
  cases state with
  | error panic =>
      have silent : start.machine.emits (.error panic) call = [] := by cases call <;> rfl
      have stays : start.machine.next (.error panic) call = .error panic := by
        cases call <;> rfl
      rw [silent, stays, List.append_nil]
      exact kept
  | ok backoff =>
      have fewer : delays.count .zero ≤ zerosLeft immediateFirst :=
        (Nat.le_add_right _ _).trans kept.zeros
      cases call with
      | reset =>
          simp only [Machine.next, Machine.emits, ExponentialBackoff.machine, List.append_nil]
          refine ⟨?_, fewer, kept.spaced⟩
          rintro _ ⟨⟩
          exact steady_reset (kept.steady backoff rfl)
      | nextDuration clock =>
          simp only [Machine.next, Machine.emits, ExponentialBackoff.machine]
          cases returned : backoff.nextDuration clock with
          | error panic =>
              rw [List.append_nil]
              exact ⟨by rintro _ ⟨⟩, fewer, kept.spaced⟩
          | ok pair => exact backoffInvariant_returned kept returned

/-- No call panicked so far. -/
def Unpanicked (delayInitial delayMax : Duration) (jitterMs : UInt64)
    (state : Except BackoffPanic ExponentialBackoff) : Prop :=
  ∃ backoff, state = .ok backoff ∧ Steady delayInitial delayMax jitterMs backoff

/-- No call panics where the jitter has a modulus and fits on top of the first delay. -/
theorem unpanicked_after (steady : Steady delayInitial delayMax jitterMs backoff)
    (modulus : jitterMs.toNat + 1 < UInt64.size)
    (fits : delayInitial.nanos + min jitterMs.toNat 999999999 * 1000000 ≤ Duration.maxNanos)
    (calls : List BackoffCall) :
    Unpanicked delayInitial delayMax jitterMs (backoff.machine.runFrom (.ok backoff) calls) := by
  refine backoff.machine.invariant_runFrom ?_ ⟨backoff, rfl, steady⟩ calls
  rintro _ call ⟨backoff, rfl, steady⟩
  cases call with
  | reset => exact ⟨backoff.reset, rfl, steady_reset steady⟩
  | nextDuration clock =>
      rcases nextDuration_returns steady modulus fits clock with ⟨⟨delay, later⟩, returned⟩
      refine ⟨later, ?_, (nextDuration_of_ok steady returned).1⟩
      simp only [Machine.next, ExponentialBackoff.machine, returned]

/-- Where the call after a reset returns whatever the clock shows, the jitter has a modulus
and fits on top of the first delay. -/
theorem fits_of_returns (steady : Steady delayInitial delayMax jitterMs backoff)
    (returns : ∀ clock, ∃ returned, backoff.reset.nextDuration clock = .ok returned) :
    jitterMs.toNat + 1 < UInt64.size ∧
      delayInitial.nanos + min jitterMs.toNat 999999999 * 1000000 ≤ Duration.maxNanos := by
  have small : min jitterMs.toNat 999999999 < 1000000000 := by omega
  rcases returns (some ⟨min jitterMs.toNat 999999999, small⟩) with ⟨returned, returns⟩
  rw [ExponentialBackoff.nextDuration, if_neg (by simp [ExponentialBackoff.reset])] at returns
  rcases bind_eq_ok_iff.mp returns with ⟨jitter, drawn, returns⟩
  rcases bind_eq_ok_iff.mp returns with ⟨delay, summed, -⟩
  have resets : backoff.reset.jitterMs = jitterMs := steady.jitter_eq
  have modulus := modulus_of_jitter drawn
  have value := jitter_of_ok drawn
  rw [resets] at modulus value
  have nanos := Duration.add_eq_ok_iff.mp summed
  have fits := delay.fits
  have first : backoff.reset.delayCurrent.nanos = delayInitial.nanos :=
    congrArg Duration.nanos steady.initial_eq
  have shown : min jitterMs.toNat 999999999 % (jitterMs.toNat + 1) =
      min jitterMs.toNat 999999999 := Nat.mod_eq_of_lt (by omega)
  rw [nanos, first, Duration.nanos_fromMillis, value, Option.elim_some, shown] at fits
  exact ⟨modulus, fits⟩

end Bounds

/-- After any calls: none of them panicked, the delay is between the bounds, at most one
returned delay was zero, as the parameters ask, and the others were spaced. -/
structure StaysInBounds (delayInitial delayMax : Duration) (jitterMs : UInt64)
    (immediateFirst : Bool) (backoff : ExponentialBackoff) (calls : List BackoffCall) :
    Prop where
  neverPanics : ∃ later, backoff.machine.runFrom (.ok backoff) calls = .ok later
  current : ∀ later, backoff.machine.runFrom (.ok backoff) calls = .ok later →
    delayInitial ≤ later.delayCurrent ∧ later.delayCurrent ≤ delayMax
  zeroOnce : (backoff.machine.outputs (.ok backoff) calls).count .zero ≤
    if immediateFirst then 1 else 0
  spaced : ∀ delay ∈ backoff.machine.outputs (.ok backoff) calls, delay ≠ .zero →
    delayInitial ≤ delay ∧ delay.nanos ≤ delayMax.nanos + jitterMs.toNat * 1000000

/-- The delays and their bounds are right along every run, also one that panics. -/
theorem backoffInvariant_after {delayInitial delayMax : Duration} {factor : Option ℚ}
    {jitterMs : UInt64} {immediateFirst : Bool} {backoff : ExponentialBackoff}
    (accepted : ExponentialBackoff.new delayInitial delayMax factor jitterMs immediateFirst =
      .ok backoff) (calls : List BackoffCall) :
    BackoffInvariant delayInitial delayMax jitterMs immediateFirst
      (backoff.machine.runFrom (.ok backoff) calls)
      (backoff.machine.outputs (.ok backoff) calls) :=
  backoff.machine.invariant_outputs
    (fun state delays call kept => backoffInvariant_step backoff state delays call kept)
    (backoffInvariant_start accepted) calls

/-- No call on a backoff of accepted parameters panics, whatever the clock shows, exactly when
its jitter is not `u64::MAX` and the longest jitter the clock can give fits into a duration on
top of the first delay. -/
theorem never_panics_iff {delayInitial delayMax : Duration} {factor : Option ℚ}
    {jitterMs : UInt64} {immediateFirst : Bool} {backoff : ExponentialBackoff}
    (accepted : ExponentialBackoff.new delayInitial delayMax factor jitterMs immediateFirst =
      .ok backoff) :
    (∀ calls, ∃ later, backoff.machine.runFrom (.ok backoff) calls = .ok later) ↔
      jitterMs.toNat + 1 < UInt64.size ∧
        delayInitial.nanos + min jitterMs.toNat 999999999 * 1000000 ≤ Duration.maxNanos := by
  have steady := (steady_of_new accepted).1
  constructor
  · intro never
    apply fits_of_returns steady
    intro clock
    rcases never [.reset, .nextDuration clock] with ⟨later, ran⟩
    simp only [Machine.runFrom, Machine.next, ExponentialBackoff.machine] at ran
    cases returned : backoff.reset.nextDuration clock with
    | error panic => simp [returned] at ran
    | ok pair => exact ⟨pair, rfl⟩
  · rintro ⟨modulus, fits⟩ calls
    rcases unpanicked_after steady modulus fits calls with ⟨later, ran, -⟩
    exact ⟨later, ran⟩

/-- A backoff of accepted parameters stays in bounds and never panics exactly when its jitter
is not `u64::MAX` and fits on top of the first delay. -/
theorem stays_in_bounds_iff {delayInitial delayMax : Duration} {factor : Option ℚ}
    {jitterMs : UInt64} {immediateFirst : Bool} {backoff : ExponentialBackoff}
    (accepted : ExponentialBackoff.new delayInitial delayMax factor jitterMs immediateFirst =
      .ok backoff) :
    (∀ calls, StaysInBounds delayInitial delayMax jitterMs immediateFirst backoff calls) ↔
      jitterMs.toNat + 1 < UInt64.size ∧
        delayInitial.nanos + min jitterMs.toNat 999999999 * 1000000 ≤ Duration.maxNanos := by
  rw [← never_panics_iff accepted]
  constructor
  · intro stays calls
    exact (stays calls).neverPanics
  · intro never calls
    have kept := backoffInvariant_after accepted calls
    refine ⟨never calls, ?_, (Nat.le_add_right _ _).trans kept.zeros, ?_⟩
    · intro later ran
      have bounds := kept.steady later ran
      exact ⟨bounds.initial_le, bounds.le_max⟩
    · intro delay member nonzero
      have within := kept.spaced delay member nonzero
      exact ⟨within.initial_le, within.le_max⟩

/-- The backoff of a connection with its default bounds and factor. -/
def ExponentialBackoff.sample (jitterMs : UInt64) : ExponentialBackoff :=
  ⟨.fromMillis 500, .fromMillis 30000, .fromMillis 500, 2, jitterMs, true⟩

theorem default_stays_in_bounds :
    ExponentialBackoff.new (.fromMillis 500) (.fromMillis 30000) (some 2) 250 true =
        .ok (.sample 250) ∧
      ∀ calls,
        StaysInBounds (.fromMillis 500) (.fromMillis 30000) 250 true (.sample 250) calls := by
  have accepted : ExponentialBackoff.new (.fromMillis 500) (.fromMillis 30000) (some 2) 250 true =
      .ok (.sample 250) := by decide
  exact ⟨accepted, (stays_in_bounds_iff accepted).mpr (by decide)⟩

/-- A jitter of `u64::MAX` is accepted, and the second call panics. -/
theorem greatest_jitter_panics :
    ExponentialBackoff.new (.fromMillis 500) (.fromMillis 30000) (some 2)
        18446744073709551615 true = .ok (.sample 18446744073709551615) ∧
      ¬StaysInBounds (.fromMillis 500) (.fromMillis 30000) 18446744073709551615 true
        (.sample 18446744073709551615) [.nextDuration none, .nextDuration none] := by
  refine ⟨by decide, ?_⟩
  intro stays
  rcases stays.neverPanics with ⟨later, ran⟩
  have panicked : (ExponentialBackoff.sample 18446744073709551615).machine.runFrom
      (.ok (.sample 18446744073709551615)) [.nextDuration none, .nextDuration none] =
        .error .jitterMsOverflow := by decide
  cases ran.symm.trans panicked

/-! ## The backoff of a connection -/

/-- What `TcpClientConfig` says about reconnects. -/
structure ReconnectConfig where
  reconnectDelayInitialMs : Option UInt64 := some 500
  reconnectDelayMaxMs : Option UInt64 := some 30000
  reconnectBackoffFactor : Option (Option ℚ) := some (some 2)
  reconnectJitterMs : Option UInt64 := some 250

/-- The backoff `connect_url` makes. -/
def ReconnectConfig.backoff (config : ReconnectConfig) : Except String ExponentialBackoff :=
  ExponentialBackoff.new (.fromMillis (config.reconnectDelayInitialMs.getD 500))
    (.fromMillis (config.reconnectDelayMaxMs.getD 30000))
    (config.reconnectBackoffFactor.getD (some 2))
    (config.reconnectJitterMs.getD 250) true

/-- A connection that gets its backoff never meets a panic in it, unless it is configured
with a jitter of `u64::MAX`: first delays given in milliseconds leave room for any jitter. -/
theorem connection_never_panics_iff {config : ReconnectConfig} {backoff : ExponentialBackoff}
    (accepted : config.backoff = .ok backoff) :
    (∀ calls, ∃ later, backoff.machine.runFrom (.ok backoff) calls = .ok later) ↔
      config.reconnectJitterMs.getD 250 ≠ 18446744073709551615 := by
  rw [never_panics_iff accepted]
  have first := Duration.fromMillis_le (config.reconnectDelayInitialMs.getD 500)
  have first : (Duration.fromMillis (config.reconnectDelayInitialMs.getD 500)).nanos ≤
      18446744073709551615 * 1000000 := first
  have room : (Duration.fromMillis (config.reconnectDelayInitialMs.getD 500)).nanos +
      min (config.reconnectJitterMs.getD 250).toNat 999999999 * 1000000 ≤
        Duration.maxNanos := by
    simp only [Duration.maxNanos]
    omega
  rw [and_iff_left room, Ne, ← UInt64.toNat_inj]
  have small := (config.reconnectJitterMs.getD 250).toNat_lt
  have greatest : (18446744073709551615 : UInt64).toNat = 18446744073709551615 := rfl
  have size : UInt64.size = 18446744073709551616 := rfl
  rw [greatest, size]
  omega

end CtpSystem
