import Mathlib.Algebra.Order.Field.Rat
import Mathlib.Data.List.Basic
import Mathlib.Tactic.Positivity

/-!
# The worker that keeps the event stream

The worker consumes the Core's events, attempt after attempt, and waits between two attempts for
longer and longer. `run` gives what a worker does when its attempts end in this way: the attempts it
makes, the delays it waits, and its result, where it has one.

The attempts are counted over the whole life of the worker: a stream that came back and is lost again
counts as one that never came. So the budget is one of failures in a row exactly while no attempt
within it becomes ready (`counts_consecutive_iff`).

A number of seconds is a rational or not a number: doubling is exact, and an infinite number is
refused as any above the limit is.
-/

set_option autoImplicit false

namespace SyncApp

namespace RuntimeEvents

/-! ## Numbers of seconds -/

inductive Seconds where
  | value (q : ℚ)
  | nan
deriving DecidableEq

namespace Seconds

/-- `<` of floats: false where either is not a number. -/
def lt : Seconds → Seconds → Bool
  | value p, value q => p < q
  | _, _ => false

def le : Seconds → Seconds → Bool
  | value p, value q => p ≤ q
  | _, _ => false

/-- `min`: the first, unless the second is below it. -/
def min (first second : Seconds) : Seconds := if second.lt first then second else first

def scale (factor : ℚ) : Seconds → Seconds
  | value q => value (q * factor)
  | nan => nan

def isNumber : Seconds → Bool
  | value _ => true
  | nan => false

end Seconds

/-! ## The worker -/

structure Configuration where
  maxAttempts : Int
  initialBackoffSeconds : Seconds
  maxBackoffSeconds : Seconds
deriving DecidableEq

/-- `_MAX_ATTEMPTS`. -/
def maxAttemptsLimit : Int := 20

/-- `_MAX_BACKOFF_SECONDS`. -/
def maxBackoffLimit : Seconds := .value 300

def backoffInvalid (value : Seconds) : Bool := value.le (.value 0) || maxBackoffLimit.lt value

def validateConfiguration (config : Configuration) : Except String Unit :=
  if ¬(1 ≤ config.maxAttempts ∧ config.maxAttempts ≤ maxAttemptsLimit) then
    .error "runtime event worker attempt limit is invalid"
  else if backoffInvalid config.initialBackoffSeconds || backoffInvalid config.maxBackoffSeconds then
    .error "runtime event worker backoff is invalid"
  else if config.maxBackoffSeconds.lt config.initialBackoffSeconds then
    .error "runtime event worker backoff is invalid"
  else .ok ()

/-- `RuntimeEventWorker`, as its constructor lets it be. -/
structure Worker extends Configuration where
  valid : validateConfiguration toConfiguration = .ok ()

inductive Reason where
  | stopped
  | completed
  | exhausted
  | failed
deriving DecidableEq

structure Result where
  reason : Reason
  attempts : Nat
  reconnects : Nat
  eventsForwarded : Nat
  readinessSignals : Nat
deriving DecidableEq

/-- How the consumer ends. What it returns is an integer or nothing of use; `cancelled` is no
exception that the worker handles. -/
inductive Ending where
  | streamError
  | returned (result : Option Int)
  | raised
  | cancelled
deriving DecidableEq

/-- When a stop is requested in an attempt: before the consumer ends, after that and before its
ending is handled, or in the delay that follows. -/
inductive Stop where
  | never
  | beforeEnd
  | atEnd
  | inDelay
deriving DecidableEq

structure Attempt where
  events : Nat
  readinessSignals : Nat
  mailboxFailed : Bool
  ending : Ending
  stop : Stop
deriving DecidableEq

/-- The counts of `_run`. -/
structure Counts where
  attempts : Nat
  reconnects : Nat
  eventsForwarded : Nat
  readinessSignals : Nat
  mailboxFailed : Bool
deriving DecidableEq

namespace Counts

def start : Counts := ⟨0, 0, 0, 0, false⟩

/-- The counts when an attempt ends. -/
def after (counts : Counts) (attempt : Attempt) : Counts :=
  { counts with
    attempts := counts.attempts + 1
    eventsForwarded := counts.eventsForwarded + attempt.events
    readinessSignals := counts.readinessSignals + attempt.readinessSignals
    mailboxFailed := counts.mailboxFailed || attempt.mailboxFailed }

def reconnect (counts : Counts) : Counts := { counts with reconnects := counts.reconnects + 1 }

def result (counts : Counts) (reason : Reason) : Result :=
  ⟨reason, counts.attempts, counts.reconnects, counts.eventsForwarded, counts.readinessSignals⟩

end Counts

/-- What a worker has done: the attempts, the delays it began to wait, and its result. -/
structure Run where
  made : List Attempt
  delays : List Seconds
  result : Option Result
deriving DecidableEq

namespace Run

def ended (result : Result) : Run := ⟨[], [], some result⟩

def attempted (attempt : Attempt) (run : Run) : Run := { run with made := attempt :: run.made }

def delayed (delay : Seconds) (run : Run) : Run := { run with delays := delay :: run.delays }

end Run

/-- The delay after this many attempts. -/
def delay (config : Configuration) (attempts : Nat) : Seconds :=
  (config.initialBackoffSeconds.scale (2 ^ (attempts - 1))).min config.maxBackoffSeconds

/-- What `_run` makes of a consumer that ended: a result, or `none` where it tries again. -/
def settle (config : Configuration) (counts : Counts) (attempt : Attempt) : Option Result :=
  match attempt.ending with
  | .streamError =>
    if counts.mailboxFailed then some (counts.result .failed)
    else if attempt.stop = .beforeEnd ∨ attempt.stop = .atEnd then some (counts.result .stopped)
    else if config.maxAttempts ≤ counts.attempts then some (counts.result .exhausted)
    else none
  | .returned result =>
    if attempt.stop = .beforeEnd then some (counts.result .stopped)
    else match result with
      | some n => some (counts.result (if 0 ≤ n then .completed else .failed))
      | none => some (counts.result .failed)
  | .raised => some (counts.result .failed)
  | .cancelled =>
    if attempt.stop = .beforeEnd then some (counts.result .stopped)
    -- it leaves `_run`, and `_thread_main` knows no counts
    else some ⟨.failed, 0, 0, 0, 0⟩

/-- `_run`, from these counts, over the attempts that are still to come. -/
def loop (config : Configuration) : Counts → List Attempt → Run
  | counts, [] =>
    if counts.attempts < config.maxAttempts then ⟨[], [], none⟩ else .ended (counts.result .stopped)
  | counts, attempt :: rest =>
    if counts.attempts < config.maxAttempts then
      match settle config (counts.after attempt) attempt with
      | some result => (Run.ended result).attempted attempt
      | none =>
        let counts := (counts.after attempt).reconnect
        let next := if attempt.stop = .inDelay then .ended (counts.result .stopped)
          else loop config counts rest
        (next.delayed (delay config counts.attempts)).attempted attempt
    else .ended (counts.result .stopped)

/-- What the worker does when its attempts end in this way, where a stop may have been requested
before it began. -/
def run (config : Configuration) (stopRequested : Bool) (attempts : List Attempt) : Run :=
  if stopRequested then .ended (Counts.start.result .stopped)
  else loop config .start attempts

/-! ## The bridge -/

/-- `_fail_if_worker_terminated`. -/
def failIfWorkerTerminated (result : Option Result) : Except String Unit :=
  match result with
  | some _ => .error "runtime event bridge transport terminated unexpectedly"
  | none => .ok ()

/-- `tick`, with what the worker's result is before and after the work of the tick. -/
def tick {α : Type} (before after : Option Result) (work : Except String α) : Except String α := do
  failIfWorkerTerminated before
  let done ← work
  failIfWorkerTerminated after
  .ok done

/-! ## Failures in a row -/

namespace Attempt

/-- The stream ends in an error, with no stop requested. -/
def fails (attempt : Attempt) : Bool :=
  attempt.ending = .streamError && attempt.stop ≠ .beforeEnd && attempt.stop ≠ .atEnd

def ready (attempt : Attempt) : Bool := attempt.readinessSignals ≠ 0

end Attempt

/-- After attempts that all failed, as many in a row failed without becoming ready. -/
def Exhausts (budget : Int) (attempts : List Attempt) : Prop :=
  ∃ before row after, attempts = before ++ row ++ after ∧ (row.length : Int) = budget ∧
    (∀ attempt ∈ before, attempt.fails) ∧ ∀ attempt ∈ row, attempt.fails ∧ ¬attempt.ready

/-- The budget is one of failures in a row, a worker within it neither ends nor fails a tick of the
bridge, and the delays grow up to their limit while no attempt becomes ready. -/
structure CountsConsecutive (config : Configuration) (stopRequested : Bool) (run : Run) : Prop where
  exhausted : (∃ result, run.result = some result ∧ result.reason = .exhausted) ↔
    Exhausts config.maxAttempts run.made
  lives : stopRequested = false → (∀ attempt ∈ run.made, attempt.fails ∧ attempt.stop ≠ .inDelay) →
    ¬Exhausts config.maxAttempts run.made → run.result = none ∧
      ∀ {α : Type} (work : Except String α), tick run.result run.result work = work
  positive : ∀ delay ∈ run.delays, (Seconds.value 0).lt delay
  bounded : ∀ delay ∈ run.delays, delay.le config.maxBackoffSeconds
  grows : ∀ (i : Nat) first attempt second, run.delays[i]? = some first →
    run.made[i + 1]? = some attempt → ¬attempt.ready → run.delays[i + 1]? = some second →
    first.le second

/-- Where the first attempts fail, as many as the budget has, none of them becomes ready; and the
backoffs are numbers, where the worker waits at all. -/
structure NeverReady (config : Configuration) (attempts : List Attempt) : Prop where
  unready : ∀ first rest, attempts = first ++ rest → (first.length : Int) = config.maxAttempts →
    (∀ attempt ∈ first, attempt.fails) → (∀ attempt ∈ first.dropLast, attempt.stop ≠ .inDelay) →
    ∀ attempt ∈ first, ¬attempt.ready
  numbers : ∀ attempt rest, attempts = attempt :: rest → attempt.fails → 2 ≤ config.maxAttempts →
    config.initialBackoffSeconds.isNumber ∧ config.maxBackoffSeconds.isNumber

/-! ## What a run can be -/

/-- The runs of a worker that has made `n` attempts, all without a mailbox that failed. -/
inductive Course (config : Configuration) : Nat → List Attempt → Run → Prop where
  | waits {n : Nat} : Course config n [] ⟨[], [], none⟩
  | ends {n : Nat} {attempt : Attempt} {rest : List Attempt} {result : Result}
      (other : ¬attempt.fails) (reason : result.reason ≠ .exhausted) :
      Course config n (attempt :: rest) ⟨[attempt], [], some result⟩
  | exhausts {n : Nat} {attempt : Attempt} {rest : List Attempt} {result : Result}
      (fails : attempt.fails) (last : config.maxAttempts = n + 1)
      (reason : result.reason = .exhausted) :
      Course config n (attempt :: rest) ⟨[attempt], [], some result⟩
  | stops {n : Nat} {attempt : Attempt} {rest : List Attempt} {result : Result}
      (fails : attempt.fails) (more : (n + 1 : Int) < config.maxAttempts)
      (inDelay : attempt.stop = .inDelay) (reason : result.reason = .stopped) :
      Course config n (attempt :: rest) ⟨[attempt], [delay config (n + 1)], some result⟩
  | reconnects {n : Nat} {attempt : Attempt} {rest : List Attempt} {run : Run}
      (fails : attempt.fails) (more : (n + 1 : Int) < config.maxAttempts)
      (goes : attempt.stop ≠ .inDelay) (next : Course config (n + 1) rest run) :
      Course config n (attempt :: rest) ((run.delayed (delay config (n + 1))).attempted attempt)

variable {config : Configuration} {n : Nat} {attempts : List Attempt} {trace : Run}

/-- An attempt that fails is settled by the count of the attempts. -/
theorem settle_fails {counts : Counts} {attempt : Attempt} (calm : counts.mailboxFailed = false)
    (fails : attempt.fails) :
    settle config counts attempt =
      if config.maxAttempts ≤ counts.attempts then some (counts.result .exhausted) else none := by
  simp only [Attempt.fails, Bool.and_eq_true, decide_eq_true_eq] at fails
  obtain ⟨⟨ending, before⟩, atEnd⟩ := fails
  unfold settle
  rw [ending]
  dsimp only
  rw [if_neg (by simp [calm]), if_neg (by simp [before, atEnd])]

/-- Any other ends the worker, and never as exhausted. -/
theorem settle_other {counts : Counts} {attempt : Attempt} (calm : counts.mailboxFailed = false)
    (other : ¬attempt.fails) :
    ∃ result, settle config counts attempt = some result ∧ result.reason ≠ .exhausted := by
  unfold settle
  cases ending : attempt.ending with
  | streamError =>
    have stopped : attempt.stop = .beforeEnd ∨ attempt.stop = .atEnd := by
      by_contra neither
      rw [not_or] at neither
      exact other (by simp [Attempt.fails, ending, neither])
    refine ⟨counts.result .stopped, ?_, by simp [Counts.result]⟩
    dsimp only
    rw [if_neg (by simp [calm]), if_pos stopped]
  | returned result =>
    dsimp only
    split
    · exact ⟨_, rfl, by simp [Counts.result]⟩
    · cases result with
      | none => exact ⟨_, rfl, by simp [Counts.result]⟩
      | some n => exact ⟨_, rfl, by unfold Counts.result; split <;> simp⟩
  | raised => exact ⟨_, rfl, by simp [Counts.result]⟩
  | cancelled =>
    dsimp only
    split
    · exact ⟨_, rfl, by simp [Counts.result]⟩
    · exact ⟨_, rfl, by simp⟩

theorem loop_course {counts : Counts} (budget : (counts.attempts : Int) < config.maxAttempts)
    (calm : counts.mailboxFailed = false) (quiet : ∀ attempt ∈ attempts, ¬attempt.mailboxFailed) :
    Course config counts.attempts attempts (loop config counts attempts) := by
  induction attempts generalizing counts with
  | nil =>
    unfold loop
    rw [if_pos budget]
    exact .waits
  | cons attempt rest ih =>
    obtain ⟨here, later⟩ := List.forall_mem_cons.mp quiet
    have still : (counts.after attempt).mailboxFailed = false := by
      simp [Counts.after, calm, here]
    unfold loop
    rw [if_pos budget]
    by_cases fails : attempt.fails
    · rw [settle_fails still fails]
      by_cases last : config.maxAttempts ≤ (counts.after attempt).attempts
      · rw [if_pos last]
        exact .exhausts fails (by simp only [Counts.after] at last; omega) rfl
      · rw [if_neg last]
        have more : (counts.attempts + 1 : Int) < config.maxAttempts := by
          simp only [Counts.after] at last
          omega
        by_cases inDelay : attempt.stop = .inDelay
        · dsimp only
          rw [if_pos inDelay]
          exact .stops fails more inDelay rfl
        · dsimp only
          rw [if_neg inDelay]
          exact .reconnects fails more inDelay
            (@ih (counts.after attempt).reconnect (by exact_mod_cast more) still later)
    · obtain ⟨result, settled, reason⟩ := @settle_other config _ _ still fails
      rw [settled]
      exact .ends fails reason

namespace Course

theorem made_prefix (course : Course config n attempts trace) :
    ∃ rest, attempts = trace.made ++ rest := by
  induction course with
  | waits => exact ⟨[], rfl⟩
  | ends | exhausts | stops => exact ⟨_, rfl⟩
  | reconnects _ _ _ _ ih =>
    obtain ⟨rest, same⟩ := ih
    exact ⟨rest, congrArg _ same⟩

theorem within (course : Course config n attempts trace) (budget : (n : Int) < config.maxAttempts) :
    (n + trace.made.length : Int) ≤ config.maxAttempts := by
  induction course with
  | waits => simpa using Int.le_of_lt budget
  | ends => simpa [Int.add_one_le_iff] using budget
  | exhausts _ last => simp [last]
  | stops _ more => simpa using Int.le_of_lt more
  | reconnects _ more _ _ ih =>
    have := ih (by exact_mod_cast more)
    simp only [Run.attempted, Run.delayed, List.length_cons]
    omega

/-- An attempt after which another was made. -/
theorem goes_on (course : Course config n attempts trace) :
    ∀ attempt ∈ trace.made.dropLast, attempt.stop ≠ .inDelay := by
  induction course with
  | waits | ends | exhausts | stops => exact fun _ mem => nomatch mem
  | @reconnects n attempt rest trace fails more goes next ih =>
    intro other mem
    simp only [Run.attempted, Run.delayed] at mem
    cases made : trace.made with
    | nil =>
      rw [made] at mem
      cases mem
    | cons first others =>
      rw [made, List.dropLast_cons_cons] at mem
      rcases List.mem_cons.mp mem with rfl | mem
      · exact goes
      · exact ih other (made ▸ mem)

theorem of_exhausted (course : Course config n attempts trace) {result : Result}
    (done : trace.result = some result) (reason : result.reason = .exhausted) :
    (n + trace.made.length : Int) = config.maxAttempts ∧ ∀ attempt ∈ trace.made, attempt.fails := by
  induction course with
  | waits => cases done
  | ends other unlike =>
    cases done
    exact absurd reason unlike
  | exhausts fails last =>
    exact ⟨by simp [last], fun other mem => List.mem_singleton.mp mem ▸ fails⟩
  | stops fails more inDelay stopped =>
    cases done
    rw [stopped] at reason
    cases reason
  | reconnects fails more goes next ih =>
    obtain ⟨length, all⟩ := ih done
    refine ⟨?_, List.forall_mem_cons.mpr ⟨fails, all⟩⟩
    simp only [Run.attempted, Run.delayed, List.length_cons]
    omega

theorem exhausted {first rest : List Attempt} (course : Course config n attempts trace)
    (same : attempts = first ++ rest) (made : first ≠ [])
    (length : (n + first.length : Int) = config.maxAttempts)
    (fails : ∀ attempt ∈ first, attempt.fails)
    (goes : ∀ attempt ∈ first.dropLast, attempt.stop ≠ .inDelay) :
    ∃ result, trace.result = some result ∧ result.reason = .exhausted := by
  induction course generalizing first with
  | waits => exact absurd (List.append_eq_nil_iff.mp same.symm).1 made
  | ends other =>
    obtain ⟨attempt, others, rfl⟩ := List.exists_cons_of_ne_nil made
    cases same
    exact absurd (fails _ List.mem_cons_self) other
  | exhausts _ _ reason => exact ⟨_, rfl, reason⟩
  | stops _ more inDelay =>
    obtain ⟨attempt, others, rfl⟩ := List.exists_cons_of_ne_nil made
    cases same
    cases others with
    | nil => simp only [List.length_singleton] at length; omega
    | cons next others => exact absurd inDelay (goes _ (by simp))
  | reconnects _ more _ _ ih =>
    obtain ⟨attempt, others, rfl⟩ := List.exists_cons_of_ne_nil made
    cases same
    have more' : others ≠ [] := by
      rintro rfl
      simp only [List.length_singleton] at length
      omega
    refine ih rfl more' (by simp only [List.length_cons] at length; omega)
      (List.forall_mem_cons.mp fails).2 fun other mem => goes other ?_
    rw [List.dropLast_cons_of_ne_nil more']
    exact List.mem_cons_of_mem _ mem

theorem lives_on (course : Course config n attempts trace)
    (all : ∀ attempt ∈ trace.made, attempt.fails ∧ attempt.stop ≠ .inDelay) :
    trace.result = none ∨ ∃ result, trace.result = some result ∧ result.reason = .exhausted := by
  induction course with
  | waits => exact .inl rfl
  | ends other => exact absurd (all _ List.mem_cons_self).1 other
  | exhausts _ _ reason => exact .inr ⟨_, rfl, reason⟩
  | stops _ _ inDelay => exact absurd inDelay (all _ List.mem_cons_self).2
  | reconnects _ _ _ _ ih => exact ih (List.forall_mem_cons.mp all).2

theorem delay_eq (course : Course config n attempts trace) {i : Nat} {waited : Seconds}
    (there : trace.delays[i]? = some waited) : waited = delay config (n + 1 + i) := by
  induction course generalizing i with
  | waits | ends | exhausts => cases there
  | stops =>
    cases i with
    | zero => exact (Option.some.inj there).symm
    | succ i => cases there
  | reconnects _ _ _ _ ih =>
    cases i with
    | zero => exact (Option.some.inj there).symm
    | succ i =>
      rw [ih there]
      congr 1
      omega

/-- A worker that waits has failed before the end of its budget. -/
theorem of_delay (course : Course config n attempts trace) {waited : Seconds}
    (mem : waited ∈ trace.delays) :
    ∃ attempt rest, attempts = attempt :: rest ∧ attempt.fails ∧
      (n + 1 : Int) < config.maxAttempts := by
  cases course with
  | waits | ends | exhausts => cases mem
  | stops fails more => exact ⟨_, _, rfl, fails, more⟩
  | reconnects fails more => exact ⟨_, _, rfl, fails, more⟩

theorem delays_first {attempt : Attempt} {rest : List Attempt}
    (course : Course config n (attempt :: rest) trace) (fails : attempt.fails)
    (more : (n + 1 : Int) < config.maxAttempts) : delay config (n + 1) ∈ trace.delays := by
  cases course with
  | ends other => exact absurd fails other
  | exhausts _ last => omega
  | stops => exact List.mem_cons_self
  | reconnects => exact List.mem_cons_self

end Course

/-! ## Delays -/

theorem validate_numbers {first last : ℚ}
    (valid : validateConfiguration config = .ok ())
    (initial : config.initialBackoffSeconds = .value first)
    (limit : config.maxBackoffSeconds = .value last) : 0 < first ∧ first ≤ last := by
  unfold validateConfiguration at valid
  split at valid
  · cases valid
  split at valid
  · cases valid
  next right =>
    split at valid
    · cases valid
    next ordered =>
      simp only [backoffInvalid, initial, limit, Seconds.le, Seconds.lt, maxBackoffLimit,
        Bool.or_eq_true, decide_eq_true_eq, not_or, not_le, not_lt] at right ordered
      exact ⟨right.1.1, ordered⟩

theorem delay_value {first last : ℚ} (initial : config.initialBackoffSeconds = .value first)
    (limit : config.maxBackoffSeconds = .value last) (n : Nat) :
    delay config n = .value (min (first * 2 ^ (n - 1)) last) := by
  unfold delay
  rw [initial, limit]
  unfold Seconds.scale Seconds.min
  simp only [Seconds.lt, decide_eq_true_eq]
  split
  next below => rw [min_eq_right (le_of_lt below)]
  next above => rw [min_eq_left (not_lt.mp above)]

/-- Between numbers, a delay is positive, at most the limit, and no less than the one before. -/
theorem delay_ordered (valid : validateConfiguration config = .ok ())
    (initial : config.initialBackoffSeconds.isNumber) (limit : config.maxBackoffSeconds.isNumber)
    (n : Nat) :
    (Seconds.value 0).lt (delay config n) ∧ (delay config n).le config.maxBackoffSeconds ∧
      (delay config n).le (delay config (n + 1)) := by
  cases first : config.initialBackoffSeconds with
  | nan => rw [first] at initial; cases initial
  | value p =>
    cases last : config.maxBackoffSeconds with
    | nan => rw [last] at limit; cases limit
    | value q =>
      obtain ⟨positive, ordered⟩ := validate_numbers valid first last
      have grown : p * 2 ^ (n - 1) ≤ p * 2 ^ (n + 1 - 1) :=
        mul_le_mul_of_nonneg_left (pow_le_pow_right₀ one_le_two (by omega)) (le_of_lt positive)
      simp only [delay_value first last, Seconds.lt, Seconds.le, decide_eq_true_eq]
      exact ⟨lt_min (by positivity) (positive.trans_le ordered), min_le_right _ _,
        min_le_min_right q grown⟩

/-- A first delay that is positive and within the limit is one between numbers. -/
theorem numbers_of_delay (positive : (Seconds.value 0).lt (delay config 1))
    (bounded : (delay config 1).le config.maxBackoffSeconds) :
    config.initialBackoffSeconds.isNumber ∧ config.maxBackoffSeconds.isNumber := by
  unfold delay at positive bounded
  cases first : config.initialBackoffSeconds with
  | nan =>
    rw [first] at positive
    cases last : config.maxBackoffSeconds with
    | nan => rw [last] at positive; cases positive
    | value q => rw [last] at positive; cases positive
  | value p =>
    cases last : config.maxBackoffSeconds with
    | nan => rw [first, last] at bounded; cases bounded
    | value q => exact ⟨rfl, rfl⟩

/-! ## The budget -/

theorem Worker.budget (worker : Worker) : (0 : Int) < worker.maxAttempts := by
  have valid := worker.valid
  unfold validateConfiguration at valid
  split at valid
  · cases valid
  next right => exact Int.lt_of_add_one_le (not_not.mp right).1

/-- **The budget counts failures in a row exactly where no attempt within it becomes ready.** -/
theorem counts_consecutive_iff (worker : Worker) (stopRequested : Bool) (attempts : List Attempt)
    (quiet : ∀ attempt ∈ attempts, ¬attempt.mailboxFailed) :
    CountsConsecutive worker.toConfiguration stopRequested
        (run worker.toConfiguration stopRequested attempts) ↔
      (stopRequested = false → NeverReady worker.toConfiguration attempts) := by
  have budget := worker.budget
  cases stopRequested with
  | true =>
    refine ⟨fun _ early => (nomatch early), fun _ => ?_⟩
    have stopped : run worker.toConfiguration true attempts =
        .ended (Counts.start.result .stopped) := rfl
    rw [stopped]
    refine ⟨⟨?_, ?_⟩, (fun early => nomatch early), (fun _ mem => nomatch mem),
      (fun _ mem => nomatch mem), fun _ _ _ _ there => nomatch there⟩
    · rintro ⟨result, done, reason⟩
      cases done
      cases reason
    · rintro ⟨before, row, after, none, length, -⟩
      obtain ⟨none, -⟩ := List.append_eq_nil_iff.mp none.symm
      obtain ⟨-, rfl⟩ := List.append_eq_nil_iff.mp none
      simp only [List.length_nil] at length
      omega
  | false =>
    have course : Course worker.toConfiguration 0 attempts
        (run worker.toConfiguration false attempts) :=
      @loop_course _ _ .start budget rfl quiet
    generalize run worker.toConfiguration false attempts = trace at course
    constructor
    · intro counts _
      refine ⟨?_, ?_⟩
      · intro first rest same length fails goes
        have made : first ≠ [] := by
          rintro rfl
          simp only [List.length_nil] at length
          omega
        have ended := course.exhausted same made (by simpa using length) fails goes
        obtain ⟨before, row, after, parts, long, -, unready⟩ := counts.exhausted.mp ended
        obtain ⟨result, done, reason⟩ := ended
        obtain ⟨whole, -⟩ := course.of_exhausted done reason
        obtain ⟨later, prefixed⟩ := course.made_prefix
        -- the row is all that was made, and so it is these attempts
        have lengths := congrArg List.length parts
        simp only [List.length_append] at lengths
        have first_eq : trace.made = first :=
          List.append_inj_left (prefixed.symm.trans same) (by omega)
        obtain rfl : before = [] := List.eq_nil_of_length_eq_zero (by omega)
        obtain rfl : after = [] := List.eq_nil_of_length_eq_zero (by omega)
        rw [List.nil_append, List.append_nil, first_eq] at parts
        exact fun attempt mem => (unready attempt (parts ▸ mem)).2
      · rintro attempt rest rfl fails more
        have waited := course.delays_first fails (by omega)
        exact numbers_of_delay (counts.positive _ waited) (counts.bounded _ waited)
    · intro never
      obtain ⟨unready, numbers⟩ := never rfl
      have ordered {waited : Seconds} (mem : waited ∈ trace.delays) (n : Nat) :
          (Seconds.value 0).lt (delay worker.toConfiguration n) ∧
            (delay worker.toConfiguration n).le worker.maxBackoffSeconds ∧
            (delay worker.toConfiguration n).le (delay worker.toConfiguration (n + 1)) := by
        obtain ⟨attempt, rest, rfl, fails, more⟩ := course.of_delay mem
        obtain ⟨initial, limit⟩ := numbers attempt rest rfl fails (by omega)
        exact delay_ordered worker.valid initial limit n
      have delays {waited : Seconds} (mem : waited ∈ trace.delays) :
          ∃ n, waited = delay worker.toConfiguration n := by
        obtain ⟨i, bound, there⟩ := List.mem_iff_getElem.mp mem
        exact ⟨_, course.delay_eq (there ▸ List.getElem?_eq_getElem bound)⟩
      have exhausted : (∃ result, trace.result = some result ∧ result.reason = .exhausted) ↔
          Exhausts worker.maxAttempts trace.made := by
        constructor
        · rintro ⟨result, done, reason⟩
          obtain ⟨whole, fails⟩ := course.of_exhausted done reason
          obtain ⟨rest, same⟩ := course.made_prefix
          have fresh := unready trace.made rest same (by simpa using whole) fails course.goes_on
          exact ⟨[], trace.made, [], by simp, by simpa using whole, (fun _ mem => nomatch mem),
            fun attempt mem => ⟨fails attempt mem, fresh attempt mem⟩⟩
        · rintro ⟨before, row, after, parts, long, -, lost⟩
          obtain ⟨rest, same⟩ := course.made_prefix
          have lengths := congrArg List.length parts
          simp only [List.length_append] at lengths
          have within := course.within budget
          obtain rfl : before = [] := List.eq_nil_of_length_eq_zero (by omega)
          obtain rfl : after = [] := List.eq_nil_of_length_eq_zero (by omega)
          rw [List.nil_append, List.append_nil] at parts
          refine course.exhausted same (fun none => ?_) (by rw [parts]; simpa using long)
            (fun attempt mem => (lost attempt (parts ▸ mem)).1) course.goes_on
          rw [none] at parts
          rw [← parts] at long
          simp only [List.length_nil] at long
          omega
      refine ⟨exhausted, ?_, ?_, ?_, ?_⟩
      · intro _ all within
        have running : trace.result = none :=
          (course.lives_on all).resolve_right fun ended => within (exhausted.mp ended)
        refine ⟨running, fun {α} work => ?_⟩
        rw [running]
        cases work <;> rfl
      · intro waited mem
        obtain ⟨n, rfl⟩ := delays mem
        exact (ordered mem n).1
      · intro waited mem
        obtain ⟨n, rfl⟩ := delays mem
        exact (ordered mem n).2.1
      · intro i first attempt second before _ _ after
        rw [course.delay_eq before, course.delay_eq after]
        exact (ordered (List.mem_of_getElem? before) _).2.2

/-- The worker as the bridge makes it. -/
def bridgeWorker : Worker where
  maxAttempts := 5
  initialBackoffSeconds := .value 1
  maxBackoffSeconds := .value 30
  valid := by decide

/-- A stream that came back and is lost again. -/
def lostStream : Attempt := ⟨3, 1, false, .streamError, .never⟩

/-- A stream that never comes back. -/
def deadStream : Attempt := ⟨0, 0, false, .streamError, .never⟩

/-- The worker of the bridge, and a Core that stays away. -/
theorem dead_stream_counts :
    CountsConsecutive bridgeWorker.toConfiguration false
      (run bridgeWorker.toConfiguration false (List.replicate 5 deadStream)) := by
  refine (counts_consecutive_iff bridgeWorker false (List.replicate 5 deadStream) ?_).mpr
    fun _ => ⟨?_, ?_⟩
  · exact fun attempt mem => (List.eq_of_mem_replicate mem) ▸ (by decide)
  · intro first rest same _ _ _ attempt mem
    have held : attempt ∈ List.replicate 5 deadStream := same ▸ List.mem_append_left rest mem
    exact (List.eq_of_mem_replicate held) ▸ (by decide)
  · exact fun _ _ _ _ _ => ⟨rfl, rfl⟩

/-- A Core that comes back within the budget five times over ends the worker, and the tick after. -/
theorem lost_stream_exhausts :
    ¬CountsConsecutive bridgeWorker.toConfiguration false
      (run bridgeWorker.toConfiguration false (List.replicate 5 lostStream)) := by
  intro counts
  obtain ⟨before, row, after, parts, long, -, lost⟩ :=
    counts.exhausted.mp ⟨⟨.exhausted, 5, 4, 15, 5⟩, by decide +kernel, rfl⟩
  cases row with
  | nil => cases long
  | cons attempt row =>
    have made : (run bridgeWorker.toConfiguration false (List.replicate 5 lostStream)).made =
        List.replicate 5 lostStream := by decide +kernel
    have held : attempt ∈ before ++ (attempt :: row) ++ after := by simp
    rw [← parts, made] at held
    exact absurd (List.eq_of_mem_replicate held ▸ (by decide)) (lost attempt List.mem_cons_self).2

end RuntimeEvents

end SyncApp
