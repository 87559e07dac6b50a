import DsBench.Foundation.Crew
import DsBench.Workloads.MultiStreamPool
import DsBench.Workloads.MultiStreamResult

/-! # The counters of a pool

The workers of a pool share their counters, the list of errors and, at the end, the
histogram. Between two accesses of one worker any number of accesses of the others may
come. A step here makes at most one access.
-/

namespace DsBench.Workloads.PoolAccounting

open MultiStreamPool

/-! ## What is shared -/

/-- `*errors.entry(error).or_default() += 1` on an ordered map. -/
def recordError (error : Text) : List ErrorCount → List ErrorCount
  | [] => [⟨error, 1⟩]
  | entry :: rest =>
      if error = entry.error then { entry with count := entry.count + 1 } :: rest
      else if error < entry.error then ⟨error, 1⟩ :: entry :: rest
      else entry :: recordError error rest

/-- What an observer of the pool sees: an iteration that is begun with an append, in the
measure window or not, and the answer to an append of such an iteration. -/
inductive Event where
  | issued (counting : Bool)
  | answered (counting : Bool) (answer : Answer)

/-- The histogram is the list of its samples in microseconds. The history is nothing the
program keeps. -/
structure Shared where
  ok : Nat
  okAll : Nat
  lazyCreates : Nat
  bp : Nat
  err : Nat
  errors : List ErrorCount
  hist : List Nat
  history : List Event

def Shared.start : Shared := ⟨0, 0, 0, 0, 0, [], [], []⟩

def Shared.observe (shared : Shared) (event : Event) : Shared :=
  { shared with history := shared.history ++ [event] }

/-! ## The worker -/

inductive Effect where
  | addOkAll
  | addOk
  | record (started : Nat)
  | addBp
  | addErr
  | recordError (error : Text)
deriving DecidableEq

inductive Control where
  | head
  | waiting (counting : Bool) (global started : Nat)
  | creating (counting : Bool) (global started : Nat)
  | retrying (counting : Bool) (global started : Nat)
  | applying (effects : List Effect)
  | leaving
  | finished
deriving DecidableEq

structure Worker where
  control : Control
  rr : Nat
  samples : List Nat

/-- What the world does next for a worker: the clock readings at the head of its loop,
the answer to an append or to a create, or leave to go on at an instant. -/
inductive Input where
  | look (checked now started : Nat)
  | answer (answer : Answer)
  | created (ok : Bool)
  | go (now : Nat)

/-- `record`: whole microseconds, within the bounds of the histogram. -/
def sampleOf (started now : Nat) : Nat := max (min ((now - started) / 1000) 60000000) 1

def succeeded (counting : Bool) (started : Nat) : List Effect :=
  .addOkAll :: if counting then [.addOk, .record started] else []

def failed (counting : Bool) (error : Text) : List Effect :=
  if counting then [.addErr, .recordError error] else []

def backedOff (counting : Bool) : List Effect := if counting then [.addBp] else []

def afterAppend (shared : Shared) (counting : Bool) (global started : Nat) :
    Answer → Shared × Control
  | .ok status =>
      if isSuccess status then (shared, .applying (succeeded counting started))
      else if status = 404 then
        ({ shared with lazyCreates := shared.lazyCreates + 1 },
          .creating counting global started)
      else if isBackpressure status then (shared, .applying (backedOff counting))
      else (shared, .applying (failed counting ("http_status_".toList ++ decimal status)))
  | .error message => (shared, .applying (failed counting message))

def afterRetry (counting : Bool) (started : Nat) : Answer → Control
  | .ok status =>
      if isSuccess status then .applying (succeeded counting started)
      else .applying (failed counting
        ("http_status_".toList ++ decimal status ++ "_after_create".toList))
  | .error message => .applying (failed counting message)

def Effect.carryOut (args : PoolArgs) (now : Nat) (shared : Shared) (worker : Worker) :
    Effect → Shared × Worker
  | .addOkAll => ({ shared with okAll := shared.okAll + args.recsPerPost }, worker)
  | .addOk => ({ shared with ok := shared.ok + args.recsPerPost }, worker)
  | .record started =>
      (shared, { worker with samples := worker.samples ++ [sampleOf started now] })
  | .addBp => ({ shared with bp := shared.bp + 1 }, worker)
  | .addErr => ({ shared with err := shared.err + 1 }, worker)
  | .recordError error =>
      ({ shared with errors := PoolAccounting.recordError error shared.errors }, worker)

/-- `pool_worker` over the range that begins at `lo`, one step at a time. -/
def workerStep (args : PoolArgs) (lo span : Nat) (shared : Shared) (worker : Worker) :
    Input → Option (Shared × Worker)
  | .look checked now started =>
      match worker.control with
      | .head =>
          if checked < args.deadline then
            if args.warmupEnd ≤ now ∧ now < args.measureStart then some (shared, worker)
            else
              let counting := decide (args.measureStart ≤ now)
              some (shared.observe (.issued counting),
                { worker with
                  control := .waiting counting (lo + worker.rr) started
                  rr := (worker.rr + 1) % span })
          else some (shared, { worker with control := .leaving })
      | _ => none
  | .answer answer =>
      match worker.control with
      | .waiting counting global started =>
          let handled := afterAppend (shared.observe (.answered counting answer)) counting
            global started answer
          some (handled.1, { worker with control := handled.2 })
      | .retrying counting _ started =>
          some (shared.observe (.answered counting answer),
            { worker with control := afterRetry counting started answer })
      | _ => none
  | .created ok =>
      match worker.control with
      | .creating counting global started =>
          if ok then
            some (shared, { worker with control := .retrying counting global started })
          else some (shared,
            { worker with control := .applying (failed counting "create_failed".toList) })
      | _ => none
  | .go now =>
      match worker.control with
      | .applying [] => some (shared, { worker with control := .head })
      | .applying (effect :: effects) =>
          some (effect.carryOut args now shared
            { worker with control := .applying effects })
      | .leaving =>
          some ({ shared with hist := shared.hist ++ worker.samples },
            { worker with control := .finished, samples := [] })
      | _ => none

/-! ## The pool -/

/-- How many keys worker `w` goes around. -/
def span (lo hi c w : Nat) : Nat :=
  max ((workerSlice lo hi c w).1.2 - (workerSlice lo hi c w).1.1) 1

def startWorker (lo hi c w : Nat) : Worker where
  control := .head
  rr := (workerSlice lo hi c w).2 % span lo hi c w
  samples := []

/-- `run_pool` with `c` workers over the pod's slice. -/
def runPool (args : PoolArgs) (lo hi c : Nat) :
    TransitionSystem (Shared × (Fin c → Worker)) :=
  crew (fun w => workerStep args (workerSlice lo hi c w).1.1 (span lo hi c w))
    (.start, fun w => startWorker lo hi c w)

def Shared.counts (shared : Shared) : Counts := ⟨shared.ok, shared.bp, shared.err⟩

def Event.isMeasured : Event → Bool
  | .issued counting => counting
  | .answered _ _ => false

def Answer.succeeds : Answer → Bool
  | .ok status => decide (isSuccess status)
  | .error _ => false

def Event.isSuccess : Event → Bool
  | .issued _ => false
  | .answered _ answer => Answer.succeeds answer

def Event.isMeasuredSuccess : Event → Bool
  | .issued _ => false
  | .answered counting answer => counting && Answer.succeeds answer

def Shared.measuredIterations (shared : Shared) : Nat :=
  shared.history.countP Event.isMeasured

def Shared.successes (shared : Shared) : Nat := shared.history.countP Event.isSuccess

def Shared.measuredSuccesses (shared : Shared) : Nat :=
  shared.history.countP Event.isMeasuredSuccess

@[simp] theorem observe_ok (shared : Shared) (event : Event) :
    (shared.observe event).ok = shared.ok := rfl

@[simp] theorem observe_okAll (shared : Shared) (event : Event) :
    (shared.observe event).okAll = shared.okAll := rfl

@[simp] theorem observe_bp (shared : Shared) (event : Event) :
    (shared.observe event).bp = shared.bp := rfl

@[simp] theorem observe_err (shared : Shared) (event : Event) :
    (shared.observe event).err = shared.err := rfl

@[simp] theorem observe_errors (shared : Shared) (event : Event) :
    (shared.observe event).errors = shared.errors := rfl

@[simp] theorem observe_hist (shared : Shared) (event : Event) :
    (shared.observe event).hist = shared.hist := rfl

@[simp] theorem measuredIterations_observe (shared : Shared) (event : Event) :
    (shared.observe event).measuredIterations =
      shared.measuredIterations + if event.isMeasured then 1 else 0 := by
  simp [Shared.observe, Shared.measuredIterations, List.countP_singleton]

@[simp] theorem successes_observe (shared : Shared) (event : Event) :
    (shared.observe event).successes =
      shared.successes + if event.isSuccess then 1 else 0 := by
  simp [Shared.observe, Shared.successes, List.countP_singleton]

@[simp] theorem measuredSuccesses_observe (shared : Shared) (event : Event) :
    (shared.observe event).measuredSuccesses =
      shared.measuredSuccesses + if event.isMeasuredSuccess then 1 else 0 := by
  simp [Shared.observe, Shared.measuredSuccesses, List.countP_singleton]

def errorTotal (errors : List ErrorCount) : Nat := (errors.map ErrorCount.count).sum

/-- All workers of the pool have come to the end of their tasks. -/
def Joined {c : Nat} (state : Shared × (Fin c → Worker)) : Prop :=
  ∀ w, (state.2 w).control = .finished

theorem carryOut_control (args : PoolArgs) (now : Nat) (shared : Shared) (worker : Worker)
    (effect : Effect) :
    (effect.carryOut args now shared worker).2.control = worker.control := by
  cases effect <;> rfl

theorem errorTotal_recordError (error : Text) (errors : List ErrorCount) :
    errorTotal (recordError error errors) = errorTotal errors + 1 := by
  induction errors with
  | nil => rfl
  | cons entry rest induction =>
      rw [recordError]
      split
      · simp only [errorTotal, List.map_cons, List.sum_cons]
        omega
      · split
        · simp only [errorTotal, List.map_cons, List.sum_cons]
          omega
        · simp only [errorTotal, List.map_cons, List.sum_cons] at induction ⊢
          omega

/-! ## What a step can be -/

inductive WorkerMove (args : PoolArgs) (lo span : Nat) (shared : Shared) (rr : Nat)
    (samples : List Nat) : Control → Shared × Worker → Prop where
  | idle : WorkerMove args lo span shared rr samples .head (shared, ⟨.head, rr, samples⟩)
  | issue (counting : Bool) (started : Nat) :
      WorkerMove args lo span shared rr samples .head
        (shared.observe (.issued counting),
          ⟨.waiting counting (lo + rr) started, (rr + 1) % span, samples⟩)
  | leave : WorkerMove args lo span shared rr samples .head
      (shared, ⟨.leaving, rr, samples⟩)
  | answered (counting : Bool) (global started : Nat) (answer : Answer) :
      WorkerMove args lo span shared rr samples (.waiting counting global started)
        ((afterAppend (shared.observe (.answered counting answer)) counting global started
            answer).1,
          ⟨(afterAppend (shared.observe (.answered counting answer)) counting global
            started answer).2, rr, samples⟩)
  | retried (counting : Bool) (global started : Nat) (answer : Answer) :
      WorkerMove args lo span shared rr samples (.retrying counting global started)
        (shared.observe (.answered counting answer),
          ⟨afterRetry counting started answer, rr, samples⟩)
  | created (counting : Bool) (global started : Nat) :
      WorkerMove args lo span shared rr samples (.creating counting global started)
        (shared, ⟨.retrying counting global started, rr, samples⟩)
  | notCreated (counting : Bool) (global started : Nat) :
      WorkerMove args lo span shared rr samples (.creating counting global started)
        (shared, ⟨.applying (failed counting "create_failed".toList), rr, samples⟩)
  | done : WorkerMove args lo span shared rr samples (.applying [])
      (shared, ⟨.head, rr, samples⟩)
  | carry (now : Nat) (effect : Effect) (effects : List Effect) :
      WorkerMove args lo span shared rr samples (.applying (effect :: effects))
        (effect.carryOut args now shared ⟨.applying effects, rr, samples⟩)
  | merge : WorkerMove args lo span shared rr samples .leaving
      ({ shared with hist := shared.hist ++ samples }, ⟨.finished, rr, []⟩)

theorem workerStep_moves {args : PoolArgs} {lo span : Nat} {shared : Shared}
    {worker : Worker} {input : Input} {next : Shared × Worker}
    (step : workerStep args lo span shared worker input = some next) :
    WorkerMove args lo span shared worker.rr worker.samples worker.control next := by
  rcases worker with ⟨control, rr, samples⟩
  cases input with
  | look checked now started =>
      cases control with
      | head =>
          simp only [workerStep] at step
          split at step
          · split at step
            · cases step
              exact .idle
            · cases step
              exact .issue (decide (args.measureStart ≤ now)) started
          · cases step
            exact .leave
      | _ => cases step
  | answer answer =>
      cases control with
      | waiting counting global started =>
          cases step
          exact .answered counting global started answer
      | retrying counting global started =>
          cases step
          exact .retried counting global started answer
      | _ => cases step
  | created ok =>
      cases control with
      | creating counting global started =>
          cases ok with
          | true =>
              cases step
              exact .created counting global started
          | false =>
              cases step
              exact .notCreated counting global started
      | _ => cases step
  | go now =>
      cases control with
      | applying effects =>
          cases effects with
          | nil =>
              cases step
              exact .done
          | cons effect effects =>
              cases step
              exact .carry now effect effects
      | leaving =>
          cases step
          exact .merge
      | _ => cases step

/-! ## Books -/

def worth (weight : Effect → ℤ) (effects : List Effect) : ℤ := (effects.map weight).sum

/-- An account of the shared state, with what a worker owes to it: so much for each effect
it still has to carry out, for each sample it keeps, and for a measured iteration under
way. The entries of every path of an iteration cancel out. -/
structure Book (args : PoolArgs) where
  common : Shared → ℤ
  weight : Effect → ℤ
  sample : ℤ
  underWay : ℤ
  opened : common .start = 0
  issued : ∀ shared counting,
    common (shared.observe (.issued counting)) + (if counting then underWay else 0) =
      common shared
  lazy : ∀ shared : Shared,
    common { shared with lazyCreates := shared.lazyCreates + 1 } = common shared
  success : ∀ shared counting answer started, Answer.succeeds answer = true →
    common (shared.observe (.answered counting answer)) +
        worth weight (succeeded counting started) =
      common shared + if counting then underWay else 0
  refused : ∀ shared counting answer, Answer.succeeds answer = false →
    common (shared.observe (.answered counting answer)) = common shared
  failure : ∀ counting error,
    worth weight (failed counting error) = if counting then underWay else 0
  backoff : ∀ counting, worth weight (backedOff counting) = if counting then underWay else 0
  carried : ∀ now shared worker (effect : Effect),
    common (effect.carryOut args now shared worker).1 +
        sample * (effect.carryOut args now shared worker).2.samples.length =
      common shared + sample * worker.samples.length + weight effect
  merged : ∀ (shared : Shared) samples,
    common { shared with hist := shared.hist ++ samples } =
      common shared + sample * samples.length

namespace Book

variable {args : PoolArgs} (book : Book args)

def owed : Control → ℤ
  | .waiting counting _ _ => if counting then book.underWay else 0
  | .creating counting _ _ => if counting then book.underWay else 0
  | .retrying counting _ _ => if counting then book.underWay else 0
  | .applying effects => worth book.weight effects
  | .head => 0
  | .leaving => 0
  | .finished => 0

def own (worker : Worker) : ℤ :=
  book.owed worker.control + book.sample * worker.samples.length

theorem refused_balanced {shared : Shared} {counting : Bool} {answer : Answer}
    (refused : Answer.succeeds answer = false) {effects : List Effect}
    (paid : worth book.weight effects = if counting then book.underWay else 0) :
    book.common (shared.observe (.answered counting answer)) +
        book.owed (.applying effects) =
      book.common shared + if counting then book.underWay else 0 := by
  rw [book.refused shared counting answer refused, owed, paid]

theorem afterAppend_balanced (shared : Shared) (counting : Bool) (global started : Nat)
    (answer : Answer) :
    book.common (afterAppend (shared.observe (.answered counting answer)) counting global
        started answer).1 +
      book.owed (afterAppend (shared.observe (.answered counting answer)) counting global
        started answer).2 =
      book.common shared + if counting then book.underWay else 0 := by
  cases answer with
  | error message => exact book.refused_balanced rfl (book.failure counting message)
  | ok status =>
      rw [afterAppend]
      by_cases success : isSuccess status
      · rw [if_pos success]
        exact book.success shared counting (.ok status) started (decide_eq_true success)
      · have refused : Answer.succeeds (.ok status) = false := decide_eq_false success
        rw [if_neg success]
        by_cases missing : status = 404
        · rw [if_pos missing, book.lazy, book.refused shared counting (.ok status) refused]
          rfl
        · rw [if_neg missing]
          by_cases backpressure : isBackpressure status
          · rw [if_pos backpressure]
            exact book.refused_balanced refused (book.backoff counting)
          · rw [if_neg backpressure]
            exact book.refused_balanced refused (book.failure counting _)

theorem afterRetry_balanced (shared : Shared) (counting : Bool) (started : Nat)
    (answer : Answer) :
    book.common (shared.observe (.answered counting answer)) +
        book.owed (afterRetry counting started answer) =
      book.common shared + if counting then book.underWay else 0 := by
  cases answer with
  | error message => exact book.refused_balanced rfl (book.failure counting message)
  | ok status =>
      rw [afterRetry]
      by_cases success : isSuccess status
      · rw [if_pos success]
        exact book.success shared counting (.ok status) started (decide_eq_true success)
      · have refused : Answer.succeeds (.ok status) = false := decide_eq_false success
        rw [if_neg success]
        exact book.refused_balanced refused (book.failure counting _)

theorem workerStep_balanced {lo span : Nat} {shared : Shared} {worker : Worker}
    {input : Input} {next : Shared × Worker}
    (step : workerStep args lo span shared worker input = some next) :
    book.common next.1 + book.own next.2 = book.common shared + book.own worker := by
  have move := workerStep_moves step
  rcases worker with ⟨control, rr, samples⟩
  cases move with
  | idle => rfl
  | issue counting started =>
      have balanced := book.issued shared counting
      simp only [own, owed] at balanced ⊢
      linarith
  | leave => rfl
  | answered counting global started answer =>
      have balanced := book.afterAppend_balanced shared counting global started answer
      simp only [own, owed] at balanced ⊢
      linarith
  | retried counting global started answer =>
      have balanced := book.afterRetry_balanced shared counting started answer
      simp only [own, owed] at balanced ⊢
      linarith
  | created counting global started => rfl
  | notCreated counting global started => simp only [own, owed, book.failure]
  | done => rfl
  | carry now effect effects =>
      have balanced := book.carried now shared ⟨.applying effects, rr, samples⟩ effect
      have stays :=
        carryOut_control args now shared ⟨.applying effects, rr, samples⟩ effect
      simp only [own, stays, owed, worth, List.map_cons, List.sum_cons] at balanced ⊢
      linarith
  | merge =>
      simp only [own, owed, book.merged]
      simp

end Book

/-! ## The end of a worker -/

/-- A worker that has come to its end has merged its samples. -/
def Settled (worker : Worker) : Prop := worker.control = .finished → worker.samples = []

theorem settled_of_ne {worker : Worker} (running : worker.control ≠ .finished) :
    Settled worker := fun finished => absurd finished running

theorem afterAppend_ne_finished (shared : Shared) (counting : Bool) (global started : Nat)
    (answer : Answer) :
    (afterAppend shared counting global started answer).2 ≠ .finished := by
  cases answer with
  | error message => exact Control.noConfusion
  | ok status =>
      rw [afterAppend]
      split
      · exact Control.noConfusion
      · split
        · exact Control.noConfusion
        · split
          · exact Control.noConfusion
          · exact Control.noConfusion

theorem afterRetry_ne_finished (counting : Bool) (started : Nat) (answer : Answer) :
    afterRetry counting started answer ≠ .finished := by
  cases answer with
  | error message => exact Control.noConfusion
  | ok status =>
      rw [afterRetry]
      split
      · exact Control.noConfusion
      · exact Control.noConfusion

theorem workerStep_settled {args : PoolArgs} {lo span : Nat} {shared : Shared}
    {worker : Worker} {input : Input} {next : Shared × Worker}
    (step : workerStep args lo span shared worker input = some next) : Settled next.2 := by
  have move := workerStep_moves step
  rcases worker with ⟨control, rr, samples⟩
  cases move with
  | merge =>
      intro finished
      rfl
  | answered counting global started answer =>
      exact settled_of_ne (afterAppend_ne_finished _ counting global started answer)
  | retried counting global started answer =>
      exact settled_of_ne (afterRetry_ne_finished counting started answer)
  | carry now effect effects =>
      apply settled_of_ne
      rw [carryOut_control]
      exact Control.noConfusion
  | _ => exact settled_of_ne Control.noConfusion

/-- Once all workers have come to their ends the books are even. -/
theorem Book.even_when_joined {args : PoolArgs} (book : Book args) {lo hi c : Nat}
    {state : Shared × (Fin c → Worker)} (reachable : (runPool args lo hi c).Reachable state)
    (joined : Joined state) : book.common state.1 = 0 := by
  have settled : ∀ w, Settled (state.2 w) := by
    apply crew_keeps Settled _ _ reachable
    · intro w
      exact settled_of_ne Control.noConfusion
    · intro w shared worker input next _ step
      exact workerStep_settled step
  have conserved := crew_conserves
    (fun w shared worker input next step => book.workerStep_balanced step) reachable
  have nothingOwed : ∀ w, book.own (state.2 w) = 0 := by
    intro w
    rw [Book.own, joined w, settled w (joined w)]
    simp [Book.owed]
  have nothingYet : ∀ w, book.own (startWorker lo hi c w) = 0 := by
    intro w
    simp [Book.own, startWorker, Book.owed]
  simpa only [total, nothingOwed, nothingYet, book.opened, Finset.sum_const_zero, add_zero]
    using conserved

/-! ## The books of a pool -/

/-- Records counted against samples taken. -/
def recordsBook (args : PoolArgs) : Book args where
  common shared := shared.ok - args.recsPerPost * shared.hist.length
  weight
    | .addOk => args.recsPerPost
    | .record _ => -args.recsPerPost
    | _ => 0
  sample := -args.recsPerPost
  underWay := 0
  opened := by simp [Shared.start]
  issued := by
    intro shared counting
    cases counting <;> simp
  lazy := by
    intro shared
    rfl
  success := by
    intro shared counting answer started succeeds
    cases counting <;> simp [succeeded, worth]
  refused := by
    intro shared counting answer refused
    rfl
  failure := by
    intro counting error
    cases counting <;> simp [failed, worth]
  backoff := by
    intro counting
    cases counting <;> simp [backedOff, worth]
  carried := by
    intro now shared worker effect
    cases effect <;> simp [Effect.carryOut] <;> ring
  merged := by
    intro shared samples
    simp
    ring

/-- Errors on the list against errors counted. -/
def errorsBook (args : PoolArgs) : Book args where
  common shared := errorTotal shared.errors - shared.err
  weight
    | .recordError _ => 1
    | .addErr => -1
    | _ => 0
  sample := 0
  underWay := 0
  opened := by simp [Shared.start, errorTotal]
  issued := by
    intro shared counting
    cases counting <;> simp
  lazy := by
    intro shared
    rfl
  success := by
    intro shared counting answer started succeeds
    cases counting <;> simp [succeeded, worth]
  refused := by
    intro shared counting answer refused
    rfl
  failure := by
    intro counting error
    cases counting <;> simp [failed, worth]
  backoff := by
    intro counting
    cases counting <;> simp [backedOff, worth]
  carried := by
    intro now shared worker effect
    cases effect <;> simp [Effect.carryOut, errorTotal_recordError] <;> ring
  merged := by
    intro shared samples
    simp

/-- Measured iterations against what became of them. -/
def iterationsBook (args : PoolArgs) : Book args where
  common shared :=
    shared.measuredIterations - (shared.hist.length + shared.bp + shared.err)
  weight
    | .record _ => -1
    | .addBp => -1
    | .addErr => -1
    | _ => 0
  sample := -1
  underWay := -1
  opened := by simp [Shared.start, Shared.measuredIterations]
  issued := by
    intro shared counting
    cases counting with
    | true =>
        simp [Event.isMeasured]
        ring
    | false => simp [Event.isMeasured]
  lazy := by
    intro shared
    rfl
  success := by
    intro shared counting answer started succeeds
    cases counting <;> simp [Event.isMeasured, succeeded, worth]
  refused := by
    intro shared counting answer refused
    simp [Event.isMeasured]
  failure := by
    intro counting error
    cases counting <;> simp [failed, worth]
  backoff := by
    intro counting
    cases counting <;> simp [backedOff, worth]
  carried := by
    intro now shared worker effect
    cases effect <;> simp [Effect.carryOut, Shared.measuredIterations] <;> ring
  merged := by
    intro shared samples
    simp [Shared.measuredIterations]
    ring

/-- Records of all phases against appends that returned success. -/
def successBook (args : PoolArgs) : Book args where
  common shared := shared.okAll - args.recsPerPost * shared.successes
  weight
    | .addOkAll => args.recsPerPost
    | _ => 0
  sample := 0
  underWay := 0
  opened := by simp [Shared.start, Shared.successes]
  issued := by
    intro shared counting
    simp [Event.isSuccess]
  lazy := by
    intro shared
    rfl
  success := by
    intro shared counting answer started succeeds
    cases counting <;> simp [Event.isSuccess, succeeds, succeeded, worth] <;> ring
  refused := by
    intro shared counting answer refused
    simp [Event.isSuccess, refused]
  failure := by
    intro counting error
    cases counting <;> simp [failed, worth]
  backoff := by
    intro counting
    cases counting <;> simp [backedOff, worth]
  carried := by
    intro now shared worker effect
    cases effect <;> simp [Effect.carryOut, Shared.successes]
    ring
  merged := by
    intro shared samples
    simp [Shared.successes]

/-- Appends of measured iterations that returned success against samples taken. -/
def samplesBook (args : PoolArgs) : Book args where
  common shared := shared.measuredSuccesses - shared.hist.length
  weight
    | .record _ => -1
    | _ => 0
  sample := -1
  underWay := 0
  opened := by simp [Shared.start, Shared.measuredSuccesses]
  issued := by
    intro shared counting
    simp [Event.isMeasuredSuccess]
  lazy := by
    intro shared
    rfl
  success := by
    intro shared counting answer started succeeds
    cases counting <;> simp [Event.isMeasuredSuccess, succeeds, succeeded, worth]
    ring
  refused := by
    intro shared counting answer refused
    simp [Event.isMeasuredSuccess, refused]
  failure := by
    intro counting error
    cases counting <;> simp [failed, worth]
  backoff := by
    intro counting
    cases counting <;> simp [backedOff, worth]
  carried := by
    intro now shared worker effect
    cases effect <;> simp [Effect.carryOut, Shared.measuredSuccesses]
    ring
  merged := by
    intro shared samples
    simp [Shared.measuredSuccesses]
    ring

theorem measuredSuccesses_le (shared : Shared) :
    shared.measuredSuccesses ≤ shared.successes := by
  apply List.countP_mono_left
  intro event _ measured
  cases event with
  | issued counting => cases measured
  | answered counting answer => exact (Bool.and_eq_true_iff.mp measured).2

/-- At the end of a pool its counters, its list of errors and its histogram agree with
each other, and with what was sent and answered. -/
theorem pool_accounts_balance (args : PoolArgs) (lo hi c : Nat)
    (state : Shared × (Fin c → Worker)) (reachable : (runPool args lo hi c).Reachable state)
    (joined : Joined state) :
    state.1.hist.length * args.recsPerPost = state.1.counts.ok ∧
      errorTotal state.1.errors = state.1.counts.otherErr ∧
      state.1.measuredIterations =
        state.1.hist.length + state.1.counts.backpressure + state.1.counts.otherErr ∧
      state.1.counts.ok ≤ state.1.okAll ∧
      state.1.okAll = args.recsPerPost * state.1.successes := by
  have records : (state.1.ok : ℤ) - args.recsPerPost * state.1.hist.length = 0 :=
    (recordsBook args).even_when_joined reachable joined
  have errors : (errorTotal state.1.errors : ℤ) - state.1.err = 0 :=
    (errorsBook args).even_when_joined reachable joined
  have iterations : (state.1.measuredIterations : ℤ) -
      (state.1.hist.length + state.1.bp + state.1.err) = 0 :=
    (iterationsBook args).even_when_joined reachable joined
  have successes : (state.1.okAll : ℤ) - args.recsPerPost * state.1.successes = 0 :=
    (successBook args).even_when_joined reachable joined
  have samples : (state.1.measuredSuccesses : ℤ) - state.1.hist.length = 0 :=
    (samplesBook args).even_when_joined reachable joined
  have ok : state.1.ok = args.recsPerPost * state.1.hist.length := by
    have same := sub_eq_zero.mp records
    exact_mod_cast same
  have okAll : state.1.okAll = args.recsPerPost * state.1.successes := by
    have same := sub_eq_zero.mp successes
    exact_mod_cast same
  have taken : state.1.hist.length ≤ state.1.successes := by
    have fewer := measuredSuccesses_le state.1
    omega
  simp only [Shared.counts]
  refine ⟨?_, by omega, by omega, ?_, okAll⟩
  · rw [ok, Nat.mul_comm]
  · rw [ok, okAll]
    exact Nat.mul_le_mul_left _ taken

def batchesOfTwo : PoolArgs := ⟨2, 0, 0, 10⟩

def first : Fin 2 := ⟨0, Nat.two_pos⟩

def second : Fin 2 := ⟨1, Nat.one_lt_two⟩

/-- Two workers take turns. One finds its stream missing, creates it and appends again,
the other is told to back off. -/
def twoTurns : List (Fin 2 × Input) :=
  [(first, .look 0 0 0), (second, .look 0 0 0), (first, .answer (.ok 404)),
    (second, .answer (.ok 503)), (first, .created true), (second, .go 5),
    (first, .answer (.ok 200)), (first, .go 5), (second, .go 6), (first, .go 6),
    (second, .look 12 12 12), (first, .go 7), (first, .go 8), (second, .go 12),
    (first, .look 13 13 13), (first, .go 14)]

def afterTwoTurns : Option (Shared × (Fin 2 → Worker)) :=
  TransitionSystem.perform (fun _ _ => true)
    (crewAct fun w => workerStep batchesOfTwo (workerSlice 0 2 2 w).1.1 (span 0 2 2 w))
    (.start, fun w => startWorker 0 2 2 w) twoTurns

theorem pool_accounts_balance_of_twoTurns :
    ∃ state : Shared × (Fin 2 → Worker),
      (runPool batchesOfTwo 0 2 2).Reachable state ∧ Joined state ∧ state.1.okAll = 2 ∧
      state.1.hist.length * batchesOfTwo.recsPerPost = state.1.counts.ok ∧
        errorTotal state.1.errors = state.1.counts.otherErr ∧
        state.1.measuredIterations =
          state.1.hist.length + state.1.counts.backpressure + state.1.counts.otherErr ∧
        state.1.counts.ok ≤ state.1.okAll ∧
        state.1.okAll = batchesOfTwo.recsPerPost * state.1.successes := by
  have run : afterTwoTurns.map (fun state =>
      (state.1.okAll, (state.2 0).control, (state.2 1).control)) =
        some (2, .finished, .finished) := by
    decide +kernel
  rw [Option.map_eq_some_iff] at run
  rcases run with ⟨state, performed, facts⟩
  rw [Prod.mk.injEq, Prod.mk.injEq] at facts
  rcases facts with ⟨records, first, second⟩
  have reachable : (runPool batchesOfTwo 0 2 2).Reachable state :=
    TransitionSystem.reachable_of_perform (.initial rfl) performed
  have joined : Joined state := by
    rw [Joined, Fin.forall_fin_two]
    exact ⟨first, second⟩
  exact ⟨state, reachable, joined, records,
    pool_accounts_balance batchesOfTwo 0 2 2 state reachable joined⟩

end DsBench.Workloads.PoolAccounting
