import DsBench.Foundation.PacedQueue
import DsBench.Workloads.Mixed
import DsBench.Workloads.PoolAccounting
import Mathlib.Algebra.Field.Rat
import Mathlib.Data.NNRat.Defs

/-! # The sustained workload

One open-loop writer for each stream. Instants are exact seconds; time advances only in
sleeps and in awaited replies, and a sleep may end late but not early.
-/

namespace DsBench.Workloads.Sustained

open Mixed (scheduledSend)
open PoolAccounting (recordError)

structure SustainedArgs where
  streams : Nat
  ratePerStream : Nat
  durationSecs : Nat

/-! ## The writer -/

/-- What the world does during one pass of the writer loop: a reply's status, or the
error chain of a send that got none. -/
structure Pass where
  oversleep : ℚ≥0
  delay : ℚ≥0
  reply : Except Text Nat
  backoffLag : ℚ≥0

namespace Pass

variable (pass : Pass)

def succeeds : Bool :=
  match pass.reply with
  | .ok status => decide (isSuccess status)
  | .error _ => false

def occupied : ℚ :=
  match pass.reply with
  | .ok status =>
      if ¬ isSuccess status ∧ isBackpressure status then
        pass.delay + 20 / 1000 + pass.backoffLag
      else pass.delay
  | .error _ => pass.delay

theorem delay_le_occupied : pass.delay ≤ pass.occupied := by
  have delay := pass.delay.coe_nonneg
  have lag := pass.backoffLag.coe_nonneg
  rw [occupied]
  split
  · split
    · linarith
    · exact le_refl _
  · exact le_refl _

theorem occupied_nonneg : 0 ≤ pass.occupied :=
  pass.delay.coe_nonneg.trans pass.delay_le_occupied

end Pass

/-- A request and its answer. The slot is the value of the loop's counter; the sequence
number goes along where the backend has producers. -/
structure Request where
  slot : Nat
  seq : Nat
  issued : ℚ
  answered : ℚ
  succeeded : Bool
deriving DecidableEq, Repr

/-- The locals of a writer and what it adds to the shared counters. The requests are
nothing the program keeps. -/
structure WriterState where
  now : ℚ
  n : Nat
  seq : Nat
  ok : Nat
  bp : Nat
  err : Nat
  errors : List ErrorCount
  latencies : List ℚ
  requests : List Request

def WriterState.start (base : ℚ) : WriterState := ⟨base, 0, 0, 0, 0, 0, [], [], []⟩

/-- Send the append that was due at `scheduled`, and handle what comes of it. -/
def WriterState.append (state : WriterState) (pass : Pass) (scheduled issued : ℚ) :
    WriterState :=
  let answered := issued + pass.delay
  let request : Request := ⟨state.n, state.seq, issued, answered, pass.succeeds⟩
  let sent := { state with n := state.n + 1, requests := state.requests ++ [request] }
  match pass.reply with
  | .ok status =>
      if isSuccess status then
        { sent with
          now := answered
          ok := sent.ok + 1
          latencies := sent.latencies ++ [answered - scheduled]
          seq := sent.seq + 1 }
      else if isBackpressure status then
        { sent with now := answered + 20 / 1000 + pass.backoffLag, bp := sent.bp + 1 }
      else
        { sent with
          now := answered
          err := sent.err + 1
          errors := recordError ("http_status_".toList ++ decimal status) sent.errors }
  | .error chain =>
      { sent with
        now := answered
        err := sent.err + 1
        errors := recordError chain sent.errors }

/-- The writer loop, for at most `fuel` passes. Without fuel it has not returned. -/
def runWriter (rate : Nat) (base deadline : ℚ) (passes : Nat → Pass) :
    Nat → WriterState → Option WriterState
  | 0, _ => none
  | fuel + 1, state =>
      let pass := passes state.n
      let scheduled := scheduledSend base state.n rate
      let woken := sleepUntil scheduled pass.oversleep state.now
      if deadline ≤ woken then some { state with now := woken, n := state.n + 1 }
      else runWriter rate base deadline passes fuel (state.append pass scheduled woken)

/-- How a run unfolds: when it sets its deadline, how much later each writer reads its
base instant, and what each of its passes meets. -/
structure Drive (args : SustainedArgs) where
  opened : ℚ
  spawnLag : Fin args.streams → ℚ≥0
  passes : Fin args.streams → Nat → Pass

namespace Drive

variable {args : SustainedArgs} (drive : Drive args)

def deadline : ℚ := drive.opened + args.durationSecs

def base (idx : Fin args.streams) : ℚ := drive.opened + drive.spawnLag idx

def writer (idx : Fin args.streams) (fuel : Nat) : Option WriterState :=
  runWriter args.ratePerStream (drive.base idx) drive.deadline (drive.passes idx) fuel
    (.start (drive.base idx))

end Drive

/-- `run` with its check. Every writer is awaited. -/
def run (args : SustainedArgs) (drive : Drive args) (fuel : Nat) :
    Except Text (Fin args.streams → Option WriterState) :=
  if 0 < args.ratePerStream then .ok fun idx => drive.writer idx fuel
  else .error "--rate-per-stream must be > 0".toList

/-! ## The loop is a paced queue -/

/-- What sending an append leaves, whatever comes of it: one request more, one answer
more, and a latency if it succeeded. -/
structure Appended (state : WriterState) (pass : Pass) (scheduled issued : ℚ)
    (next : WriterState) : Prop where
  now : next.now = issued + pass.occupied
  n : next.n = state.n + 1
  requests : next.requests = state.requests ++
    [⟨state.n, state.seq, issued, issued + pass.delay, pass.succeeds⟩]
  latencies : next.latencies = state.latencies ++
    if pass.succeeds then [issued + pass.delay - scheduled] else []
  answers : next.ok + next.bp + next.err = state.ok + state.bp + state.err + 1

theorem append_appended (state : WriterState) (pass : Pass) (scheduled issued : ℚ) :
    Appended state pass scheduled issued (state.append pass scheduled issued) := by
  rw [WriterState.append]
  cases reply : pass.reply with
  | error chain =>
      exact {
        now := by simp [Pass.occupied, reply]
        n := rfl
        requests := rfl
        latencies := by simp [Pass.succeeds, reply]
        answers := by dsimp only; omega }
  | ok status =>
      by_cases success : isSuccess status
      · simp only [if_pos success]
        exact {
          now := by simp [Pass.occupied, reply, success]
          n := rfl
          requests := rfl
          latencies := by simp [Pass.succeeds, reply, success]
          answers := by dsimp only; omega }
      · by_cases busy : isBackpressure status
        · simp only [if_neg success, if_pos busy]
          exact {
            now := by simp [Pass.occupied, reply, success, busy, add_assoc]
            n := rfl
            requests := rfl
            latencies := by simp [Pass.succeeds, reply, success]
            answers := by dsimp only; omega }
        · simp only [if_neg success, if_neg busy]
          exact {
            now := by simp [Pass.occupied, reply, success, busy]
            n := rfl
            requests := rfl
            latencies := by simp [Pass.succeeds, reply, success]
            answers := by dsimp only; omega }

section

variable (rate : Nat) (base : ℚ) (passes : Nat → Pass)

def schedule : PacedQueue ℚ where
  opens := base
  due slot := scheduledSend base slot rate
  late slot := (passes slot).oversleep
  busy slot := (passes slot).occupied
  opens_le := by simp [scheduledSend]
  late_nonneg slot := (passes slot).oversleep.coe_nonneg
  busy_nonneg slot := (passes slot).occupied_nonneg

def stateAt : Nat → WriterState
  | 0 => .start base
  | slot + 1 => (stateAt slot).append (passes slot) ((schedule rate base passes).due slot)
      ((schedule rate base passes).starts slot)

@[simp] theorem stateAt_n (slot : Nat) : (stateAt rate base passes slot).n = slot := by
  induction slot with
  | zero => rfl
  | succ slot induction => rw [stateAt, (append_appended _ _ _ _).n, induction]

theorem stateAt_now (slot : Nat) :
    (stateAt rate base passes slot).now = (schedule rate base passes).free slot := by
  cases slot with
  | zero => rfl
  | succ slot =>
      rw [stateAt, (append_appended _ _ _ _).now, PacedQueue.free_succ]
      rfl

def returnedAt (slot : Nat) : WriterState :=
  { stateAt rate base passes slot with
    now := (schedule rate base passes).starts slot
    n := slot + 1 }

def requestFor (slot : Nat) : Request where
  slot := slot
  seq := (stateAt rate base passes slot).seq
  issued := (schedule rate base passes).starts slot
  answered := (schedule rate base passes).starts slot + (passes slot).delay
  succeeded := (passes slot).succeeds

variable {rate base passes} {deadline : ℚ} {count : Nat}

theorem runWriter_of_leavesAt
    (leaves : (schedule rate base passes).LeavesAt deadline count)
    {slot fuel : Nat} (reached : slot ≤ count) (enough : count < slot + fuel) :
    runWriter rate base deadline passes fuel (stateAt rate base passes slot) =
      some (returnedAt rate base passes count) := by
  induction fuel generalizing slot with
  | zero => omega
  | succ fuel induction =>
      have woken : sleepUntil (scheduledSend base slot rate) (passes slot).oversleep
          (stateAt rate base passes slot).now =
            (schedule rate base passes).starts slot := by
        rw [stateAt_now]
        rfl
      rw [runWriter, stateAt_n]
      simp only [woken]
      rcases Nat.lt_or_eq_of_le reached with earlier | last
      · rw [if_neg (not_le.mpr (leaves.before slot earlier))]
        exact induction (Nat.succ_le_of_lt earlier) (by omega)
      · subst last
        rw [if_pos leaves.past, returnedAt]

variable (rate base passes)

theorem stateAt_requests (slot : Nat) : (stateAt rate base passes slot).requests =
    (List.range slot).map (requestFor rate base passes) := by
  induction slot with
  | zero => rfl
  | succ slot induction =>
      rw [stateAt, (append_appended _ _ _ _).requests, induction, stateAt_n,
        List.range_succ, List.map_append]
      rfl

theorem stateAt_latencies (slot : Nat) : (stateAt rate base passes slot).latencies =
    ((stateAt rate base passes slot).requests.filter Request.succeeded).map
      fun request => request.answered - scheduledSend base request.slot rate := by
  induction slot with
  | zero => rfl
  | succ slot induction =>
      rw [stateAt, (append_appended _ _ _ _).latencies, (append_appended _ _ _ _).requests,
        induction, stateAt_n, List.filter_append, List.map_append]
      cases (passes slot).succeeds with
      | false => simp
      | true => simp [schedule]

theorem stateAt_answers (slot : Nat) :
    (stateAt rate base passes slot).ok + (stateAt rate base passes slot).bp +
      (stateAt rate base passes slot).err = slot := by
  induction slot with
  | zero => rfl
  | succ slot induction => rw [stateAt, (append_appended _ _ _ _).answers, induction]

theorem length_returnedAt (slot : Nat) :
    (returnedAt rate base passes slot).requests.length = slot := by
  rw [returnedAt, stateAt_requests, List.length_map, List.length_range]

theorem mem_returnedAt {request : Request} {slot : Nat} :
    request ∈ (returnedAt rate base passes slot).requests ↔
      ∃ earlier < slot, requestFor rate base passes earlier = request := by
  rw [returnedAt, stateAt_requests, List.mem_map]
  simp only [List.mem_range]

end

/-! ## Pacing -/

theorem scheduledSend_of_paced (base : ℚ) (n : Nat) {rate : Nat} (paced : 0 < rate) :
    scheduledSend base n rate = base + n / rate := by
  rw [scheduledSend, max_eq_left]
  exact_mod_cast paced

/-- An open-loop writer that neither slips nor runs ahead: what it sent and recorded by
the time it returned. -/
structure KeepsPace (args : SustainedArgs) (base deadline : ℚ) (passes : Nat → Pass)
    (returned : WriterState) : Prop where
  /-- The `k`-th request is the one for slot `k`. -/
  slots : returned.requests.map Request.slot = List.range returned.requests.length
  answers : ∀ request ∈ returned.requests,
    request.answered = request.issued + (passes request.slot).delay ∧
      request.succeeded = (passes request.slot).succeeds
  due : ∀ request ∈ returned.requests,
    base + request.slot / args.ratePerStream ≤ request.issued
  inTime : ∀ request ∈ returned.requests, request.issued < deadline
  offered : returned.requests.length ≤ args.ratePerStream * args.durationSecs
  recorded : returned.latencies =
    (returned.requests.filter Request.succeeded).map fun request =>
      request.answered - (base + request.slot / args.ratePerStream)
  queueing : ∀ request ∈ returned.requests, request.answered - request.issued ≤
    request.answered - (base + request.slot / args.ratePerStream)
  /-- A slot whose sleep would have ended in time was left because the last request
  still held up the writer at the deadline. -/
  heldUp : base + returned.requests.length / args.ratePerStream +
      (passes returned.requests.length).oversleep < deadline →
    ∃ request, returned.requests.getLast? = some request ∧
      deadline ≤ request.issued + (passes request.slot).occupied

section

variable {args : SustainedArgs} {base deadline : ℚ} {passes : Nat → Pass} {count : Nat}

theorem due_le_issued (paced : 0 < args.ratePerStream) {request : Request}
    (member : request ∈ (returnedAt args.ratePerStream base passes count).requests) :
    base + request.slot / args.ratePerStream ≤ request.issued := by
  rcases (mem_returnedAt _ _ _).mp member with ⟨slot, _, rfl⟩
  have due := (schedule args.ratePerStream base passes).due_le_starts slot
  rw [← scheduledSend_of_paced base _ paced]
  exact due

theorem heldUp_of_leavesAt (paced : 0 < args.ratePerStream)
    (leaves : (schedule args.ratePerStream base passes).LeavesAt deadline count)
    (inTime : base + count / args.ratePerStream + (passes count).oversleep < deadline) :
    ∃ request,
      (returnedAt args.ratePerStream base passes count).requests.getLast? = some request ∧
      deadline ≤ request.issued + (passes request.slot).occupied := by
  rw [← scheduledSend_of_paced base count paced] at inTime
  rcases leaves.held_up inTime with ⟨last, rfl, stillBusy⟩
  refine ⟨requestFor args.ratePerStream base passes last, ?_, stillBusy⟩
  rw [returnedAt, stateAt_requests, List.range_succ, List.map_append, List.map_singleton,
    List.getLast?_concat]

theorem keepsPace_of_leavesAt (paced : 0 < args.ratePerStream)
    (leaves : (schedule args.ratePerStream base passes).LeavesAt deadline count)
    (offered : count ≤ args.ratePerStream * args.durationSecs) :
    KeepsPace args base deadline passes
      (returnedAt args.ratePerStream base passes count) where
  slots := by
    rw [length_returnedAt, returnedAt, stateAt_requests, List.map_map]
    exact List.map_id _
  answers := by
    intro request member
    rcases (mem_returnedAt _ _ _).mp member with ⟨slot, _, rfl⟩
    exact ⟨rfl, rfl⟩
  due request member := due_le_issued paced member
  inTime := by
    intro request member
    rcases (mem_returnedAt _ _ _).mp member with ⟨slot, before, rfl⟩
    exact leaves.before slot before
  offered := by
    rw [length_returnedAt]
    exact offered
  recorded := by
    rw [returnedAt, stateAt_latencies]
    apply List.map_congr_left
    intro request _
    rw [scheduledSend_of_paced base request.slot paced]
  queueing request member := sub_le_sub_left (due_le_issued paced member) _
  heldUp := by
    rw [length_returnedAt]
    exact heldUp_of_leavesAt paced leaves

end

namespace Drive

variable {args : SustainedArgs} (drive : Drive args)

theorem offered_past (idx : Fin args.streams) (paced : 0 < args.ratePerStream) :
    drive.deadline ≤ (schedule args.ratePerStream (drive.base idx) (drive.passes idx)).due
      (args.ratePerStream * args.durationSecs) := by
  have positive : (args.ratePerStream : ℚ) ≠ 0 := by exact_mod_cast paced.ne'
  calc
    drive.deadline = drive.opened + args.durationSecs := rfl
    _ ≤ drive.base idx + args.durationSecs :=
      add_le_add_left (le_add_of_nonneg_right (drive.spawnLag idx).coe_nonneg) _
    _ = scheduledSend (drive.base idx) (args.ratePerStream * args.durationSecs)
        args.ratePerStream := by
      rw [scheduledSend_of_paced _ _ paced, Nat.cast_mul, mul_div_cancel_left₀ _ positive]

/-- A writer returns, and keeps its pace, whatever the server does. -/
theorem writer_keeps_pace (idx : Fin args.streams) (paced : 0 < args.ratePerStream) :
    ∃ returned,
      (∀ fuel, args.ratePerStream * args.durationSecs < fuel →
        drive.writer idx fuel = some returned) ∧
      KeepsPace args (drive.base idx) drive.deadline (drive.passes idx) returned ∧
      returned.ok + returned.bp + returned.err = returned.requests.length := by
  rcases PacedQueue.exists_leavesAt _ (drive.offered_past idx paced) with
    ⟨count, offered, leaves⟩
  refine ⟨returnedAt args.ratePerStream (drive.base idx) (drive.passes idx) count,
    fun fuel enough => ?_, keepsPace_of_leavesAt paced leaves offered, ?_⟩
  · exact runWriter_of_leavesAt leaves (Nat.zero_le count) (by omega)
  · rw [length_returnedAt]
    exact stateAt_answers _ _ _ count

theorem run_returns (paced : 0 < args.ratePerStream) :
    ∃ returned : Fin args.streams → WriterState,
      (∀ fuel, args.ratePerStream * args.durationSecs < fuel →
        run args drive fuel = .ok fun idx => some (returned idx)) ∧
      ∀ idx, KeepsPace args (drive.base idx) drive.deadline (drive.passes idx)
          (returned idx) ∧
        (returned idx).ok + (returned idx).bp + (returned idx).err =
          (returned idx).requests.length := by
  choose returned returns keeps using fun idx => drive.writer_keeps_pace idx paced
  refine ⟨returned, fun fuel enough => ?_, keeps⟩
  rw [run, if_pos paced]
  congr 1
  funext idx
  exact returns idx fuel enough

/-- The counters of a run add up to no more than the load it was to offer. -/
theorem counts_le_offered (paced : 0 < args.ratePerStream) :
    ∃ returned : Fin args.streams → WriterState,
      (∀ fuel, args.ratePerStream * args.durationSecs < fuel →
        run args drive fuel = .ok fun idx => some (returned idx)) ∧
      ∑ idx, ((returned idx).ok + (returned idx).bp + (returned idx).err) ≤
        args.streams * (args.ratePerStream * args.durationSecs) := by
  rcases drive.run_returns paced with ⟨returned, returns, keeps⟩
  refine ⟨returned, returns, ?_⟩
  calc
    ∑ idx, ((returned idx).ok + (returned idx).bp + (returned idx).err) ≤
        ∑ _idx : Fin args.streams, args.ratePerStream * args.durationSecs := by
      apply Finset.sum_le_sum
      intro idx _
      rw [(keeps idx).2]
      exact (keeps idx).1.offered
    _ = args.streams * (args.ratePerStream * args.durationSecs) := by
      rw [Finset.sum_const, Finset.card_univ, Fintype.card_fin, smul_eq_mul]

end Drive

/-- Every writer of a run returns and keeps its pace, whatever the servers do. -/
theorem sustained_run_keeps_pace (args : SustainedArgs) (paced : 1 ≤ args.ratePerStream)
    (drive : Drive args) :
    ∃ returned : Fin args.streams → WriterState,
      (∀ fuel, args.ratePerStream * args.durationSecs < fuel →
        run args drive fuel = .ok fun idx => some (returned idx)) ∧
      ∀ idx, KeepsPace args (drive.base idx) drive.deadline (drive.passes idx)
        (returned idx) := by
  rcases drive.run_returns paced with ⟨returned, returns, keeps⟩
  exact ⟨returned, returns, fun idx => (keeps idx).1⟩

def stallArgs : SustainedArgs := ⟨1, 10, 1⟩

def stalled : ℚ≥0 := ⟨17 / 20, by norm_num⟩

def prompt : ℚ≥0 := ⟨1 / 20, by norm_num⟩

def stallDrive : Drive stallArgs where
  opened := 0
  spawnLag _ := 0
  passes _ slot := ⟨0, if slot = 1 then stalled else prompt, .ok 200, 0⟩

theorem sustained_run_keeps_pace_of_stall :
    (∀ writers, run stallArgs stallDrive 11 = .ok writers → ∀ idx,
      (writers idx).map (fun writer => writer.requests.map Request.issued) =
          some [0, 1 / 10, 19 / 20] ∧
        (writers idx).map WriterState.latencies = some [1 / 20, 17 / 20, 4 / 5]) ∧
    ∃ returned : Fin stallArgs.streams → WriterState,
      (∀ fuel, stallArgs.ratePerStream * stallArgs.durationSecs < fuel →
        run stallArgs stallDrive fuel = .ok fun idx => some (returned idx)) ∧
      ∀ idx, KeepsPace stallArgs (stallDrive.base idx) stallDrive.deadline
        (stallDrive.passes idx) (returned idx) := by
  refine ⟨?_, sustained_run_keeps_pace stallArgs (by decide) stallDrive⟩
  intro writers ran idx
  cases ran
  revert idx
  decide +kernel

end DsBench.Workloads.Sustained
