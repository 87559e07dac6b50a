import DsBench.Foundation.OpenLoop
import DsBench.Workloads.CatchUp

/-! # The mixed workload

Writers and catch-up readers that are released together and share one deadline.
Instants are exact seconds; time advances only in sleeps and in awaited replies, and
a sleep may end late but not early. Subscribers only receive and are left out.
-/

namespace DsBench.Workloads.Mixed

structure MixedArgs where
  streams : Nat
  writersPerStream : Nat
  readers : Nat
  readRate : Nat
  readIntervalMs : Nat
  writerRate : Nat
  durationSecs : Nat

namespace MixedArgs

variable (args : MixedArgs)

def totalWriters : Nat := args.writersPerStream * args.streams

/-- `--read-interval-ms` wins, then `--read-rate` in whole microseconds. -/
def readInterval : Option ℚ :=
  if 0 < args.readIntervalMs then some (args.readIntervalMs / 1000)
  else if 0 < args.readRate then
    some ((1000000 / max args.readRate 1 : Nat) / 1000000)
  else none

end MixedArgs

/-- The `n`-th operation is due `n / rate` after the base instant. -/
def scheduledSend (base : ℚ) (n rate : Nat) : ℚ := base + n / max rate 1

/-! ## Writers -/

/-- What the world does during one pass of the writer loop. No reply is a transport
error. -/
structure WriterPass where
  oversleep : ℚ
  delay : ℚ
  reply : Option Nat
  backoffLag : ℚ
deriving DecidableEq, Repr

structure WriterState where
  now : ℚ
  n : Nat
  seq : Nat
  ok : Nat
  bp : Nat
  err : Nat
  latencies : List ℚ
deriving DecidableEq, Repr

def WriterState.start (instant : ℚ) : WriterState := ⟨instant, 0, 0, 0, 0, 0, []⟩

/-- What the writer does with the reply it got at `answered` to an append that was
due at `scheduled`. -/
def WriterState.afterReply (state : WriterState) (pass : WriterPass)
    (scheduled answered : ℚ) : WriterState :=
  match pass.reply with
  | some status =>
      if isSuccess status then
        { state with
          now := answered
          n := state.n + 1
          seq := state.seq + 1
          ok := state.ok + 1
          latencies := state.latencies ++ [answered - scheduled] }
      else if isBackpressure status then
        { state with
          now := answered + 20 / 1000 + pass.backoffLag
          n := state.n + 1
          bp := state.bp + 1 }
      else { state with now := answered, n := state.n + 1, err := state.err + 1 }
  | none => { state with now := answered, n := state.n + 1, err := state.err + 1 }

def WriterPass.succeeds (pass : WriterPass) : Bool :=
  pass.reply.any fun status => decide (isSuccess status)

def writerTurn (rate : Nat) (base : ℚ) (state : WriterState) (pass : WriterPass) :
    Turn × WriterState :=
  let due := if 0 < rate then some (scheduledSend base state.n rate) else none
  let turn : Turn := ⟨state.now, due, pass.oversleep, pass.succeeds⟩
  (turn, state.afterReply pass (due.getD state.now) (turn.issued + pass.delay))

/-- `run_writer_task` after the barrier. -/
def runWriterTask (rate : Nat) (deadline crossed : ℚ) (passes : List WriterPass) :
    List Turn × WriterState :=
  openLoop WriterState.now (writerTurn rate crossed) deadline (.start crossed) passes

/-! ## Readers -/

structure ReaderPass where
  oversleep : ℚ
  pages : Nat → CatchUp.Page
  backoffLag : ℚ

structure ReaderState where
  now : ℚ
  nextAt : ℚ
  ok : Nat
  bp : Nat
  err : Nat
  bytes : Nat
  latencies : List ℚ
deriving DecidableEq, Repr

/-- The state at the loop's first test, after the stagger sleep of a paced reader. -/
def ReaderState.start (interval : Option ℚ) (totalReaders baseIdx : Nat)
    (crossed staggerLag : ℚ) : ReaderState :=
  let offset := match interval with
    | some interval => if 0 < totalReaders then interval * (baseIdx / totalReaders) else 0
    | none => 0
  let instant := if offset = 0 then crossed else crossed + offset + staggerLag
  ⟨instant, instant, 0, 0, 0, 0, []⟩

/-- What the reader does with a replay that ended at `answered` and was due at
`scheduled`. -/
def ReaderState.afterReplay (state : ReaderState) (result : Except Text Nat)
    (nextAt scheduled answered backoffLag : ℚ) : ReaderState :=
  match result with
  | .ok bytes =>
      { state with
        now := answered
        nextAt := nextAt
        ok := state.ok + 1
        bytes := state.bytes + bytes
        latencies := state.latencies ++ [answered - scheduled] }
  | .error message =>
      if CatchUp.isBusyMessage message then
        { state with
          now := answered + 50 / 1000 + backoffLag
          nextAt := nextAt
          bp := state.bp + 1 }
      else { state with now := answered, nextAt := nextAt, err := state.err + 1 }

def readerTurn (interval : Option ℚ) (state : ReaderState) (pass : ReaderPass) :
    Turn × ReaderState :=
  let due := interval.map fun _ => state.nextAt
  let replay := CatchUp.replay pass.pages
  let turn : Turn := ⟨state.now, due, pass.oversleep, replay.1.isOk⟩
  (turn, state.afterReplay replay.1 (state.nextAt + interval.getD 0)
    (due.getD state.now) (turn.issued + replay.2) pass.backoffLag)

/-- `run_reader_task` after the barrier. -/
def runReaderTask (interval : Option ℚ) (totalReaders baseIdx : Nat)
    (deadline crossed staggerLag : ℚ) (passes : List ReaderPass) :
    List Turn × ReaderState :=
  openLoop ReaderState.now (readerTurn interval) deadline
    (.start interval totalReaders baseIdx crossed staggerLag) passes

/-! ## The whole drive -/

/-- How a drive unfolds: when the barrier releases, when each task gets past it, and
what each of its passes meets. A task's passes may be cut off at any point. -/
structure Drive (args : MixedArgs) where
  release : ℚ
  writerCrossed : Fin args.totalWriters → ℚ
  writerPasses : Fin args.totalWriters → List WriterPass
  readerCrossed : Fin args.readers → ℚ
  staggerLag : Fin args.readers → ℚ
  readerPasses : Fin args.readers → List ReaderPass

namespace Drive

variable {args : MixedArgs} (drive : Drive args)

/-- The shared deadline, set by the first task past the barrier. -/
def deadline : ℚ := drive.release + args.durationSecs

def writer (writerIdx : Fin args.totalWriters) : List Turn × WriterState :=
  runWriterTask args.writerRate drive.deadline (drive.writerCrossed writerIdx)
    (drive.writerPasses writerIdx)

def reader (readerIdx : Fin args.readers) : List Turn × ReaderState :=
  runReaderTask args.readInterval args.readers readerIdx drive.deadline
    (drive.readerCrossed readerIdx) (drive.staggerLag readerIdx)
    (drive.readerPasses readerIdx)

/-- The property holds of every turn that a task counted. -/
def EveryCounted (Property : Turn → Prop) : Prop :=
  (∀ writerIdx, ∀ turn ∈ (drive.writer writerIdx).1, turn.counted = true → Property turn) ∧
    ∀ readerIdx, ∀ turn ∈ (drive.reader readerIdx).1, turn.counted = true → Property turn

end Drive

theorem WriterState.afterReply_ok (state : WriterState) (pass : WriterPass)
    (scheduled answered : ℚ) :
    (state.afterReply pass scheduled answered).ok =
      state.ok + if pass.succeeds then 1 else 0 := by
  rw [WriterState.afterReply, WriterPass.succeeds]
  cases pass.reply with
  | none => rfl
  | some status =>
      by_cases success : isSuccess status
      · simp [success]
      · by_cases busy : isBackpressure status
        · simp [success, busy]
        · simp [success, busy]

theorem ReaderState.afterReplay_ok (state : ReaderState) (result : Except Text Nat)
    (nextAt scheduled answered backoffLag : ℚ) :
    (state.afterReplay result nextAt scheduled answered backoffLag).ok =
      state.ok + if result.isOk then 1 else 0 := by
  cases result with
  | ok bytes => rfl
  | error message =>
      rw [ReaderState.afterReplay]
      by_cases busy : CatchUp.isBusyMessage message = true
      · simp [busy, Except.isOk, Except.toBool]
      · simp [busy, Except.isOk, Except.toBool]

/-- `write_counts.ok` and `read_counts.ok` count exactly the counted turns. -/
theorem ok_counts_turns {args : MixedArgs} (drive : Drive args) :
    (∀ writerIdx, (drive.writer writerIdx).2.ok =
      (drive.writer writerIdx).1.countP Turn.counted) ∧
    ∀ readerIdx, (drive.reader readerIdx).2.ok =
      (drive.reader readerIdx).1.countP Turn.counted := by
  constructor
  · intro writerIdx
    exact (openLoop_count (fun state pass => state.afterReply_ok pass _ _) _ _).trans
      (Nat.zero_add _)
  · intro readerIdx
    exact (openLoop_count (fun state pass => state.afterReplay_ok _ _ _ _ _) _ _).trans
      (Nat.zero_add _)

theorem unpaced_turns {args : MixedArgs} (drive : Drive args) :
    (args.writerRate = 0 → ∀ writerIdx, ∀ turn ∈ (drive.writer writerIdx).1,
      ¬ turn.SleptPast drive.deadline) ∧
    (args.readInterval = none → ∀ readerIdx, ∀ turn ∈ (drive.reader readerIdx).1,
      ¬ turn.SleptPast drive.deadline) := by
  constructor
  · intro unpaced writerIdx
    apply openLoop_forall
    intro state pass _
    exact Turn.not_sleptPast_of_unpaced (by simp [writerTurn, unpaced])
  · intro unpaced readerIdx
    apply openLoop_forall
    intro state pass _
    exact Turn.not_sleptPast_of_unpaced (by simp [readerTurn, unpaced])

/-- Every counted operation was issued before the shared deadline exactly when no
counted turn was put to sleep by its pacing until the deadline or later. -/
theorem drive_window_iff {args : MixedArgs} (drive : Drive args) :
    drive.EveryCounted (fun turn => turn.issued < drive.deadline) ↔
      drive.EveryCounted fun turn => ¬ turn.SleptPast drive.deadline := by
  rw [Drive.EveryCounted]
  apply and_congr
  · exact forall_congr' fun writerIdx => openLoop_window_iff
      (writerTurn _ _) (fun _ _ => rfl) _ _
  · exact forall_congr' fun readerIdx => openLoop_window_iff
      (readerTurn _) (fun _ _ => rfl) _ _

def slowReaderArgs : MixedArgs where
  streams := 1
  writersPerStream := 0
  readers := 1
  readRate := 0
  readIntervalMs := 30000
  writerRate := 0
  durationSecs := 20

def slowReaderDrive : Drive slowReaderArgs where
  release := 0
  writerCrossed _ := 0
  writerPasses _ := []
  readerCrossed _ := 0
  staggerLag _ := 0
  readerPasses _ := List.replicate 2 ⟨0, fun _ => ⟨1, .page 64 true none⟩, 0⟩

def slowReader : Fin slowReaderArgs.readers := ⟨0, by decide⟩

/-- The second replay is issued at thirty seconds and counted. -/
theorem slow_reader_counts_past_the_deadline :
    (slowReaderDrive.reader slowReader).2.ok = 2 ∧
    ¬ ∀ (args : MixedArgs) (drive : Drive args),
      drive.EveryCounted fun turn => turn.issued < drive.deadline := by
  refine ⟨by decide +kernel, fun always => ?_⟩
  have late : ⟨1, some 30, 0, true⟩ ∈ (slowReaderDrive.reader slowReader).1 := by
    decide +kernel
  have inTime := (always slowReaderArgs slowReaderDrive).2 slowReader _ late rfl
  exact absurd inTime (by decide +kernel)

end DsBench.Workloads.Mixed
