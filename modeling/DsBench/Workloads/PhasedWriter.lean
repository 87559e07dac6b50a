import DsBench.Foundation.Phases
import DsBench.Workloads.MultiStreamWriter

/-! # The phases of a multi-stream writer

One writer of the multi-stream workload and the instants at which its appends leave it.
Time advances only in sleeps and in awaited replies, and a sleep may end late but not
early. Instants are nanoseconds.
-/

namespace DsBench.Workloads.MultiStreamWriter

/-! ## The phases -/

structure PhaseArgs where
  ratePerStream : Nat
  warmupSecs : Nat
  settleSecs : Nat
  durationSecs : Nat

namespace PhaseArgs

variable (args : PhaseArgs) (base : Nat)

/-- The instants `run` sets from its base. -/
def phases : Phases Nat where
  warmupEnd := base + args.warmupSecs * 1000000000
  measureStart := base + args.warmupSecs * 1000000000 + args.settleSecs * 1000000000
  deadline := base + args.warmupSecs * 1000000000 + args.settleSecs * 1000000000 +
    args.durationSecs * 1000000000
  warmup_le := Nat.le_add_right _ _
  measure_le := Nat.le_add_right _ _

def writerArgs : WriterArgs where
  ratePerStream := args.ratePerStream
  warmupEnd := (args.phases base).warmupEnd
  measureStart := (args.phases base).measureStart
  deadline := (args.phases base).deadline

end PhaseArgs

/-! ## The writer -/

/-- What the world does during one pass of the writer loop: a reply's status, or the
error chain of a send that got none. -/
structure WriterPass where
  oversleep : Nat
  delay : Nat
  reply : Except Text Nat
  backoffLag : Nat

/-- An append as an observer sees it: what the pass began with and what came of it. -/
structure Append where
  began : Nat
  due : Option Nat
  oversleep : Nat
  counting : Bool
  reply : Except Text Nat

namespace Append

variable (append : Append)

def issued : Nat :=
  match append.due with
  | some due => sleepUntil due append.oversleep append.began
  | none => append.began

def succeeded : Bool :=
  match append.reply with
  | .ok status => decide (isSuccess status)
  | .error _ => false

def SleepsAstray (phases : Phases Nat) : Prop :=
  ∃ due, append.due = some due ∧ append.began < due ∧
    phases.Strays append.began (due + append.oversleep) append.succeeded

end Append

/-- The appends are nothing the program keeps. -/
structure Writer where
  now : Nat
  client : Client
  appends : List Append

namespace Writer

def start (instant : Nat) : Writer := ⟨instant, (initialState instant).client, []⟩

variable (args : WriterArgs) (writer : Writer) (pass : WriterPass)

/-- The append that a pass makes. Whether it counts is decided before the sleep. -/
def nextAppend : Append where
  began := writer.now
  due := args.interval.map fun _ => writer.client.nextAt
  oversleep := pass.oversleep
  counting := decide (args.measureStart ≤ writer.now)
  reply := pass.reply

def answer (append : Append) : Client :=
  let sent := writer.client.send args append.counting append.issued
  match append.reply with
  | .ok status => sent.handleReply append.counting append.issued
      (append.issued + pass.delay) status
  | .error chain => sent.handleError append.counting chain

def append : Writer :=
  let next := writer.nextAppend args pass
  let client := writer.answer args pass next
  { now := match client.control with
      | .backingOff wake => wake + pass.backoffLag
      | _ => next.issued + pass.delay
    client := { client with control := .loop }
    appends := writer.appends ++ [next] }

def turn : Option Writer :=
  if writer.now < args.deadline then
    if args.warmupEnd ≤ writer.now ∧ writer.now < args.measureStart then
      some { writer with now := args.measureStart + pass.oversleep }
    else some (writer.append args pass)
  else none

end Writer

def runWriter (args : WriterArgs) : Writer → List WriterPass → Writer
  | writer, [] => writer
  | writer, pass :: passes =>
      match writer.turn args pass with
      | some next => runWriter args next passes
      | none => writer

theorem runWriter_preserves {args : WriterArgs} {Property : Writer → Prop}
    (preserved : ∀ writer pass next, Property writer → writer.turn args pass = some next →
      Property next)
    (writer : Writer) (passes : List WriterPass) (holds : Property writer) :
    Property (runWriter args writer passes) := by
  induction passes generalizing writer with
  | nil => exact holds
  | cons pass passes induction =>
      rw [runWriter]
      cases taken : writer.turn args pass with
      | none => exact holds
      | some next => exact induction next (preserved writer pass next holds taken)

/-! ## What a pass does -/

namespace Writer

variable {args : WriterArgs} {writer next : Writer} {pass : WriterPass}

theorem turn_cases (taken : writer.turn args pass = some next) :
    writer.now < args.deadline ∧
      ((args.warmupEnd ≤ writer.now ∧ writer.now < args.measureStart) ∧
          next = { writer with now := args.measureStart + pass.oversleep } ∨
        ¬ (args.warmupEnd ≤ writer.now ∧ writer.now < args.measureStart) ∧
          next = writer.append args pass) := by
  rw [turn] at taken
  split at taken
  · rename_i inTime
    split at taken
    · rename_i idle
      cases taken
      exact ⟨inTime, .inl ⟨idle, rfl⟩⟩
    · rename_i busy
      cases taken
      exact ⟨inTime, .inr ⟨busy, rfl⟩⟩
  · cases taken

variable (args writer pass)

def counted : Nat := writer.client.ok + writer.client.bp + writer.client.err

theorem answer_okAll (append : Append) : (writer.answer args pass append).okAll =
    writer.client.okAll + if append.succeeded then 1 else 0 := by
  rw [answer, Append.succeeded]
  cases append.reply with
  | error chain => rfl
  | ok status =>
      by_cases success : isSuccess status
      · simp [Client.handleReply, Client.send, success]
      · by_cases busy : isBackpressure status
        · simp [Client.handleReply, Client.send, success, busy]
        · simp [Client.handleReply, Client.send, success, busy]

theorem answer_ok (append : Append) : (writer.answer args pass append).ok =
    writer.client.ok + if append.counting && append.succeeded then 1 else 0 := by
  rw [answer, Append.succeeded]
  cases append.reply with
  | error chain => simp [Client.handleError, Client.send]
  | ok status =>
      by_cases success : isSuccess status
      · cases append.counting <;> simp [Client.handleReply, Client.send, success]
      · by_cases busy : isBackpressure status
        · simp [Client.handleReply, Client.send, success, busy]
        · simp [Client.handleReply, Client.send, success, busy]

theorem answer_counted (append : Append) :
    (writer.answer args pass append).ok + (writer.answer args pass append).bp +
      (writer.answer args pass append).err =
        writer.counted + if append.counting then 1 else 0 := by
  rw [answer, counted]
  cases append.reply with
  | error chain =>
      cases append.counting <;> simp [Client.handleError, Client.send]
      omega
  | ok status =>
      by_cases success : isSuccess status
      · cases append.counting <;> simp [Client.handleReply, Client.send, success]
        omega
      · by_cases busy : isBackpressure status
        · cases append.counting <;> simp [Client.handleReply, Client.send, success, busy]
          omega
        · cases append.counting <;> simp [Client.handleReply, Client.send, success, busy]
          omega

end Writer

/-! ## What a run keeps -/

structure Tallies (writer : Writer) : Prop where
  okAll : writer.client.okAll = writer.appends.countP Append.succeeded
  ok : writer.client.ok =
    writer.appends.countP fun append => append.counting && append.succeeded
  counted : writer.client.ok + writer.client.bp + writer.client.err =
    writer.appends.countP Append.counting

theorem Tallies.start (instant : Nat) : Tallies (.start instant) := ⟨rfl, rfl, rfl⟩

theorem Tallies.turn {args : WriterArgs} (writer : Writer) (pass : WriterPass)
    (next : Writer) (tallies : Tallies writer)
    (taken : writer.turn args pass = some next) : Tallies next := by
  rcases (Writer.turn_cases taken).2 with ⟨-, rfl⟩ | ⟨-, rfl⟩
  · exact ⟨tallies.okAll, tallies.ok, tallies.counted⟩
  · exact {
      okAll := by
        rw [Writer.append, List.countP_append, List.countP_singleton, ← tallies.okAll]
        exact writer.answer_okAll args pass _
      ok := by
        rw [Writer.append, List.countP_append, List.countP_singleton, ← tallies.ok]
        exact writer.answer_ok args pass _
      counted := by
        rw [Writer.append, List.countP_append, List.countP_singleton, ← tallies.counted]
        exact writer.answer_counted args pass _ }

/-- How an append was begun: outside the gap, before the deadline, counting from the
start of the measure window on. -/
structure Append.Begun (phases : Phases Nat) (append : Append) : Prop where
  inTime : append.began < phases.deadline
  busy : ¬ phases.InGap append.began
  counting : append.counting = decide (phases.measureStart ≤ append.began)

def Writer.Begun (phases : Phases Nat) (writer : Writer) : Prop :=
  ∀ append ∈ writer.appends, append.Begun phases

theorem Writer.Begun.turn {args : PhaseArgs} {base : Nat} (writer : Writer)
    (pass : WriterPass) (next : Writer) (begun : writer.Begun (args.phases base))
    (taken : writer.turn (args.writerArgs base) pass = some next) :
    next.Begun (args.phases base) := by
  rcases Writer.turn_cases taken with ⟨inTime, ⟨-, rfl⟩ | ⟨busy, rfl⟩⟩
  · exact begun
  · intro append member
    rcases List.mem_append.mp member with earlier | here
    · exact begun append earlier
    · rw [List.mem_singleton.mp here]
      exact ⟨inTime, busy, rfl⟩

theorem Writer.Begun.start (phases : Phases Nat) (instant : Nat) :
    (Writer.start instant).Begun phases := by
  intro append member
  cases member

theorem Append.Begun.respects_iff {phases : Phases Nat} {append : Append}
    (begun : append.Begun phases) :
    phases.Respects append.issued append.counting append.succeeded ↔
      ¬ append.SleepsAstray phases := by
  rw [begun.counting, Append.issued, Append.SleepsAstray]
  cases due : append.due with
  | none =>
      rw [Phases.respects_iff begun.busy (le_refl _)]
      simp [Phases.not_strays_self begun.inTime begun.busy]
  | some instant =>
      simp only [Option.some.injEq, exists_eq_left']
      exact Phases.respects_sleepUntil_iff (Nat.zero_le _) begun.inTime begun.busy

theorem run_begun (args : PhaseArgs) (base instant : Nat) (passes : List WriterPass) :
    (runWriter (args.writerArgs base) (.start instant) passes).Begun (args.phases base) :=
  runWriter_preserves Writer.Begun.turn _ _ (.start _ _)

/-- Nothing but pacing takes an append astray. -/
theorem unpaced_run_respects (args : PhaseArgs) (unpaced : args.ratePerStream = 0)
    (base instant : Nat) (passes : List WriterPass) :
    ∀ append ∈ (runWriter (args.writerArgs base) (.start instant) passes).appends,
      (args.phases base).Respects append.issued append.counting append.succeeded := by
  have noInterval : (args.writerArgs base).interval = none := by
    rw [WriterArgs.interval, if_neg]
    rw [PhaseArgs.writerArgs, unpaced]
    exact Nat.lt_irrefl 0
  have turned : ∀ (writer : Writer) (pass : WriterPass) (next : Writer),
      (∀ append ∈ writer.appends, append.due = none) →
      writer.turn (args.writerArgs base) pass = some next →
      ∀ append ∈ next.appends, append.due = none := by
    intro writer pass next earlier taken
    rcases (Writer.turn_cases taken).2 with ⟨-, rfl⟩ | ⟨-, rfl⟩
    · exact earlier
    · intro append member
      rcases List.mem_append.mp member with old | here
      · exact earlier append old
      · rw [List.mem_singleton.mp here, Writer.nextAppend, noInterval]
        rfl
  have started : ∀ append ∈ (Writer.start instant).appends, append.due = none := by
    intro append member
    cases member
  have notDue := runWriter_preserves turned _ passes started
  intro append member
  apply (run_begun args base instant passes append member).respects_iff.mpr
  intro astray
  rcases astray with ⟨due, isDue, -⟩
  rw [notDue append member] at isDue
  cases isDue

/-- Every append of a run respects the phases exactly when none sleeps astray. -/
theorem phase_discipline_iff (args : PhaseArgs) (base spawnLag : Nat)
    (passes : List WriterPass) :
    let writer := runWriter (args.writerArgs base) (.start (base + spawnLag)) passes
    Tallies writer ∧
      ((∀ append ∈ writer.appends,
          (args.phases base).Respects append.issued append.counting append.succeeded) ↔
        ∀ append ∈ writer.appends, ¬ append.SleepsAstray (args.phases base)) := by
  refine ⟨runWriter_preserves Tallies.turn _ _ (.start _), ?_⟩
  exact forall₂_congr fun append member => (run_begun args base _ passes append
    member).respects_iff

def secondsArgs : PhaseArgs := ⟨1, 1, 1, 1⟩

def promptPasses : List WriterPass := List.replicate 6 ⟨0, 100000000, .ok 200, 0⟩

def promptWriter : Writer := runWriter (secondsArgs.writerArgs 0) (.start 0) promptPasses

/-- The second append is issued in the gap, and the fourth at the deadline and counted. -/
theorem prompt_writer_strays :
    promptWriter.appends.map (fun append => (append.issued, append.counting)) =
        [(0, false), (1000000000, false), (2000000000, true), (3000000000, true)] ∧
    promptWriter.client.ok = 2 ∧
    ¬ ∀ (args : PhaseArgs) (base spawnLag : Nat) (passes : List WriterPass),
      0 < args.ratePerStream →
      ∀ append ∈ (runWriter (args.writerArgs base) (.start (base + spawnLag))
          passes).appends,
        (args.phases base).Respects append.issued append.counting append.succeeded := by
  have issued : promptWriter.appends.map (fun append => (append.issued, append.counting)) =
      [(0, false), (1000000000, false), (2000000000, true), (3000000000, true)] := by
    decide +kernel
  refine ⟨issued, by decide +kernel, fun always => ?_⟩
  have inGap : (1000000000, false) ∈
      promptWriter.appends.map fun append => (append.issued, append.counting) := by
    rw [issued]
    decide
  rcases List.mem_map.mp inGap with ⟨append, member, same⟩
  have respects := always secondsArgs 0 0 promptPasses (by decide) append member
  rw [(Prod.mk.inj same).1] at respects
  exact respects.outsideGap (by decide +kernel)

/-! ## Its place among the interleavings -/

section

variable {args : WriterArgs} {writer : Writer} {server : Session}

def Writer.alone (writer : Writer) (server : Session) : State :=
  ⟨writer.now, writer.client, [], [], server⟩

def Writer.Mirrored (args : WriterArgs) (writer : Writer) : Prop :=
  writer.client.control = .loop ∧
    ∃ server : Session, server.expected = writer.client.seq ∧
      (writerSystem args).Reachable (writer.alone server)

theorem reachable_at {state : State} (reachable : (writerSystem args).Reachable state)
    {instant : Nat} (later : state.now ≤ instant) :
    (writerSystem args).Reachable { state with now := instant } := by
  have ticked := reachable.step (.tick state (instant - state.now))
  rw [Nat.add_sub_cancel' later] at ticked
  exact ticked

theorem reachable_settled (atLoop : writer.client.control = .loop)
    (inTime : writer.now < args.deadline)
    (idle : args.warmupEnd ≤ writer.now ∧ writer.now < args.measureStart)
    (reachable : (writerSystem args).Reachable (writer.alone server)) (oversleep : Nat) :
    (writerSystem args).Reachable
      (Writer.alone { writer with now := args.measureStart + oversleep } server) := by
  have settling := (reachable.step (.enter _ atLoop inTime)).step (.settle _ rfl idle)
  have later : writer.now ≤ args.measureStart + oversleep :=
    idle.2.le.trans (Nat.le_add_right _ _)
  have woken := (reachable_at settling later).step
    (.settled _ rfl (Nat.le_add_right _ _))
  have sameClient : { writer.client with control := .loop } = writer.client := by
    rw [← atLoop]
  rw [Writer.alone, ← sameClient]
  exact woken

theorem reachable_sent (atLoop : writer.client.control = .loop)
    (inTime : writer.now < args.deadline)
    (busy : ¬ (args.warmupEnd ≤ writer.now ∧ writer.now < args.measureStart))
    (reachable : (writerSystem args).Reachable (writer.alone server)) (pass : WriterPass) :
    let append := writer.nextAppend args pass
    (writerSystem args).Reachable ⟨append.issued,
      writer.client.send args append.counting append.issued,
      [⟨writer.client.attempts, writer.client.seq⟩], [], server⟩ := by
  intro append
  have pacing := (reachable.step (.enter _ atLoop inTime)).step (.turn _ rfl busy)
  have paced : writer.now ≤ append.issued ∧
      (args.interval = none ∨ writer.client.nextAt ≤ append.issued) := by
    rw [Append.issued]
    cases interval : args.interval with
    | none => simp [append, Writer.nextAppend, interval]
    | some _ =>
        simp only [append, Writer.nextAppend, interval, Option.map_some]
        exact ⟨now_le_sleepUntil (Nat.zero_le _), .inr (due_le_sleepUntil (Nat.zero_le _))⟩
  exact (reachable_at pacing paced.1).step (.send _ append.counting rfl paced.2)

theorem reachable_received {client : Client} {counting : Bool} {started status : Nat}
    (replied : (writerSystem args).Reachable ⟨started, client.send args counting started,
      [], [⟨client.attempts, status⟩], server⟩) (delay : Nat) :
    (writerSystem args).Reachable ⟨started + delay,
      (client.send args counting started).handleReply counting started (started + delay)
        status, [], [], server⟩ := by
  have received := (reachable_at replied (Nat.le_add_right started delay)).step
    (.receiveReply _ counting client.attempts started status rfl
      (List.mem_singleton_self _))
  simpa using received

theorem reachable_answered {append : Append} (pass : WriterPass)
    (level : server.expected = writer.client.seq)
    (sent : (writerSystem args).Reachable ⟨append.issued,
      writer.client.send args append.counting append.issued,
      [⟨writer.client.attempts, writer.client.seq⟩], [], server⟩) :
    ∃ later : Session, later.expected = (writer.answer args pass append).seq ∧
      (writerSystem args).Reachable
        ⟨append.issued + pass.delay, writer.answer args pass append, [], [], later⟩ := by
  rw [Writer.answer]
  cases append.reply with
  | error chain =>
      -- the request is lost after the writer gave up on it
      have failed := ((reachable_at sent (Nat.le_add_right _ pass.delay)).step
        (.fail _ append.counting writer.client.attempts append.issued chain rfl)).step
          (.loseRequest _ ⟨writer.client.attempts, writer.client.seq⟩)
      exact ⟨server, level, by simpa using failed⟩
  | ok status =>
      by_cases success : isSuccess status
      · have appended : server.receive writer.client.seq =
            (.appended, ⟨server.expected + 1, server.records + 1⟩) := by
          rw [Session.receive, if_pos level.symm]
        have delivered := sent.step (.deliver _ ⟨writer.client.attempts, writer.client.seq⟩
          status (List.mem_singleton_self _) (by rw [appended]; exact success))
        rw [appended] at delivered
        refine ⟨⟨server.expected + 1, server.records + 1⟩, ?_,
          reachable_received (by simpa using delivered) pass.delay⟩
        simp [Client.handleReply, Client.send, success, level]
      · have shed := sent.step (.shed _ ⟨writer.client.attempts, writer.client.seq⟩ status
          (List.mem_singleton_self _) success)
        refine ⟨server, ?_, reachable_received (by simpa using shed) pass.delay⟩
        by_cases busy : isBackpressure status
        · simp [Client.handleReply, Client.send, success, busy, level]
        · simp [Client.handleReply, Client.send, success, busy, level]

theorem answer_control (append : Append) (pass : WriterPass) :
    (writer.answer args pass append).control = .loop ∨
      ∃ wake, append.issued + pass.delay ≤ wake ∧
        (writer.answer args pass append).control = .backingOff wake := by
  rw [Writer.answer]
  cases append.reply with
  | error chain => exact .inl rfl
  | ok status =>
      dsimp only
      rw [Client.handleReply]
      split
      · exact .inl rfl
      · split
        · exact .inr ⟨_, Nat.le_add_right _ _, rfl⟩
        · exact .inl rfl

theorem Writer.Mirrored.turn (writer : Writer) (pass : WriterPass) (next : Writer)
    (mirrored : writer.Mirrored args) (taken : writer.turn args pass = some next) :
    next.Mirrored args := by
  rcases mirrored with ⟨atLoop, server, level, reachable⟩
  rcases turn_cases taken with ⟨inTime, ⟨idle, rfl⟩ | ⟨busy, rfl⟩⟩
  · exact ⟨atLoop, server, level,
      reachable_settled atLoop inTime idle reachable pass.oversleep⟩
  · rcases reachable_answered pass level
      (reachable_sent atLoop inTime busy reachable pass) with ⟨later, stillLevel, answered⟩
    refine ⟨rfl, later, stillLevel, ?_⟩
    rw [alone, append]
    dsimp only
    rcases answer_control (writer.nextAppend args pass) pass with
      inLoop | ⟨wake, ahead, backingOff⟩
    · have sameClient : { writer.answer args pass (writer.nextAppend args pass) with
          control := .loop } = writer.answer args pass (writer.nextAppend args pass) := by
        rw [← inLoop]
      rw [sameClient, inLoop]
      exact answered
    · rw [backingOff]
      have later := ahead.trans (Nat.le_add_right wake pass.backoffLag)
      exact (reachable_at answered later).step
        (.backedOff _ wake backingOff (Nat.le_add_right _ _))

theorem Writer.Mirrored.start (instant : Nat) : (Writer.start instant).Mirrored args :=
  ⟨rfl, .empty, rfl, .initial ⟨instant, rfl⟩⟩

/-- Every run of the writer's passes is among the runs of its system, so that what holds
of every reachable state there holds here. -/
theorem runWriter_mirrored (instant : Nat) (passes : List WriterPass) :
    (runWriter args (.start instant) passes).Mirrored args :=
  runWriter_preserves Writer.Mirrored.turn _ _ (.start instant)

/-- All phases are one producer session, whose next sequence number is the number of
successes so far. -/
theorem seq_eq_successes (instant : Nat) (passes : List WriterPass) :
    (runWriter args (.start instant) passes).client.seq =
      (runWriter args (.start instant) passes).appends.countP Append.succeeded := by
  have tallies : Tallies (runWriter args (.start instant) passes) :=
    runWriter_preserves Tallies.turn _ _ (.start instant)
  rcases runWriter_mirrored instant passes with ⟨-, server, -, reachable⟩
  have accounting := (accounting_invariant args).of_reachable reachable
  exact accounting.successes.symm.trans tallies.okAll

end

end DsBench.Workloads.MultiStreamWriter
