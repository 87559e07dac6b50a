import DsBench.Foundation.ProducerSession
import DsBench.Foundation.TransitionSystem
import DsBench.Workloads.HttpReply
import Mathlib.Algebra.BigOperators.Fin
import Mathlib.Algebra.Order.BigOperators.Group.Finset

/-! # The writer of the multi-stream workload

One writer task appending to its own stream through a producer session, the network
between them, and the session the server keeps. Requests and replies may be lost,
delayed past the client's timeout, or turned into failures on the way.
-/

namespace DsBench.Workloads.MultiStreamWriter

/-! ## The client -/

/-- Phase instants in nanoseconds, as set up by the workload. -/
structure WriterArgs where
  ratePerStream : Nat
  warmupEnd : Nat
  measureStart : Nat
  deadline : Nat

def WriterArgs.interval (args : WriterArgs) : Option Nat :=
  if 0 < args.ratePerStream then some (1000000 / max args.ratePerStream 1 * 1000) else none

inductive Control where
  | loop
  | entered
  | settling
  | pacing (counting : Bool)
  | waiting (counting : Bool) (attempt started : Nat)
  | backingOff (wake : Nat)
  | finished
deriving DecidableEq, Repr

structure Client where
  control : Control
  nextAt : Nat
  attempts : Nat
  seq : Nat
  okAll : Nat
  ok : Nat
  bp : Nat
  err : Nat
  errors : List Text
  latencies : List Nat
deriving DecidableEq, Repr

namespace Client

/-- What the task does with a reply. Only a success advances the sequence number. -/
def handleReply (client : Client) (counting : Bool) (started now status : Nat) : Client :=
  if isSuccess status then
    { client with
      control := .loop
      okAll := client.okAll + 1
      ok := if counting then client.ok + 1 else client.ok
      latencies := if counting then client.latencies ++ [now - started]
        else client.latencies
      seq := client.seq + 1 }
  else if isBackpressure status then
    { client with
      control := .backingOff (now + 20000000)
      bp := if counting then client.bp + 1 else client.bp }
  else
    { client with
      control := .loop
      err := if counting then client.err + 1 else client.err
      errors := if counting then
          client.errors ++ ["http_status_".toList ++ decimal status]
        else client.errors }

def handleError (client : Client) (counting : Bool) (error : Text) : Client :=
  { client with
    control := .loop
    err := if counting then client.err + 1 else client.err
    errors := if counting then client.errors ++ [error] else client.errors }

def send (client : Client) (args : WriterArgs) (counting : Bool) (now : Nat) : Client :=
  { client with
    control := .waiting counting client.attempts now
    nextAt := client.nextAt + args.interval.getD 0
    attempts := client.attempts + 1 }

end Client

/-! ## The system -/

structure Request where
  attempt : Nat
  seq : Nat
deriving DecidableEq, Repr

structure Reply where
  attempt : Nat
  status : Nat
deriving DecidableEq, Repr

structure State where
  now : Nat
  client : Client
  requests : List Request
  replies : List Reply
  server : Session
deriving DecidableEq, Repr

def AnswerStatus (verdict : Verdict) (status : Nat) : Prop :=
  match verdict with
  | .appended => isSuccess status
  | .duplicate => isSuccess status
  | .gap => ¬ isSuccess status

inductive Step (args : WriterArgs) : State → State → Prop where
  | tick (state : State) (elapsed : Nat) :
      Step args state { state with now := state.now + elapsed }
  /-- `while Instant::now() < deadline` fails. -/
  | finish (state : State) (atLoop : state.client.control = .loop)
      (late : args.deadline ≤ state.now) :
      Step args state { state with client := { state.client with control := .finished } }
  | enter (state : State) (atLoop : state.client.control = .loop)
      (inTime : state.now < args.deadline) :
      Step args state { state with client := { state.client with control := .entered } }
  /-- Between warm-up and measure window the writer idles. -/
  | settle (state : State) (entered : state.client.control = .entered)
      (idle : args.warmupEnd ≤ state.now ∧ state.now < args.measureStart) :
      Step args state { state with client := { state.client with control := .settling } }
  | settled (state : State) (settling : state.client.control = .settling)
      (wake : args.measureStart ≤ state.now) :
      Step args state { state with client := { state.client with control := .loop } }
  | turn (state : State) (entered : state.client.control = .entered)
      (busy : ¬ (args.warmupEnd ≤ state.now ∧ state.now < args.measureStart)) :
      Step args state { state with client := { state.client with
        control := .pacing (decide (args.measureStart ≤ state.now)) } }
  | send (state : State) (counting : Bool)
      (pacing : state.client.control = .pacing counting)
      (due : args.interval = none ∨ state.client.nextAt ≤ state.now) :
      Step args state { state with
        client := state.client.send args counting state.now
        requests := ⟨state.client.attempts, state.client.seq⟩ :: state.requests }
  | loseRequest (state : State) (request : Request) :
      Step args state { state with requests := state.requests.erase request }
  /-- A request reaches the session, however late, and is answered. -/
  | deliver (state : State) (request : Request) (status : Nat)
      (inFlight : request ∈ state.requests)
      (answer : AnswerStatus (state.server.receive request.seq).1 status) :
      Step args state { state with
        requests := state.requests.erase request
        server := (state.server.receive request.seq).2
        replies := ⟨request.attempt, status⟩ :: state.replies }
  /-- A request is turned away before it reaches the session. -/
  | shed (state : State) (request : Request) (status : Nat)
      (inFlight : request ∈ state.requests) (failure : ¬ isSuccess status) :
      Step args state { state with
        requests := state.requests.erase request
        replies := ⟨request.attempt, status⟩ :: state.replies }
  | loseReply (state : State) (reply : Reply) :
      Step args state { state with replies := state.replies.erase reply }
  /-- A reply is replaced by a failure on its way, after the server acted. -/
  | spoilReply (state : State) (reply : Reply) (status : Nat)
      (inFlight : reply ∈ state.replies) (failure : ¬ isSuccess status) :
      Step args state { state with
        replies := ⟨reply.attempt, status⟩ :: state.replies.erase reply }
  | receiveReply (state : State) (counting : Bool) (attempt started status : Nat)
      (waiting : state.client.control = .waiting counting attempt started)
      (inFlight : ⟨attempt, status⟩ ∈ state.replies) :
      Step args state { state with
        client := state.client.handleReply counting started state.now status
        replies := state.replies.erase ⟨attempt, status⟩ }
  /-- The send fails or times out; its request and reply stay in flight. -/
  | fail (state : State) (counting : Bool) (attempt started : Nat) (error : Text)
      (waiting : state.client.control = .waiting counting attempt started) :
      Step args state { state with client := state.client.handleError counting error }
  | backedOff (state : State) (wake : Nat)
      (backingOff : state.client.control = .backingOff wake) (due : wake ≤ state.now) :
      Step args state { state with client := { state.client with control := .loop } }

def initialState (now : Nat) : State where
  now := now
  client := ⟨.loop, now, 0, 0, 0, 0, 0, 0, [], []⟩
  requests := []
  replies := []
  server := .empty

def writerSystem (args : WriterArgs) : TransitionSystem State where
  Initial state := ∃ now, state = initialState now
  Step := Step args

/-! ## What the client and the server agree on -/

/-- The task is waiting for the reply to request number `attempt`. -/
def Client.Awaits (client : Client) (attempt : Nat) : Prop :=
  ∃ counting started, client.control = .waiting counting attempt started

/-- The accounting that every interleaving keeps. The server is level with the
client or one append ahead, and ahead whenever a success is on its way to it. -/
structure Accounting (state : State) : Prop where
  successes : state.client.okAll = state.client.seq
  appends : state.server.records = state.server.expected
  level : state.server.expected = state.client.seq ∨
    state.server.expected = state.client.seq + 1
  requestsBehind : ∀ request ∈ state.requests,
    request.seq ≤ state.client.seq ∧ request.attempt < state.client.attempts
  repliesBehind : ∀ reply ∈ state.replies, reply.attempt < state.client.attempts
  awaitedIssued : ∀ attempt, state.client.Awaits attempt → attempt < state.client.attempts
  awaitedSeq : ∀ attempt, state.client.Awaits attempt →
    ∀ request ∈ state.requests, request.attempt = attempt →
      request.seq = state.client.seq
  acknowledged : ∀ attempt, state.client.Awaits attempt →
    ∀ reply ∈ state.replies, reply.attempt = attempt → isSuccess reply.status →
      state.client.seq < state.server.expected

theorem accounting_initialState (now : Nat) : Accounting (initialState now) where
  successes := rfl
  appends := rfl
  level := .inl rfl
  requestsBehind := by simp [initialState]
  repliesBehind := by simp [initialState]
  awaitedIssued := by simp [initialState, Client.Awaits]
  awaitedSeq := by simp [initialState]
  acknowledged := by simp [initialState]

theorem Accounting.moveOn {state : State} (accounting : Accounting state)
    {client : Client} (sameSeq : client.seq = state.client.seq)
    (sameOk : client.okAll = state.client.okAll)
    (sameAttempts : client.attempts = state.client.attempts)
    (free : ∀ attempt, ¬ client.Awaits attempt) :
    Accounting { state with client := client } where
  successes := by rw [sameOk, sameSeq]; exact accounting.successes
  appends := accounting.appends
  level := by rw [sameSeq]; exact accounting.level
  requestsBehind := by rw [sameSeq, sameAttempts]; exact accounting.requestsBehind
  repliesBehind := by rw [sameAttempts]; exact accounting.repliesBehind
  awaitedIssued attempt awaits := absurd awaits (free attempt)
  awaitedSeq attempt awaits := absurd awaits (free attempt)
  acknowledged attempt awaits := absurd awaits (free attempt)

theorem Accounting.lose {state : State} (accounting : Accounting state)
    {requests : List Request} {replies : List Reply}
    (fewerRequests : ∀ request ∈ requests, request ∈ state.requests)
    (fewerReplies : ∀ reply ∈ replies, reply ∈ state.replies ∨
      ¬ isSuccess reply.status ∧ reply.attempt < state.client.attempts) :
    Accounting { state with requests := requests, replies := replies } where
  successes := accounting.successes
  appends := accounting.appends
  level := accounting.level
  requestsBehind request member :=
    accounting.requestsBehind request (fewerRequests request member)
  repliesBehind reply member := by
    rcases fewerReplies reply member with kept | spoiled
    · exact accounting.repliesBehind reply kept
    · exact spoiled.2
  awaitedIssued := accounting.awaitedIssued
  awaitedSeq attempt awaits request member :=
    accounting.awaitedSeq attempt awaits request (fewerRequests request member)
  acknowledged attempt awaits reply member own success := by
    rcases fewerReplies reply member with kept | spoiled
    · exact accounting.acknowledged attempt awaits reply kept own success
    · exact absurd success spoiled.1

theorem Accounting.deliver {state : State} (accounting : Accounting state)
    {request : Request} {status : Nat} (inFlight : request ∈ state.requests)
    (answer : AnswerStatus (state.server.receive request.seq).1 status) :
    Accounting { state with
      requests := state.requests.erase request
      server := (state.server.receive request.seq).2
      replies := ⟨request.attempt, status⟩ :: state.replies } := by
  rcases accounting.requestsBehind request inFlight with ⟨behind, issued⟩
  have level := accounting.level
  have appends := accounting.appends
  have session : (state.server.receive request.seq).2.records =
        (state.server.receive request.seq).2.expected ∧
      ((state.server.receive request.seq).2.expected = state.client.seq ∨
        (state.server.receive request.seq).2.expected = state.client.seq + 1) ∧
      state.server.expected ≤ (state.server.receive request.seq).2.expected ∧
      (isSuccess status → request.seq < (state.server.receive request.seq).2.expected) := by
    rcases state.server.receive_cases request.seq with
      ⟨due, received⟩ | ⟨old, received⟩ | ⟨early, received⟩
    · rw [received]
      dsimp only
      exact ⟨by omega, by omega, by omega, fun _ => by omega⟩
    · rw [received]
      exact ⟨appends, level, le_refl _, fun _ => old⟩
    · rw [received] at answer ⊢
      exact ⟨appends, level, le_refl _, fun success => absurd success answer⟩
  rcases session with ⟨sameRecords, stillLevel, monotone, past⟩
  exact {
    successes := accounting.successes
    appends := sameRecords
    level := stillLevel
    requestsBehind := fun other member =>
      accounting.requestsBehind other (List.mem_of_mem_erase member)
    repliesBehind := by
      intro reply member
      rcases List.mem_cons.mp member with fresh | earlier
      · rw [fresh]
        exact issued
      · exact accounting.repliesBehind reply earlier
    awaitedIssued := accounting.awaitedIssued
    awaitedSeq := fun attempt awaits other member =>
      accounting.awaitedSeq attempt awaits other (List.mem_of_mem_erase member)
    acknowledged := by
      intro attempt awaits reply member own success
      rcases List.mem_cons.mp member with fresh | earlier
      · subst fresh
        have sameSeq := accounting.awaitedSeq attempt awaits request inFlight own
        rw [← sameSeq]
        exact past success
      · exact Nat.lt_of_lt_of_le
          (accounting.acknowledged attempt awaits reply earlier own success) monotone }

theorem Accounting.send {state : State} (accounting : Accounting state)
    (args : WriterArgs) (counting : Bool) :
    Accounting { state with
      client := state.client.send args counting state.now
      requests := ⟨state.client.attempts, state.client.seq⟩ :: state.requests } where
  successes := accounting.successes
  appends := accounting.appends
  level := accounting.level
  requestsBehind request member := by
    rcases List.mem_cons.mp member with fresh | earlier
    · subst fresh
      exact ⟨le_refl _, Nat.lt_succ_self _⟩
    · rcases accounting.requestsBehind request earlier with ⟨behind, issued⟩
      exact ⟨behind, Nat.lt_succ_of_lt issued⟩
  repliesBehind reply member := Nat.lt_succ_of_lt (accounting.repliesBehind reply member)
  awaitedIssued attempt awaits := by
    rcases awaits with ⟨_, _, waiting⟩
    cases waiting
    exact Nat.lt_succ_self _
  awaitedSeq attempt awaits request member own := by
    rcases awaits with ⟨_, _, waiting⟩
    cases waiting
    rcases List.mem_cons.mp member with fresh | earlier
    · rw [fresh]
      rfl
    · have issued := (accounting.requestsBehind request earlier).2
      omega
  acknowledged attempt awaits reply member own success := by
    rcases awaits with ⟨_, _, waiting⟩
    cases waiting
    have issued := accounting.repliesBehind reply member
    omega

theorem Accounting.receiveReply {state : State} (accounting : Accounting state)
    {counting : Bool} {attempt started status : Nat}
    (waiting : state.client.control = .waiting counting attempt started)
    (inFlight : ⟨attempt, status⟩ ∈ state.replies) :
    Accounting { state with
      client := state.client.handleReply counting started state.now status
      replies := state.replies.erase ⟨attempt, status⟩ } := by
  have kept : Accounting { state with
      requests := state.requests, replies := state.replies.erase ⟨attempt, status⟩ } :=
    accounting.lose (fun _ member => member)
      (fun _ member => .inl (List.mem_of_mem_erase member))
  rw [Client.handleReply]
  split
  · rename_i success
    have ahead := accounting.acknowledged attempt ⟨counting, started, waiting⟩
      ⟨attempt, status⟩ inFlight rfl success
    exact {
      successes := congrArg Nat.succ accounting.successes
      appends := accounting.appends
      level := by
        have level := accounting.level
        dsimp only
        omega
      requestsBehind := fun request member => by
        rcases accounting.requestsBehind request member with ⟨behind, issued⟩
        exact ⟨Nat.le_succ_of_le behind, issued⟩
      repliesBehind := kept.repliesBehind
      awaitedIssued := by simp [Client.Awaits]
      awaitedSeq := by simp [Client.Awaits]
      acknowledged := by simp [Client.Awaits] }
  · split
    · exact kept.moveOn rfl rfl rfl (by simp [Client.Awaits])
    · exact kept.moveOn rfl rfl rfl (by simp [Client.Awaits])

theorem Accounting.step {args : WriterArgs} {before after : State}
    (accounting : Accounting before) (step : Step args before after) :
    Accounting after := by
  cases step with
  | tick elapsed =>
      exact ⟨accounting.successes, accounting.appends, accounting.level,
        accounting.requestsBehind, accounting.repliesBehind, accounting.awaitedIssued,
        accounting.awaitedSeq, accounting.acknowledged⟩
  | finish atLoop late => exact accounting.moveOn rfl rfl rfl (by simp [Client.Awaits])
  | enter atLoop inTime => exact accounting.moveOn rfl rfl rfl (by simp [Client.Awaits])
  | settle entered idle => exact accounting.moveOn rfl rfl rfl (by simp [Client.Awaits])
  | settled settling wake =>
      exact accounting.moveOn rfl rfl rfl (by simp [Client.Awaits])
  | turn entered busy => exact accounting.moveOn rfl rfl rfl (by simp [Client.Awaits])
  | send counting pacing due => exact accounting.send args counting
  | loseRequest request =>
      exact accounting.lose (fun _ => List.mem_of_mem_erase) (fun _ => .inl)
  | deliver request status inFlight answer => exact accounting.deliver inFlight answer
  | shed request status inFlight failure =>
      apply accounting.lose (fun _ => List.mem_of_mem_erase)
      intro reply member
      rcases List.mem_cons.mp member with fresh | earlier
      · rw [fresh]
        exact .inr ⟨failure, (accounting.requestsBehind request inFlight).2⟩
      · exact .inl earlier
  | loseReply reply =>
      exact accounting.lose (fun _ member => member)
        (fun _ member => .inl (List.mem_of_mem_erase member))
  | spoilReply reply status inFlight failure =>
      apply accounting.lose (fun _ member => member)
      intro other member
      rcases List.mem_cons.mp member with fresh | earlier
      · rw [fresh]
        exact .inr ⟨failure, accounting.repliesBehind reply inFlight⟩
      · exact .inl (List.mem_of_mem_erase earlier)
  | receiveReply counting attempt started status waiting inFlight =>
      exact accounting.receiveReply waiting inFlight
  | fail counting attempt started error waiting =>
      exact accounting.moveOn rfl rfl rfl (by simp [Client.Awaits, Client.handleError])
  | backedOff wake backingOff due =>
      exact accounting.moveOn rfl rfl rfl (by simp [Client.Awaits])

theorem accounting_invariant (args : WriterArgs) :
    (writerSystem args).Invariant Accounting where
  initially := by
    intro state initial
    rcases initial with ⟨now, rfl⟩
    exact accounting_initialState now
  preserved _ _ accounting step := accounting.step step

/-! ## A fleet of writers -/

/-- One writer per stream, each with its own session and its pod's phase instants,
in any interleaving. -/
def fleetSystem {streams : Nat} (args : Fin streams → WriterArgs) :
    TransitionSystem (Fin streams → State) :=
  TransitionSystem.parallel fun stream => writerSystem (args stream)

/-- In every reachable state each writer has counted exactly the successes its
sequence number says, the server holds that many records or one more, and so the
whole fleet's records exceed its count by at most one per stream. -/
theorem fleet_records_track_successes {streams : Nat} (args : Fin streams → WriterArgs)
    (fleet : Fin streams → State) (reachable : (fleetSystem args).Reachable fleet) :
    (∀ stream, (fleet stream).client.okAll = (fleet stream).client.seq ∧
      ((fleet stream).server.records = (fleet stream).client.okAll ∨
        (fleet stream).server.records = (fleet stream).client.okAll + 1)) ∧
    ∑ stream, (fleet stream).client.okAll ≤ ∑ stream, (fleet stream).server.records ∧
    ∑ stream, (fleet stream).server.records ≤
      ∑ stream, (fleet stream).client.okAll + streams := by
  have each : ∀ stream, (fleet stream).client.okAll = (fleet stream).client.seq ∧
      ((fleet stream).server.records = (fleet stream).client.okAll ∨
        (fleet stream).server.records = (fleet stream).client.okAll + 1) := by
    intro stream
    have accounting := (accounting_invariant (args stream)).of_reachable
      (TransitionSystem.parallel_reachable reachable stream)
    have successes := accounting.successes
    have appends := accounting.appends
    have level := accounting.level
    exact ⟨successes, by omega⟩
  refine ⟨each, Finset.sum_le_sum fun stream _ => ?_, ?_⟩
  · have := (each stream).2
    omega
  · calc
      ∑ stream, (fleet stream).server.records ≤
          ∑ stream, ((fleet stream).client.okAll + 1) :=
        Finset.sum_le_sum fun stream _ => by
          have := (each stream).2
          omega
      _ = ∑ stream, (fleet stream).client.okAll + streams := by
        rw [Finset.sum_add_distrib]
        simp

def promptArgs : WriterArgs := ⟨0, 0, 0, 1⟩

def appliedUnseen : State where
  now := 0
  client := ⟨.loop, 0, 1, 0, 0, 0, 0, 1, ["timeout".toList], []⟩
  requests := []
  replies := [⟨0, 200⟩]
  server := ⟨1, 1⟩

theorem appliedUnseen_reachable :
    (fleetSystem fun _ : Fin 1 => promptArgs).Reachable fun _ => appliedUnseen := by
  have alone : ∀ {before after : State}, Step promptArgs before after →
      (fleetSystem fun _ : Fin 1 => promptArgs).Step (fun _ => before) (fun _ => after) :=
    fun step => ⟨0, step, fun other distinct =>
      absurd (Subsingleton.elim other 0) distinct⟩
  have start : (fleetSystem fun _ : Fin 1 => promptArgs).Reachable fun _ => initialState 0 :=
    .initial fun _ => ⟨0, rfl⟩
  have sent := ((start.step (alone (.enter _ rfl (by decide)))).step
    (alone (.turn _ rfl (by decide)))).step (alone (.send _ true rfl (.inl rfl)))
  have applied := sent.step (alone (.deliver _ ⟨0, 0⟩ 200 (by decide)
    (by decide : isSuccess 200)))
  exact applied.step (alone (.fail _ true 0 0 "timeout".toList rfl))

theorem fleet_records_one_ahead :
    ∑ _stream : Fin 1, appliedUnseen.client.okAll = 0 ∧
    ∑ _stream : Fin 1, appliedUnseen.server.records = 1 ∧
    ∑ _stream : Fin 1, appliedUnseen.server.records ≤
      ∑ _stream : Fin 1, appliedUnseen.client.okAll + 1 :=
  ⟨rfl, rfl,
    (fleet_records_track_successes _ _ appliedUnseen_reachable).2.2⟩

end DsBench.Workloads.MultiStreamWriter
