import DsBench.Foundation.Crew
import DsBench.Foundation.CyclicBarrier
import DsBench.Foundation.PermitPool
import DsBench.Workloads.BusyMessages
import Mathlib.Algebra.BigOperators.Fin
import Mathlib.Tactic.Ring

/-! # The catch-up stampede

The workload appends its records to one stream, a bounded number at a time, and counts how
many of the appends were acknowledged. Unless one is missing, the clients then meet at a
barrier and replay the stream from its start, all at once.
-/

namespace DsBench.Workloads.Stampede

open CatchUp ReplayLoop

structure CatchUpArgs where
  clients : Nat
  preEvents : Nat
  eventBytes : Nat
  setupConcurrency : Nat

/-! ## The appends of the setup -/

/-- Where the task of an append is. `settled` tells whether the response was a success, and
`ended` whether the task has counted it. -/
inductive Sending where
  | unsent
  | waiting
  | settled (success : Bool)
  | ended (landed : Bool)
deriving DecidableEq, Repr

/-- A record is stored at most once. -/
structure Append where
  sending : Sending
  stored : Bool
deriving DecidableEq, Repr

/-- The bytes the server holds of the stream, and `setup_ok`. -/
structure Setup where
  bytes : Nat
  setupOk : Nat
deriving DecidableEq, Repr

/-- The task sends its request, is answered or has it fail, and counts; the server stores
the record, perhaps long after the task has given up. -/
inductive Happening where
  | send
  | store
  | answer (status : Nat)
  | fail
  | count
deriving DecidableEq, Repr

/-- The server acknowledges only what it has stored. -/
def appendAct (eventBytes : Nat) (setup : Setup) (append : Append) :
    Happening → Option (Setup × Append)
  | .send =>
      if append.sending = .unsent then some (setup, { append with sending := .waiting })
      else none
  | .store =>
      if append.sending ≠ .unsent ∧ append.stored = false then
        some ({ setup with bytes := setup.bytes + eventBytes }, { append with stored := true })
      else none
  | .answer status =>
      if append.sending = .waiting ∧ (isSuccess status → append.stored = true) then
        some (setup, { append with sending := .settled (decide (isSuccess status)) })
      else none
  | .fail =>
      if append.sending = .waiting then
        some (setup, { append with sending := .settled false })
      else none
  | .count =>
      match append.sending with
      | .settled success =>
          some (if success then { setup with setupOk := setup.setupOk + 1 } else setup,
            { append with sending := .ended success })
      | _ => none

inductive Moves (eventBytes : Nat) (setup : Setup) : Append → Setup × Append → Prop where
  | send (stored : Bool) :
      Moves eventBytes setup ⟨.unsent, stored⟩ (setup, ⟨.waiting, stored⟩)
  | store (sending : Sending) : sending ≠ .unsent →
      Moves eventBytes setup ⟨sending, false⟩
        ({ setup with bytes := setup.bytes + eventBytes }, ⟨sending, true⟩)
  | settle (success stored : Bool) : (success = true → stored = true) →
      Moves eventBytes setup ⟨.waiting, stored⟩ (setup, ⟨.settled success, stored⟩)
  | land (stored : Bool) :
      Moves eventBytes setup ⟨.settled true, stored⟩
        ({ setup with setupOk := setup.setupOk + 1 }, ⟨.ended true, stored⟩)
  | drop (stored : Bool) :
      Moves eventBytes setup ⟨.settled false, stored⟩ (setup, ⟨.ended false, stored⟩)

def Sound (append : Append) : Prop :=
  append.sending = .settled true ∨ append.sending = .ended true → append.stored = true

def Append.acts (append : Append) : Nat :=
  (match append.sending with
    | .unsent => 3
    | .waiting => 2
    | .settled _ => 1
    | .ended _ => 0) +
  if append.stored then 0 else 1

section

variable {eventBytes : Nat} {setup : Setup} {append : Append} {next : Setup × Append}

theorem appendAct_moves {happening : Happening}
    (acted : appendAct eventBytes setup append happening = some next) :
    Moves eventBytes setup append next := by
  rcases append with ⟨sending, stored⟩
  cases happening with
  | send =>
      simp only [appendAct] at acted
      split at acted
      · rename_i unsent
        cases unsent
        cases acted
        exact .send stored
      · cases acted
  | store =>
      simp only [appendAct] at acted
      split at acted
      · rename_i possible
        rcases possible with ⟨sent, fresh⟩
        cases fresh
        cases acted
        exact .store sending sent
      · cases acted
  | answer status =>
      simp only [appendAct] at acted
      split at acted
      · rename_i possible
        rcases possible with ⟨waiting, honest⟩
        cases waiting
        cases acted
        exact .settle _ stored fun success => honest (of_decide_eq_true success)
      · cases acted
  | fail =>
      simp only [appendAct] at acted
      split at acted
      · rename_i waiting
        cases waiting
        cases acted
        exact .settle false stored nofun
      · cases acted
  | count =>
      cases sending with
      | settled success =>
          cases acted
          cases success with
          | true => exact .land stored
          | false => exact .drop stored
      | _ => cases acted

theorem unsent_sound : Sound ⟨.unsent, false⟩ := by
  rintro (settled | ended) <;> contradiction

theorem Sound.moves (sound : Sound append) (moved : Moves eventBytes setup append next) :
    Sound next.2 := by
  cases moved with
  | send => rintro (settled | ended) <;> contradiction
  | store => exact fun _ => rfl
  | settle success stored honest =>
      intro reason
      apply honest
      simpa using reason
  | land => exact fun _ => sound (.inl rfl)
  | drop => rintro (settled | ended) <;> simp at *

theorem Sound.still (sound : Sound append) (landed : append.sending = .ended true) :
    ¬ Moves eventBytes setup append next := by
  intro moved
  have stored := sound (.inr landed)
  cases moved with
  | store => cases stored
  | _ => cases landed

theorem moves_acts (moved : Moves eventBytes setup append next) :
    next.2.acts < append.acts := by
  cases moved with
  | send stored => cases stored <;> exact Nat.lt_succ_self _
  | store sending => exact Nat.lt_succ_self _
  | settle success stored => cases stored <;> exact Nat.lt_succ_self _
  | land stored => cases stored <;> exact Nat.lt_succ_self _
  | drop stored => cases stored <;> exact Nat.lt_succ_self _

theorem appendAct_possible (setup : Setup) {append : Append}
    (running : ∀ landed, append.sending ≠ .ended landed) :
    ∃ happening next, appendAct eventBytes setup append happening = some next := by
  rcases append with ⟨sending, stored⟩
  cases sending with
  | unsent => exact ⟨.send, _, rfl⟩
  | waiting => exact ⟨.fail, _, rfl⟩
  | settled success => exact ⟨.count, _, rfl⟩
  | ended landed => exact (running landed rfl).elim

end

def Append.isEnded (append : Append) : Bool := append.sending matches .ended _

/-- The appends of the setup, on a stream of which the server holds `resident` bytes. -/
def appends (args : CatchUpArgs) (resident : Nat) : PermitPool Setup Append Happening where
  count := args.preEvents
  permits := max args.setupConcurrency 1
  start := ⟨resident, 0⟩
  task := fun _ => ⟨.unsent, false⟩
  act := appendAct args.eventBytes
  ended := Append.isEnded
  begins := fun _ => rfl
  stays := by
    intro setup append happening next acted ended
    cases appendAct_moves acted with
    | store => exact ended
    | _ => cases ended

/-! ## The clients -/

inductive Effect where
  | addOk
  | addBytes (bytes : Nat)
  | record (micros : Nat)
  | addBp
  | addErr
deriving DecidableEq, Repr

inductive Client where
  | entering
  | reading
  | counting (effects : List Effect)
deriving DecidableEq, Repr

structure Shared (clients : Nat) where
  barrier : CyclicBarrier (Fin clients)
  ok : Nat
  bp : Nat
  err : Nat
  bytesTotal : Nat
  hist : List Nat

/-- `record_micros`. -/
def recordMicros (micros : Nat) : Nat := max (min micros 60000000) 1

def Effect.carryOut {clients : Nat} (shared : Shared clients) : Effect → Shared clients
  | .addOk => { shared with ok := shared.ok + 1 }
  | .addBytes bytes => { shared with bytesTotal := shared.bytesTotal + bytes }
  | .record micros => { shared with hist := shared.hist ++ [recordMicros micros] }
  | .addBp => { shared with bp := shared.bp + 1 }
  | .addErr => { shared with err := shared.err + 1 }

def effectsOf (result : Except Text Nat) (micros : Nat) : List Effect :=
  match result with
  | .ok bytes => [.addOk, .addBytes bytes, .record micros]
  | .error message => if isBusyMessage message then [.addBp] else [.addErr]

/-- A client goes on. `micros` is the time of its replay. -/
def clientAct {clients : Nat} (servers : Fin clients → Server) (idx : Fin clients)
    (shared : Shared clients) (client : Client) (micros : Nat) :
    Option (Shared clients × Client) :=
  match client with
  | .entering =>
      some ({ shared with barrier := shared.barrier.wait clients idx }, .reading)
  | .reading =>
      if shared.barrier.place idx = .past then
        some (shared, .counting (effectsOf (catchUpReadAll (servers idx)).result micros))
      else none
  | .counting [] => none
  | .counting (effect :: effects) => some (effect.carryOut shared, .counting effects)

def stampede {clients : Nat} (servers : Fin clients → Server) :
    TransitionSystem (Shared clients × (Fin clients → Client)) :=
  crew (clientAct servers) (⟨.fresh, 0, 0, 0, 0, []⟩, fun _ => .entering)

def Finished {clients : Nat} (state : Shared clients × (Fin clients → Client)) : Prop :=
  ∀ idx, state.2 idx = .counting []

/-! ## The whole run -/

structure Counts where
  ok : Nat
  backpressure : Nat
  otherErr : Nat
deriving DecidableEq, Repr

/-- Of the result, what the run has counted. -/
structure CatchUpResult where
  preBytesTotal : Nat
  counts : Counts
  bytesReceivedTotal : Nat
  samples : List Nat
deriving DecidableEq, Repr

def resultOf (args : CatchUpArgs) (shared : Shared args.clients) : CatchUpResult where
  preBytesTotal := args.preEvents * args.eventBytes
  counts := ⟨shared.ok, shared.bp, shared.err⟩
  bytesReceivedTotal := shared.bytesTotal
  samples := shared.hist

inductive Stage (clients : Nat) where
  | setup
  | bailed (landed : Nat)
  | stampede (state : Shared clients × (Fin clients → Client))
  | returned (result : CatchUpResult)

structure Run (args : CatchUpArgs) where
  appends : PermitPool.State Setup Append
  stage : Stage args.clients

/-- `servers` says what the clients meet when the stream holds so many bytes. -/
inductive Step (args : CatchUpArgs) (resident : Nat)
    (servers : Nat → Fin args.clients → Server) : Run args → Run args → Prop where
  | append (run : Run args) (next : PermitPool.State Setup Append) :
      (appends args resident).system.Step run.appends next →
      Step args resident servers run { run with appends := next }
  | bail (run : Run args) :
      run.stage = .setup → (appends args resident).Joined run.appends →
      run.appends.shared.setupOk < args.preEvents →
      Step args resident servers run
        { run with stage := .bailed run.appends.shared.setupOk }
  | begin (run : Run args) :
      run.stage = .setup → (appends args resident).Joined run.appends →
      ¬ run.appends.shared.setupOk < args.preEvents →
      Step args resident servers run
        { run with stage := .stampede (⟨.fresh, 0, 0, 0, 0, []⟩, fun _ => .entering) }
  | client (run : Run args) (state next : Shared args.clients × (Fin args.clients → Client)) :
      run.stage = .stampede state →
      (stampede (servers run.appends.shared.bytes)).Step state next →
      Step args resident servers run { run with stage := .stampede next }
  | finish (run : Run args) (state : Shared args.clients × (Fin args.clients → Client)) :
      run.stage = .stampede state → Finished state →
      Step args resident servers run { run with stage := .returned (resultOf args state.1) }

def runSystem (args : CatchUpArgs) (resident : Nat)
    (servers : Nat → Fin args.clients → Server) : TransitionSystem (Run args) where
  Initial run := run = ⟨(appends args resident).initial, .setup⟩
  Step := Step args resident servers

/-! ## What the setup leaves -/

section

variable {args : CatchUpArgs} {resident : Nat} {state : PermitPool.State Setup Append}

theorem appends_sound (reachable : (appends args resident).system.Reachable state) (i : Nat) :
    Sound (state.tasks i) := by
  have holds := PermitPool.pool_holds (fun _ => True) (fun _ append => Sound append)
    ⟨trivial, fun _ => unsent_sound⟩
    (fun _ _ _ _ _ _ sound acted => ⟨trivial, sound.moves (appendAct_moves acted)⟩) reachable
  exact holds.2 i

def Append.landed (append : Append) : Bool := append.sending matches .ended true

theorem landed_iff {append : Append} : append.landed = true ↔ append.sending = .ended true := by
  rw [Append.landed]
  split <;> simp_all

/-- `setup_ok` is the number of appends that have landed. -/
theorem setupOk_eq (reachable : (appends args resident).system.Reachable state) :
    (state.shared.setupOk : ℤ) =
      ∑ i ∈ Finset.range args.preEvents, if (state.tasks i).landed then 1 else 0 := by
  have conserved := PermitPool.pool_conserves (fun setup => (setup.setupOk : ℤ))
    (fun append => -if append.landed then 1 else 0) (fun _ => rfl)
    (by
      intro setup append happening next acted
      cases appendAct_moves acted with
      | land => simp [Append.landed]
      | _ => rfl) reachable
  rw [Finset.sum_neg_distrib] at conserved
  exact eq_of_sub_eq_zero ((sub_eq_add_neg _ _).trans conserved)

theorem bytes_eq (reachable : (appends args resident).system.Reachable state) :
    (state.shared.bytes : ℤ) = resident +
      ∑ i ∈ Finset.range args.preEvents,
        if (state.tasks i).stored then (args.eventBytes : ℤ) else 0 := by
  have conserved := PermitPool.pool_conserves (fun setup => (setup.bytes : ℤ))
    (fun append => -if append.stored then (args.eventBytes : ℤ) else 0) (fun _ => rfl)
    (by
      intro setup append happening next acted
      cases appendAct_moves acted <;> simp) reachable
  rw [Finset.sum_neg_distrib] at conserved
  exact (sub_eq_iff_eq_add.mp ((sub_eq_add_neg _ _).trans conserved))

/-- Every append has been joined and has landed. -/
structure Settled (args : CatchUpArgs) (state : PermitPool.State Setup Append) : Prop where
  joined : state.joined = args.preEvents
  landed : ∀ i, i < args.preEvents → (state.tasks i).landed = true

theorem settled_of_setupOk (reachable : (appends args resident).system.Reachable state)
    (joined : (appends args resident).Joined state)
    (enough : ¬ state.shared.setupOk < args.preEvents) : Settled args state := by
  refine ⟨joined, ?_⟩
  intro i inside
  by_contra missing
  have fewer : ∑ j ∈ Finset.range args.preEvents, (if (state.tasks j).landed then 1 else 0 : ℤ) <
      ∑ _j ∈ Finset.range args.preEvents, 1 := by
    apply Finset.sum_lt_sum
    · intro j _
      split <;> decide
    · refine ⟨i, Finset.mem_range.mpr inside, ?_⟩
      rw [if_neg missing]
      decide
  rw [← setupOk_eq reachable, Finset.sum_const, Finset.card_range] at fewer
  simp only [nsmul_eq_mul, mul_one, Nat.cast_lt] at fewer
  exact enough fewer

theorem bytes_of_settled (reachable : (appends args resident).system.Reachable state)
    (settled : Settled args state) :
    (∀ i, i < args.preEvents → (state.tasks i).stored = true) ∧
      state.shared.bytes = resident + args.preEvents * args.eventBytes := by
  have stored : ∀ i, i < args.preEvents → (state.tasks i).stored = true := by
    intro i inside
    exact appends_sound reachable i (.inr (landed_iff.mp (settled.landed i inside)))
  refine ⟨stored, ?_⟩
  have bytes := bytes_eq reachable
  have all : ∑ i ∈ Finset.range args.preEvents,
      (if (state.tasks i).stored then (args.eventBytes : ℤ) else 0) =
        ∑ _i ∈ Finset.range args.preEvents, (args.eventBytes : ℤ) := by
    apply Finset.sum_congr rfl
    intro i member
    rw [if_pos (stored i (Finset.mem_range.mp member))]
  rw [all, Finset.sum_const, Finset.card_range, nsmul_eq_mul] at bytes
  exact_mod_cast bytes

theorem settled_still (reachable : (appends args resident).system.Reachable state)
    (settled : Settled args state) {next : PermitPool.State Setup Append} :
    ¬ (appends args resident).system.Step state next := by
  intro step
  have kept := (PermitPool.system_kept (appends args resident)).of_reachable reachable
  have spawns : state.spawned ≤ args.preEvents := kept.spawns
  have joins := kept.joins
  have joined := settled.joined
  rcases PermitPool.step_cases step with ⟨more, _, _⟩ | ⟨i, _, _, born, acted, _⟩ |
    ⟨_, more, _, _⟩
  · have fewer : state.spawned < args.preEvents := more
    omega
  · have landed := settled.landed i (born.trans_le spawns)
    exact (appends_sound reachable i).still (landed_iff.mp landed) (appendAct_moves acted)
  · have fewer : state.joined < args.preEvents := more
    omega

end

/-! ## What the clients count -/

structure Account (clients : Nat) where
  common : Shared clients → ℤ
  worth : Effect → ℤ
  paid : ∀ shared effect, common (effect.carryOut shared) = common shared + worth effect
  barred : ∀ shared barrier, common { shared with barrier := barrier } = common shared
  opened : common ⟨.fresh, 0, 0, 0, 0, []⟩ = 0
  timeless : ∀ micros, worth (.record micros) = worth (.record 0)

section

variable {clients : Nat}

variable (servers : Fin clients → Server) (account : Account clients)

def Account.owedOf (idx : Fin clients) : ℤ :=
  ((effectsOf (catchUpReadAll (servers idx)).result 0).map account.worth).sum

def Account.owed (idx : Fin clients) : Client → ℤ
  | .counting effects => (effects.map account.worth).sum
  | _ => account.owedOf servers idx

theorem Account.effectsOf_worth (result : Except Text Nat) (micros : Nat) :
    ((effectsOf result micros).map account.worth).sum =
      ((effectsOf result 0).map account.worth).sum := by
  cases result with
  | ok bytes => simp [effectsOf, account.timeless micros]
  | error message => rfl

variable {servers} {state : Shared clients × (Fin clients → Client)}

theorem Account.conserved (idx : Fin clients) (shared : Shared clients) (client : Client)
    (micros : Nat) (next : Shared clients × Client)
    (acted : clientAct servers idx shared client micros = some next) :
    account.common next.1 + account.owed servers idx next.2 =
      account.common shared + account.owed servers idx client := by
  cases client with
  | entering =>
      cases acted
      rw [account.barred]
      rfl
  | reading =>
      simp only [clientAct] at acted
      split at acted
      · cases acted
        exact congrArg (account.common shared + ·) (account.effectsOf_worth _ micros)
      · cases acted
  | counting effects =>
      cases effects with
      | nil => cases acted
      | cons effect effects =>
          cases acted
          rw [account.paid, Account.owed, Account.owed, List.map_cons, List.sum_cons]
          ring

end

/-! ## Servers that hold the stream -/

/-- The server answers a client with pages of a stream of `size` bytes, not so small that
the reader's guard would stop it, or with a failure as clients may meet it. -/
structure Serving (server : Server) (size : Nat) where
  place : Text → Option Nat
  least : Nat
  started : place catchUpStart = some 0
  positive : 0 < least
  enough : size ≤ least * guardLimit
  serves : ServesLog (pageServer server) place size least
  sensible : ∀ asked offset failure, pageServer server asked offset = .error failure →
    failure.Sensible

def replayOf (server : Server) : Except Failure Nat :=
  (readPages guardLimit (pageServer server) [] catchUpStart 0 0).result

def turnedAway (server : Server) : Bool :=
  match replayOf server with
  | .ok _ => false
  | .error failure => decide failure.Busy

theorem Serving.replay {server : Server} {size : Nat} (serving : Serving server size) :
    replayOf server = .ok size ∨
      ∃ failure, failure.Sensible ∧ replayOf server = .error failure := by
  have read := readPages_log serving.serves serving.positive [] catchUpStart 0 0
    serving.started (Nat.zero_le _) (by simpa using serving.enough) (by decide)
  rcases read with whole | ⟨failure, asked, offset, failed, result⟩
  · left
    rw [replayOf, whole, Nat.zero_add, Nat.sub_zero]
  · exact .inr ⟨failure, serving.sensible asked offset failure failed, result⟩

section

variable {clients : Nat} {servers : Fin clients → Server} {size : Nat}

end

/-! ## Every run -/

section

variable {args : CatchUpArgs} {resident : Nat} {servers : Nat → Fin args.clients → Server}

def wholeStream (args : CatchUpArgs) (resident : Nat) : Nat :=
  resident + args.preEvents * args.eventBytes

def AtStage (resident : Nat) (servers : Nat → Fin args.clients → Server)
    (appends : PermitPool.State Setup Append) : Stage args.clients → Prop
  | .setup => True
  | .bailed landed => landed < args.preEvents
  | .stampede state => Settled args appends ∧
      (stampede (servers (wholeStream args resident))).Reachable state
  | .returned result => Settled args appends ∧
      ∃ state, (stampede (servers (wholeStream args resident))).Reachable state ∧
        Finished state ∧ result = resultOf args state.1

structure Kept (resident : Nat) (servers : Nat → Fin args.clients → Server)
    (run : Run args) : Prop where
  appends : (appends args resident).system.Reachable run.appends
  stage : AtStage resident servers run.appends run.stage

theorem Kept.settled {run : Run args} (kept : Kept resident servers run)
    (settled : Settled args run.appends) :
    run.appends.shared.bytes = wholeStream args resident ∧
      ∀ next, ¬ (Stampede.appends args resident).system.Step run.appends next :=
  ⟨(bytes_of_settled kept.appends settled).2, fun _ => settled_still kept.appends settled⟩

theorem run_kept :
    (runSystem args resident servers).Invariant (Kept resident servers) where
  initially := by
    intro run initial
    rw [initial]
    exact ⟨.initial rfl, trivial⟩
  preserved := by
    intro before after kept step
    cases step with
    | append next appended =>
        refine ⟨kept.appends.step appended, ?_⟩
        have stage := kept.stage
        dsimp only
        cases now : before.stage with
        | setup => trivial
        | bailed landed =>
            rw [now] at stage
            exact stage
        | stampede state =>
            rw [now] at stage
            exact ((kept.settled stage.1).2 next appended).elim
        | returned result =>
            rw [now] at stage
            exact ((kept.settled stage.1).2 next appended).elim
    | bail _ _ missing => exact ⟨kept.appends, missing⟩
    | begin _ joined enough =>
        exact ⟨kept.appends, settled_of_setupOk kept.appends joined enough, .initial rfl⟩
    | client state next now stepped =>
        have stage := kept.stage
        rw [now] at stage
        rw [(kept.settled stage.1).1] at stepped
        exact ⟨kept.appends, stage.1, stage.2.step stepped⟩
    | finish state now finished =>
        have stage := kept.stage
        rw [now] at stage
        exact ⟨kept.appends, stage.1, state, stage.2, finished, rfl⟩

def Client.acts : Client → Nat
  | .entering => 6
  | .reading => 5
  | .counting effects => effects.length

def Stage.left {clients : Nat} : Stage clients → Nat
  | .setup => 2 + ∑ _idx : Fin clients, 6
  | .stampede state => 1 + ∑ idx, (state.2 idx).acts
  | .bailed _ => 0
  | .returned _ => 0

def Run.left (resident : Nat) (run : Run args) : Nat :=
  run.appends.left (Stampede.appends args resident) Append.acts + run.stage.left

/-- The run has come to its end. -/
def Run.Over (run : Run args) : Prop :=
  match run.stage with
  | .bailed _ => True
  | .returned _ => True
  | _ => False

theorem length_effectsOf_le (result : Except Text Nat) (micros : Nat) :
    (effectsOf result micros).length ≤ 3 := by
  cases result with
  | ok bytes => exact Nat.le_refl _
  | error message =>
      rw [effectsOf]
      split
      · exact Nat.le_add_left 1 2
      · exact Nat.le_add_left 1 2

section

variable {clients : Nat} {each : Fin clients → Server}
  {state next : Shared clients × (Fin clients → Client)}

theorem clientAct_acts {idx : Fin clients} {shared : Shared clients} {client : Client}
    {micros : Nat} {moved : Shared clients × Client}
    (acted : clientAct each idx shared client micros = some moved) :
    moved.2.acts < client.acts := by
  cases client with
  | entering =>
      cases acted
      exact Nat.lt_succ_self _
  | reading =>
      simp only [clientAct] at acted
      split at acted
      · cases acted
        exact Nat.lt_succ_of_le ((length_effectsOf_le _ micros).trans (Nat.le_succ 3))
      · cases acted
  | counting effects =>
      cases effects with
      | nil => cases acted
      | cons effect effects =>
          cases acted
          exact Nat.lt_succ_self _

theorem stampede_acts (stepped : (stampede each).Step state next) :
    ∑ idx, (next.2 idx).acts < ∑ idx, (state.2 idx).acts := by
  rcases crew_step_iff.mp stepped with ⟨mover, micros, moved, acted, result⟩
  rw [← result]
  exact sum_update_lt Client.acts (Finset.mem_univ mover) (clientAct_acts acted)

/-- The barrier counts its waiters, and those it has not seen are entering. -/
structure Barred (state : Shared clients × (Fin clients → Client)) : Prop where
  sound : state.1.barrier.Sound
  outside : ∀ idx, state.1.barrier.place idx = .outside ↔ state.2 idx = .entering

theorem clientAct_barrier {idx : Fin clients} {shared : Shared clients} {client : Client}
    {micros : Nat} {moved : Shared clients × Client}
    (acted : clientAct each idx shared client micros = some moved) :
    (client = .entering ∧ moved = ({ shared with
      barrier := shared.barrier.wait clients idx }, .reading)) ∨
    (client ≠ .entering ∧ moved.1.barrier = shared.barrier ∧ moved.2 ≠ .entering) := by
  cases client with
  | entering =>
      cases acted
      exact .inl ⟨rfl, rfl⟩
  | reading =>
      simp only [clientAct] at acted
      split at acted
      · cases acted
        exact .inr ⟨nofun, rfl, nofun⟩
      · cases acted
  | counting effects =>
      cases effects with
      | nil => cases acted
      | cons effect effects =>
          cases acted
          refine .inr ⟨nofun, ?_, nofun⟩
          cases effect <;> rfl

theorem stampede_barred : (stampede each).Invariant Barred where
  initially := by
    intro state initial
    rw [initial]
    exact ⟨CyclicBarrier.fresh_sound, fun _ => ⟨fun _ => rfl, fun _ => rfl⟩⟩
  preserved := by
    intro before after barred step
    rcases crew_step_iff.mp step with ⟨mover, micros, moved, acted, result⟩
    rw [← result]
    rcases clientAct_barrier acted with ⟨entering, next⟩ | ⟨entered, same, still⟩
    · have first := (barred.outside mover).mpr entering
      have sound := CyclicBarrier.wait_sound barred.sound first
      rw [Fintype.card_fin] at sound
      rw [next]
      refine ⟨sound, ?_⟩
      intro idx
      dsimp only
      rw [CyclicBarrier.wait_outside_iff, barred.outside]
      by_cases own : idx = mover
      · subst own
        simp
      · simp [own]
    · refine ⟨by rw [same]; exact barred.sound, ?_⟩
      intro idx
      dsimp only
      rw [same, barred.outside]
      by_cases own : idx = mover
      · subst own
        simp [entered, still]
      · simp [own]

/-- Until all have finished some client can go on. -/
theorem stampede_possible (barred : Barred state) (unfinished : ¬ Finished state) :
    ∃ next, (stampede each).Step state next := by
  have goes : ∀ idx moved, clientAct each idx state.1 (state.2 idx) 0 = some moved →
      ∃ next, (stampede each).Step state next :=
    fun idx moved acted => ⟨_, crew_step_iff.mpr ⟨idx, 0, moved, acted, rfl⟩⟩
  rw [Finished, not_forall] at unfinished
  rcases unfinished with ⟨idx, busy⟩
  cases now : state.2 idx with
  | entering => exact goes idx _ (by rw [now]; rfl)
  | reading =>
      cases place : state.1.barrier.place idx with
      | outside =>
          rw [barred.outside, now] at place
          cases place
      | waiting =>
          -- Somebody else has not come to the barrier yet.
          rcases barred.sound.exists_outside place with ⟨other, outside⟩
          have entering := (barred.outside other).mp outside
          exact goes other _ (by rw [entering]; rfl)
      | past => exact goes idx _ (by rw [now, clientAct, if_pos place])
  | counting effects =>
      cases effects with
      | nil => exact (busy now).elim
      | cons effect effects => exact goes idx _ (by rw [now]; rfl)

end

theorem step_left {before after : Run args} (kept : Kept resident servers before)
    (step : (runSystem args resident servers).Step before after) :
    after.left resident < before.left resident := by
  cases step with
  | append next appended =>
      have fewer := PermitPool.step_left
        (fun _ _ _ _ acted => moves_acts (appendAct_moves acted))
        ((PermitPool.system_kept _).of_reachable kept.appends) appended
      exact Nat.add_lt_add_right fewer _
  | bail now =>
      apply Nat.add_lt_add_left
      rw [now, Stage.left, Stage.left]
      omega
  | begin now =>
      apply Nat.add_lt_add_left
      rw [now, Stage.left, Stage.left]
      exact Nat.add_lt_add_right Nat.one_lt_two _
  | client state next now stepped =>
      apply Nat.add_lt_add_left
      rw [now, Stage.left, Stage.left]
      exact Nat.add_lt_add_left (stampede_acts stepped) 1
  | finish state now finished =>
      apply Nat.add_lt_add_left
      rw [now, Stage.left, Stage.left]
      omega

theorem step_possible {run : Run args} (kept : Kept resident servers run)
    (going : ¬ run.Over) : ∃ next, (runSystem args resident servers).Step run next := by
  have stage := kept.stage
  cases now : run.stage with
  | setup =>
      by_cases joined : (appends args resident).Joined run.appends
      · by_cases missing : run.appends.shared.setupOk < args.preEvents
        · exact ⟨_, .bail run now joined missing⟩
        · exact ⟨_, .begin run now joined missing⟩
      · have possible := PermitPool.step_possible
          (Nat.le_max_right _ _)
          (by
            intro setup append running
            apply appendAct_possible setup
            intro landed ended
            rcases append with ⟨sending, stored⟩
            cases ended
            cases running)
          ((PermitPool.system_kept _).of_reachable kept.appends) joined
        rcases possible with ⟨next, appended⟩
        exact ⟨_, .append run next appended⟩
  | bailed landed => exact (going (by rw [Run.Over, now]; trivial)).elim
  | stampede state =>
      rw [now] at stage
      by_cases finished : Finished state
      · exact ⟨_, .finish run state now finished⟩
      · have possible : ∃ next,
            (stampede (servers (wholeStream args resident))).Step state next :=
          stampede_possible (stampede_barred.of_reachable stage.2) finished
        rcases possible with ⟨next, stepped⟩
        rw [← (kept.settled stage.1).1] at stepped
        exact ⟨_, .client run state next now stepped⟩
  | returned result => exact (going (by rw [Run.Over, now]; trivial)).elim

/-- However the appends and the replays end and in whatever order, a run never has more
appends in flight than it may, and comes to its end. -/
theorem catchup_ends {run : Run args}
    (reachable : (runSystem args resident servers).Reachable run) :
    (run.appends.holding (appends args resident)).card ≤ max args.setupConcurrency 1 ∧
      (runSystem args resident servers).Inevitably Run.Over run := by
  have kept := run_kept.of_reachable reachable
  constructor
  · exact PermitPool.holding_bounded kept.appends
  · apply TransitionSystem.Inevitably.of_measure (Run.left resident)
      (fun run (kept : Kept resident servers run) => step_possible kept) ?_ kept
    intro before after kept step
    exact ⟨run_kept.preserved before after kept step, step_left kept step⟩

end

/-! ## Two clients -/

def twoClients : CatchUpArgs := ⟨2, 2, 10, 1⟩

def onePage (size : Nat) : Server := fun _ _ =>
  some ⟨200, "OK".toList, some [116, 114, 117, 101], none, some size⟩

def tooBusy : Server := fun _ _ => some ⟨503, "Service Unavailable".toList, none, none, none⟩

def mixedServers (size : Nat) (idx : Fin twoClients.clients) : Server :=
  if idx.val = 0 then onePage size else tooBusy

theorem catchup_ends_of_start :
    (runSystem twoClients 0 mixedServers).Inevitably Run.Over
      ⟨(appends twoClients 0).initial, .setup⟩ :=
  (catchup_ends (.initial rfl)).2

end DsBench.Workloads.Stampede
