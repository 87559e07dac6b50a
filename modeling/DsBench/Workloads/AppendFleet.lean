import DsBench.Fleet.ProducerOwnership
import DsBench.Foundation.Crew
import DsBench.Foundation.NumberedSender
import DsBench.Workloads.PoolAccounting
import Mathlib.Data.Fintype.BigOperators

/-! # A fleet of append pods on one stream

Every pod of the append workload runs its connections against the same stream, each as a
producer of its own. The server and the network may do with an append what they like, except
that a success says that it was taken in.
-/

namespace DsBench

/-- One run of the workload in every pod of a fleet. Each pod has a deadline on its own
clock. -/
structure AppendFleet where
  apiStyle : Workloads.ApiStyle
  pods : Nat
  connections : Nat
  deadline : Fin pods → Nat

namespace AppendFleet

open Workloads
open Workloads.PoolAccounting (recordError errorTotal sampleOf errorTotal_recordError)

/-! ## The state -/

structure Tally where
  ok : Nat
  bp : Nat
  err : Nat
  errors : List ErrorCount
  hist : List Nat

def Tally.start : Tally := ⟨0, 0, 0, [], []⟩

inductive Control where
  | head
  | sent (started : Nat)
  | sleeping
  | recording (error : Text)
  | leaving
  | finished
deriving DecidableEq, Repr

structure Appender where
  control : Control
  sender : NumberedSender
  samples : List Nat

/-- What happens next at an appender: it reads the clock at the head of its loop, hears an
answer or an error, or goes on; the server takes one of its appends in, or a message of
its is lost or spoilt. -/
inductive Input where
  | look (checked started : Nat)
  | answer (answer : Answered) (now : Nat)
  | error (message : Text)
  | go
  | deliver (append : Posted) (status : Nat)
  | suffer (trouble : Trouble)

def success (status : Nat) : Bool := decide (isSuccess status)

def answers (status : Nat) : Verdict → Bool
  | .appended => success status
  | .duplicate => success status
  | .gap => !success status

section

variable (fleet : AppendFleet)

abbrev Index := Fin fleet.pods × Fin fleet.connections

/-- `matches!(backend.kind, ApiStyle::Ursula | ApiStyle::Durable)`. -/
def useProducer : Bool :=
  match fleet.apiStyle with
  | .ursula => true
  | .durable => true
  | .s2 => false

def producerId (index : fleet.Index) : Text :=
  Fleet.Append.producerId (Fleet.podEnvironment index.1) index.2

/-- The pods' own states, and the server: its sessions and what it holds of the stream. -/
structure Cluster where
  tallies : Fin fleet.pods → Tally
  sessions : Text → Session
  records : List (SenderRequest fleet.Index)

/-! ## The steps -/

variable {fleet} in
def Cluster.tell (cluster : Cluster fleet) (pod : Fin fleet.pods) (tally : Tally) :
    Cluster fleet :=
  { cluster with tallies := Function.update cluster.tallies pod tally }

/-- The server takes an append in. Without a producer it has nothing to tell a retry by. -/
def takeIn (index : fleet.Index) (cluster : Cluster fleet) (append : Posted) (status : Nat) :
    Option (Cluster fleet) :=
  let records := cluster.records ++ [⟨index, append.seq⟩]
  if fleet.useProducer then
    let received := (cluster.sessions (fleet.producerId index)).receive append.seq
    if answers status received.1 then
      some { cluster with
        sessions := Function.update cluster.sessions (fleet.producerId index) received.2
        records := if received.1 = .appended then records else cluster.records }
    else none
  else if success status then some { cluster with records }
  else none

/-- The handling of a reply in `run_appender`. -/
def handle (tally : Tally) (appender : Appender) (started now : Nat) (answer : Answered) :
    Tally × Appender :=
  let sender := appender.sender.hear answer (success answer.status)
  if isSuccess answer.status then
    ({ tally with ok := tally.ok + 1 },
      ⟨.head, sender, appender.samples ++ [sampleOf started now]⟩)
  else if isBackpressure answer.status then
    ({ tally with bp := tally.bp + 1 }, ⟨.sleeping, sender, appender.samples⟩)
  else
    ({ tally with err := tally.err + 1 },
      ⟨.recording ("http_status_".toList ++ decimal answer.status), sender,
        appender.samples⟩)

/-- `run_appender`, the server and the network between them. A step makes at most one access
to what is shared. -/
def act (index : fleet.Index) (cluster : Cluster fleet) (appender : Appender) :
    Input → Option (Cluster fleet × Appender)
  | .look checked started =>
      match appender.control with
      | .head =>
          if checked < fleet.deadline index.1 then
            some (cluster,
              { appender with control := .sent started, sender := appender.sender.post })
          else some (cluster, { appender with control := .leaving })
      | _ => none
  | .answer answer now =>
      match appender.control with
      | .sent started =>
          if answer ∈ appender.sender.answered ∧
              appender.sender.waiting = some answer.attempt then
            let handled := handle (cluster.tallies index.1) appender started now answer
            some (cluster.tell index.1 handled.1, handled.2)
          else none
      | _ => none
  | .error message =>
      match appender.control with
      | .sent _ =>
          let tally := cluster.tallies index.1
          some (cluster.tell index.1 { tally with err := tally.err + 1 },
            { appender with
              control := .recording message, sender := appender.sender.giveUp })
      | _ => none
  | .go =>
      match appender.control with
      | .sleeping => some (cluster, { appender with control := .head })
      | .recording error =>
          let tally := cluster.tallies index.1
          some (cluster.tell index.1
              { tally with errors := recordError error tally.errors },
            { appender with control := .head })
      | .leaving =>
          let tally := cluster.tallies index.1
          some (cluster.tell index.1 { tally with hist := tally.hist ++ appender.samples },
            { appender with control := .finished, samples := [] })
      | _ => none
  | .deliver append status =>
      if append ∈ appender.sender.posted then
        (fleet.takeIn index cluster append status).map fun cluster =>
          (cluster, { appender with sender := appender.sender.take append status })
      else none
  | .suffer trouble =>
      (appender.sender.suffer success trouble).map fun sender =>
        (cluster, { appender with sender })

def beginning : Cluster fleet × (fleet.Index → Appender) :=
  (⟨fun _ => .start, fun _ => .empty, []⟩, fun _ => ⟨.head, .fresh, []⟩)

def system : TransitionSystem (Cluster fleet × (fleet.Index → Appender)) :=
  crew fleet.act fleet.beginning

end

/-! ## What a step can be -/

inductive Moves (tally : Tally) (samples : List Nat) (sender : NumberedSender) :
    Control → Tally × Appender → Prop where
  | send (started : Nat) :
      Moves tally samples sender .head (tally, ⟨.sent started, sender.post, samples⟩)
  | leave : Moves tally samples sender .head (tally, ⟨.leaving, sender, samples⟩)
  | succeed (started now : Nat) (answer : Answered) : answer ∈ sender.answered →
      sender.waiting = some answer.attempt → success answer.status = true →
      Moves tally samples sender (.sent started)
        ({ tally with ok := tally.ok + 1 },
          ⟨.head, sender.hear answer true, samples ++ [sampleOf started now]⟩)
  | backOff (started : Nat) (answer : Answered) : answer ∈ sender.answered →
      sender.waiting = some answer.attempt → success answer.status = false →
      Moves tally samples sender (.sent started)
        ({ tally with bp := tally.bp + 1 },
          ⟨.sleeping, sender.hear answer false, samples⟩)
  | refuse (started : Nat) (answer : Answered) (error : Text) : answer ∈ sender.answered →
      sender.waiting = some answer.attempt → success answer.status = false →
      Moves tally samples sender (.sent started)
        ({ tally with err := tally.err + 1 },
          ⟨.recording error, sender.hear answer false, samples⟩)
  | fail (started : Nat) (error : Text) :
      Moves tally samples sender (.sent started)
        ({ tally with err := tally.err + 1 }, ⟨.recording error, sender.giveUp, samples⟩)
  | wake : Moves tally samples sender .sleeping (tally, ⟨.head, sender, samples⟩)
  | record (error : Text) : Moves tally samples sender (.recording error)
      ({ tally with errors := recordError error tally.errors }, ⟨.head, sender, samples⟩)
  | merge : Moves tally samples sender .leaving
      ({ tally with hist := tally.hist ++ samples }, ⟨.finished, sender, []⟩)

theorem handle_moves {tally : Tally} {appender : Appender} {started now : Nat}
    {answer : Answered} (control : appender.control = .sent started)
    (member : answer ∈ appender.sender.answered)
    (awaited : appender.sender.waiting = some answer.attempt) :
    Moves tally appender.samples appender.sender appender.control
      (handle tally appender started now answer) := by
  rw [control, handle]
  by_cases succeeded : isSuccess answer.status
  · have told : success answer.status = true := decide_eq_true succeeded
    rw [if_pos succeeded, told]
    exact .succeed started now answer member awaited told
  · have told : success answer.status = false := decide_eq_false succeeded
    rw [if_neg succeeded, told]
    split
    · exact .backOff started answer member awaited told
    · exact .refuse started answer _ member awaited told

variable {fleet : AppendFleet}

theorem act_cases {index : fleet.Index} {cluster : Cluster fleet} {appender : Appender}
    {input : Input} {next : Cluster fleet × Appender}
    (acted : fleet.act index cluster appender input = some next) :
    (∃ moved, Moves (cluster.tallies index.1) appender.samples appender.sender
        appender.control moved ∧ next = (cluster.tell index.1 moved.1, moved.2)) ∨
    (∃ append status after, append ∈ appender.sender.posted ∧
      fleet.takeIn index cluster append status = some after ∧
      next = (after, { appender with sender := appender.sender.take append status })) ∨
    (∃ trouble sender, appender.sender.suffer success trouble = some sender ∧
      next = (cluster, { appender with sender := sender })) := by
  have still : cluster.tell index.1 (cluster.tallies index.1) = cluster := by
    rw [Cluster.tell, Function.update_eq_self]
  rcases appender with ⟨control, sender, samples⟩
  cases input with
  | look checked started =>
      cases control with
      | head =>
          simp only [act] at acted
          split at acted
          · cases acted
            exact .inl ⟨_, .send started, by rw [still]⟩
          · cases acted
            exact .inl ⟨_, .leave, by rw [still]⟩
      | _ => cases acted
  | answer answer now =>
      cases control with
      | sent started =>
          simp only [act, Option.ite_none_right_eq_some] at acted
          rcases acted with ⟨⟨member, awaited⟩, same⟩
          cases same
          exact .inl ⟨_, handle_moves rfl member awaited, rfl⟩
      | _ => cases acted
  | error message =>
      cases control with
      | sent started =>
          cases acted
          exact .inl ⟨_, .fail started message, rfl⟩
      | _ => cases acted
  | go =>
      cases control with
      | sleeping =>
          cases acted
          exact .inl ⟨_, .wake, by rw [still]⟩
      | recording error =>
          cases acted
          exact .inl ⟨_, .record error, rfl⟩
      | leaving =>
          cases acted
          exact .inl ⟨_, .merge, rfl⟩
      | _ => cases acted
  | deliver append status =>
      simp only [act, Option.ite_none_right_eq_some, Option.map_eq_some_iff] at acted
      rcases acted with ⟨member, after, taken, same⟩
      exact .inr (.inl ⟨append, status, after, member, taken, same.symm⟩)
  | suffer trouble =>
      simp only [act, Option.map_eq_some_iff] at acted
      rcases acted with ⟨sender, suffered, same⟩
      exact .inr (.inr ⟨trouble, sender, suffered, same.symm⟩)

/-! ## The books of a pod -/

/-- An account of a tally, with what an appender owes to it by where it is, its attempts,
its sequence number and the samples it keeps. -/
structure Book where
  common : Tally → ℤ
  own : Control → Nat → Nat → Nat → ℤ
  opened : common .start = 0
  blank : own .head 0 0 0 = 0
  fair : ∀ tally samples sender control next, Moves tally samples sender control next →
    common next.1 +
        own next.2.control next.2.sender.attempts next.2.sender.seq next.2.samples.length =
      common tally + own control sender.attempts sender.seq samples.length

def Book.owed (book : Book) (appender : Appender) : ℤ :=
  book.own appender.control appender.sender.attempts appender.sender.seq
    appender.samples.length

def Book.share (book : Book) (pod : Fin fleet.pods) (index : fleet.Index)
    (appender : Appender) : ℤ :=
  if index.1 = pod then book.owed appender else 0

theorem Book.conserved (book : Book) (pod : Fin fleet.pods) {index : fleet.Index}
    {cluster : Cluster fleet} {appender : Appender} {input : Input}
    {next : Cluster fleet × Appender}
    (acted : fleet.act index cluster appender input = some next) :
    book.common (next.1.tallies pod) + book.share pod index next.2 =
      book.common (cluster.tallies pod) + book.share pod index appender := by
  rcases act_cases acted with ⟨moved, moves, same⟩ | ⟨append, status, after, _, taken, same⟩ |
    ⟨trouble, sender, suffered, same⟩
  · cases same
    by_cases own : index.1 = pod
    · subst own
      simp only [Book.share, if_true, Book.owed, Cluster.tell, Function.update_self]
      exact book.fair _ _ _ _ _ moves
    · simp only [Book.share, if_neg own, Cluster.tell, Function.update_of_ne (Ne.symm own)]
  · cases same
    have tallies : after.tallies = cluster.tallies := by
      rw [takeIn] at taken
      split at taken
      · rw [Option.ite_none_right_eq_some] at taken
        cases taken.2
        rfl
      · rw [Option.ite_none_right_eq_some] at taken
        cases taken.2
        rfl
    rw [tallies]
    rfl
  · cases same
    rcases NumberedSender.suffer_same suffered with ⟨attempts, seq⟩
    simp only [Book.share, Book.owed, attempts, seq]

abbrev FleetState (fleet : AppendFleet) := Cluster fleet × (fleet.Index → Appender)

/-- The books of every pod balance in every run. -/
theorem Book.balanced (book : Book) {state : FleetState fleet}
    (reachable : fleet.system.Reachable state) (pod : Fin fleet.pods) :
    book.common (state.1.tallies pod) + ∑ idx, book.owed (state.2 (pod, idx)) = 0 := by
  have balances := crew_balances (fun cluster : Cluster fleet =>
      book.common (cluster.tallies pod)) (book.share pod)
    (fun index cluster appender input next acted => book.conserved pod acted) reachable
  have shares : ∀ appenders : fleet.Index → Appender,
      ∑ index, book.share pod index (appenders index) =
        ∑ idx, book.owed (appenders (pod, idx)) := by
    intro appenders
    rw [Fintype.sum_prod_type]
    simp only [Book.share]
    rw [Finset.sum_eq_single pod]
    · simp
    · intro other _ different
      simp [different]
    · intro absent
      exact absurd (Finset.mem_univ pod) absent
  rw [shares, shares] at balances
  rw [balances]
  have blank : ∀ idx : Fin fleet.connections,
      book.owed (fleet.beginning.2 (pod, idx)) = 0 := fun _ => book.blank
  rw [Finset.sum_eq_zero fun idx _ => blank idx, add_zero]
  exact book.opened

def Control.isSent : Control → Bool
  | .sent _ => true
  | _ => false

def Control.isRecording : Control → Bool
  | .recording _ => true
  | _ => false

def okBook : Book where
  common tally := tally.ok
  own _ _ seq _ := -seq
  opened := rfl
  blank := rfl
  fair tally samples sender control next moves := by
    cases moves <;> simp [NumberedSender.post, NumberedSender.hear, NumberedSender.giveUp]

def attemptsBook : Book where
  common tally := tally.ok + tally.bp + tally.err
  own control attempts _ _ := (if control.isSent then 1 else 0) - attempts
  opened := rfl
  blank := rfl
  fair tally samples sender control next moves := by
    cases moves <;>
    · simp [NumberedSender.post, NumberedSender.hear, NumberedSender.giveUp, Control.isSent]
      try ring

def errorsBook : Book where
  common tally := tally.err - errorTotal tally.errors
  own control _ _ _ := if control.isRecording then -1 else 0
  opened := rfl
  blank := rfl
  fair tally samples sender control next moves := by
    cases moves <;> simp [Control.isRecording, errorTotal_recordError]
    all_goals ring

def samplesBook : Book where
  common tally := tally.ok - tally.hist.length
  own _ _ _ samples := -samples
  opened := rfl
  blank := rfl
  fair tally samples sender control next moves := by
    cases moves <;> simp
    all_goals ring

def waiting (state : FleetState fleet) (pod : Fin fleet.pods) : Nat :=
  ∑ idx, if (state.2 (pod, idx)).control.isSent then 1 else 0

/-- All appenders of a pod have come to the end of their tasks. -/
def Joined (state : FleetState fleet) (pod : Fin fleet.pods) : Prop :=
  ∀ idx, (state.2 (pod, idx)).control = .finished

section

variable {state : FleetState fleet} (reachable : fleet.system.Reachable state)
  (pod : Fin fleet.pods)

include reachable

theorem ok_eq : (state.1.tallies pod).ok = ∑ idx, (state.2 (pod, idx)).sender.seq := by
  have balanced := okBook.balanced reachable pod
  simp only [okBook, Book.owed, Finset.sum_neg_distrib] at balanced
  rw [← Nat.cast_inj (R := ℤ), Nat.cast_sum]
  omega

theorem attempts_eq :
    ∑ idx, (state.2 (pod, idx)).sender.attempts =
      (state.1.tallies pod).ok + (state.1.tallies pod).bp + (state.1.tallies pod).err +
        waiting state pod := by
  have balanced := attemptsBook.balanced reachable pod
  simp only [attemptsBook, Book.owed, Finset.sum_sub_distrib] at balanced
  rw [← Nat.cast_inj (R := ℤ), waiting]
  push_cast
  omega

theorem errors_of_joined (joined : Joined state pod) :
    errorTotal (state.1.tallies pod).errors = (state.1.tallies pod).err := by
  have balanced := errorsBook.balanced reachable pod
  simp only [errorsBook, Book.owed, joined _, Control.isRecording, Bool.false_eq_true,
    if_false, Finset.sum_const_zero] at balanced
  omega

end

/-! ## The stream -/

/-- The server's session is abreast of its appender, and the appender's records are in the
stream once each and in order. -/
def Level (index : fleet.Index) (cluster : Cluster fleet) (appender : Appender) : Prop :=
  NumberedSender.Abreast success (cluster.sessions (fleet.producerId index))
      appender.sender ∧
    numbersOf cluster.records index =
      List.range (cluster.sessions (fleet.producerId index)).expected

def Backed (index : fleet.Index) (cluster : Cluster fleet) (appender : Appender) : Prop :=
  NumberedSender.Covered success (numbersOf cluster.records index).length appender.sender

theorem producerId_injective : Function.Injective fleet.producerId := by
  intro index other same
  rcases Fleet.Append.producerId_injective same with ⟨pods, indices⟩
  exact Prod.ext (Fin.ext pods) (Fin.ext indices)

theorem Moves.sender_keeps {Good : NumberedSender → Prop}
    {tally : Tally} {samples : List Nat} {sender : NumberedSender} {control : Control}
    {next : Tally × Appender} (moves : Moves tally samples sender control next)
    (good : Good sender) (post : Good sender.post) (giveUp : Good sender.giveUp)
    (hear : ∀ answer ∈ sender.answered, sender.waiting = some answer.attempt →
      Good (sender.hear answer (success answer.status))) : Good next.2.sender := by
  cases moves with
  | send started => exact post
  | succeed started now answer member awaited told =>
      rw [← told]
      exact hear answer member awaited
  | backOff started answer member awaited told =>
      rw [← told]
      exact hear answer member awaited
  | refuse started answer error member awaited told =>
      rw [← told]
      exact hear answer member awaited
  | fail started error => exact giveUp
  | leave => exact good
  | wake => exact good
  | record error => exact good
  | merge => exact good

theorem takeIn_of_ne {index other : fleet.Index} (different : index ≠ other)
    {cluster after : Cluster fleet} {append : Posted} {status : Nat}
    (taken : fleet.takeIn other cluster append status = some after) :
    after.sessions (fleet.producerId index) = cluster.sessions (fleet.producerId index) ∧
      numbersOf after.records index = numbersOf cluster.records index := by
  have names : fleet.producerId index ≠ fleet.producerId other :=
    fun same => different (producerId_injective same)
  have grown := numbersOf_concat_of_ne cluster.records different append.seq
  rw [takeIn] at taken
  split at taken
  · rw [Option.ite_none_right_eq_some] at taken
    cases taken.2
    refine ⟨Function.update_of_ne names _ _, ?_⟩
    dsimp only
    split
    · exact grown
    · rfl
  · rw [Option.ite_none_right_eq_some] at taken
    cases taken.2
    exact ⟨rfl, grown⟩

theorem act_of_ne {index other : fleet.Index} (different : index ≠ other)
    {cluster : Cluster fleet} {appender : Appender} {input : Input}
    {next : Cluster fleet × Appender}
    (acted : fleet.act other cluster appender input = some next) :
    next.1.sessions (fleet.producerId index) = cluster.sessions (fleet.producerId index) ∧
      numbersOf next.1.records index = numbersOf cluster.records index := by
  rcases act_cases acted with ⟨moved, _, same⟩ | ⟨append, status, after, _, taken, same⟩ |
    ⟨trouble, sender, _, same⟩
  · cases same
    exact ⟨rfl, rfl⟩
  · cases same
    exact takeIn_of_ne different taken
  · cases same
    exact ⟨rfl, rfl⟩

theorem Level.takeIn {index : fleet.Index} {cluster after : Cluster fleet}
    {appender : Appender} (level : Level index cluster appender) {append : Posted}
    {status : Nat} (producer : fleet.useProducer = true)
    (member : append ∈ appender.sender.posted)
    (taken : fleet.takeIn index cluster append status = some after) :
    Level index after { appender with sender := appender.sender.take append status } := by
  rw [AppendFleet.takeIn, if_pos producer, Option.ite_none_right_eq_some] at taken
  have stepped := level.1.take member status
  have listed := level.2
  cases taken.2
  rw [Level]
  dsimp only
  rw [Function.update_self]
  refine ⟨stepped, ?_⟩
  rcases (cluster.sessions (fleet.producerId index)).receive_cases append.seq with
    ⟨due, received⟩ | ⟨_, received⟩ | ⟨_, received⟩
  · rw [received, if_pos rfl, numbersOf_concat, listed, due, List.range_succ]
  · rw [received, if_neg Verdict.noConfusion]
    exact listed
  · rw [received, if_neg Verdict.noConfusion]
    exact listed

theorem level_kept (producer : fleet.useProducer = true) {index : fleet.Index}
    {cluster : Cluster fleet} {appender : Appender} {input : Input}
    {next : Cluster fleet × Appender} (level : Level index cluster appender)
    (acted : fleet.act index cluster appender input = some next) :
    Level index next.1 next.2 := by
  rcases act_cases acted with ⟨moved, moves, same⟩ |
    ⟨append, status, after, member, taken, same⟩ | ⟨trouble, sender, suffered, same⟩
  · cases same
    refine ⟨?_, level.2⟩
    exact moves.sender_keeps level.1 level.1.post level.1.giveUp
      (fun answer listed awaited => level.1.hear listed awaited)
  · cases same
    exact level.takeIn producer member taken
  · cases same
    exact ⟨level.1.suffer suffered, level.2⟩

theorem backed_kept (plain : fleet.useProducer = false) {index : fleet.Index}
    {cluster : Cluster fleet} {appender : Appender} {input : Input}
    {next : Cluster fleet × Appender} (backed : Backed index cluster appender)
    (acted : fleet.act index cluster appender input = some next) :
    Backed index next.1 next.2 := by
  rcases act_cases acted with ⟨moved, moves, same⟩ |
    ⟨append, status, after, member, taken, same⟩ | ⟨trouble, sender, suffered, same⟩
  · cases same
    have covered : NumberedSender.Covered success (numbersOf cluster.records index).length
      appender.sender := backed
    exact moves.sender_keeps covered covered.post covered.giveUp
      (fun answer listed _ => covered.hear listed)
  · cases same
    rw [AppendFleet.takeIn, if_neg (by rw [plain]; exact Bool.false_ne_true),
      Option.ite_none_right_eq_some] at taken
    cases taken.2
    have stepped := NumberedSender.Covered.take backed member status
    rw [Backed, numbersOf_concat, List.length_append]
    exact stepped
  · cases same
    exact NumberedSender.Covered.suffer backed suffered

section

variable {state : FleetState fleet}

theorem level_of_reachable (producer : fleet.useProducer = true)
    (reachable : fleet.system.Reachable state) (index : fleet.Index) :
    Level index state.1 (state.2 index) := by
  apply crew_apart Level ?_ ?_ ?_ reachable
  · intro index
    exact ⟨NumberedSender.abreast_fresh, rfl⟩
  · intro index cluster appender input next level acted
    exact level_kept producer level acted
  · intro index other cluster appender input next mine different acted level
    rcases act_of_ne different acted with ⟨sessions, records⟩
    rw [Level, sessions, records]
    exact level

theorem backed_of_reachable (plain : fleet.useProducer = false)
    (reachable : fleet.system.Reachable state) (index : fleet.Index) :
    Backed index state.1 (state.2 index) := by
  apply crew_apart Backed ?_ ?_ ?_ reachable
  · intro index
    exact NumberedSender.covered_fresh
  · intro index cluster appender input next backed acted
    exact backed_kept plain backed acted
  · intro index other cluster appender input next mine different acted backed
    rw [Backed, (act_of_ne different acted).2]
    exact backed

theorem samples_of_finished (reachable : fleet.system.Reachable state)
    (index : fleet.Index) (finished : (state.2 index).control = .finished) :
    (state.2 index).samples = [] := by
  apply crew_keeps (fun appender : Appender => appender.control = .finished →
    appender.samples = []) ?_ ?_ reachable index finished
  · intro index finished
    rfl
  · intro index cluster appender input next merged acted
    rcases act_cases acted with ⟨moved, moves, same⟩ | ⟨_, _, _, _, _, same⟩ |
      ⟨_, _, _, same⟩
    · rcases appender with ⟨control, sender, samples⟩
      cases same
      cases moves with
      | merge =>
          intro _
          rfl
      | _ =>
          intro finished
          cases finished
    · cases same
      exact merged
    · cases same
      exact merged

theorem hist_of_joined (reachable : fleet.system.Reachable state) (pod : Fin fleet.pods)
    (joined : Joined state pod) :
    (state.1.tallies pod).hist.length = (state.1.tallies pod).ok := by
  have balanced := samplesBook.balanced reachable pod
  have merged : ∀ idx, (state.2 (pod, idx)).samples = [] :=
    fun idx => samples_of_finished reachable (pod, idx) (joined idx)
  simp only [samplesBook, Book.owed, merged, List.length_nil, Nat.cast_zero, neg_zero,
    Finset.sum_const_zero] at balanced
  omega

def inDoubt (state : FleetState fleet) : Finset fleet.Index :=
  Finset.univ.filter fun index =>
    (state.2 index).sender.seq < (numbersOf state.1.records index).length

theorem sum_ok (reachable : fleet.system.Reachable state) :
    ∑ pod, (state.1.tallies pod).ok = ∑ index, (state.2 index).sender.seq := by
  rw [Fintype.sum_prod_type]
  apply Finset.sum_congr rfl
  intro pod _
  exact ok_eq reachable pod

theorem length_records (producer : fleet.useProducer = true)
    (reachable : fleet.system.Reachable state) :
    state.1.records.length =
      ∑ pod, (state.1.tallies pod).ok + (inDoubt state).card := by
  rw [length_eq_sum_numbersOf, sum_ok reachable, inDoubt, Finset.card_filter,
    ← Finset.sum_add_distrib]
  apply Finset.sum_congr rfl
  intro index _
  have level := level_of_reachable producer reachable index
  have behind := level.1.behind
  have close := level.1.close
  have stored : (numbersOf state.1.records index).length =
      (state.1.sessions (fleet.producerId index)).expected := by
    rw [level.2, List.length_range]
  split <;> omega

/-- In every run of a fleet, the appenders, the server and the network interleaved in any
way: with producers each appender's records are in the stream once each and in order, no
append is ever rejected for its number, and the stream holds the appends the pods counted
and one more for each appender in doubt. Without, it holds at least those and at most one
for each append sent. A pod that has joined its appenders counts every append once, each
error in its list, and has a sample for each success. -/
theorem append_fleet_exact (reachable : fleet.system.Reachable state) :
    (fleet.useProducer = true →
      (∀ index, ∃ stored, numbersOf state.1.records index = List.range stored ∧
        (state.2 index).sender.seq ≤ stored ∧ stored ≤ (state.2 index).sender.seq + 1) ∧
      (∀ index, ∀ append ∈ (state.2 index).sender.posted,
        ((state.1.sessions (fleet.producerId index)).receive append.seq).1 ≠ .gap) ∧
      state.1.records.length =
        ∑ pod, (state.1.tallies pod).ok + (inDoubt state).card) ∧
    (fleet.useProducer = false →
      ∑ pod, (state.1.tallies pod).ok ≤ state.1.records.length ∧
      state.1.records.length ≤ ∑ pod, ((state.1.tallies pod).ok + (state.1.tallies pod).bp +
        (state.1.tallies pod).err + waiting state pod)) ∧
    ∀ pod, Joined state pod →
      errorTotal (state.1.tallies pod).errors = (state.1.tallies pod).err ∧
      (state.1.tallies pod).hist.length = (state.1.tallies pod).ok ∧
      (state.1.tallies pod).ok + (state.1.tallies pod).bp + (state.1.tallies pod).err =
        ∑ idx, (state.2 (pod, idx)).sender.attempts := by
  refine ⟨?_, ?_, ?_⟩
  · intro producer
    refine ⟨?_, ?_, length_records producer reachable⟩
    · intro index
      have level := level_of_reachable producer reachable index
      exact ⟨_, level.2, level.1.behind, level.1.close⟩
    · intro index append member
      exact (level_of_reachable producer reachable index).1.no_gap member
  · intro plain
    have backed := backed_of_reachable plain reachable
    constructor
    · rw [sum_ok reachable, length_eq_sum_numbersOf]
      apply Finset.sum_le_sum
      intro index _
      exact (Nat.le_add_right _ _).trans (backed index).backed
    · rw [length_eq_sum_numbersOf, Fintype.sum_prod_type]
      apply Finset.sum_le_sum
      intro pod _
      rw [← attempts_eq reachable pod]
      apply Finset.sum_le_sum
      intro idx _
      exact (Nat.le_add_right _ _).trans (backed (pod, idx)).room
  · intro pod joined
    refine ⟨errors_of_joined reachable pod joined, hist_of_joined reachable pod joined, ?_⟩
    rw [attempts_eq reachable pod, waiting]
    simp only [joined _, Control.isSent, Bool.false_eq_true, if_false,
      Finset.sum_const_zero, Nat.add_zero]

end

/-! ## A timeout -/

def pairAppenders : AppendFleet := ⟨.durable, 2, 1, fun _ => 1⟩

def firstAppender : pairAppenders.Index := (⟨0, Nat.two_pos⟩, ⟨0, Nat.one_pos⟩)

def secondAppender : pairAppenders.Index := (⟨1, Nat.one_lt_two⟩, ⟨0, Nat.one_pos⟩)

/-- The first pod's append is stored, but its answer is lost, and the retry, which comes
after the append of the second pod, is taken for what it is. -/
def timeoutInputs : List (pairAppenders.Index × Input) :=
  [(firstAppender, .look 0 0), (firstAppender, .deliver ⟨0, 0⟩ 200),
    (firstAppender, .suffer (.forget ⟨0, 200⟩)), (secondAppender, .look 0 0),
    (secondAppender, .deliver ⟨0, 0⟩ 200), (firstAppender, .error "timeout".toList),
    (firstAppender, .go), (firstAppender, .look 0 0), (firstAppender, .deliver ⟨1, 0⟩ 204),
    (secondAppender, .answer ⟨0, 200⟩ 3000), (firstAppender, .answer ⟨1, 204⟩ 5000),
    (secondAppender, .look 1 0), (secondAppender, .go), (firstAppender, .look 1 0),
    (firstAppender, .go)]

theorem append_fleet_exact_of_timeout :
    ∃ state : FleetState pairAppenders, pairAppenders.system.Reachable state ∧
      numbersOf state.1.records firstAppender = [0] ∧
      numbersOf state.1.records secondAppender = [0] ∧
      errorTotal (state.1.tallies firstAppender.1).errors = 1 ∧
      (state.1.tallies secondAppender.1).hist.length = 1 := by
  have run : (TransitionSystem.perform (fun _ _ => true) (crewAct pairAppenders.act)
      pairAppenders.beginning timeoutInputs).map
        (fun state => ((state.2 firstAppender).control, (state.2 secondAppender).control,
          (numbersOf state.1.records firstAppender).length,
          (numbersOf state.1.records secondAppender).length,
          (state.1.tallies firstAppender.1).err, (state.1.tallies secondAppender.1).ok)) =
      some (.finished, .finished, 1, 1, 1, 1) := by
    decide +kernel
  rw [Option.map_eq_some_iff] at run
  rcases run with ⟨state, performed, facts⟩
  simp only [Prod.mk.injEq] at facts
  rcases facts with ⟨firstEnded, secondEnded, firstCount, secondCount, err, ok⟩
  have reachable : pairAppenders.system.Reachable state :=
    TransitionSystem.reachable_of_perform (.initial rfl) performed
  rcases append_fleet_exact reachable with ⟨producers, _, pods⟩
  rcases producers rfl with ⟨listed, _, _⟩
  have numbered : ∀ index, (numbersOf state.1.records index).length = 1 →
      numbersOf state.1.records index = [0] := by
    intro index count
    rcases listed index with ⟨stored, numbers, _⟩
    rw [numbers, List.length_range] at count
    rw [numbers, count]
    rfl
  have firstJoined : Joined state firstAppender.1 := by
    intro idx
    rw [show (firstAppender.1, idx) = firstAppender from
      Prod.ext rfl (Subsingleton.elim (α := Fin 1) _ _)]
    exact firstEnded
  have secondJoined : Joined state secondAppender.1 := by
    intro idx
    rw [show (secondAppender.1, idx) = secondAppender from
      Prod.ext rfl (Subsingleton.elim (α := Fin 1) _ _)]
    exact secondEnded
  exact ⟨state, reachable, numbered firstAppender firstCount,
    numbered secondAppender secondCount, (pods firstAppender.1 firstJoined).1.trans err,
    (pods secondAppender.1 secondJoined).2.1.trans ok⟩

end AppendFleet

end DsBench
