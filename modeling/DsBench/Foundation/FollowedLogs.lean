import DsBench.Foundation.TransitionSystem
import Mathlib.Logic.Function.Basic

/-! # Parties that follow shared logs

Parties append stamped records to logs they share, and follow logs from the place where
they attached. A follower compares each record's stamp with one of its own; whose stamps
it compares is settled by who writes and who follows each log.
-/

namespace DsBench.FollowedLogs

inductive Gate where
  | none
  | attempted
  | connected
deriving DecidableEq, Repr

/-- What each party runs: the topics of the records it appends while it sets up, of its
writers, and of its followers. Writers run for `drive` from the party's release. -/
structure Roster (Party Topic : Type) where
  preloads : Party → List Topic
  writers : Party → List Topic
  followers : Party → List Topic
  gate : Gate
  reconnects : Bool
  drive : Nat
  setsDeadline : Party → Bool
  /-- How long before the deadline samples count; without it they always do. -/
  window : Option Nat

structure Stamp (Party : Type) where
  party : Party
  reading : Nat
deriving DecidableEq, Repr

structure Sample (Party : Type) where
  sent : Stamp Party
  received : Stamp Party
deriving DecidableEq, Repr

inductive Link where
  | waiting
  | failed
  | following (position : Nat)
deriving DecidableEq, Repr

inductive Stage where
  | setup
  | connecting
  | driving (deadline : Option Nat)
deriving DecidableEq, Repr

structure State (Party Topic : Type) where
  now : Nat
  log : Topic → List (Stamp Party)
  links : Party → Nat → Link
  stage : Party → Stage
  samples : List (Sample Party)

variable {Party Topic : Type}

namespace State

def start : State Party Topic where
  now := 0
  log _ := []
  links _ _ := .waiting
  stage _ := .setup
  samples := []

section

variable [DecidableEq Topic] (state : State Party Topic)

def append (topic : Topic) (stamp : Stamp Party) : State Party Topic :=
  { state with log := Function.update state.log topic (state.log topic ++ [stamp]) }

@[simp] theorem append_log_self (topic : Topic) (stamp : Stamp Party) :
    (state.append topic stamp).log topic = state.log topic ++ [stamp] :=
  Function.update_self topic _ state.log

theorem append_log_of_ne {topic other : Topic} (stamp : Stamp Party)
    (distinct : other ≠ topic) : (state.append topic stamp).log other = state.log other :=
  Function.update_of_ne distinct _ state.log

end

section

variable [DecidableEq Party] (state : State Party Topic)

def setLink (party : Party) (index : Nat) (link : Link) : State Party Topic :=
  { state with
    links := Function.update state.links party
      (Function.update (state.links party) index link) }

def setStage (party : Party) (stage : Stage) : State Party Topic :=
  { state with stage := Function.update state.stage party stage }

@[simp] theorem setStage_stage_self (party : Party) (stage : Stage) :
    (state.setStage party stage).stage party = stage := by
  simp [setStage]

theorem setStage_stage_of_ne {party other : Party} (stage : Stage) (distinct : other ≠ party) :
    (state.setStage party stage).stage other = state.stage other := by
  simp [setStage, distinct]

end

end State

namespace Roster

variable (roster : Roster Party Topic)

def Passes (links : Nat → Link) (count : Nat) : Prop :=
  match roster.gate with
  | .none => True
  | .attempted => ∀ index < count, links index ≠ .waiting
  | .connected => ∀ index < count, ∃ position, links index = .following position

/-- Whether a delivery at `now` counts. -/
def Counts (deadline : Option Nat) (now : Nat) : Prop :=
  ∀ span ∈ roster.window, ∃ instant ∈ deadline, instant ≤ now + span

def Stamps (party : Party) (topic : Topic) : Prop :=
  topic ∈ roster.preloads party ∨
    topic ∈ roster.writers party ∧ roster.setsDeadline party = true ∧ 0 < roster.drive

def Listens (party : Party) (topic : Topic) : Prop :=
  topic ∈ roster.followers party ∧ (roster.window = none ∨ roster.setsDeadline party = true)

variable [DecidableEq Party] [DecidableEq Topic]

inductive Step : State Party Topic → State Party Topic → Prop
  | tick (state : State Party Topic) (later : Nat) :
      state.now ≤ later → Step state { state with now := later }
  | preload (state : State Party Topic) (party : Party) (topic : Topic) (reading : Nat) :
      state.stage party = .setup → topic ∈ roster.preloads party →
      Step state (state.append topic ⟨party, reading⟩)
  | ready (state : State Party Topic) (party : Party) :
      state.stage party = .setup → Step state (state.setStage party .connecting)
  | attach (state : State Party Topic) (party : Party) (index : Nat) (topic : Topic) :
      state.stage party ≠ .setup → (roster.followers party)[index]? = some topic →
      state.links party index = .waiting ∨ roster.reconnects = true →
      Step state (state.setLink party index (.following (state.log topic).length))
  | fail (state : State Party Topic) (party : Party) (index : Nat) :
      state.stage party ≠ .setup → index < (roster.followers party).length →
      state.links party index = .waiting ∨ roster.reconnects = true →
      Step state (state.setLink party index .failed)
  | release (state : State Party Topic) (party : Party) :
      state.stage party = .connecting →
      roster.Passes (state.links party) (roster.followers party).length →
      Step state (state.setStage party (.driving
        (if roster.setsDeadline party then some (state.now + roster.drive) else none)))
  | write (state : State Party Topic) (party : Party) (topic : Topic)
      (deadline reading : Nat) :
      state.stage party = .driving (some deadline) → state.now < deadline →
      topic ∈ roster.writers party → Step state (state.append topic ⟨party, reading⟩)
  | pass (state : State Party Topic) (party : Party) (index : Nat) (topic : Topic)
      (deadline : Option Nat) (position : Nat) (stamp : Stamp Party) :
      state.stage party = .driving deadline → (roster.followers party)[index]? = some topic →
      state.links party index = .following position →
      (state.log topic)[position]? = some stamp →
      Step state (state.setLink party index (.following (position + 1)))
  | sample (state : State Party Topic) (party : Party) (index : Nat) (topic : Topic)
      (deadline : Option Nat) (position : Nat) (stamp : Stamp Party) (reading : Nat) :
      state.stage party = .driving deadline → (roster.followers party)[index]? = some topic →
      state.links party index = .following position →
      (state.log topic)[position]? = some stamp → roster.Counts deadline state.now →
      Step state { state.setLink party index (.following (position + 1)) with
        samples := state.samples ++ [⟨stamp, ⟨party, reading⟩⟩] }

def system : TransitionSystem (State Party Topic) where
  Initial state := state = .start
  Step := roster.Step

/-- All samples of all runs compare two stamps of one party. -/
def SingleClock : Prop :=
  ∀ state, roster.system.Reachable state → ∀ sample ∈ state.samples,
    sample.sent.party = sample.received.party

end Roster

/-! ## Every sample has a source -/

structure Sourced (roster : Roster Party Topic) (state : State Party Topic) : Prop where
  deadlines : ∀ party deadline, state.stage party = .driving (some deadline) →
    roster.setsDeadline party = true ∧ deadline ≤ state.now + roster.drive
  stamped : ∀ topic, ∀ stamp ∈ state.log topic, roster.Stamps stamp.party topic
  sampled : ∀ sample ∈ state.samples, ∃ topic,
    roster.Stamps sample.sent.party topic ∧ roster.Listens sample.received.party topic

namespace Sourced

variable {roster : Roster Party Topic} {state : State Party Topic}

theorem append [DecidableEq Topic] (sourced : Sourced roster state) {party : Party}
    {topic : Topic} (stamps : roster.Stamps party topic) (reading : Nat) :
    Sourced roster (state.append topic ⟨party, reading⟩) where
  deadlines := sourced.deadlines
  stamped := by
    intro other stamp member
    by_cases same : other = topic
    · subst same
      rw [State.append_log_self] at member
      rcases List.mem_append.mp member with earlier | new
      · exact sourced.stamped other stamp earlier
      · rw [List.mem_singleton.mp new]
        exact stamps
    · rw [State.append_log_of_ne state _ same] at member
      exact sourced.stamped other stamp member
  sampled := sourced.sampled

theorem setLink [DecidableEq Party] (sourced : Sourced roster state) (party : Party)
    (index : Nat) (link : Link) : Sourced roster (state.setLink party index link) :=
  ⟨sourced.deadlines, sourced.stamped, sourced.sampled⟩

theorem setStage [DecidableEq Party] (sourced : Sourced roster state) {party : Party}
    {stage : Stage}
    (deadlines : ∀ deadline, stage = .driving (some deadline) →
      roster.setsDeadline party = true ∧ deadline ≤ state.now + roster.drive) :
    Sourced roster (state.setStage party stage) where
  deadlines := by
    intro other deadline driving
    by_cases same : other = party
    · subst same
      rw [State.setStage_stage_self] at driving
      exact deadlines deadline driving
    · rw [State.setStage_stage_of_ne state _ same] at driving
      exact sourced.deadlines other deadline driving
  stamped := sourced.stamped
  sampled := sourced.sampled

theorem tick (sourced : Sourced roster state) {later : Nat} (le : state.now ≤ later) :
    Sourced roster { state with now := later } where
  deadlines := by
    intro party deadline driving
    rcases sourced.deadlines party deadline driving with ⟨sets, bound⟩
    exact ⟨sets, Nat.le_trans bound (Nat.add_le_add_right le _)⟩
  stamped := sourced.stamped
  sampled := sourced.sampled

theorem sample [DecidableEq Party] (sourced : Sourced roster state) {party : Party}
    {index position : Nat}
    {topic : Topic} {deadline : Option Nat} {stamp : Stamp Party}
    (driving : state.stage party = .driving deadline)
    (followed : (roster.followers party)[index]? = some topic)
    (found : (state.log topic)[position]? = some stamp)
    (counts : roster.Counts deadline state.now) (link : Link) (reading : Nat) :
    Sourced roster { state.setLink party index link with
      samples := state.samples ++ [⟨stamp, ⟨party, reading⟩⟩] } where
  deadlines := sourced.deadlines
  stamped := sourced.stamped
  sampled := by
    intro sample member
    rcases List.mem_append.mp member with earlier | new
    · exact sourced.sampled sample earlier
    · rw [List.mem_singleton.mp new]
      refine ⟨topic, sourced.stamped topic stamp (List.mem_of_getElem? found),
        List.mem_of_getElem? followed, ?_⟩
      cases window : roster.window with
      | none => exact .inl rfl
      | some span =>
          right
          rcases counts span window with ⟨instant, set, -⟩
          rw [Option.mem_def.mp set] at driving
          exact (sourced.deadlines party instant driving).1

end Sourced

variable [DecidableEq Party] [DecidableEq Topic]

theorem system_sourced (roster : Roster Party Topic) :
    roster.system.Invariant (Sourced roster) where
  initially := by
    intro state initial
    rw [initial]
    refine ⟨?_, ?_, ?_⟩
    · intro party deadline driving
      cases driving
    · intro topic stamp member
      cases member
    · intro sample member
      cases member
  preserved := by
    intro before after sourced step
    cases step with
    | tick later le => exact sourced.tick le
    | preload party topic reading setup preloads =>
        exact sourced.append (.inl preloads) reading
    | ready party setup =>
        apply sourced.setStage
        intro deadline driving
        cases driving
    | attach party index topic running followed free => exact sourced.setLink party index _
    | fail party index running inside free => exact sourced.setLink party index _
    | release party connecting passes =>
        apply sourced.setStage
        intro deadline driving
        split at driving
        · rename_i sets
          cases driving
          exact ⟨sets, Nat.le_refl _⟩
        · cases driving
    | write party topic deadline reading driving early writes =>
        rcases sourced.deadlines party deadline driving with ⟨sets, bound⟩
        exact sourced.append (.inr ⟨writes, sets, by omega⟩) reading
    | pass party index topic deadline position stamp driving followed following found =>
        exact sourced.setLink party index _
    | sample party index topic deadline position stamp reading driving followed following
        found counts =>
        exact sourced.sample driving followed found counts _ reading

/-! ## Every source can be heard -/

namespace State

variable (roster : Roster Party Topic) (state : State Party Topic) (party : Party)

omit [DecidableEq Topic]

def attached (count : Nat) : State Party Topic :=
  { state with
    links := Function.update state.links party fun index =>
      if index < count then
        match (roster.followers party)[index]? with
        | some topic => .following (state.log topic).length
        | none => state.links party index
      else state.links party index }

def launched : State Party Topic :=
  ((state.setStage party .connecting).attached roster party
      (roster.followers party).length).setStage party
    (.driving (if roster.setsDeadline party then some (state.now + roster.drive) else none))

theorem launched_stage : (state.launched roster party).stage party =
    .driving (if roster.setsDeadline party then some (state.now + roster.drive) else none) :=
  setStage_stage_self _ party _

theorem launched_stage_of_ne {other : Party} (distinct : other ≠ party) :
    (state.launched roster party).stage other = state.stage other := by
  rw [launched, setStage_stage_of_ne _ _ distinct]
  exact setStage_stage_of_ne state .connecting distinct

theorem launched_links_of_ne {other : Party} (distinct : other ≠ party) :
    (state.launched roster party).links other = state.links other :=
  Function.update_of_ne distinct _ state.links

theorem attached_zero : state.attached roster party 0 = state := by
  simp [attached]

theorem attached_links {index : Nat} {topic : Topic} {count : Nat}
    (followed : (roster.followers party)[index]? = some topic) (inside : index < count) :
    (state.attached roster party count).links party index =
      .following (state.log topic).length := by
  simp [attached, followed, inside]

theorem attached_links_of_le {index count : Nat} (le : count ≤ index) :
    (state.attached roster party count).links party index = state.links party index := by
  simp [attached, Nat.not_lt.mpr le]

theorem setLink_attached {count : Nat} {topic : Topic}
    (followed : (roster.followers party)[count]? = some topic) :
    (state.attached roster party count).setLink party count
        (.following (state.log topic).length) =
      state.attached roster party (count + 1) := by
  rw [setLink, attached, attached]
  congr 1
  simp only [Function.update_self, Function.update_idem]
  congr 1
  funext index
  rcases Nat.lt_trichotomy index count with before | same | after
  · rw [Function.update_of_ne (by omega), if_pos before, if_pos (by omega)]
  · subst same
    rw [Function.update_self, if_pos (by omega), followed]
  · rw [Function.update_of_ne (by omega), if_neg (by omega), if_neg (by omega)]

theorem launched_links {index : Nat} {topic : Topic}
    (followed : (roster.followers party)[index]? = some topic) :
    (state.launched roster party).links party index = .following (state.log topic).length :=
  attached_links roster (state.setStage party .connecting) party followed
    (List.getElem?_eq_some_iff.mp followed).1

end State

section

variable {roster : Roster Party Topic} {state : State Party Topic} {party : Party}

theorem attached_run (running : state.stage party ≠ .setup)
    (waiting : ∀ index, state.links party index = .waiting) {count : Nat}
    (inside : count ≤ (roster.followers party).length) :
    roster.system.Run state (state.attached roster party count) := by
  induction count with
  | zero =>
      rw [State.attached_zero]
      exact .refl
  | succ count induction =>
      have followed :
          (roster.followers party)[count]? = some (roster.followers party)[count] :=
        List.getElem?_eq_getElem inside
      have still : (state.attached roster party count).links party count = .waiting := by
        rw [State.attached_links_of_le roster state party (Nat.le_refl count)]
        exact waiting count
      have step : roster.Step (state.attached roster party count) _ :=
        .attach _ party count _ running followed (.inl still)
      rw [← State.setLink_attached roster state party followed]
      exact Relation.ReflTransGen.tail (induction (by omega)) step

omit [DecidableEq Party] [DecidableEq Topic] in
theorem passes_of_following {links : Nat → Link} {count : Nat}
    (following : ∀ index < count, ∃ position, links index = .following position) :
    roster.Passes links count := by
  rw [Roster.Passes]
  cases roster.gate with
  | none => trivial
  | attempted =>
      intro index inside waiting
      rcases following index inside with ⟨position, link⟩
      rw [waiting] at link
      cases link
  | connected => exact following

theorem launched_run (setup : state.stage party = .setup)
    (waiting : ∀ index, state.links party index = .waiting) :
    roster.system.Run state (state.launched roster party) := by
  have ready : roster.Step state (state.setStage party .connecting) :=
    .ready state party setup
  have connecting : (state.setStage party .connecting).stage party = .connecting :=
    State.setStage_stage_self state party .connecting
  have attached : roster.system.Run (state.setStage party .connecting)
      ((state.setStage party .connecting).attached roster party
        (roster.followers party).length) := by
    apply attached_run _ _ (Nat.le_refl _)
    · rw [connecting]
      intro same
      cases same
    · exact waiting
  have passes : roster.Passes
      (((state.setStage party .connecting).attached roster party
        (roster.followers party).length).links party) (roster.followers party).length := by
    apply passes_of_following
    intro index inside
    exact ⟨_, State.attached_links roster _ party (List.getElem?_eq_getElem inside) inside⟩
  exact (Relation.ReflTransGen.head ready attached).tail (.release _ party connecting passes)

theorem stamped_run {topic : Topic} (stamps : roster.Stamps party topic)
    (setup : state.stage party = .setup)
    (waiting : ∀ index, state.links party index = .waiting) :
    ∃ later, roster.system.Run state later ∧
      (later.log topic)[(state.log topic).length]? = some ⟨party, 0⟩ ∧
      later.now = state.now ∧
      ∀ other, other ≠ party →
        later.stage other = state.stage other ∧ later.links other = state.links other := by
  rcases stamps with preloads | ⟨writes, sets, drives⟩
  · refine ⟨_, .single (.preload state party topic 0 setup preloads), ?_, rfl, ?_⟩
    · rw [State.append_log_self]
      exact List.getElem?_concat_length
    · intro other _
      exact ⟨rfl, rfl⟩
  · have driving := State.launched_stage roster state party
    rw [if_pos sets] at driving
    have write : roster.Step (state.launched roster party)
        ((state.launched roster party).append topic ⟨party, 0⟩) :=
      .write _ party topic (state.now + roster.drive) 0 driving
        (Nat.lt_add_of_pos_right drives) writes
    refine ⟨_, (launched_run setup waiting).tail write, ?_, rfl, ?_⟩
    · rw [State.append_log_self]
      exact List.getElem?_concat_length
    · intro other distinct
      exact ⟨State.launched_stage_of_ne roster state party distinct,
        State.launched_links_of_ne roster state party distinct⟩

theorem exists_sample {sender receiver : Party} (distinct : receiver ≠ sender) {topic : Topic}
    (stamps : roster.Stamps sender topic) (listens : roster.Listens receiver topic) :
    ∃ state, roster.system.Reachable state ∧ ∃ sample ∈ state.samples,
      sample.sent.party = sender ∧ sample.received.party = receiver := by
  rcases listens with ⟨follows, counted⟩
  rcases List.getElem?_of_mem follows with ⟨index, followed⟩
  -- The receiver attaches while the log is empty, and the sender stamps its first record.
  let attached : State Party Topic := State.start.launched roster receiver
  have receiverRun : roster.system.Run .start attached := launched_run rfl fun _ => rfl
  rcases stamped_run stamps
    (State.launched_stage_of_ne roster .start receiver distinct.symm)
    (congrFun (State.launched_links_of_ne roster .start receiver distinct.symm)) with
    ⟨stamped, senderRun, found, same, others⟩
  rcases others receiver distinct with ⟨stage, links⟩
  have later : roster.Step stamped { stamped with now := roster.drive } :=
    .tick stamped roster.drive (by
      rw [same]
      exact Nat.zero_le _)
  have counts : roster.Counts
      (if roster.setsDeadline receiver then some (0 + roster.drive) else none)
      roster.drive := by
    intro span window
    rcases counted with always | sets
    · rw [always] at window
      cases window
    · rw [if_pos sets]
      exact ⟨_, rfl, by omega⟩
  have sampled : roster.Step { stamped with now := roster.drive } _ :=
    .sample _ receiver index topic _ 0 ⟨sender, 0⟩ 0
      (stage.trans (State.launched_stage roster .start receiver)) followed
      ((congrFun links index).trans (State.launched_links roster .start receiver followed))
      found counts
  refine ⟨_, ⟨.start, rfl, ((receiverRun.trans senderRun).tail later).tail sampled⟩, ?_⟩
  exact ⟨⟨⟨sender, 0⟩, ⟨receiver, 0⟩⟩, List.mem_append_right _ (List.mem_singleton_self _),
    rfl, rfl⟩

end

/-- Samples compare one clock exactly where nobody listens to a log another party stamps. -/
theorem singleClock_iff (roster : Roster Party Topic) :
    roster.SingleClock ↔ ∀ sender receiver topic,
      roster.Stamps sender topic → roster.Listens receiver topic → receiver = sender := by
  constructor
  · intro single sender receiver topic stamps listens
    by_contra distinct
    rcases exists_sample distinct stamps listens with
      ⟨state, reachable, sample, member, sent, received⟩
    have same := single state reachable sample member
    rw [sent, received] at same
    exact distinct same.symm
  · intro apart state reachable sample member
    rcases ((system_sourced roster).of_reachable reachable).sampled sample member with
      ⟨topic, stamps, listens⟩
    exact (apart _ _ topic stamps listens).symm

end DsBench.FollowedLogs
