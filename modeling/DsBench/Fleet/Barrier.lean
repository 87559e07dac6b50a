import DsBench.Foundation.Decimal
import DsBench.Foundation.TransitionSystem
import Mathlib.Data.Finset.Card

/-! # The fleet start barrier

The leader on the harness host, the client and the wrapper's relay loop in every
pod, and the object store between them. Each party has a clock of its own in
nanoseconds; no two clocks are related. Every step belongs to one party or to the
network, so a run is an arbitrary interleaving.
-/

namespace DsBench.Fleet.Barrier

/-- The fleet size and the durations the harness is configured with. The headroom
fits the shell's 64-bit arithmetic with room to spare. -/
structure Setup where
  pods : Nat
  pollNanos : Nat
  headroomSecs : Nat
  setupTimeoutSecs : Nat
  clientTimeoutNanos : Nat
  headroomFits : headroomSecs < 2 ^ 33

/-- The kernel keeps wall-clock time as a signed 64-bit count of nanoseconds. -/
def clockLimit : Nat := 2 ^ 63

def secs (nanos : Nat) : Nat := nanos / 1000000000

def millis (nanos : Nat) : Nat := nanos / 1000000

/-! ## The store -/

def readyName (pod : Nat) : Text := "ready-".toList ++ decimal pod

/-- `mc ls … | grep -c 'ready-'` on the names below the barrier prefix. -/
def listReady (markers : Finset Text) : Nat :=
  (markers.filter fun name => "ready-".toList.isPrefixOf name).card

/-- `echo ${go_ms}`: the content of the go object. -/
def goText (goMs : Nat) : Text := decimal goMs ++ ['\n']

/-! ## The parties -/

/-- How a client came back from `sync_in_dir`. -/
inductive Release where
  | go (startMs readAt : Nat)
  | unparseable
  | timedOut
  | noMarker
deriving DecidableEq, Repr

inductive ClientPhase where
  | notLaunched
  | settingUp
  | polling (deadline : Nat)
  | napping (deadline wake : Nat)
  | sleeping (startMs readAt wake : Nat)
  | returned (release : Release) (instant : Nat)
deriving DecidableEq, Repr

/-- The wrapper's background loop. `fetched` holds the content of `go.tmp`. -/
inductive RelayPhase where
  | awaitingReady
  | uploading (tries : Nat)
  | polling
  | fetched (goTmp : Text)
  | done
deriving DecidableEq, Repr

structure Pod where
  clock : Nat
  client : ClientPhase
  relay : RelayPhase
  readyFile : Bool
  goFile : Option Text
deriving DecidableEq, Repr

inductive LeaderPhase where
  | resetting
  | counting
  | listed (n : Nat)
  | pausing (wake : Nat)
  | releasing
  | released (goMs : Nat)
deriving DecidableEq, Repr

structure Leader where
  clock : Nat
  phase : LeaderPhase
  deadline : Nat
  timedOut : Bool
deriving DecidableEq, Repr

structure State (pods : Nat) where
  leader : Leader
  pod : Fin pods → Pod
  markers : Finset Text
  goObject : Option Text
  markersInFlight : List Text
  goInFlight : Option Text

namespace State

variable {pods : Nat}

def setPod (state : State pods) (index : Fin pods) (pod : Pod) : State pods :=
  { state with pod := Function.update state.pod index pod }

def setLeader (state : State pods) (phase : LeaderPhase) : State pods :=
  { state with leader := { state.leader with phase := phase } }

end State

/-- A client that read `content` from its go file at its own clock: it returns at
once when the text is no number or the start time has passed, and sleeps otherwise. -/
def clientReadsGo (pod : Pod) (content : Text) : ClientPhase :=
  match parseU64 (trim content) with
  | none => .returned .unparseable pod.clock
  | some startMs =>
      let wait := startMs - millis pod.clock
      if 0 < wait then .sleeping startMs pod.clock (pod.clock + wait * 1000000)
      else .returned (.go startMs pod.clock) pod.clock

/-! ## Steps -/

inductive Step (setup : Setup) : State setup.pods → State setup.pods → Prop where
  | leaderTick (state) (elapsed : Nat)
      (inRange : state.leader.clock + elapsed < clockLimit) :
      Step setup state { state with
        leader := { state.leader with clock := state.leader.clock + elapsed } }
  /-- `_barrier_reset`, then the deadline of `_barrier_release_fleet`. -/
  | leaderResets (state) (resetting : state.leader.phase = .resetting) :
      Step setup state { state with
        leader := { state.leader with
          phase := .counting
          deadline := secs state.leader.clock + setup.setupTimeoutSecs }
        markers := ∅
        goObject := none }
  | leaderLists (state) (counting : state.leader.phase = .counting) :
      Step setup state (state.setLeader (.listed (listReady state.markers)))
  | leaderListFails (state) (counting : state.leader.phase = .counting) :
      Step setup state (state.setLeader (.listed 0))
  | leaderHasAll (state) (n : Nat) (listed : state.leader.phase = .listed n)
      (all : setup.pods ≤ n) :
      Step setup state (state.setLeader .releasing)
  | leaderTimesOut (state) (n : Nat) (listed : state.leader.phase = .listed n)
      (some : n < setup.pods) (late : state.leader.deadline ≤ secs state.leader.clock) :
      Step setup state { state with
        leader := { state.leader with phase := .releasing, timedOut := true } }
  | leaderPauses (state) (n : Nat) (listed : state.leader.phase = .listed n)
      (some : n < setup.pods) (inTime : secs state.leader.clock < state.leader.deadline) :
      Step setup state (state.setLeader (.pausing (state.leader.clock + setup.pollNanos)))
  | leaderResumes (state) (wake : Nat) (pausing : state.leader.phase = .pausing wake)
      (due : wake ≤ state.leader.clock) :
      Step setup state (state.setLeader .counting)
  | leaderPublishes (state) (goMs : Nat) (releasing : state.leader.phase = .releasing)
      (chosen : goMs = (secs state.leader.clock + setup.headroomSecs) * 1000) :
      Step setup state { state.setLeader (.released goMs) with
        goInFlight := some (goText goMs) }
  | goLands (state) (text : Text) (inFlight : state.goInFlight = some text) :
      Step setup state { state with goObject := some text, goInFlight := none }
  | goLost (state) : Step setup state { state with goInFlight := none }
  | markerLands (state) (name : Text) (inFlight : name ∈ state.markersInFlight) :
      Step setup state { state with
        markers := insert name state.markers
        markersInFlight := state.markersInFlight.erase name }
  | markerLost (state) (name : Text) :
      Step setup state { state with markersInFlight := state.markersInFlight.erase name }
  | podTick (state) (index : Fin setup.pods) (elapsed : Nat) :
      Step setup state (state.setPod index
        { state.pod index with clock := (state.pod index).clock + elapsed })
  | podLaunches (state) (index : Fin setup.pods)
      (applied : state.leader.phase ≠ .resetting)
      (notLaunched : (state.pod index).client = .notLaunched) :
      Step setup state (state.setPod index { state.pod index with client := .settingUp })
  | clientReady (state) (index : Fin setup.pods)
      (settingUp : (state.pod index).client = .settingUp) :
      Step setup state (state.setPod index { state.pod index with
        client := .polling ((state.pod index).clock + setup.clientTimeoutNanos)
        readyFile := true })
  | clientCannotMark (state) (index : Fin setup.pods)
      (settingUp : (state.pod index).client = .settingUp) :
      Step setup state (state.setPod index { state.pod index with
        client := .returned .noMarker (state.pod index).clock })
  | clientReads (state) (index : Fin setup.pods) (deadline : Nat) (content : Text)
      (polling : (state.pod index).client = .polling deadline)
      (arrived : (state.pod index).goFile = some content) :
      Step setup state (state.setPod index { state.pod index with
        client := clientReadsGo (state.pod index) content })
  | clientTimesOut (state) (index : Fin setup.pods) (deadline : Nat)
      (polling : (state.pod index).client = .polling deadline)
      (missing : (state.pod index).goFile = none)
      (late : deadline ≤ (state.pod index).clock) :
      Step setup state (state.setPod index { state.pod index with
        client := .returned .timedOut (state.pod index).clock })
  | clientNaps (state) (index : Fin setup.pods) (deadline : Nat)
      (polling : (state.pod index).client = .polling deadline)
      (missing : (state.pod index).goFile = none)
      (inTime : (state.pod index).clock < deadline) :
      Step setup state (state.setPod index { state.pod index with
        client := .napping deadline ((state.pod index).clock + 250000000) })
  | clientPolls (state) (index : Fin setup.pods) (deadline wake : Nat)
      (napping : (state.pod index).client = .napping deadline wake)
      (due : wake ≤ (state.pod index).clock) :
      Step setup state (state.setPod index { state.pod index with
        client := .polling deadline })
  | clientWakes (state) (index : Fin setup.pods) (startMs readAt wake : Nat)
      (sleeping : (state.pod index).client = .sleeping startMs readAt wake)
      (due : wake ≤ (state.pod index).clock) :
      Step setup state (state.setPod index { state.pod index with
        client := .returned (.go startMs readAt) (state.pod index).clock })
  | relayStarts (state) (index : Fin setup.pods)
      (awaiting : (state.pod index).relay = .awaitingReady)
      (written : (state.pod index).readyFile = true) :
      Step setup state (state.setPod index { state.pod index with relay := .uploading 0 })
  | relayUploads (state) (index : Fin setup.pods) (tries : Nat)
      (uploading : (state.pod index).relay = .uploading tries) (left : tries < 12) :
      Step setup state { state.setPod index { state.pod index with relay := .polling } with
        markers := insert (readyName index) state.markers }
  /-- An upload reported as failed; the object may still land later. -/
  | relayUploadFails (state) (index : Fin setup.pods) (tries : Nat)
      (uploading : (state.pod index).relay = .uploading tries) (left : tries < 12) :
      Step setup state { state.setPod index
          { state.pod index with relay := .uploading (tries + 1) } with
        markersInFlight := readyName index :: state.markersInFlight }
  | relayGivesUp (state) (index : Fin setup.pods) (tries : Nat)
      (uploading : (state.pod index).relay = .uploading tries) (spent : 12 ≤ tries) :
      Step setup state (state.setPod index { state.pod index with relay := .polling })
  /-- `mc cat … > go.tmp && [ -s go.tmp ]`. -/
  | relayFetches (state) (index : Fin setup.pods) (content : Text)
      (polling : (state.pod index).relay = .polling)
      (published : state.goObject = some content) (nonempty : content ≠ []) :
      Step setup state (state.setPod index { state.pod index with
        relay := .fetched content })
  | relayMoves (state) (index : Fin setup.pods) (goTmp : Text)
      (fetched : (state.pod index).relay = .fetched goTmp) :
      Step setup state (state.setPod index { state.pod index with
        relay := .done
        goFile := some goTmp })

def Pod.beforeLaunch (pod : Pod) : Prop :=
  pod.client = .notLaunched ∧ pod.relay = .awaitingReady ∧ pod.readyFile = false ∧
    pod.goFile = none

/-- Before the reset: whatever an earlier pass left in the store, no message and no
pod of it alive, this fleet not launched. -/
def barrierSystem (setup : Setup) : TransitionSystem (State setup.pods) where
  Initial state := state.leader.phase = .resetting ∧ state.leader.timedOut = false ∧
    state.leader.clock < clockLimit ∧ (∀ index, (state.pod index).beforeLaunch) ∧
    state.markersInFlight = [] ∧ state.goInFlight = none
  Step := Step setup

end DsBench.Fleet.Barrier
