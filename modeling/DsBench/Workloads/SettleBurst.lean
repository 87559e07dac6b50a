import DsBench.Workloads.PhasedWriter

/-! # The rate of a paced writer across the settle gap

A paced writer keeps its schedule while it sleeps through the gap, and works off the slots
that it missed at the start of the measure window. Here the sleeps end on time and the
server answers at once.
-/

namespace DsBench.Workloads.MultiStreamWriter

/-- The sleep ends on time, and the answer comes at once and is no back-pressure. -/
structure WriterPass.Prompt (pass : WriterPass) : Prop where
  oversleep : pass.oversleep = 0
  delay : pass.delay = 0
  answered : ∃ status, pass.reply = .ok status ∧ ¬ isBackpressure status

def windowAppends (phases : Phases Nat) (writer : Writer) : Nat :=
  writer.appends.countP fun append => decide (phases.InWindow append.issued)

namespace PhaseArgs

variable (args : PhaseArgs) (base : Nat)

/-- The interval between two slots, whole microseconds in nanoseconds. -/
def slotLength : Nat := 1000000 / max args.ratePerStream 1 * 1000

def measure : Nat := args.durationSecs * 1000000000

def arrival (started : Nat) : Nat :=
  started + slotsBefore started args.slotLength (args.phases base).warmupEnd *
    args.slotLength

def resumption (started : Nat) : Nat :=
  if (args.phases base).warmupEnd ≤ started then started
  else args.arrival base started + args.slotLength

/-- The gap is not slept through, or the schedule is not further behind at its end than the
window's last interval reaches past the window. -/
def KeepsRate (started : Nat) : Prop :=
  (args.phases base).InGap (args.arrival base started) → 0 < args.measure →
    (args.phases base).measureStart ≤
      args.resumption base started + (args.slotLength - args.measure % args.slotLength)

instance (started : Nat) : Decidable (args.KeepsRate base started) :=
  inferInstanceAs (Decidable (_ → _ → _))

/-- The appends in the window of a writer that gets to a slot past the warm-up and goes on
with another after the gap. -/
def offered (slot next : Nat) : Nat :=
  if (args.phases base).InGap slot then
    if 0 < args.measure then
      slotsBefore next args.slotLength (args.phases base).deadline
    else 0
  else slotsBefore slot args.slotLength (args.phases base).deadline

variable {args base}

end PhaseArgs

/-! ## A pass without delays -/

namespace Writer

variable {args : PhaseArgs} {pass : WriterPass}

end Writer

/-! ## What a writer adds in the window -/

/-- The writer makes this many appends more in the window if it gets passes enough, and no
more in any. -/
def Adds (args : PhaseArgs) (base : Nat) (writer : Writer) (count : Nat) : Prop :=
  (∀ passes : List WriterPass, (∀ pass ∈ passes, pass.Prompt) →
    windowAppends (args.phases base) (runWriter (args.writerArgs base) writer passes) ≤
      windowAppends (args.phases base) writer + count) ∧
  ∃ passes : List WriterPass, (∀ pass ∈ passes, pass.Prompt) ∧
    windowAppends (args.phases base) (runWriter (args.writerArgs base) writer passes) =
      windowAppends (args.phases base) writer + count

section

variable {args : PhaseArgs} {base count : Nat} {writer : Writer}

variable (paced : 0 < args.ratePerStream) (positive : 0 < args.slotLength)

include paced positive

end

/-! ## The bound -/

end DsBench.Workloads.MultiStreamWriter
