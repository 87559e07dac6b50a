import DsBench.Foundation.StreamFraming

/-! # Channels that carry frames

A sender puts whole items on a channel. The receiver gets their symbols in pieces of any
length, and splits off a frame as soon as it has ended.
-/

namespace DsBench

/-- What has arrived, what is on its way, and a note of the items these are made of, from
the first one that the receiver is not done with. -/
structure FramedChannel (Symbol : Type u) (Item : Type v) where
  buffer : List Symbol
  wire : List Symbol
  queued : List Item

namespace FramedChannel

variable {Symbol : Type u} {Item : Type v} (framing : Framing Symbol)
  (text : Item → List Symbol) (channel : FramedChannel Symbol Item)

def opened : FramedChannel Symbol Item := ⟨[], [], []⟩

def send (item : Item) : FramedChannel Symbol Item :=
  { channel with wire := channel.wire ++ text item, queued := channel.queued ++ [item] }

def arrive (count : Nat) : FramedChannel Symbol Item :=
  { channel with
    buffer := channel.buffer ++ channel.wire.take count
    wire := channel.wire.drop count }

def split (length : Nat) : FramedChannel Symbol Item :=
  { channel with buffer := channel.buffer.drop length }

def settle : FramedChannel Symbol Item := { channel with queued := channel.queued.tail }

def Carries : Prop := channel.buffer ++ channel.wire = (channel.queued.map text).flatten

def CarriesBehind (item : Item) : Prop :=
  ∃ rest, channel.queued = item :: rest ∧
    channel.buffer ++ channel.wire = (rest.map text).flatten

def Framed : Prop :=
  ∀ item rest, framing.frameEnd (text item ++ rest) = some (text item).length

variable {framing text channel}

theorem carries_opened : (opened : FramedChannel Symbol Item).Carries text := rfl

theorem Carries.send (carries : channel.Carries text) (item : Item) :
    (channel.send text item).Carries text := by
  rw [Carries, FramedChannel.send]
  dsimp only
  rw [List.map_append, List.flatten_append, ← carries, List.append_assoc]
  simp

theorem CarriesBehind.send {first : Item} (carries : channel.CarriesBehind text first)
    (item : Item) : (channel.send text item).CarriesBehind text first := by
  rcases carries with ⟨rest, queued, same⟩
  refine ⟨rest ++ [item], ?_, ?_⟩
  · rw [FramedChannel.send, queued, List.cons_append]
  · rw [FramedChannel.send]
    dsimp only
    rw [List.map_append, List.flatten_append, ← same, List.append_assoc]
    simp

theorem Carries.arrive (carries : channel.Carries text) (count : Nat) :
    (channel.arrive count).Carries text := by
  rw [Carries, FramedChannel.arrive]
  dsimp only
  rw [List.append_assoc, List.take_append_drop]
  exact carries

theorem Carries.split (framed : Framed framing text) (carries : channel.Carries text)
    {length : Nat} (ended : framing.frameEnd channel.buffer = some length) :
    ∃ item, channel.buffer.take length = text item ∧
      (channel.split length).CarriesBehind text item := by
  have within := framing.within ended
  have found := framing.stable channel.wire ended
  rw [carries] at found
  cases queued : channel.queued with
  | nil =>
      have positive := framing.positive ended
      have empty := congrArg List.length carries
      rw [queued, List.length_append] at empty
      simp only [List.map_nil, List.flatten_nil, List.length_nil] at empty
      omega
  | cons item rest =>
      rw [queued, List.map_cons, List.flatten_cons, framed item, Option.some.injEq] at found
      have whole := carries
      rw [Carries, queued, List.map_cons, List.flatten_cons] at whole
      have same : (channel.buffer ++ channel.wire).take length = channel.buffer.take length :=
        List.take_append_of_le_length within
      have front : channel.buffer.take length = text item := by
        rw [← same, whole, ← found, List.take_left]
      refine ⟨item, front, rest, queued, ?_⟩
      rw [FramedChannel.split]
      dsimp only
      rw [← List.drop_append_of_le_length within, whole, ← found, List.drop_left]

theorem CarriesBehind.settle {item : Item} (carries : channel.CarriesBehind text item) :
    channel.settle.Carries text := by
  rcases carries with ⟨rest, queued, same⟩
  rw [Carries, FramedChannel.settle]
  dsimp only
  rw [queued, List.tail_cons]
  exact same

end FramedChannel

end DsBench
