/-! # Streams

What programs write and read. Every chunk of a stream has a time in milliseconds, so a reader knows
how long it waits; a stream either closes or goes on for ever.
-/

namespace TitleBar.Shell

/-- Bytes that were written at a time. -/
structure Chunk where
  time : Nat
  bytes : List UInt8
deriving DecidableEq, Repr

/-- What comes behind the last chunk. -/
inductive Ending where
  | closes (time : Nat)
  /-- The same bytes again and again. If there are none, the stream is silent for ever. -/
  | repeats (bytes : List UInt8)
deriving DecidableEq, Repr

/-- When something comes to its end; none if it never does. -/
def Ending.time? : Ending → Option Nat
  | .closes time => some time
  | .repeats _ => none

/-- The later one of two times; never is later than any time. -/
def latest (a b : Option Nat) : Option Nat :=
  match a, b with
  | some a, some b => some (max a b)
  | _, _ => none

/-- A stream; its chunks are in the order of time. -/
structure Stream where
  chunks : List Chunk
  ending : Ending
deriving DecidableEq, Repr

namespace Stream

def empty : Stream := ⟨[], .closes 0⟩

/-- A stream whose bytes are there from the start. -/
def ofBytes (bytes : List UInt8) : Stream := ⟨[⟨0, bytes⟩], .closes 0⟩

/-- All bytes of a stream and the time at which it closes; none if it never does. -/
def all? (stream : Stream) : Option (List UInt8 × Nat) :=
  match stream.ending with
  | .closes time => some ((stream.chunks.map Chunk.bytes).flatten, time)
  | .repeats _ => none

/-- A stream of which `count` bytes and `count` newlines are at hand if it goes on with any. -/
def unrolled (stream : Stream) (count : Nat) : Stream :=
  match stream.ending with
  | .closes _ | .repeats [] => stream
  | .repeats bytes =>
    let time := (stream.chunks.getLast?.map Chunk.time).getD 0
    let copies := if bytes.contains 10 then count else count / bytes.length + 1
    { stream with
      chunks := stream.chunks ++ [⟨time, (List.replicate copies bytes).flatten⟩] }

/-- Takes bytes of one chunk, up to the one behind which `step` has no state to go on from. Gives
them, and either what is left of the chunk or the state in which more is asked for. -/
def takeWithin {σ : Type} (step : σ → UInt8 → Option σ) (state : σ) (taken : List UInt8) :
    List UInt8 → List UInt8 × (List UInt8 ⊕ σ)
  | [] => (taken.reverse, .inr state)
  | byte :: rest =>
    match step state byte with
    | none => ((byte :: taken).reverse, .inl rest)
    | some state => takeWithin step state (byte :: taken) rest

/-- Takes bytes up to the one behind which `step` has no state to go on from. Gives them, the time
at which they are there and what is left; there is no time if the wait never ends. -/
def takeUntil {σ : Type} (step : σ → UInt8 → Option σ) (state : σ) (ending : Ending) :
    List Chunk → List UInt8 × Option Nat × Stream
  | [] =>
    match ending with
    | .closes time => ([], some time, ⟨[], ending⟩)
    | .repeats _ => ([], none, ⟨[], ending⟩)
  | chunk :: chunks =>
    match takeWithin step state [] chunk.bytes with
    | (taken, .inl rest) => (taken, some chunk.time, ⟨⟨chunk.time, rest⟩ :: chunks, ending⟩)
    | (taken, .inr state) =>
      let (more, time, rest) := takeUntil step state ending chunks
      (taken ++ more, time, rest)

def take (stream : Stream) (count : Nat) : List UInt8 × Option Nat × Stream :=
  match count with
  | 0 => ([], some 0, stream)
  | count + 1 =>
    let stream := stream.unrolled (count + 1)
    takeUntil (fun left _ => if left = 0 then none else some (left - 1)) count stream.ending
      stream.chunks

/-- Takes some lines, newlines included. -/
def takeLines (stream : Stream) (count : Nat) : List UInt8 × Option Nat × Stream :=
  match count with
  | 0 => ([], some 0, stream)
  | count + 1 =>
    let stream := stream.unrolled (count + 1)
    takeUntil (fun left byte =>
      if byte ≠ 10 then some left else if left = 0 then none else some (left - 1)) count
      stream.ending stream.chunks

end Stream

end TitleBar.Shell
