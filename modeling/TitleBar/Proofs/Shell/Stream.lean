import TitleBar.Shell.Call

/-! # Reading from streams

A reader takes bytes off the front of a stream and leaves the rest as it is. It waits for ever only
if the stream falls silent for ever; a stream that closes, or repeats some bytes, always gives as
many bytes as it can.
-/

namespace TitleBar.Shell.Stream

/-- The bytes in chunks. -/
def bytesOf (chunks : List Chunk) : List UInt8 := (chunks.map Chunk.bytes).flatten

section Conservation

variable {σ : Type} (step : σ → UInt8 → Option σ)

/-- The bytes that are taken of a chunk and those that are left are those that there were. -/
theorem takeWithin_append (state : σ) (taken bytes : List UInt8) :
    (takeWithin step state taken bytes).1 ++
        (takeWithin step state taken bytes).2.elim id (fun _ => []) =
      taken.reverse ++ bytes := by
  induction bytes generalizing state taken with
  | nil => rfl
  | cons byte bytes ih =>
    rw [takeWithin]
    split
    · simp
    · rw [ih]
      simp

/-- Nothing is lost and nothing is read twice: what is taken and what is left are the stream. -/
theorem takeUntil_append (state : σ) (ending : Ending) (chunks : List Chunk) :
    (takeUntil step state ending chunks).1 ++
        bytesOf (takeUntil step state ending chunks).2.2.chunks = bytesOf chunks ∧
      (takeUntil step state ending chunks).2.2.ending = ending := by
  induction chunks generalizing state with
  | nil => cases ending <;> exact ⟨rfl, rfl⟩
  | cons chunk chunks ih =>
    have whole := takeWithin_append step state [] chunk.bytes
    rw [takeUntil]
    split
    · rename_i taken rest course
      rw [course] at whole
      refine ⟨?_, rfl⟩
      change taken ++ (rest ++ bytesOf chunks) = chunk.bytes ++ bytesOf chunks
      rw [← List.append_assoc]
      exact congrArg (· ++ bytesOf chunks) whole
    · rename_i taken state course
      rw [course] at whole
      obtain ⟨rest, same⟩ := ih state
      refine ⟨?_, same⟩
      change taken ++ [] = [] ++ chunk.bytes at whole
      rw [List.append_nil, List.nil_append] at whole
      rw [List.append_assoc, rest, whole]
      rfl

end Conservation

section Counting

/-- The step of a reader that takes a number of bytes. -/
def countdown (left : Nat) (_ : UInt8) : Option Nat := if left = 0 then none else some (left - 1)

theorem takeWithin_countdown (left : Nat) (taken bytes : List UInt8) :
    takeWithin countdown left taken bytes =
      (taken.reverse ++ bytes.take (left + 1),
        if bytes.length ≤ left then .inr (left - bytes.length) else .inl (bytes.drop (left + 1))) := by
  induction bytes generalizing left taken with
  | nil => simp [takeWithin]
  | cons byte bytes ih =>
    rw [takeWithin]
    cases left with
    | zero => simp [countdown]
    | succ left => simp [countdown, ih]

/-- Exactly the bytes that are asked for are taken, or all if there are fewer. -/
theorem takeUntil_countdown (left : Nat) (ending : Ending) (chunks : List Chunk) :
    (takeUntil countdown left ending chunks).1 = (bytesOf chunks).take (left + 1) := by
  induction chunks generalizing left with
  | nil => cases ending <;> rfl
  | cons chunk chunks ih =>
    rw [takeUntil, takeWithin_countdown]
    change _ = (chunk.bytes ++ bytesOf chunks).take (left + 1)
    rw [List.take_append]
    by_cases few : chunk.bytes.length ≤ left
    · rw [if_pos few]
      dsimp only
      rw [ih, Nat.sub_add_comm few]
      rfl
    · rw [if_neg few, Nat.sub_eq_zero_of_le (by omega), List.take_zero, List.append_nil]
      rfl

/-- There is a time at which the bytes are there if the stream closes or holds enough of them. -/
theorem isSome_takeUntil_countdown (left : Nat) (ending : Ending) (chunks : List Chunk) :
    (takeUntil countdown left ending chunks).2.1.isSome =
      (ending.time?.isSome || decide (left < (bytesOf chunks).length)) := by
  induction chunks generalizing left with
  | nil => cases ending <;> simp [takeUntil, Ending.time?, bytesOf]
  | cons chunk chunks ih =>
    rw [takeUntil, takeWithin_countdown]
    change _ = (_ || decide (left < (chunk.bytes ++ bytesOf chunks).length))
    rw [List.length_append]
    by_cases few : chunk.bytes.length ≤ left
    · rw [if_pos few]
      dsimp only
      rw [ih]
      congr 2
      exact propext (by omega)
    · rw [if_neg few, decide_eq_true (by omega), Bool.or_true]
      rfl

end Counting

section Taking

theorem take_succ (stream : Stream) (count : Nat) :
    stream.take (count + 1) =
      takeUntil countdown count (stream.unrolled (count + 1)).ending
        (stream.unrolled (count + 1)).chunks := rfl

theorem unrolled_of_closes {stream : Stream} {time : Nat} (closes : stream.ending = .closes time)
    (count : Nat) : stream.unrolled count = stream := by
  rw [unrolled, closes]

theorem unrolled_of_silent {stream : Stream} (silent : stream.ending = .repeats []) (count : Nat) :
    stream.unrolled count = stream := by
  rw [unrolled, silent]

/-- The bytes of a stream that goes on are put into it often enough for a reader. -/
theorem unrolled_of_repeats {stream : Stream} {bytes : List UInt8} (positive : 0 < bytes.length)
    (goesOn : stream.ending = .repeats bytes) (count : Nat) :
    (stream.unrolled count).ending = stream.ending ∧ ∃ copies, count ≤ copies * bytes.length ∧
      bytesOf (stream.unrolled count).chunks =
        bytesOf stream.chunks ++ (List.replicate copies bytes).flatten := by
  obtain ⟨byte, bytes, rfl⟩ := List.exists_cons_of_length_pos positive
  rw [unrolled, goesOn]
  refine ⟨rfl, if (byte :: bytes).contains 10 then count else count / (byte :: bytes).length + 1,
    ?_, ?_⟩
  · split
    · exact Nat.le_mul_of_pos_right count positive
    · rw [Nat.succ_mul]
      exact Nat.le_of_lt (Nat.lt_div_mul_add positive)
  · simp only [bytesOf, List.map_append, List.flatten_append, List.map_cons, List.map_nil,
      List.flatten_cons, List.flatten_nil, List.append_nil]

/-- A stream that closes gives the bytes that are asked for, or all, and keeps the others. -/
theorem take_of_closes {stream : Stream} {time : Nat} (closes : stream.ending = .closes time)
    (count : Nat) :
    (stream.take count).1 = (bytesOf stream.chunks).take count ∧
      bytesOf (stream.take count).2.2.chunks = (bytesOf stream.chunks).drop count ∧
      (stream.take count).2.1.isSome = true := by
  cases count with
  | zero => exact ⟨rfl, rfl, rfl⟩
  | succ count =>
    rw [take_succ, unrolled_of_closes closes]
    have taken := takeUntil_countdown count stream.ending stream.chunks
    have whole := (takeUntil_append countdown count stream.ending stream.chunks).1
    refine ⟨taken, ?_, ?_⟩
    · rw [taken] at whole
      exact List.append_cancel_left (whole.trans (List.take_append_drop _ _).symm)
    · rw [isSome_takeUntil_countdown, closes]
      rfl

/-- A stream that goes on with some bytes for ever gives as many bytes as are asked for. -/
theorem take_of_repeats {stream : Stream} {bytes : List UInt8} (positive : 0 < bytes.length)
    (goesOn : stream.ending = .repeats bytes) (count : Nat) :
    (stream.take count).1.length = count ∧ (stream.take count).2.1.isSome = true ∧
      ∃ copies, (stream.take count).1 =
        (bytesOf stream.chunks ++ (List.replicate copies bytes).flatten).take count := by
  cases count with
  | zero => exact ⟨rfl, rfl, 0, List.take_zero.symm⟩
  | succ count =>
    obtain ⟨ending, copies, enough, whole⟩ := unrolled_of_repeats positive goesOn (count + 1)
    have long : count < (bytesOf stream.chunks ++ (List.replicate copies bytes).flatten).length := by
      simp only [List.length_append, List.length_flatten, List.map_replicate, List.sum_replicate_nat]
      omega
    rw [take_succ, ending, takeUntil_countdown, isSome_takeUntil_countdown, whole]
    refine ⟨List.length_take_of_le long, ?_, copies, rfl⟩
    rw [decide_eq_true long, Bool.or_true]

/-- A stream that falls silent keeps a reader waiting exactly if it holds too few bytes. -/
theorem take_of_silent {stream : Stream} (silent : stream.ending = .repeats []) (count : Nat) :
    (stream.take count).2.1.isSome = decide (count ≤ (bytesOf stream.chunks).length) := by
  cases count with
  | zero => exact (decide_eq_true (Nat.zero_le _)).symm
  | succ count =>
    rw [take_succ, unrolled_of_silent silent, isSome_takeUntil_countdown, silent]
    rfl

end Taking

section Order

/-- Whether the chunks of a stream are in the order of time. -/
def Ordered (chunks : List Chunk) : Prop := chunks.Pairwise fun a b => a.time ≤ b.time

theorem ordered_takeUntil {σ : Type} (step : σ → UInt8 → Option σ) (state : σ) (ending : Ending)
    {chunks : List Chunk} (ordered : Ordered chunks) :
    Ordered (takeUntil step state ending chunks).2.2.chunks := by
  induction chunks generalizing state with
  | nil => cases ending <;> exact .nil
  | cons chunk chunks ih =>
    obtain ⟨first, rest⟩ := List.pairwise_cons.mp ordered
    rw [takeUntil]
    split
    · exact List.pairwise_cons.mpr ⟨first, rest⟩
    · exact ih _ rest

theorem time_le_last {chunks : List Chunk} (ordered : Ordered chunks) {chunk : Chunk}
    (member : chunk ∈ chunks) : chunk.time ≤ (chunks.getLast?.map Chunk.time).getD 0 := by
  rcases List.eq_nil_or_concat chunks with rfl | ⟨before, last, rfl⟩
  · cases member
  · rw [List.concat_eq_append] at ordered member ⊢
    rw [List.getLast?_append]
    change chunk.time ≤ last.time
    rcases List.mem_append.mp member with early | late
    · exact (List.pairwise_append.mp ordered).2.2 chunk early last (List.mem_singleton_self last)
    · obtain rfl := List.mem_singleton.mp late
      exact Nat.le_refl _

theorem ordered_unrolled {stream : Stream} (ordered : Ordered stream.chunks) (count : Nat) :
    Ordered (stream.unrolled count).chunks := by
  rw [unrolled]
  split
  · exact ordered
  · exact ordered
  · refine List.pairwise_append.mpr ⟨ordered, List.pairwise_singleton _ _, ?_⟩
    intro chunk member last same
    obtain rfl := List.mem_singleton.mp same
    exact time_le_last ordered member

/-- What is left of a stream behind some bytes is in the order of time if the stream was. -/
theorem ordered_take {stream : Stream} (ordered : Ordered stream.chunks) (count : Nat) :
    Ordered (stream.take count).2.2.chunks := by
  cases count with
  | zero => exact ordered
  | succ count => exact ordered_takeUntil _ _ _ (ordered_unrolled ordered _)

/-- What is left of a stream behind some lines is in the order of time if the stream was. -/
theorem ordered_takeLines {stream : Stream} (ordered : Ordered stream.chunks) (count : Nat) :
    Ordered (stream.takeLines count).2.2.chunks := by
  cases count with
  | zero => exact ordered
  | succ count => exact ordered_takeUntil _ _ _ (ordered_unrolled ordered _)

/-- What a program and its jobs wrote comes to the reader of its output in the order of time, and
all of it does. -/
theorem ordered_finished (state : State) (ending : Ending) :
    Ordered (state.finished ending).stream.chunks ∧
      (state.finished ending).output.Perm
        (state.written.reverse ++ (state.jobs.map fun job => job.finished.output).flatten) := by
  refine ⟨?_, List.mergeSort_perm _ _⟩
  refine List.Pairwise.imp of_decide_eq_true (List.pairwise_mergeSort (fun a b c first second => ?_)
    (fun a b => ?_) _)
  · rw [decide_eq_true_eq] at first second ⊢
    exact Nat.le_trans first second
  · rw [Bool.or_eq_true, decide_eq_true_eq, decide_eq_true_eq]
    exact Nat.le_total ..

theorem ordered_within {finished : Finished} (ordered : Ordered finished.output) (limit : Nat) :
    Ordered (finished.within limit).output := by
  rw [Finished.within]
  split
  · exact ordered
  · exact ordered.filter _

end Order

end TitleBar.Shell.Stream
