import TitleBar.Shell.Layout

/-! # Batches of commands

The commands that are made of a command and of words that are read.
-/

namespace TitleBar.Shell

open Text

/-- How words become commands. -/
structure Batch where
  command : List String
  /-- How many words each command takes; all of them if there is no number. -/
  size : Option Nat
  /-- The text in the command that each line of the input takes the place of. -/
  slot? : Option String
  /-- The byte that ends words, if quotes and blanks do not count. -/
  stop? : Option UInt8
  /-- No command is made without words. -/
  lazy : Bool

namespace Batch

/-- The words of a text between blanks; quotes and backslashes keep blanks. `word?` is the word that
has been begun, last character first, and `quote?` the quote that is open. -/
def words (word? : Option (List Char)) (quote? : Option Char) :
    List Char → Option (List (List Char))
  | [] => if quote?.isSome then none else some (word?.map List.reverse).toList
  | ['\\'] => some (word?.map List.reverse).toList
  | c :: d :: rest =>
    match quote? with
    | some quote =>
      if c = quote then words (some (word?.getD [])) none (d :: rest)
      else words (some (c :: word?.getD [])) quote? (d :: rest)
    | none =>
      if c = '\\' then words (some (d :: word?.getD [])) none rest
      else if c = '"' ∨ c = '\'' then words (some (word?.getD [])) (some c) (d :: rest)
      else if c = ' ' ∨ c = '\t' ∨ c = '\n' then
        (words none none (d :: rest)).map ((word?.map List.reverse).toList ++ ·)
      else words (some (c :: word?.getD [])) none (d :: rest)
  | [c] =>
    match quote? with
    | some quote => if c = quote then some [(word?.getD []).reverse] else none
    | none =>
      if c = '"' ∨ c = '\'' then none
      else if c = ' ' ∨ c = '\t' ∨ c = '\n' then some (word?.map List.reverse).toList
      else some [(c :: word?.getD []).reverse]

/-- What arguments ask for; options come before the command. -/
def ofArguments? (batch : Batch) : Nat → List String → Option Batch
  | 0, _ => none
  | fuel + 1, arguments =>
    match arguments with
    | [] => some batch
    | argument :: rest =>
      let value (text : List Char) (use : String → List String → Option Batch) : Option Batch :=
        if !text.isEmpty then use (String.ofList text) rest
        else match rest with
          | value :: rest => use value rest
          | [] => none
      match argument.toList with
      | ['-', '-'] => some { batch with command := rest }
      | ['-', '0'] => ofArguments? { batch with stop? := some 0 } fuel rest
      | ['-', 'r'] => ofArguments? { batch with lazy := true } fuel rest
      | ['-', 't'] | ['-', 'x'] => ofArguments? batch fuel rest
      | '-' :: 'n' :: text =>
        value text fun size rest =>
          match size.toNat? with
          | some (n + 1) => ofArguments? { batch with size := some (n + 1) } fuel rest
          | _ => none
      | '-' :: 'I' :: text =>
        value text fun slot rest => ofArguments? { batch with slot? := some slot } fuel rest
      | '-' :: 'd' :: text =>
        value text fun stop rest =>
          ofArguments? { batch with stop? := (unescape stop.toList).1.head? } fuel rest
      | '-' :: 'P' :: text | '-' :: 's' :: text =>
        value text fun _ rest => ofArguments? batch fuel rest
      | '-' :: _ => none
      | _ => some { batch with command := argument :: rest }

def text (bytes : List UInt8) : String := String.ofList ((decode bytes).toOption.getD [])

/-- The words that an input has; none if a quote is left open. -/
def split? (batch : Batch) (input : List UInt8) : Option (List String) :=
  match batch.stop?, batch.slot? with
  | some stop, _ =>
    let parts := input.splitOnP (· == stop)
    some ((if parts.getLast? = some [] then parts.dropLast else parts).map text)
  | none, some _ =>
    some (((Utility.bareLines input).filter (!·.isEmpty)).map fun line =>
      text (line.dropWhile fun byte => byte == 32 || byte == 9))
  | none, none =>
    (words none none ((decode input).toOption.getD [])).map (·.map String.ofList)

/-- Words in groups of a size; at most `fuel` groups are made. -/
def groups (size : Nat) : Nat → List String → List (List String)
  | 0, _ => []
  | fuel + 1, words =>
    if words.isEmpty then [] else words.take size :: groups size fuel (words.drop size)

def commands (batch : Batch) (words : List String) : List (List String) :=
  let command := if batch.command.isEmpty then ["echo"] else batch.command
  match batch.slot? with
  | some slot => words.map fun word => command.map (·.replace slot word)
  | none =>
    if words.isEmpty then if batch.lazy then [] else [command]
    else (groups (batch.size.getD words.length) words.length words).map (command ++ ·)

def commands? (arguments : List String) (input : List UInt8) : Option (List (List String)) := do
  let batch ← ofArguments? ⟨[], none, none, none, false⟩ (arguments.length + 1) arguments
  return batch.commands (← batch.split? input)

/-- The status of all commands by the statuses of each. -/
def status (statuses : List Nat) : Nat :=
  match statuses.find? fun n => 126 ≤ n with
  | some n => if n = 126 ∨ n = 127 then n else if n = 255 then 124 else 125
  | none => if statuses.all (· == 0) then 0 else 123

end Batch

end TitleBar.Shell
