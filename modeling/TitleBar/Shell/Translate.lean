import TitleBar.Shell.Filter

/-! # Translation of bytes

The utility that replaces, deletes or squeezes bytes of sets.
-/

namespace TitleBar.Shell.Utility

open Text Effect

inductive SetPart where
  | byte (byte : UInt8)
  | range (low high : UInt8)
  | listed (bytes : List UInt8)
  /-- A byte, repeated so often, or as often as the other set needs it. -/
  | repeated (byte : UInt8) (count : Option Nat)
deriving DecidableEq, Repr

/-- The byte that a text starts with, which may be written with a backslash, and the rest. -/
def readSetByte : List Char → Option (UInt8 × List Char)
  | [] => none
  | '\\' :: c :: rest =>
    if isOctal c then
      let (value, rest) := readOctal 3 0 (c :: rest)
      some (UInt8.ofNat value, rest)
    else some ((if c = 'e' then none else letterByte? c).getD (UInt8.ofNat c.toNat), rest)
  | c :: rest => some (UInt8.ofNat c.toNat, rest)

/-- The class or the repetition that stands behind an opening bracket, and what is behind it. -/
def readSetList? (text : List Char) : Option (SetPart × List Char) :=
  match text with
  | ':' :: rest =>
    let name := rest.takeWhile (· != ':')
    match rest.drop name.length with
    | ':' :: ']' :: rest =>
      (charClasses.lookup (String.ofList name)).map fun ranges =>
        (.listed ((charsOf ranges).map fun c => UInt8.ofNat c.toNat), rest)
    | _ => none
  | '=' :: c :: '=' :: ']' :: rest => some (.byte (UInt8.ofNat c.toNat), rest)
  | _ => do
    let (byte, rest) ← readSetByte text
    let '*' :: rest := rest | none
    let digits := rest.takeWhile Char.isDigit
    let ']' :: behind := rest.drop digits.length | none
    let count := numeral (if digits.head? = some '0' then 8 else 10) digits
    return (.repeated byte (if count = 0 then none else some count), behind)

/-- The parts of the description of a set, at most `fuel` of them; none if a range runs backwards. -/
def readSet? : Nat → List Char → Option (List SetPart)
  | _, [] => some []
  | 0, _ => none
  | fuel + 1, c :: rest => do
    match if c = '[' then readSetList? rest else none with
    | some (part, rest) => return part :: (← readSet? fuel rest)
    | none =>
      let (low, rest) ← readSetByte (c :: rest)
      match rest with
      | '-' :: d :: further =>
        let (high, further) ← readSetByte (d :: further)
        if high < low then none else return .range low high :: (← readSet? fuel further)
      | rest => return .byte low :: (← readSet? fuel rest)

/-- The bytes of parts; where one is repeated as often as needed, there are `size` in all. -/
def setBytes (size : Nat) (parts : List SetPart) : List UInt8 :=
  let bytes (part : SetPart) : List UInt8 :=
    match part with
    | .byte byte => [byte]
    | .range low high =>
      (List.range (high.toNat + 1 - low.toNat)).map fun i => low + UInt8.ofNat i
    | .listed bytes => bytes
    | .repeated byte count => List.replicate (count.getD 0) byte
  let known := (parts.map fun part => (bytes part).length).foldl (· + ·) 0
  parts.flatMap fun part =>
    match part with
    | .repeated byte none => List.replicate (size - known) byte
    | part => bytes part

def byteSet? (size : Nat) (text : String) : Option (List UInt8) :=
  let chars := (encode text.toList).map fun byte => Char.ofNat byte.toNat
  (readSet? (chars.length + 1) chars).map (setBytes size)

/-- A run of one byte of a set as a single byte. -/
def squeeze (set : List UInt8) : List UInt8 → List UInt8
  | a :: b :: rest =>
    if a = b && set.contains a then squeeze set (b :: rest) else a :: squeeze set (b :: rest)
  | bytes => bytes

/-- The byte that takes the place of one: that at the last place of it in a set, or the last one if
the other set is shorter. -/
def replacedByte (first second : List UInt8) (byte : UInt8) : UInt8 :=
  let behind := first.reverse.idxOf byte
  if behind = first.length then byte
  else second.getD (first.length - 1 - behind) (second.getLastD byte)

def replaceBytes (arguments : List String) : Effect Unit := do
  let (options, sets) := splitOptions arguments
  let has := options.contains
  let stream := (← get).input
  modify fun state => { state with input := Stream.empty }
  let pass (f : List UInt8 → List UInt8) : Effect Unit := do
    relay f stream
    setStatus 0
  let given? := (sets.head?.bind (byteSet? 0)).map fun set =>
    if has 'c' || has 'C' then
      ((List.range 256).map UInt8.ofNat).filter (!set.contains ·)
    else set
  match given?, sets with
  | some first, [_] =>
    if has 'd' then pass (·.filter (!first.contains ·))
    else if has 's' then pass (squeeze first)
    else setStatus 1
  | some first, [_, text] =>
    match byteSet? first.length text with
    | none => setStatus 1
    | some second =>
      if has 'd' then
        if has 's' then pass fun bytes => squeeze second (bytes.filter (!first.contains ·))
        else setStatus 1
      else if second.isEmpty then setStatus 1
      else
        let first := if has 't' then first.take second.length else first
        pass fun bytes =>
          let replaced := bytes.map (replacedByte first second)
          if has 's' then squeeze second replaced else replaced
  | _, _ => setStatus 1

end TitleBar.Shell.Utility
