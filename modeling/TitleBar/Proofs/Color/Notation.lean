import Mathlib.Data.List.Basic
import Mathlib.Data.List.Nodup
import TitleBar.Color
import TitleBar.Proofs.Text.Pieces
import TitleBar.Text.Utf8

/-! # The notation of colors

`Written` is the grammar of a trimmed color: a listed name in any case of its ASCII letters, or `#`
and three, six or eight hexadecimal digits. Reading a color is proved to be exactly this relation.
A reader that measures its text in UTF-8 bytes and decodes the bytes in pairs accepts the same texts,
whatever their characters are, and a color that is shown reads back as itself.
-/

namespace TitleBar.Color

open Text

/-! ## Digits -/

/-- The hexadecimal digits in the order of their values. -/
def digitList : List Char := "0123456789abcdef".toList

/-- `c` is the hexadecimal digit of value `n`, in either case. -/
def Hex (c : Char) (n : Nat) : Prop := digitList[n]? = some (asciiLower c)

instance (c : Char) (n : Nat) : Decidable (Hex c n) := inferInstanceAs (Decidable (_ = _))

/-- Two digits write a channel. -/
def Octet (high low : Char) (value : UInt8) : Prop :=
  ∃ h l, Hex high h ∧ Hex low l ∧ value.toNat = 16 * h + l

theorem Hex.lt {c : Char} {n : Nat} (hex : Hex c n) : n < 16 :=
  (List.getElem?_eq_some_iff.mp hex).1

/-- What is asked of a character of ASCII is asked of the first 128 numbers. -/
theorem forall_ascii (holds : Char → Prop) (small : ∀ n < 128, holds (Char.ofNat n)) {c : Char}
    (ascii : c.toNat < 128) : holds c := by
  simpa only [Char.ofNat_toNat] using small c.toNat ascii

theorem not_hex_of_large {c : Char} (large : 128 ≤ c.toNat) (n : Nat) : ¬ Hex c n := by
  intro hex
  have listed : asciiLower c ∈ digitList := List.mem_of_getElem? hex
  have same : asciiLower c = c := by
    have last : 'Z'.toNat = 90 := rfl
    simp only [asciiLower, Char.le_def, UInt32.le_iff_toNat_le]
    refine if_neg fun range => ?_
    have := range.2
    simp only [Char.toNat] at large last
    omega
  have small : digitList.all (·.toNat < 128) := by decide
  have ascii := List.all_eq_true.mp small c (same ▸ listed)
  rw [decide_eq_true_eq] at ascii
  omega

theorem hexValue?_eq_none_of_large {c : Char} (large : 128 ≤ c.toNat) : hexValue? c = none := by
  have tops : '9'.toNat = 57 ∧ 'f'.toNat = 102 ∧ 'F'.toNat = 70 := ⟨rfl, rfl, rfl⟩
  simp only [Char.toNat] at large tops
  simp only [hexValue?, Char.le_def, UInt32.le_iff_toNat_le]
  rw [if_neg (by omega), if_neg (by omega), if_neg (by omega)]

theorem hexValue?_lt {c : Char} {n : Nat} (value : hexValue? c = some n) : n < 16 := by
  obtain ascii | large := lt_or_ge c.toNat 128
  · have small : ∀ m < 128, ∀ n ∈ hexValue? (Char.ofNat m), n < 16 := by decide +kernel
    exact forall_ascii (fun c => ∀ n ∈ hexValue? c, n < 16) small ascii n value
  · simp [hexValue?_eq_none_of_large large] at value

/-- The value of a digit is its place among the digits. -/
theorem hexValue?_eq_some_iff {c : Char} {n : Nat} : hexValue? c = some n ↔ Hex c n := by
  obtain ascii | large := lt_or_ge c.toNat 128
  · have places : ∀ m < 128, ∀ n < 16, hexValue? (Char.ofNat m) = some n ↔ Hex (Char.ofNat m) n := by
      decide +kernel
    have place := forall_ascii (fun c => ∀ n < 16, hexValue? c = some n ↔ Hex c n) places ascii
    constructor
    · intro value
      exact (place n (hexValue?_lt value)).mp value
    · intro hex
      exact (place n hex.lt).mpr hex
  · simp [hexValue?_eq_none_of_large large, not_hex_of_large large n]

theorem mapM_eq_some_iff {α β : Type} {read? : α → Option β} {list : List α} {values : List β} :
    list.mapM read? = some values ↔ List.Forall₂ (fun a b => read? a = some b) list values := by
  induction list generalizing values with
  | nil => simp [eq_comm]
  | cons a list ih =>
    simp only [List.mapM_cons, Option.bind_eq_bind, Option.bind_eq_some_iff, Option.pure_def,
      Option.some.injEq, List.forall₂_cons_left_iff, ih]
    constructor
    · rintro ⟨b, first, more, behind, rfl⟩
      exact ⟨b, more, first, behind, rfl⟩
    · rintro ⟨b, more, first, behind, rfl⟩
      exact ⟨b, first, more, behind, rfl⟩

theorem channel_toNat {high low : Nat} (first : high < 16) (second : low < 16) :
    (channel high low).toNat = 16 * high + low := by
  rw [channel, UInt8.toNat_ofNat']
  omega

theorem octet_channel {high low : Char} {h l : Nat} (first : Hex high h) (second : Hex low l) :
    Octet high low (channel h l) :=
  ⟨h, l, first, second, channel_toNat first.lt second.lt⟩

theorem Octet.eq_channel {high low : Char} {value : UInt8} (octet : Octet high low value) :
    ∃ h l, Hex high h ∧ Hex low l ∧ value = channel h l := by
  obtain ⟨h, l, first, second, number⟩ := octet
  refine ⟨h, l, first, second, UInt8.toNat_inj.mp ?_⟩
  rw [number, channel_toNat first.lt second.lt]

/-- A digit has one value. -/
theorem Hex.unique {c : Char} {n m : Nat} (first : Hex c n) (second : Hex c m) : n = m := by
  rw [← hexValue?_eq_some_iff] at first second
  exact Option.some.inj (first.symm.trans second)

/-! ## Colors -/

/-- The color that a trimmed text writes: a listed name up to the case of ASCII letters, or three,
six or eight digits behind `#`. -/
inductive Written : List Char → Color → Prop
  | name {text : List Char} {name : String} {color : Color} (listed : (name, color) ∈ named)
      (same : text.map asciiLower = name.toList.map asciiLower) : Written text color
  | three {r g b : Char} {red green blue : UInt8} (first : Octet r r red)
      (second : Octet g g green) (third : Octet b b blue) :
      Written ['#', r, g, b] ⟨red, green, blue, 255⟩
  | six {r r' g g' b b' : Char} {red green blue : UInt8} (first : Octet r r' red)
      (second : Octet g g' green) (third : Octet b b' blue) :
      Written ['#', r, r', g, g', b, b'] ⟨red, green, blue, 255⟩
  | eight {r r' g g' b b' a a' : Char} {red green blue alpha : UInt8} (first : Octet r r' red)
      (second : Octet g g' green) (third : Octet b b' blue) (fourth : Octet a a' alpha) :
      Written ['#', r, r', g, g', b, b', a, a'] ⟨red, green, blue, alpha⟩

theorem named_lower : ∀ entry ∈ named,
    entry.1.toList.map asciiLower = entry.1.toList ∧ entry.1.toList.head? ≠ some '#' := by
  decide +kernel

theorem lookup_named : ∀ entry ∈ named, named.lookup entry.1 = some entry.2 := by
  decide +kernel

/-- What the digits behind `#` stand for, by their number. -/
theorem ofDigits?_eq_some_iff {digits : List Char} {color : Color} :
    (digits.mapM hexValue?).bind ofDigits? = some color ↔ Written ('#' :: digits) color := by
  simp only [Option.bind_eq_some_iff, mapM_eq_some_iff, hexValue?_eq_some_iff]
  constructor
  · rintro ⟨values, hex, read⟩
    unfold ofDigits? at read
    split at read
    · obtain rfl := Option.some.inj read
      obtain _ | ⟨r, _ | ⟨g, _ | ⟨b, ⟨⟩⟩⟩⟩ := hex
      exact .three (octet_channel r r) (octet_channel g g) (octet_channel b b)
    · obtain rfl := Option.some.inj read
      obtain _ | ⟨r, _ | ⟨r', _ | ⟨g, _ | ⟨g', _ | ⟨b, _ | ⟨b', ⟨⟩⟩⟩⟩⟩⟩⟩ := hex
      exact .six (octet_channel r r') (octet_channel g g') (octet_channel b b')
    · obtain rfl := Option.some.inj read
      obtain _ | ⟨r, _ | ⟨r', _ | ⟨g, _ | ⟨g', _ | ⟨b, _ | ⟨b', _ | ⟨a, _ | ⟨a', ⟨⟩⟩⟩⟩⟩⟩⟩⟩⟩ := hex
      exact .eight (octet_channel r r') (octet_channel g g') (octet_channel b b')
        (octet_channel a a')
    · contradiction
  · intro written
    generalize shape : '#' :: digits = text at written
    cases written with
    | name listed same =>
      subst shape
      have lower := named_lower _ listed
      rw [lower.1] at same
      exact absurd (congrArg List.head? same).symm lower.2
    | three first second third =>
      obtain rfl := List.tail_eq_of_cons_eq shape
      obtain ⟨x, x', r, r', rfl⟩ := first.eq_channel
      obtain ⟨y, y', g, g', rfl⟩ := second.eq_channel
      obtain ⟨z, z', b, b', rfl⟩ := third.eq_channel
      obtain rfl := r.unique r'
      obtain rfl := g.unique g'
      obtain rfl := b.unique b'
      exact ⟨[x, y, z], .cons r (.cons g (.cons b .nil)), rfl⟩
    | six first second third =>
      obtain rfl := List.tail_eq_of_cons_eq shape
      obtain ⟨x, x', r, r', rfl⟩ := first.eq_channel
      obtain ⟨y, y', g, g', rfl⟩ := second.eq_channel
      obtain ⟨z, z', b, b', rfl⟩ := third.eq_channel
      exact ⟨[x, x', y, y', z, z'],
        .cons r (.cons r' (.cons g (.cons g' (.cons b (.cons b' .nil))))), rfl⟩
    | eight first second third fourth =>
      obtain rfl := List.tail_eq_of_cons_eq shape
      obtain ⟨x, x', r, r', rfl⟩ := first.eq_channel
      obtain ⟨y, y', g, g', rfl⟩ := second.eq_channel
      obtain ⟨z, z', b, b', rfl⟩ := third.eq_channel
      obtain ⟨w, w', a, a', rfl⟩ := fourth.eq_channel
      exact ⟨[x, x', y, y', z, z', w, w'],
        .cons r (.cons r' (.cons g (.cons g' (.cons b (.cons b' (.cons a (.cons a' .nil))))))), rfl⟩

/-- What a trimmed text stands for is what it writes. -/
theorem ofTrimmed?_eq_some_iff {text : List Char} {color : Color} :
    ofTrimmed? text = some color ↔ Written text color := by
  unfold ofTrimmed?
  split
  case h_1 digits => exact ofDigits?_eq_some_iff
  case h_2 _ unmarked =>
    constructor
    · intro found
      obtain ⟨before, after, split, -⟩ := List.lookup_eq_some_iff.mp found
      have listed : (String.ofList (text.map asciiLower), color) ∈ named := by
        rw [split]
        exact List.mem_append_right _ List.mem_cons_self
      refine .name listed ?_
      rw [(named_lower _ listed).1, String.toList_ofList]
    · intro written
      cases written with
      | name listed same =>
        rw [same, (named_lower _ listed).1, String.ofList_toList]
        exact lookup_named _ listed
      | three | six | eight => exact absurd rfl (unmarked _)

theorem ofString?_eq_ok_iff {text : String} {color : Color} :
    ofString? text = .ok color ↔ Written (trim text.toList) color := by
  rw [ofString?, ← ofTrimmed?_eq_some_iff]
  cases ofTrimmed? (trim text.toList) <;> simp

/-! ## Bytes -/

/-- The value of a byte that is a hexadecimal digit of either case. -/
def byteValue? (byte : UInt8) : Option Nat :=
  if 0x30 ≤ byte ∧ byte ≤ 0x39 then some (byte.toNat - 0x30)
  else if 0x61 ≤ byte ∧ byte ≤ 0x66 then some (byte.toNat - 0x61 + 10)
  else if 0x41 ≤ byte ∧ byte ≤ 0x46 then some (byte.toNat - 0x41 + 10)
  else none

/-- The bytes that pairs of bytes write; an odd one at the end writes nothing. -/
def decodePairs? : List UInt8 → Option (List UInt8)
  | [] => some []
  | [_] => none
  | high :: low :: rest => do
    let h ← byteValue? high
    let l ← byteValue? low
    return channel h l :: (← decodePairs? rest)

/-- The digits written out in full. The form is told by the number of bytes, while what is doubled
are the characters. -/
def spellOut? (digits : List Char) : Option (List Char) :=
  match (encode digits).length with
  | 3 => some (digits.flatMap (fun c => [c, c]) ++ ['f', 'f'])
  | 6 => some (digits ++ ['f', 'f'])
  | 8 => some digits
  | _ => none

/-- The color of digits that are measured and decoded as bytes. -/
def ofBytes? (digits : List Char) : Option Color := do
  match ← decodePairs? (encode (← spellOut? digits)) with
  | [red, green, blue, alpha] => some ⟨red, green, blue, alpha⟩
  | _ => none

/-- The channels that pairs of digits write. -/
def pairUp? : List Nat → Option (List UInt8)
  | [] => some []
  | [_] => none
  | high :: low :: rest => (pairUp? rest).map (channel high low :: ·)

theorem decodePairs?_eq (bytes : List UInt8) :
    decodePairs? bytes = (bytes.mapM byteValue?).bind pairUp? := by
  fun_induction decodePairs? bytes with
  | case1 => rfl
  | case2 byte => cases value : byteValue? byte <;> simp [value, pairUp?]
  | case3 high low rest ih =>
    simp only [List.mapM_cons, Option.bind_eq_bind, Option.pure_def, ih, Option.bind_assoc]
    refine Option.bind_congr fun h _ => Option.bind_congr fun l _ => ?_
    cases rest.mapM byteValue? with
    | none => rfl
    | some values => cases shape : pairUp? values <;> simp [pairUp?, shape]

theorem byteValue?_eq_none_of_large {byte : UInt8} (large : 128 ≤ byte.toNat) :
    byteValue? byte = none := by
  simp only [byteValue?, UInt8.le_iff_toNat_le, UInt8.reduceToNat]
  rw [if_neg (by omega), if_neg (by omega), if_neg (by omega)]

theorem encodeChar_of_ascii {c : Char} (ascii : c.toNat < 128) :
    String.utf8EncodeChar c = [UInt8.ofNat c.toNat] := by
  have small : c.val.toNat ≤ 127 := by
    simp only [Char.toNat] at ascii
    omega
  simp only [String.utf8EncodeChar, if_pos small, Char.toNat]

/-- Beyond ASCII a character starts with a byte that is no digit. -/
theorem encodeChar_of_large {c : Char} (large : 128 ≤ c.toNat) :
    ∃ byte rest, String.utf8EncodeChar c = byte :: rest ∧ 128 ≤ byte.toNat := by
  simp only [Char.toNat] at large
  simp only [String.utf8EncodeChar]
  rw [if_neg (by omega)]
  split
  · exact ⟨_, _, rfl, by rw [UInt8.toNat_ofNat']; omega⟩
  split
  · exact ⟨_, _, rfl, by rw [UInt8.toNat_ofNat']; omega⟩
  · exact ⟨_, _, rfl, by rw [UInt8.toNat_ofNat']; omega⟩

/-- The bytes of a text are digits where its characters are, and of the same values. -/
theorem mapM_byteValue?_encode (text : List Char) :
    (encode text).mapM byteValue? = text.mapM hexValue? := by
  induction text with
  | nil => rfl
  | cons c text ih =>
    have split : encode (c :: text) = String.utf8EncodeChar c ++ encode text := rfl
    rw [split, List.mapM_append, ih, List.mapM_cons]
    obtain ascii | large := lt_or_ge c.toNat 128
    · have same : byteValue? (UInt8.ofNat c.toNat) = hexValue? c := by
        refine forall_ascii (fun c => byteValue? (UInt8.ofNat c.toNat) = hexValue? c) ?_ ascii
        decide +kernel
      rw [encodeChar_of_ascii ascii, List.mapM_cons, same]
      cases hexValue? c <;> simp
    · obtain ⟨byte, rest, shape, high⟩ := encodeChar_of_large large
      rw [shape, List.mapM_cons, byteValue?_eq_none_of_large high, hexValue?_eq_none_of_large large]
      rfl

/-- A text of digits has as many bytes as characters. -/
theorem length_encode {text : List Char} {values : List Nat}
    (hex : text.mapM hexValue? = some values) : (encode text).length = values.length := by
  have bytes := mapM_byteValue?_encode text
  rw [hex] at bytes
  exact (mapM_eq_some_iff.mp bytes).length_eq

theorem mapM_hexValue?_doubled (digits : List Char) :
    (digits.flatMap fun c => [c, c]).mapM hexValue? =
      (digits.mapM hexValue?).map (List.flatMap fun n => [n, n]) := by
  induction digits with
  | nil => rfl
  | cons c digits ih =>
    rw [List.flatMap_cons, List.mapM_append, ih, List.mapM_cons]
    cases value : hexValue? c with
    | none => simp [value]
    | some n => cases more : digits.mapM hexValue? <;> simp [value, more]

/-- Measuring and decoding bytes gives the same colors as reading digits character by character,
for any text behind `#`. -/
theorem ofBytes?_eq (digits : List Char) : ofBytes? digits = ofTrimmed? ('#' :: digits) := by
  have full : ['f', 'f'].mapM hexValue? = some [15, 15] := by decide
  have top : channel 15 15 = 255 := by decide
  change _ = (digits.mapM hexValue?).bind ofDigits?
  simp only [ofBytes?, spellOut?, decodePairs?_eq, mapM_byteValue?_encode, Option.bind_eq_bind]
  cases hex : digits.mapM hexValue? with
  | none =>
    -- the digits that are wrong are still there once they are doubled or followed by others
    split <;> simp [List.mapM_append, mapM_hexValue?_doubled, hex]
  | some values =>
    rw [length_encode hex, Option.bind_some]
    split
    case h_1 three =>
      obtain ⟨x, y, z, rfl⟩ := List.length_eq_three.mp three
      simp [List.mapM_append, mapM_hexValue?_doubled, hex, full, pairUp?, ofDigits?, top]
    case h_2 six =>
      match values, six with
      | [x, x', y, y', z, z'], _ =>
        simp [List.mapM_append, hex, full, pairUp?, ofDigits?, top]
    case h_3 eight =>
      match values, eight with
      | [x, x', y, y', z, z', w, w'], _ => simp [hex, pairUp?, ofDigits?]
    case h_4 three six eight =>
      unfold ofDigits?
      split
      · exact absurd rfl three
      · exact absurd rfl six
      · exact absurd rfl eight
      · rfl

-- three bytes, but only two characters
example : (encode ['é', '1']).length = 3 ∧ ofBytes? ['é', '1'] = none := by decide

/-! ## Showing a color -/

theorem hex_hexDigit {n : Nat} (small : n < 16) : Hex (hexDigit n) n := by
  have places : ∀ n < 16, Hex (hexDigit n) n := by decide
  exact places n small

theorem octet_channelDigits (value : UInt8) :
    Octet (hexDigit (value.toNat / 16)) (hexDigit (value.toNat % 16)) value := by
  have below := value.toNat_lt
  refine ⟨value.toNat / 16, value.toNat % 16, hex_hexDigit (by omega), hex_hexDigit (by omega), ?_⟩
  omega

/-- What a color is shown as writes it. -/
theorem written_toString (color : Color) : Written (toString color).toList color := by
  rw [toString, String.toList_ofList]
  exact .eight (octet_channelDigits color.red) (octet_channelDigits color.green)
    (octet_channelDigits color.blue) (octet_channelDigits color.alpha)

theorem trim_toString (color : Color) : trim (toString color).toList = (toString color).toList := by
  refine (trimmed_of_solid ?_).trim
  have solid : ∀ n < 16, isBlank (hexDigit n) = false := by decide
  have channel (value : UInt8) : ∀ c ∈ channelDigits value, isBlank c = false := by
    have below := value.toNat_lt
    simp only [channelDigits, List.forall_mem_cons, List.not_mem_nil, false_implies, implies_true,
      and_true]
    exact ⟨solid _ (by omega), solid _ (by omega)⟩
  simp only [toString, String.toList_ofList, List.forall_mem_cons, List.forall_mem_append]
  exact ⟨by decide, ⟨⟨channel _, channel _⟩, channel _⟩, channel _⟩

/-- A color that is shown reads back as itself. -/
theorem ofString?_toString (color : Color) : ofString? (toString color) = .ok color := by
  rw [ofString?_eq_ok_iff, trim_toString]
  exact written_toString color

/-- Reading accepts the notation and nothing else, showing is its inverse, and bytes may be measured
and decoded in place of characters. -/
theorem ofString?_notation (text : String) :
    (∀ color, ofString? text = .ok color ↔ Written (trim text.toList) color) ∧
    (ofString? text = .error ⟨String.ofList (trim text.toList)⟩ ↔
      ∀ color, ¬ Written (trim text.toList) color) ∧
    (∀ digits, ofTrimmed? ('#' :: digits) = ofBytes? digits) ∧
    (∀ color, ofString? (toString color) = .ok color) ∧
    (ofString? text >>= fun color => ofString? (toString color)) = ofString? text := by
  refine ⟨fun _ => ofString?_eq_ok_iff, ?_, fun digits => (ofBytes?_eq digits).symm,
    ofString?_toString, ?_⟩
  · simp only [← ofString?_eq_ok_iff, ofString?]
    cases ofTrimmed? (trim text.toList) <;> simp
  · cases ofString? text with
    | error problem => rfl
    | ok color =>
      simp only [ofString?_toString]
      rfl

end TitleBar.Color
