/-! # UTF-8

Encoding, and decoding that tells where and how a byte sequence is broken. A broken sequence is
either cut off by the end of the bytes or wrong after some number of bytes that do belong together.
-/

namespace TitleBar.Text

structure Utf8Error where
  /-- The number of bytes before the broken sequence. -/
  position : Nat
  /-- The length of the broken sequence; `none` when the end of the bytes cuts it off. -/
  length? : Option Nat
deriving DecidableEq, Repr

def Utf8Error.message (error : Utf8Error) : String :=
  match error.length? with
  | some n => "invalid utf-8 sequence of " ++ toString n ++ " bytes from index " ++
      toString error.position
  | none => "incomplete utf-8 byte sequence from index " ++ toString error.position

def encode (text : List Char) : List UInt8 := text.flatMap String.utf8EncodeChar

def isContinuation (byte : UInt8) : Bool := byte &&& 0xc0 == 0x80

def payload (byte : UInt8) : Nat := (byte &&& 0x3f).toNat

/-- Whether `second` may follow the leading byte of a longer sequence: it excludes overlong forms,
surrogates and code points beyond the last one. -/
def secondFits (first second : UInt8) : Bool :=
  if first == 0xe0 then 0xa0 ≤ second && second ≤ 0xbf
  else if first == 0xed then 0x80 ≤ second && second ≤ 0x9f
  else if first == 0xf0 then 0x90 ≤ second && second ≤ 0xbf
  else if first == 0xf4 then 0x80 ≤ second && second ≤ 0x8f
  else isContinuation second

def decodeAt (position : Nat) : List UInt8 → Except Utf8Error (List Char)
  | [] => .ok []
  | a :: rest =>
    if a < 0x80 then (decodeAt (position + 1) rest).map (Char.ofNat a.toNat :: ·)
    else if 0xc2 ≤ a && a ≤ 0xdf then
      match rest with
      | [] => .error ⟨position, none⟩
      | b :: rest =>
        if isContinuation b then
          (decodeAt (position + 2) rest).map
            (Char.ofNat ((a &&& 0x1f).toNat * 64 + payload b) :: ·)
        else .error ⟨position, some 1⟩
    else if 0xe0 ≤ a && a ≤ 0xef then
      match rest with
      | [] => .error ⟨position, none⟩
      | b :: rest =>
        if !secondFits a b then .error ⟨position, some 1⟩
        else match rest with
          | [] => .error ⟨position, none⟩
          | c :: rest =>
            if isContinuation c then
              (decodeAt (position + 3) rest).map
                (Char.ofNat (((a &&& 0x0f).toNat * 64 + payload b) * 64 + payload c) :: ·)
            else .error ⟨position, some 2⟩
    else if 0xf0 ≤ a && a ≤ 0xf4 then
      match rest with
      | [] => .error ⟨position, none⟩
      | b :: rest =>
        if !secondFits a b then .error ⟨position, some 1⟩
        else match rest with
          | [] => .error ⟨position, none⟩
          | c :: rest =>
            if !isContinuation c then .error ⟨position, some 2⟩
            else match rest with
              | [] => .error ⟨position, none⟩
              | d :: rest =>
                if isContinuation d then
                  (decodeAt (position + 4) rest).map
                    (Char.ofNat ((((a &&& 0x07).toNat * 64 + payload b) * 64 + payload c) * 64 +
                      payload d) :: ·)
                else .error ⟨position, some 3⟩
    else .error ⟨position, some 1⟩

def decode (bytes : List UInt8) : Except Utf8Error (List Char) := decodeAt 0 bytes

end TitleBar.Text
