/-!
# UTF-8

`encode` is the UTF-8 form of a text. `decode` reads any bytes: each longest
piece that begins a character but does not finish it, and each byte that begins
none, becomes U+FFFD.
-/

namespace BlogDesk.Text.Utf8

def encode (text : List Char) : List UInt8 := text.flatMap String.utf8EncodeChar

def replacement : Char := '\uFFFD'

/-- A character begun: bytes still missing, the range of the next, and the bits so far. -/
structure Begun where
  missing : Nat
  low : UInt8
  high : UInt8
  bits : Nat

inductive Lead where
  | char (c : Char)
  | begun (state : Begun)
  | stray

/-- What a byte begins. Overlong forms, surrogates and values above U+10FFFF are
excluded by the range of the second byte. -/
def lead (b : UInt8) : Lead :=
  if b < 0x80 then .char (Char.ofNat b.toNat)
  else if b < 0xC2 then .stray
  else if b < 0xE0 then .begun ⟨1, 0x80, 0xBF, b.toNat - 0xC0⟩
  else if b = 0xE0 then .begun ⟨2, 0xA0, 0xBF, 0⟩
  else if b = 0xED then .begun ⟨2, 0x80, 0x9F, 0xD⟩
  else if b < 0xF0 then .begun ⟨2, 0x80, 0xBF, b.toNat - 0xE0⟩
  else if b = 0xF0 then .begun ⟨3, 0x90, 0xBF, 0⟩
  else if b < 0xF4 then .begun ⟨3, 0x80, 0xBF, b.toNat - 0xF0⟩
  else if b = 0xF4 then .begun ⟨3, 0x80, 0x8F, 4⟩
  else .stray

def decodeFrom : Option Begun → List UInt8 → List Char
  | none, [] => []
  | some _, [] => [replacement]
  | none, b :: rest =>
    match lead b with
    | .char c => c :: decodeFrom none rest
    | .begun state => decodeFrom (some state) rest
    | .stray => replacement :: decodeFrom none rest
  | some state, b :: rest =>
    if state.low ≤ b ∧ b ≤ state.high then
      let bits := 64 * state.bits + (b.toNat - 0x80)
      if state.missing ≤ 1 then Char.ofNat bits :: decodeFrom none rest
      else decodeFrom (some ⟨state.missing - 1, 0x80, 0xBF, bits⟩) rest
    else
      replacement ::
        match lead b with
        | .char c => c :: decodeFrom none rest
        | .begun state => decodeFrom (some state) rest
        | .stray => replacement :: decodeFrom none rest

def decode (bytes : List UInt8) : List Char := decodeFrom none bytes

end BlogDesk.Text.Utf8
