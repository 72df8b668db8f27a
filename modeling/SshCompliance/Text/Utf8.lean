/-!
# Reading UTF-8

Bytes are read one at a time. A sequence that breaks off, or a byte that cannot start one, is an
invalid piece; the byte that broke a sequence is read again on its own, so invalid pieces are as
long as a valid sequence agrees with them and no longer. `decode?` refuses invalid pieces,
`decodeLossy` puts one replacement character in the place of each.
-/

namespace SshCompliance.Text.Utf8

/-- What the bytes read so far leave open. -/
inductive State where
  | ready
  /-- A sequence with the code point bits so far, which needs `missing + 1` more bytes, the next of
  them between `low` and `high`. -/
  | inside (bits missing low high : Nat)
deriving DecidableEq, Repr

/-- The reading of a byte that starts a sequence, or is one. -/
def start (byte : Nat) : State × List (Option Char) :=
  if byte < 0x80 then (.ready, [some (Char.ofNat byte)])
  else if 0xC2 ≤ byte ∧ byte ≤ 0xDF then (.inside (byte - 0xC0) 0 0x80 0xBF, [])
  else if byte = 0xE0 then (.inside 0 1 0xA0 0xBF, [])
  else if byte = 0xED then (.inside 0xD 1 0x80 0x9F, [])
  else if 0xE1 ≤ byte ∧ byte ≤ 0xEF then (.inside (byte - 0xE0) 1 0x80 0xBF, [])
  else if byte = 0xF0 then (.inside 0 2 0x90 0xBF, [])
  else if 0xF1 ≤ byte ∧ byte ≤ 0xF3 then (.inside (byte - 0xF0) 2 0x80 0xBF, [])
  else if byte = 0xF4 then (.inside 4 2 0x80 0x8F, [])
  else (.ready, [none])

def step : State → Nat → State × List (Option Char)
  | .ready, byte => start byte
  | .inside bits missing low high, byte =>
    if low ≤ byte ∧ byte ≤ high then
      let bits := bits * 64 + (byte - 0x80)
      match missing with
      | 0 => (.ready, [some (Char.ofNat bits)])
      | missing + 1 => (.inside bits missing 0x80 0xBF, [])
    else
      let (state, read) := start byte
      (state, none :: read)

def decodeFrom : State → List UInt8 → List (Option Char)
  | .ready, [] => []
  | .inside .., [] => [none]
  | state, byte :: rest =>
    let (state, read) := step state byte.toNat
    read ++ decodeFrom state rest

def decode (bytes : List UInt8) : List (Option Char) := decodeFrom .ready bytes

def decode? (bytes : List UInt8) : Option String :=
  ((decode bytes).mapM id).map String.ofList

def decodeLossy (bytes : List UInt8) : String :=
  String.ofList ((decode bytes).map (·.getD '\ufffd'))

end SshCompliance.Text.Utf8
