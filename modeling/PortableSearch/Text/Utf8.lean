import PortableSearch.Text.Surrogate

/-! Decoding UTF-8 by the rules of RFC 3629, the three-byte form of a surrogate read as well when
asked. A failure names the bytes rejected: the lead byte, and the continuation bytes read so far. -/

namespace PortableSearch.Text

inductive DecodeFault where
  | invalidStart
  | invalidContinuation
  | endOfData
  | truncatedData
  | beyondUnicode
  deriving Repr, DecidableEq

/-- A rejected stretch of bytes: from `start` to before `stop`, beginning with `lead`. -/
structure DecodeError where
  start : Nat
  stop : Nat
  lead : UInt8
  fault : DecodeFault
  deriving Repr

def DecodeFault.reason : DecodeFault → String
  | .invalidStart => "invalid start byte"
  | .invalidContinuation => "invalid continuation byte"
  | .endOfData => "unexpected end of data"
  | .truncatedData => "truncated data"
  | .beyondUnicode => "code point not in range(0x110000)"

def hexByte (b : UInt8) : String :=
  let d (n : Nat) : Char := if n < 10 then Char.ofNat (48 + n) else Char.ofNat (87 + n)
  String.ofList [d (b.toNat / 16), d (b.toNat % 16)]

def DecodeError.message (codec : String) (e : DecodeError) : String :=
  "'" ++ codec ++ "' codec can't decode " ++
    (if e.stop ≤ e.start + 1 then
      "byte 0x" ++ hexByte e.lead ++ " in position " ++ toString e.start
    else "bytes in position " ++ toString e.start ++ "-" ++ toString (e.stop - 1)) ++
    ": " ++ e.fault.reason

/-- The length of the sequence a lead byte starts and the range of the second byte;
none when the byte cannot lead. -/
def leadShape (b : Nat) : Option (Nat × Nat × Nat) :=
  if b < 0x80 then some (1, 0, 0)
  else if b < 0xC2 then none
  else if b < 0xE0 then some (2, 0x80, 0xBF)
  else if b = 0xE0 then some (3, 0xA0, 0xBF)
  else if b = 0xED then some (3, 0x80, 0x9F)
  else if b < 0xF0 then some (3, 0x80, 0xBF)
  else if b = 0xF0 then some (4, 0x90, 0xBF)
  else if b < 0xF4 then some (4, 0x80, 0xBF)
  else if b = 0xF4 then some (4, 0x80, 0x8F)
  else none

/-- Check the continuation bytes of a sequence of length `len` led at `start`: the index of the
first byte that does not fit and whether the input ended there. -/
def checkTail (bs : Array UInt8) (start len lo hi : Nat) : Option (Nat × Bool) :=
  let fits (k : Nat) (b : Nat) : Bool := if k = 1 then lo ≤ b ∧ b ≤ hi else 0x80 ≤ b ∧ b ≤ 0xBF
  let rec go (k : Nat) (fuel : Nat) : Option (Nat × Bool) :=
    match fuel with
    | 0 => none
    | fuel + 1 =>
      if k ≥ len then none
      else match bs[start + k]? with
        | none => some (k, true)
        | some b => if fits k b.toNat then go (k + 1) fuel else some (k, false)
  go 1 4

def codePoint (bs : Array UInt8) (start len : Nat) : Nat :=
  let b (k : Nat) : Nat := (bs[start + k]?.getD 0).toNat
  match len with
  | 1 => b 0
  | 2 => (b 0 % 32) * 64 + b 1 % 64
  | 3 => ((b 0 % 16) * 64 + b 1 % 64) * 64 + b 2 % 64
  | _ => (((b 0 % 8) * 64 + b 1 % 64) * 64 + b 2 % 64) * 64 + b 3 % 64

/-- Whether the three bytes at `start` are the three-byte form of a surrogate code point. -/
def surrogateForm (bs : Array UInt8) (start : Nat) : Bool :=
  let b (k : Nat) : Nat := (bs[start + k]?.getD 0).toNat
  start + 3 ≤ bs.size && b 0 == 0xED && 0xA0 ≤ b 1 && b 1 ≤ 0xBF && 0x80 ≤ b 2 && b 2 ≤ 0xBF

def decodeFrom (surrogates : Bool) (bs : Array UInt8) (i : Nat) (acc : Array Nat) :
    Except DecodeError (Array Nat) :=
  if h : i < bs.size then
    let lead := bs[i]
    if surrogates ∧ surrogateForm bs i then
      decodeFrom surrogates bs (i + 3) (acc.push (codePoint bs i 3))
    else match leadShape lead.toNat with
      | none => .error ⟨i, i + 1, lead, .invalidStart⟩
      | some (len, lo, hi) =>
        match checkTail bs i len lo hi with
        | some (k, true) => .error ⟨i, i + k, lead, .endOfData⟩
        | some (k, false) => .error ⟨i, i + k, lead, .invalidContinuation⟩
        | none =>
          decodeFrom surrogates bs (i + max len 1) (acc.push (codePoint bs i len))
  else .ok acc
termination_by bs.size - i

def decodeUtf8Points (bs : List UInt8) (surrogates : Bool) : Except DecodeError (List Nat) :=
  (decodeFrom surrogates bs.toArray 0 #[]).map Array.toList

/-- Read bytes as UTF-8; a surrogate, read only when `surrogates` is set, becomes U+FFFD. -/
def decodeUtf8 (bs : List UInt8) (surrogates : Bool := false) : Except DecodeError String :=
  (decodeUtf8Points bs surrogates).map fun ps =>
    ofPoints (ps.map fun cp => if isSurrogate cp then 0xFFFD else cp)

end PortableSearch.Text
