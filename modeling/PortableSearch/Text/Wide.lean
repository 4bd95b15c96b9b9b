import PortableSearch.Text.Utf8

/-! Decoding UTF-16 and UTF-32 in a given byte order, surrogates kept; positions count from the
start of the whole byte string, a skipped byte-order mark included. -/

namespace PortableSearch.Text

inductive ByteOrder where
  | little
  | big
  deriving Repr, DecidableEq

/-- The code unit of `width` bytes at index `i` in byte order `o`. -/
def unitAt (o : ByteOrder) (bs : Array UInt8) (i width : Nat) : Nat :=
  let bytes := (List.range width).map fun k => (bs[i + k]?.getD 0).toNat
  let ordered := match o with
    | .little => bytes.reverse
    | .big => bytes
  ordered.foldl (fun n b => n * 256 + b) 0

def isHighSurrogate (u : Nat) : Bool := 0xD800 ≤ u && u < 0xDC00

def isLowSurrogate (u : Nat) : Bool := 0xDC00 ≤ u && u < 0xE000

def truncatedFrom (bs : Array UInt8) (i : Nat) : DecodeError :=
  ⟨i, bs.size, bs[i]?.getD 0, .truncatedData⟩

/-- Decode UTF-16 from index `i` on, appending the code points to `acc`. -/
def decodeUtf16From (o : ByteOrder) (bs : Array UInt8) (i : Nat) (acc : Array Nat) :
    Except DecodeError (Array Nat) :=
  if h : i + 2 ≤ bs.size then
    let u := unitAt o bs i 2
    let w := unitAt o bs (i + 2) 2
    if isHighSurrogate u ∧ i + 4 ≤ bs.size ∧ isLowSurrogate w then
      decodeUtf16From o bs (i + 4) (acc.push (0x10000 + (u - 0xD800) * 1024 + (w - 0xDC00)))
    else decodeUtf16From o bs (i + 2) (acc.push u)
  else if i < bs.size then .error (truncatedFrom bs i)
  else .ok acc
termination_by bs.size - i

/-- Decode UTF-32 from index `i` on, appending the code points to `acc`. -/
def decodeUtf32From (o : ByteOrder) (bs : Array UInt8) (i : Nat) (acc : Array Nat) :
    Except DecodeError (Array Nat) :=
  if h : i + 4 ≤ bs.size then
    let u := unitAt o bs i 4
    if u < 0x110000 then decodeUtf32From o bs (i + 4) (acc.push u)
    else .error ⟨i, i + 4, bs[i]?.getD 0, .beyondUnicode⟩
  else if i < bs.size then .error (truncatedFrom bs i)
  else .ok acc
termination_by bs.size - i

example : (decodeUtf16From .little #[0x3D, 0xD8, 0x00, 0xDE, 0x00, 0xD8] 0 #[]).toOption =
    some #[0x1F600, 0xD800] := by
  decide +kernel
example : (decodeUtf32From .big #[0, 0, 0, 0x41, 0] 0 #[]).toOption = none := by decide +kernel

end PortableSearch.Text
