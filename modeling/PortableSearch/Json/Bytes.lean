import PortableSearch.Json.Read
import PortableSearch.Text.Wide

/-! JSON texts given as bytes: the encoding is told by a byte-order mark or by the zero bytes among
the first four (after RFC 4627), and the text is decoded before it is read, its surrogates kept. -/

namespace PortableSearch.Json

open PortableSearch.Text (ByteOrder)

/-- The encoding of a JSON text given as bytes. -/
inductive Encoding where
  | utf8
  | utf16 (order : ByteOrder)
  | utf32 (order : ByteOrder)
  deriving Repr, DecidableEq

structure Detected where
  encoding : Encoding
  mark : Nat
  deriving Repr, DecidableEq

/-- Tell the encoding of a JSON text from its first bytes. -/
def Encoding.detect (bs : List UInt8) : Detected :=
  match bs with
  | 0x00 :: 0x00 :: 0xFE :: 0xFF :: _ => ⟨.utf32 .big, 4⟩
  | 0xFF :: 0xFE :: 0x00 :: 0x00 :: _ => ⟨.utf32 .little, 4⟩
  | 0xFE :: 0xFF :: _ => ⟨.utf16 .big, 2⟩
  | 0xFF :: 0xFE :: _ => ⟨.utf16 .little, 2⟩
  | 0xEF :: 0xBB :: 0xBF :: _ => ⟨.utf8, 3⟩
  | b0 :: b1 :: b2 :: b3 :: _ =>
    if b0 = 0 then ⟨if b1 = 0 then .utf32 .big else .utf16 .big, 0⟩
    else if b1 = 0 then ⟨if b2 = 0 ∧ b3 = 0 then .utf32 .little else .utf16 .little, 0⟩
    else ⟨.utf8, 0⟩
  | [b0, b1] =>
    if b0 = 0 then ⟨.utf16 .big, 0⟩ else if b1 = 0 then ⟨.utf16 .little, 0⟩ else ⟨.utf8, 0⟩
  | _ => ⟨.utf8, 0⟩

def Encoding.codec : Encoding → String
  | .utf8 => "utf-8"
  | .utf16 .little => "utf-16-le"
  | .utf16 .big => "utf-16-be"
  | .utf32 .little => "utf-32-le"
  | .utf32 .big => "utf-32-be"

def Encoding.decode (e : Encoding) (bs : List UInt8) (mark : Nat) :
    Except Text.DecodeError (List Nat) :=
  match e with
  | .utf8 => Text.decodeUtf8Points (bs.drop mark) true
  | .utf16 o => (Text.decodeUtf16From o bs.toArray mark #[]).map Array.toList
  | .utf32 o => (Text.decodeUtf32From o bs.toArray mark #[]).map Array.toList

/-- Why bytes are not a JSON text. -/
inductive BytesError where
  | undecodable (encoding : Encoding) (e : Text.DecodeError)
  | malformed (text : List Nat) (e : ReadError)

def BytesError.message : BytesError → String
  | .undecodable enc e => e.message enc.codec
  | .malformed text e => e.describePoints text

/-- Read bytes as a JSON text, decoded in the encoding their first bytes tell. -/
def readJsonBytes (bs : List UInt8) (d : Dialect := {}) : Except BytesError Value :=
  let found := Encoding.detect bs
  match found.encoding.decode bs found.mark with
  | .error e => .error (.undecodable found.encoding e)
  | .ok ps =>
    match readJsonPoints ps d with
    | .ok v => .ok v
    | .error e => .error (.malformed ps e)

example : (Encoding.detect [0x7B, 0, 0x22, 0]).encoding = .utf16 .little := by decide
example : (Encoding.detect [0xFF, 0xFE, 0, 0, 0x7B, 0, 0, 0]) = ⟨.utf32 .little, 4⟩ := by decide
example : (Encoding.detect [0, 0x7B]).encoding = .utf16 .big := by decide

end PortableSearch.Json
