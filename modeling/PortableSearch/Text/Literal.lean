import PortableSearch.Text.Classes
import PortableSearch.Text.Surrogate

/-! String literals that read back as the string: between single quotes, or double quotes when the
string holds a single quote and no double one, with escapes for the quote, controls and surrogates. -/

namespace PortableSearch.Text

def apostrophe : Char := Char.ofNat 39

def hexPadded (width n : Nat) : String :=
  let ds := Nat.toDigits 16 n
  String.ofList (List.replicate (width - ds.length) '0' ++ ds)

/-- The literal text of one code point, inside quotes `q`. -/
def literalPoint (q : Char) (n : Nat) : String :=
  let c := Char.ofNat n
  if isSurrogate n then "\\u" ++ hexPadded 4 n
  else if c == q || c == '\\' then "\\" ++ c.toString
  else if c == '\t' then "\\t"
  else if c == '\n' then "\\n"
  else if c == '\r' then "\\r"
  else if isPrintable c then c.toString
  else if n < 0x100 then "\\x" ++ hexPadded 2 n
  else if n < 0x10000 then "\\u" ++ hexPadded 4 n
  else "\\U" ++ hexPadded 8 n

/-- A string as a quoted literal. -/
def literal (s : String) : String :=
  let q := if s.contains apostrophe && !s.contains '"' then '"' else apostrophe
  q.toString ++ String.join ((points s).map (literalPoint q)) ++ q.toString

/-- A byte string as a quoted literal after `b`: printable ASCII stands for itself, the rest is
escaped. -/
def bytesLiteral (bs : List UInt8) : String :=
  let hasSingle := bs.contains 39
  let hasDouble := bs.contains 34
  let q : Char := if hasSingle && !hasDouble then '"' else apostrophe
  let one (b : UInt8) : String :=
    let c := Char.ofNat b.toNat
    if c == q || c == '\\' then "\\" ++ c.toString
    else if c == '\t' then "\\t"
    else if c == '\n' then "\\n"
    else if c == '\r' then "\\r"
    else if b < 0x20 || b ≥ 0x7f then "\\x" ++ hexPadded 2 b.toNat
    else c.toString
  "b" ++ q.toString ++ String.join (bs.map one) ++ q.toString

end PortableSearch.Text
