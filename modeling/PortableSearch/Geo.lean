import PortableSearch.Model.Check

/-! Points and boxes on the globe, read from objects of lenient doubles or taken from a typed record
of the same model. -/

namespace PortableSearch

open PortableSearch.Model

/-- A geographic point: x is the longitude, y the latitude. -/
structure Coordinate where
  lon : Float
  lat : Float

/-- A longitude/latitude rectangle. -/
structure Envelope where
  minX : Float
  maxX : Float
  minY : Float
  maxY : Float

namespace Model

/-- A field holding a model: an object checked by `check`, or a typed record of the model
`name`, whose fields are checked the same way. -/
def nested {α : Type} (name : String) (check : Fields → Checked α) : Value → Checked α
  | .obj ms => check ms
  | .record m fs => if m = name then check fs else .here
  | _ => .here

end Model

def Coordinate.check (fs : Model.Fields) : Checked Coordinate :=
  Coordinate.mk <$> required fs "lon" float <*> required fs "lat" float

def Envelope.check (fs : Model.Fields) : Checked Envelope :=
  Envelope.mk <$> required fs "min_x" float <*> required fs "max_x" float <*>
    required fs "min_y" float <*> required fs "max_y" float

def Coordinate.fields (c : Coordinate) : Members :=
  [("lon", .float c.lon), ("lat", .float c.lat)]

def Envelope.fields (e : Envelope) : Members :=
  [("min_x", .float e.minX), ("max_x", .float e.maxX), ("min_y", .float e.minY), ("max_y", .float e.maxY)]

end PortableSearch
