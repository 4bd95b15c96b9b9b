import PortableSearch.Time.Loose.Fields
import PortableSearch.Time.Iso

/-! Reading loosely written dates (`Loose.read`) into a `Stamp`: fields the text does not give are
taken from 1970-01-01T00:00, and a zone name other than universal time is read and ignored. -/

namespace PortableSearch.Time.Loose

/-- Why a date text does not give a date-time. -/
inductive Failure where
  | unknownFormat (text : String)
  | noDate (text : String)
  | badMonth (month : Int) (text : String)
  | fieldRange (message text : String)
  | narrowing (n : Narrowing)
  | pastLastDate
  | quotientTooLarge
  deriving Repr, Inhabited

def Failure.message : Failure → String
  | .unknownFormat text => "Unknown string format: " ++ text
  | .noDate text => "String does not contain a date: " ++ text
  | .badMonth month text => "bad month number " ++ toString month ++ "; must be 1-12: " ++ text
  | .fieldRange message text => message ++ ": " ++ text
  | .narrowing n => n.message
  | .pastLastDate => "date value out of range"
  | .quotientTooLarge => "[<class 'decimal.DivisionImpossible'>]"

def firstNarrowing (fields : List (Option Int)) : Option Narrowing :=
  fields.findSome? fun v => v.bind Narrowing.check32

/-- The date-time of a text's fields, from 1970-01-01T00:00 where a field is missing. -/
def Fields.toStamp (f : Fields) (text : String) : Except Failure Stamp := do
  let year := f.year.getD 1970
  let month := f.month.getD 1
  if f.day.isNone ∧ (month < 1 ∨ month > 12) then throw (.badMonth month text)
  if let some n := firstNarrowing [f.year, f.month, f.day, f.hour, f.minute, f.second, f.micro] then
    throw (.narrowing n)
  let day := f.day.getD 1
  let hour := f.hour.getD 0
  let minute := f.minute.getD 0
  let second := f.second.getD 0
  let micro := f.micro.getD 0
  -- every field is now between the 32-bit bounds, and none is negative
  if let some message := checkFields year month.toNat day.toNat hour.toNat minute.toNat second.toNat
      micro.toNat then
    throw (.fieldRange message text)
  let wall := ({ year, month := month.toNat, day := day.toNat, hour := hour.toNat,
                 minute := minute.toNat, second := second.toNat, micro := micro.toNat } :
                 Time.Reading).toMicros
  let wall ← match f.weekday, f.day with
    | some wd, none =>
      let ahead := ((7 - (weekdayOf wall : Int) + wd) % 7)
      let moved := wall + ahead * microsPerDay
      if inRange moved then pure moved else throw .pastLastDate
    | _, _ => pure wall
  let offset :=
    if f.zoneName = some "UTC" ∨ f.zoneOffset = some 0 then some 0
    else f.zoneOffset.map (· * 1000000)
  pure { wall, offset }

def read (text : String) : Except Failure Stamp :=
  match Fields.ofText text with
  | .error .unreadable => .error (.unknownFormat text)
  | .error .quotientTooLarge => .error .quotientTooLarge
  | .ok f => if f.count = 0 then .error (.noDate text) else f.toStamp text

end PortableSearch.Time.Loose
