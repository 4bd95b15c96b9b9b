import PortableSearch.Zone.Table
import PortableSearch.Zone.Data.Americas
import PortableSearch.Zone.Data.EuropeAfrica
import PortableSearch.Zone.Data.AsiaPacific
import PortableSearch.Zone.Data.Other

/-! The catalog of named zones. A name is a path below the database's root `/usr/share/zoneinfo`,
walked as the file system walks it (`zoneAt`); the copies in `right` count leap seconds in their
transitions and say nothing of the time after the leap-second table expires. -/

namespace PortableSearch.Zone

def ruleLines : List String :=
  Data.americas ++ Data.europeAfrica ++ Data.asiaPacific ++ Data.other

def ruleOfLine (name line : String) : Option String :=
  match line.splitOn "=" with
  | [names, rules] => if (names.splitOn " ").contains name then some rules else none
  | _ => none

def rootSteps : List String := ["usr", "share", "zoneinfo"]

def namesOfLine (line : String) : List String :=
  (line.takeWhile (· ≠ '=')).toString.splitOn " "

def copyDirectories : List String := ["posix", "right"]

def withoutCopy (steps : List String) : List String :=
  match steps with
  | first :: rest => if copyDirectories.contains first then rest else steps
  | [] => []

def isDirectory (steps : List String) : Bool :=
  steps.isPrefixOf rootSteps ||
    (rootSteps.isPrefixOf steps &&
      let below := steps.drop rootSteps.length
      (below.length = 1 && copyDirectories.any (below.contains ·)) ||
        let dir := "/".intercalate (withoutCopy below) ++ "/"
        ruleLines.any fun line => (namesOfLine line).any (·.startsWith dir))

/-- Where the steps of a path lead from `here`, if every step can be taken: a step other than a
name needs `here` to be a directory, and `..` goes up but never above the root. A name that is
followed by more steps needs no check of its own, as the place finally reached is checked. -/
def walkPath (here : List String) : List String → Option (List String)
  | [] => some here
  | step :: rest =>
    if step = "" ∨ step = "." ∨ step = ".." then
      if isDirectory here then walkPath (if step = ".." then here.dropLast else here) rest
      else none
    else walkPath (here ++ [step]) rest

/-- The steps below the database's root that a path leads to, when it leads there. -/
def zoneAt (path : String) : Option (List String) := do
  let start := if path.startsWith "/" then [] else rootSteps
  let steps ← walkPath start (path.splitOn "/")
  if rootSteps.isPrefixOf steps ∧ steps.length > rootSteps.length then
    some (steps.drop rootSteps.length)
  else none

def storedRules (name : String) : Option String :=
  ruleLines.findSome? (ruleOfLine name)

def leapSecondEnds : List (Int × Nat) :=
  [(1972, 7), (1973, 1), (1974, 1), (1975, 1), (1976, 1), (1977, 1), (1978, 1), (1979, 1),
   (1980, 1), (1981, 7), (1982, 7), (1983, 7), (1985, 7), (1988, 1), (1990, 1), (1991, 1),
   (1992, 7), (1993, 7), (1994, 7), (1996, 1), (1997, 7), (1999, 1), (2006, 1), (2009, 1),
   (2012, 7), (2015, 7), (2017, 1)]

/-- An instant, in seconds since 1970 without leap seconds, as a clock that counts the leap
seconds inserted before it shows it. -/
def countingLeaps (u : Int) : Int :=
  u + ((leapSecondEnds.filter fun (y, m) => Time.daysFromCivil y m 1 * 86400 ≤ u).length : Int)

/-- The instant from which the leap-second table that the zones of `right` count was not known
to hold: 2026-06-28T00:00 UTC. -/
def leapTableExpiry : Int := Time.daysFromCivil 2026 6 28 * 86400

/-- The rules of the zone at steps below the database's root, and whether it is the copy in
`right`, which counts leap seconds. -/
def rulesAt (steps : List String) : Option (String × Bool) :=
  match steps with
  | first :: rest@(_ :: _) =>
    if first = "posix" then (storedRules ("/".intercalate rest)).map (·, false)
    else if first = "right" then (storedRules ("/".intercalate rest)).map (·, true)
    else (storedRules ("/".intercalate steps)).map (·, false)
  | _ => (storedRules ("/".intercalate steps)).map (·, false)

/-- The table of a zone's rules, or of their copy in `right`: its transitions count the leap
seconds before them and end at `leapTableExpiry`, with no yearly rule after them. -/
def Table.ofStored (rules : String) (countsLeaps : Bool) : Option Table :=
  if countsLeaps then Table.ofTextMoving countingLeaps (some leapTableExpiry) rules
  else Table.ofText rules

/-- The table of the zone that `name` leads to; a relative name that leads to none is tried with
its blanks read as underscores. -/
def Table.named (name : String) : Option Table :=
  let lookup (path : String) : Option (String × Bool) := (zoneAt path).bind rulesAt
  let found := if name.startsWith "/" then lookup name
    else (lookup name).orElse fun _ => lookup (name.replace " " "_")
  found.bind fun (rules, countsLeaps) => Table.ofStored rules countsLeaps

end PortableSearch.Zone
