import PortableSearch.Reply.Read

/-! Transports and scroll cursors: `Replay` answers with recorded replies, and a `Cursor` walks the
hits of a scroll, fetching a page only when none is at hand. -/

namespace PortableSearch

structure Sent where
  index : String
  documentType : Option String
  body : Members
  scroll : Option String

/-- A transport answering from recorded replies, with what it was sent. -/
structure Replay where
  initial : RawReply
  /-- The answers to continuations, in order: a raw reply, or the reason the transport failed. -/
  pages : List (Except String RawReply)
  sent : List Sent := []
  continuations : List (String × String) := []

def Replay.search (t : Replay) (s : Sent) : RawReply × Replay :=
  (t.initial, { t with sent := t.sent ++ [s] })

def noPageLeft : String := "no recorded page left"

def Replay.continueScroll (t : Replay) (keepAlive scrollId : String) : Outcome RawReply × Replay :=
  let t := { t with continuations := t.continuations ++ [(keepAlive, scrollId)] }
  match t.pages with
  | p :: rest => (p.mapError .transport, { t with pages := rest })
  | [] => (.error (.transport noPageLeft), t)

/-- The state of a walk over the hits of a scroll. -/
structure Cursor where
  queue : List Hit
  /-- The cursor token held; none once the scroll is exhausted. -/
  scrollId : Option String
  keepAlive : String

def Cursor.start (r : Reply) (keepAlive : String) : Cursor :=
  { queue := r.hits.hits, scrollId := r.scrollId, keepAlive }

/-- The cursor with a fetched page: its hits at hand, and its token when it has hits, else no
token. -/
def Cursor.refill (c : Cursor) (r : Reply) : Cursor :=
  if r.hits.hits.isEmpty then { c with queue := [], scrollId := none }
  else { c with queue := r.hits.hits, scrollId := r.scrollId }

def Cursor.fetch (c : Cursor) (id : String) (t : Replay) : Outcome Cursor × Replay :=
  let (raw, t) := t.continueScroll c.keepAlive id
  match raw.bind RawReply.decode with
  | .ok r => (.ok (c.refill r), t)
  | .error f => (.error f, t)

/-- Whether another hit is available, a page fetched when none is at hand. -/
def Cursor.hasNext (c : Cursor) (t : Replay) : Outcome Bool × Cursor × Replay :=
  if !c.queue.isEmpty then (.ok true, c, t)
  else match c.scrollId with
    | none => (.ok false, c, t)
    | some id =>
      match c.fetch id t with
      | (.ok c, t) => (.ok (!c.queue.isEmpty), c, t)
      | (.error f, t) => (.error f, c, t)

def Cursor.next (c : Cursor) (t : Replay) : Outcome Hit × Cursor × Replay :=
  match c.hasNext t with
  | (.ok true, c, t) => match c.queue with
    | h :: rest => (.ok h, { c with queue := rest }, t)
    | [] => (.error .scrollExhausted, c, t)
  | (.ok false, c, t) => (.error .scrollExhausted, c, t)
  | (.error f, c, t) => (.error f, c, t)

/-- Take every remaining hit, after `acc`, with the failure that stopped the walk, if one did;
`rounds` bounds the number of pages fetched. -/
def Cursor.drainFrom : Nat → Cursor → Replay → List Hit → List Hit × Option Fault × Cursor × Replay
  | 0, c, t, acc => (acc ++ c.queue, none, { c with queue := [] }, t)
  | rounds + 1, c, t, acc =>
    let acc := acc ++ c.queue
    let c := { c with queue := [] }
    match c.scrollId with
    | none => (acc, none, c, t)
    | some id =>
      match c.fetch id t with
      | (.ok c, t) => if c.queue.isEmpty then (acc, none, c, t) else Cursor.drainFrom rounds c t acc
      | (.error f, t) => (acc, some f, c, t)

def Cursor.drain (c : Cursor) (t : Replay) : List Hit × Option Fault × Cursor × Replay :=
  Cursor.drainFrom (t.pages.length + 1) c t []

end PortableSearch
