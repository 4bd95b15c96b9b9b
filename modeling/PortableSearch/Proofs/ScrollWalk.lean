import PortableSearch.Scroll

/-! A consumer walks a scroll cursor with any sequence of `hasNext` and `next` calls. In every state
it reaches, the hits taken and at hand are those of the initial reply and of the pages fetched, in
order (`Scrolling.Ledger`), and a continuation is asked only with no hit at hand and a token held. -/

namespace PortableSearch

inductive Cursor.Call where
  | hasNext
  | next

/-- What a consumer of a cursor has: the hits it took, the cursor and the transport. -/
structure Scrolling where
  taken : List Hit
  cursor : Cursor
  transport : Replay

def Scrolling.start (r : Reply) (keepAlive : String) (t : Replay) : Scrolling :=
  { taken := [], cursor := Cursor.start r keepAlive, transport := t }

/-- Make one call; the hit `next` returns is taken, and a failed call leaves the consumer
walking on. -/
def Scrolling.step (s : Scrolling) : Cursor.Call → Scrolling
  | .hasNext =>
    let (_, c, t) := s.cursor.hasNext s.transport
    { s with cursor := c, transport := t }
  | .next =>
    let (h, c, t) := s.cursor.next s.transport
    { taken := s.taken ++ h.toOption.toList, cursor := c, transport := t }

def Scrolling.run (s : Scrolling) (calls : List Cursor.Call) : Scrolling :=
  calls.foldl Scrolling.step s

/-! ## What a page brings -/

def pageReply (p : Except String RawReply) : Outcome Reply :=
  (p.mapError .transport).bind RawReply.decode

def pageHits (p : Except String RawReply) : List Hit :=
  match pageReply p with
  | .ok r => r.hits.hits
  | .error _ => []

/-- The token held after taking in the answer `p` while holding `tok`: none when its reply has no
hits, the reply's own token when it has hits, and `tok` still when it gives no reply. -/
def pageToken (tok : Option String) (p : Except String RawReply) : Option String :=
  match pageReply p with
  | .ok r => if r.hits.hits.isEmpty then none else r.scrollId
  | .error _ => tok

def heldToken (tok : Option String) (ps : List (Except String RawReply)) : Option String :=
  ps.foldl pageToken tok

def fetchTokens : Option String → List (Except String RawReply) → List (Option String)
  | _, [] => []
  | tok, p :: ps => tok :: fetchTokens (pageToken tok p) ps

theorem fetchTokens_append_page (tok : Option String) (ps : List (Except String RawReply))
    (p : Except String RawReply) :
    fetchTokens tok (ps ++ [p]) = fetchTokens tok ps ++ [heldToken tok ps] := by
  induction ps generalizing tok with
  | nil => rfl
  | cons q ps ih => simp [fetchTokens, heldToken, ih]

theorem heldToken_append_page (tok : Option String) (ps : List (Except String RawReply))
    (p : Except String RawReply) : heldToken tok (ps ++ [p]) = pageToken (heldToken tok ps) p := by
  simp [heldToken]

def asked (call : String × String) : String × Option String := (call.1, some call.2)

/-! ## The ledger of a walk -/

/-- The account of a consumer that started on reply `r` with keep-alive `ka` against the
transport `t0`, once the first `k` recorded pages were taken in and `fails` continuations found
no page left: the hits taken and at hand are those of the reply and the `k` pages, the token is
the one these pages leave, and the continuations asked are one per page, with the token held
when it was asked, then `fails` more with the token held now. -/
structure Scrolling.Ledger (r : Reply) (ka : String) (t0 : Replay) (k fails : Nat)
    (s : Scrolling) : Prop where
  consumed_le : k ≤ t0.pages.length
  pages_left : s.transport.pages = t0.pages.drop k
  keep_alive : s.cursor.keepAlive = ka
  hits : s.taken ++ s.cursor.queue = r.hits.hits ++ (t0.pages.take k).flatMap pageHits
  token : s.cursor.scrollId = heldToken r.scrollId (t0.pages.take k)
  fails_at_end : 0 < fails → s.transport.pages = []
  calls : s.transport.continuations.map asked = t0.continuations.map asked ++
    (fetchTokens r.scrollId (t0.pages.take k) ++
      List.replicate fails (heldToken r.scrollId (t0.pages.take k))).map (ka, ·)

theorem Scrolling.ledger_start (r : Reply) (ka : String) (t0 : Replay) :
    (Scrolling.start r ka t0).Ledger r ka t0 0 0 :=
  { consumed_le := Nat.zero_le _
    pages_left := rfl
    keep_alive := rfl
    hits := by simp [Scrolling.start, Cursor.start]
    token := rfl
    fails_at_end := fun failed => absurd failed (Nat.lt_irrefl 0)
    calls := by simp [Scrolling.start, fetchTokens] }

/-! ## What one call can do -/

section Calls

variable (c : Cursor) (t : Replay)

def Replay.asking (t : Replay) (ka id : String) : Replay :=
  { t with continuations := t.continuations ++ [(ka, id)] }

theorem Cursor.refill_keepAlive (r : Reply) : (c.refill r).keepAlive = c.keepAlive := by
  unfold Cursor.refill
  split <;> rfl

theorem Cursor.fetch_of_pages {id : String} {p : Except String RawReply}
    {rest : List (Except String RawReply)} (next : t.pages = p :: rest) :
    c.fetch id t = match pageReply p with
      | .ok r => (.ok (c.refill r), { t.asking c.keepAlive id with pages := rest })
      | .error f => (.error f, { t.asking c.keepAlive id with pages := rest }) := by
  simp only [Cursor.fetch, Replay.continueScroll, Replay.asking, next, pageReply]
  cases (p.mapError Fault.transport).bind RawReply.decode <;> rfl

/-- Everything `hasNext` can do: answer from the hits at hand, answer that the walk is over, or
ask for one continuation with the held token, which finds no page, a page that is no reply
(taken off all the same), or a reply that the cursor takes in. -/
theorem Cursor.hasNext_cases :
    (c.queue ≠ [] ∧ c.hasNext t = (.ok true, c, t)) ∨
    (c.queue = [] ∧ c.scrollId = none ∧ c.hasNext t = (.ok false, c, t)) ∨
    (c.queue = [] ∧ ∃ id, c.scrollId = some id ∧
      ((t.pages = [] ∧
          c.hasNext t = (.error (.transport noPageLeft), c, t.asking c.keepAlive id)) ∨
        ∃ p rest, t.pages = p :: rest ∧
          ((∃ f, pageReply p = .error f ∧
              c.hasNext t = (.error f, c, { t.asking c.keepAlive id with pages := rest })) ∨
            ∃ r, pageReply p = .ok r ∧
              c.hasNext t = (.ok !(c.refill r).queue.isEmpty, c.refill r,
                { t.asking c.keepAlive id with pages := rest })))) := by
  cases queue : c.queue with
  | cons h rest => exact .inl ⟨nofun, by simp [Cursor.hasNext, queue]⟩
  | nil =>
    cases token : c.scrollId with
    | none => exact .inr (.inl ⟨rfl, rfl, by simp [Cursor.hasNext, queue, token]⟩)
    | some id =>
      refine .inr (.inr ⟨rfl, id, rfl, ?_⟩)
      cases pages : t.pages with
      | nil =>
        exact .inl ⟨rfl, by simp [Cursor.hasNext, Cursor.fetch, Replay.continueScroll,
          Replay.asking, queue, token, pages, Except.bind]⟩
      | cons p rest =>
        refine .inr ⟨p, rest, rfl, ?_⟩
        have fetched := @Cursor.fetch_of_pages c t id p rest pages
        cases decoded : pageReply p with
        | error f => exact .inl ⟨f, rfl, by simp [Cursor.hasNext, queue, token, fetched, decoded]⟩
        | ok r => exact .inr ⟨r, rfl, by simp [Cursor.hasNext, queue, token, fetched, decoded]⟩

/-- `next` is `hasNext` followed by taking the first hit at hand, which is there whenever
`hasNext` says so. -/
theorem Cursor.next_cases :
    (∃ h rest c' t', c.hasNext t = (.ok true, c', t') ∧ c'.queue = h :: rest ∧
      c.next t = (.ok h, { c' with queue := rest }, t')) ∨
    (∃ c' t', c.hasNext t = (.ok false, c', t') ∧ c.next t = (.error .scrollExhausted, c', t')) ∨
    (∃ f c' t', c.hasNext t = (.error f, c', t') ∧ c.next t = (.error f, c', t')) := by
  rcases Cursor.hasNext_cases c t with
    ⟨queued, answered⟩ | ⟨-, -, answered⟩ | ⟨-, id, -, ⟨-, answered⟩ | ⟨p, rest, -, fetched⟩⟩
  · obtain ⟨h, rest, queue⟩ := List.exists_cons_of_ne_nil queued
    exact .inl ⟨h, rest, c, t, answered, queue, by simp [Cursor.next, answered, queue]⟩
  · exact .inr (.inl ⟨c, t, answered, by simp [Cursor.next, answered]⟩)
  · exact .inr (.inr ⟨_, c, _, answered, by simp [Cursor.next, answered]⟩)
  rcases fetched with ⟨f, -, answered⟩ | ⟨r, -, answered⟩
  · exact .inr (.inr ⟨f, c, _, answered, by simp [Cursor.next, answered]⟩)
  · cases queue : (c.refill r).queue with
    | nil => exact .inr (.inl ⟨_, _, by simpa [queue] using answered,
        by simp [Cursor.next, answered, queue]⟩)
    | cons h rest => exact .inl ⟨h, rest, _, _, by simpa [queue] using answered, queue,
        by simp [Cursor.next, answered, queue]⟩

theorem Cursor.hasNext_of_queued (queued : c.queue ≠ []) : c.hasNext t = (.ok true, c, t) := by
  rcases Cursor.hasNext_cases c t with ⟨-, answered⟩ | ⟨empty, -⟩ | ⟨empty, -⟩
  · exact answered
  · exact absurd empty queued
  · exact absurd empty queued

theorem Cursor.hasNext_of_dropped (dropped : c.scrollId = none) :
    c.hasNext t = (.ok (!c.queue.isEmpty), c, t) := by
  rcases Cursor.hasNext_cases c t with ⟨queued, answered⟩ | ⟨empty, -, answered⟩ | ⟨-, id, held, -⟩
  · cases queue : c.queue with
    | nil => exact absurd queue queued
    | cons => simpa [queue] using answered
  · simpa [empty] using answered
  · simp [dropped] at held

theorem RawReply.decode_ne_exhausted (p : RawReply) : p.decode ≠ .error .scrollExhausted := by
  have ofMembers (ms : Members) : replyOfMembers ms ≠ .error .scrollExhausted := by
    unfold replyOfMembers
    split <;> simp
  have ofText (text : String) : replyOfText text ≠ .error .scrollExhausted := by
    unfold replyOfText
    split
    · split <;> simp
    · simp
  cases p with
  | text text => exact ofText text
  | bytes bs =>
    simp only [RawReply.decode]
    split
    · exact ofText _
    · simp
  | parsed v => cases v <;> simp [RawReply.decode, ofMembers]
  | wrapped v => cases v <;> simp [RawReply.decode, ofMembers]

theorem pageReply_ne_exhausted (p : Except String RawReply) : pageReply p ≠ .error .scrollExhausted := by
  cases p with
  | error reason =>
    intro exhausted
    cases (exhausted : Except.error (Fault.transport reason) = _)
  | ok raw => exact raw.decode_ne_exhausted

/-- `hasNext` fails only as its transport or a page's decoding does, never as an exhausted
scroll. -/
theorem Cursor.hasNext_ne_exhausted : (c.hasNext t).1 ≠ .error .scrollExhausted := by
  rcases Cursor.hasNext_cases c t with ⟨-, answered⟩ | ⟨-, -, answered⟩ |
    ⟨-, id, -, ⟨-, answered⟩ | ⟨p, rest, -, ⟨f, failed, answered⟩ | ⟨r, -, answered⟩⟩⟩
  · simp [answered]
  · simp [answered]
  · simp [answered]
  · rw [answered]
    intro exhausted
    exact pageReply_ne_exhausted p (by simpa using failed.trans (by simpa using exhausted))
  · simp [answered]

theorem Cursor.next_exhausted_iff :
    (c.next t).1 = .error .scrollExhausted ↔ (c.hasNext t).1 = .ok false := by
  rcases Cursor.next_cases c t with ⟨h, rest, c', t', answered, -, taken⟩ |
    ⟨c', t', answered, taken⟩ | ⟨f, c', t', answered, taken⟩
  · simp [answered, taken]
  · simp [answered, taken]
  · have never := Cursor.hasNext_ne_exhausted c t
    simp [answered] at never
    simp [answered, taken, never]

end Calls

/-! ## What a call keeps -/

/-- A call asks for at most one continuation, and only with no hit at hand and a token held: the
cursor's keep-alive and that token. -/
theorem Scrolling.step_asks (s : Scrolling) (call : Cursor.Call) :
    (s.step call).transport.continuations = s.transport.continuations ∨
      (s.cursor.queue = [] ∧ ∃ id, s.cursor.scrollId = some id ∧
        (s.step call).transport.continuations =
          s.transport.continuations ++ [(s.cursor.keepAlive, id)]) := by
  have same : (s.step call).transport = (s.cursor.hasNext s.transport).2.2 := by
    cases call with
    | hasNext => rfl
    | next =>
      rcases Cursor.next_cases s.cursor s.transport with ⟨h, rest, c', t', answered, -, taken⟩ |
        ⟨c', t', answered, taken⟩ | ⟨f, c', t', answered, taken⟩ <;>
      simp [Scrolling.step, answered, taken]
  rw [same]
  rcases Cursor.hasNext_cases s.cursor s.transport with ⟨-, answered⟩ | ⟨-, -, answered⟩ |
    ⟨empty, id, held, ⟨-, answered⟩ | ⟨p, rest, -, ⟨f, -, answered⟩ | ⟨r, -, answered⟩⟩⟩
  · simp [answered]
  · simp [answered]
  all_goals exact .inr ⟨empty, id, held, by simp [answered, Replay.asking]⟩

theorem Scrolling.step_of_dropped (s : Scrolling) (call : Cursor.Call)
    (dropped : s.cursor.scrollId = none) :
    (s.step call).cursor.scrollId = none ∧ (s.step call).transport = s.transport := by
  have answered := Cursor.hasNext_of_dropped s.cursor s.transport dropped
  cases call with
  | hasNext => simp [Scrolling.step, answered, dropped]
  | next =>
    cases queue : s.cursor.queue with
    | nil => simp [Scrolling.step, Cursor.next, answered, queue, dropped]
    | cons h rest => simp [Scrolling.step, Cursor.next, answered, queue, dropped]

/-- Once the token is dropped, no run of calls brings it back or asks for a continuation. -/
theorem Scrolling.run_of_dropped (s : Scrolling) (calls : List Cursor.Call)
    (dropped : s.cursor.scrollId = none) :
    (s.run calls).cursor.scrollId = none ∧ (s.run calls).transport = s.transport := by
  induction calls generalizing s with
  | nil => exact ⟨dropped, rfl⟩
  | cons call rest ih =>
    obtain ⟨stillDropped, sameTransport⟩ := s.step_of_dropped call dropped
    obtain ⟨finallyDropped, finalTransport⟩ := ih (s.step call) stillDropped
    exact ⟨finallyDropped, finalTransport.trans sameTransport⟩

/-! ## The ledger along a walk -/

section Ledger

variable {r : Reply} {ka : String} {t0 : Replay} {k fails : Nat} {s : Scrolling}

theorem take_succ_of_drop {α : Type} {ps : List α} {p : α} {rest : List α}
    (next : ps.drop k = p :: rest) : ps.take (k + 1) = ps.take k ++ [p] := by
  have at_k : ps[k]? = some p := by rw [← List.head?_drop, next]; rfl
  simp [List.take_add_one, at_k]

theorem drop_succ_of_drop {α : Type} {ps : List α} {p : α} {rest : List α}
    (next : ps.drop k = p :: rest) : ps.drop (k + 1) = rest := by
  rw [← List.tail_drop, next]; rfl

theorem Scrolling.Ledger.takeIn {id : String} {p : Except String RawReply}
    {rest : List (Except String RawReply)} {c : Cursor}
    (ledger : s.Ledger r ka t0 k 0) (empty : s.cursor.queue = [])
    (held : s.cursor.scrollId = some id) (next : s.transport.pages = p :: rest)
    (keepAlive : c.keepAlive = s.cursor.keepAlive) (brought : c.queue = pageHits p)
    (token : c.scrollId = pageToken (some id) p) :
    Scrolling.Ledger r ka t0 (k + 1) 0
      { taken := s.taken, cursor := c,
        transport := { s.transport.asking s.cursor.keepAlive id with pages := rest } } := by
  rw [ledger.pages_left] at next
  have taken := take_succ_of_drop next
  have shorter : k < t0.pages.length := by
    have longer := congrArg List.length next
    simp only [List.length_drop, List.length_cons] at longer
    omega
  refine ⟨shorter, (drop_succ_of_drop next).symm, keepAlive.trans ledger.keep_alive, ?_, ?_, nofun,
    ?_⟩
  · have hits := ledger.hits
    simp only [empty, List.append_nil] at hits
    simp [hits, taken, brought]
  · rw [token, taken, heldToken_append_page, ← ledger.token, held]
  · simp [Replay.asking, ledger.calls, taken, fetchTokens_append_page, ledger.keep_alive,
      ← ledger.token, held, asked]

theorem Scrolling.Ledger.hasNext (ledger : s.Ledger r ka t0 k fails) :
    ∃ k' fails', (s.step .hasNext).Ledger r ka t0 k' fails' := by
  rcases Cursor.hasNext_cases s.cursor s.transport with ⟨-, answered⟩ | ⟨-, -, answered⟩ |
    ⟨empty, id, held, ⟨noPage, answered⟩ | ⟨p, rest, next, fetched⟩⟩
  iterate 2
    · have same : s.step .hasNext = s := by simp [Scrolling.step, answered]
      exact ⟨k, fails, by rw [same]; exact ledger⟩
  · -- no page left: one more failed continuation, with the token still held
    refine ⟨k, fails + 1, ?_⟩
    simp only [Scrolling.step, answered]
    refine ⟨ledger.consumed_le, ledger.pages_left, ledger.keep_alive, ledger.hits, ledger.token,
      fun _ => noPage, ?_⟩
    simp [Replay.asking, ledger.calls, List.replicate_succ', ledger.keep_alive, ← ledger.token,
      held, asked]
  -- a page was taken off, the next recorded one, so no continuation failed before
  have noFails : fails = 0 := by
    cases fails with
    | zero => rfl
    | succ n => simp [ledger.fails_at_end (Nat.succ_pos n)] at next
  subst noFails
  refine ⟨k + 1, 0, ?_⟩
  rcases fetched with ⟨f, failed, answered⟩ | ⟨reply, decoded, answered⟩
  · -- a page that is no reply brings no hits and leaves the token
    simp only [Scrolling.step, answered]
    exact ledger.takeIn empty held next rfl (by simp [empty, pageHits, failed])
      (by simp [held, pageToken, failed])
  · -- a reply: its hits are at hand, and its token is held when it has hits
    simp only [Scrolling.step, answered]
    refine ledger.takeIn empty held next (s.cursor.refill_keepAlive reply) ?_ ?_
    · by_cases none_left : reply.hits.hits.isEmpty
      · simp [Cursor.refill, pageHits, decoded, List.isEmpty_iff.mp none_left]
      · simp [Cursor.refill, none_left, pageHits, decoded]
    · by_cases none_left : reply.hits.hits.isEmpty <;>
        simp [Cursor.refill, none_left, pageToken, decoded]

theorem Scrolling.Ledger.step (ledger : s.Ledger r ka t0 k fails) (call : Cursor.Call) :
    ∃ k' fails', (s.step call).Ledger r ka t0 k' fails' := by
  obtain ⟨k', fails', after⟩ := ledger.hasNext
  cases call with
  | hasNext => exact ⟨k', fails', after⟩
  | next =>
    refine ⟨k', fails', ?_⟩
    rcases Cursor.next_cases s.cursor s.transport with ⟨h, rest, c', t', answered, queue, taken⟩ |
      ⟨c', t', answered, taken⟩ | ⟨f, c', t', answered, taken⟩
    all_goals
      simp only [Scrolling.step, answered] at after
      obtain ⟨within, left, keepAlive, hits, token, atEnd, calls⟩ := after
      simp only [Scrolling.step, taken]
    · exact ⟨within, left, keepAlive, by simpa [queue, Except.toOption] using hits, token, atEnd,
        calls⟩
    all_goals exact ⟨within, left, keepAlive, by simpa [Except.toOption] using hits, token, atEnd,
      calls⟩

theorem Scrolling.Ledger.run (ledger : s.Ledger r ka t0 k fails) (calls : List Cursor.Call) :
    ∃ k' fails', (s.run calls).Ledger r ka t0 k' fails' := by
  induction calls generalizing s k fails with
  | nil => exact ⟨k, fails, ledger⟩
  | cons call rest ih =>
    obtain ⟨k', fails', stepped⟩ := ledger.step call
    exact ih stepped

end Ledger

/-- The discipline of a scroll walk, in every state reached from the initial reply `r` by any
calls: the hits taken and at hand are the reply's hits and then those of the pages taken in, in
order, with the token and the continuations that the ledger records; a call asks for at most one
continuation, only with no hit at hand and a token held, with the keep-alive and that token; a
dropped token stays dropped and nothing more is asked; with hits at hand `hasNext` asks
nothing; and `next` fails with the exhausted scroll exactly when `hasNext` says no hit is left. -/
theorem scrolling_discipline (r : Reply) (ka : String) (t0 : Replay) (calls : List Cursor.Call) :
    let s := (Scrolling.start r ka t0).run calls
    (∃ k fails, s.Ledger r ka t0 k fails) ∧
    (∀ call, (s.step call).transport.continuations = s.transport.continuations ∨
      (s.cursor.queue = [] ∧ ∃ id, s.cursor.scrollId = some id ∧
        (s.step call).transport.continuations = s.transport.continuations ++ [(ka, id)])) ∧
    (s.cursor.scrollId = none → ∀ more, (s.run more).cursor.scrollId = none ∧
      (s.run more).transport = s.transport) ∧
    (s.cursor.queue ≠ [] → s.cursor.hasNext s.transport = (.ok true, s.cursor, s.transport)) ∧
    ((s.cursor.next s.transport).1 = .error .scrollExhausted ↔
      (s.cursor.hasNext s.transport).1 = .ok false) := by
  intro s
  have accounted : ∃ k fails, s.Ledger r ka t0 k fails := (Scrolling.ledger_start r ka t0).run calls
  obtain ⟨k, fails, ledger⟩ := accounted
  refine ⟨⟨k, fails, ledger⟩, fun call => ?_, fun dropped more => s.run_of_dropped more dropped,
    Cursor.hasNext_of_queued s.cursor s.transport, Cursor.next_exhausted_iff s.cursor s.transport⟩
  rw [← ledger.keep_alive]
  exact s.step_asks call

end PortableSearch
