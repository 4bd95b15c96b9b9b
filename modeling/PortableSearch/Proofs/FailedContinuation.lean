import PortableSearch.Proofs.ScrollWalk

/-! A continuation that fails leaves the cursor as it was: the failure is the answer, the hits at
hand, the token and the keep-alive are kept, and the next call asks the same continuation again. -/

namespace PortableSearch

/-- Two consumers that have taken the same hits, hold the same cursor and have the same pages
left; their transports may differ in what they logged. -/
structure Scrolling.Agrees (s s' : Scrolling) : Prop where
  taken : s.taken = s'.taken
  cursor : s.cursor = s'.cursor
  pages : s.transport.pages = s'.transport.pages

section Fetch

variable (c : Cursor) (t t' : Replay)

theorem Cursor.fetch_pages (same : t.pages = t'.pages) (id : String) :
    (c.fetch id t).1 = (c.fetch id t').1 ∧ (c.fetch id t).2.pages = (c.fetch id t').2.pages := by
  cases pages : t'.pages with
  | nil =>
    simp only [Cursor.fetch, Replay.continueScroll, same, pages]
    exact ⟨rfl, rfl⟩
  | cons p rest =>
    rw [Cursor.fetch_of_pages c t (same.trans pages), Cursor.fetch_of_pages c t' pages]
    cases pageReply p <;> exact ⟨rfl, rfl⟩

/-- `hasNext` reads only the pages left: its answer, the cursor it leaves and the pages it
leaves are the same for two transports with the same pages. -/
theorem Cursor.hasNext_pages (same : t.pages = t'.pages) :
    (c.hasNext t).1 = (c.hasNext t').1 ∧ (c.hasNext t).2.1 = (c.hasNext t').2.1 ∧
      (c.hasNext t).2.2.pages = (c.hasNext t').2.2.pages := by
  unfold Cursor.hasNext
  split
  · exact ⟨rfl, rfl, same⟩
  cases token : c.scrollId with
  | none => exact ⟨rfl, rfl, same⟩
  | some id =>
    obtain ⟨answer, pages⟩ := c.fetch_pages t t' same id
    simp only
    revert answer pages
    cases c.fetch id t with
    | mk r u =>
      cases c.fetch id t' with
      | mk r' u' =>
        rintro rfl (pages : u.pages = u'.pages)
        cases r <;> exact ⟨rfl, rfl, pages⟩

end Fetch

theorem Scrolling.Agrees.step {s s' : Scrolling} (agree : s.Agrees s') (call : Cursor.Call) :
    (s.step call).Agrees (s'.step call) := by
  obtain ⟨taken, c, t⟩ := s
  obtain ⟨taken', c', t'⟩ := s'
  obtain ⟨rfl, rfl, pages⟩ := agree
  obtain ⟨answer, left, pagesLeft⟩ := c.hasNext_pages t t' pages
  rcases first : c.hasNext t with ⟨r, d, u⟩
  rcases second : c.hasNext t' with ⟨r', d', u'⟩
  simp only [first, second] at answer left pagesLeft
  subst answer left
  -- `next` is `hasNext` followed by taking a hit from the cursor it leaves, so both calls are
  -- decided by the answer and the cursor of `hasNext`
  cases call with
  | hasNext => simpa [Scrolling.step, first, second] using ⟨rfl, rfl, pagesLeft⟩
  | next =>
    simp only [Scrolling.step, Cursor.next, first, second]
    rcases r with f | _ | _
    · exact ⟨rfl, rfl, pagesLeft⟩
    · exact ⟨rfl, rfl, pagesLeft⟩
    · cases queue : d.queue <;> exact ⟨by simp [queue], by simp [queue], by simpa [queue] using pagesLeft⟩

/-- Every run of calls keeps two consumers agreeing: a walk never reads its transport's log. -/
theorem Scrolling.Agrees.run {s s' : Scrolling} (agree : s.Agrees s') (calls : List Cursor.Call) :
    (s.run calls).Agrees (s'.run calls) := by
  induction calls generalizing s s' with
  | nil => exact agree
  | cons call rest ih => exact ih (agree.step call)

section Failed

variable {c : Cursor} {t : Replay} {id : String} {f : Fault}

theorem Cursor.fetch_failed_iff : (c.fetch id t).1 = .error f ↔
    ((t.continueScroll c.keepAlive id).1 >>= RawReply.decode) = .error f := by
  unfold Cursor.fetch
  cases t.continueScroll c.keepAlive id with
  | mk raw u => cases decoded : raw.bind RawReply.decode <;> simp [bind, decoded]

theorem Cursor.fetch_transport : (c.fetch id t).2 = (t.continueScroll c.keepAlive id).2 := by
  unfold Cursor.fetch
  cases t.continueScroll c.keepAlive id with
  | mk raw u => cases decoded : raw.bind RawReply.decode <;> simp [decoded]

/-- With no hit at hand and a token held, a fetch that fails is the answer of `hasNext`, which
keeps the cursor. -/
theorem Cursor.hasNext_of_failed (empty : c.queue = []) (held : c.scrollId = some id)
    (failed : (c.fetch id t).1 = .error f) : c.hasNext t = (.error f, c, (c.fetch id t).2) := by
  unfold Cursor.hasNext
  simp only [empty, List.isEmpty_nil, Bool.not_true, Bool.false_eq_true, if_false, held]
  revert failed
  cases c.fetch id t with
  | mk r u =>
    rintro (rfl : r = .error f)
    rfl

theorem Cursor.next_of_failed (empty : c.queue = []) (held : c.scrollId = some id)
    (failed : (c.fetch id t).1 = .error f) : c.next t = (.error f, c, (c.fetch id t).2) := by
  simp only [Cursor.next, Cursor.hasNext_of_failed empty held failed]

theorem Cursor.fetch_asks (c : Cursor) (t : Replay) (id : String) :
    (c.fetch id t).2.continuations = t.continuations ++ [(c.keepAlive, id)] := by
  cases pages : t.pages with
  | nil =>
    simp only [Cursor.fetch, Replay.continueScroll, pages]
    rfl
  | cons p rest =>
    rw [Cursor.fetch_of_pages c t pages]
    cases pageReply p <;> rfl

theorem Cursor.hasNext_transport_held (empty : c.queue = []) (held : c.scrollId = some id) :
    (c.hasNext t).2.2 = (c.fetch id t).2 := by
  unfold Cursor.hasNext
  simp only [empty, List.isEmpty_nil, Bool.not_true, Bool.false_eq_true, if_false, held]
  cases c.fetch id t with
  | mk r u => cases r <;> rfl

theorem Scrolling.step_transport (s : Scrolling) (call : Cursor.Call) :
    (s.step call).transport = (s.cursor.hasNext s.transport).2.2 := by
  cases call with
  | hasNext => rfl
  | next =>
    rcases Cursor.next_cases s.cursor s.transport with ⟨h, rest, c', t', answered, -, taken⟩ |
      ⟨c', t', answered, taken⟩ | ⟨f, c', t', answered, taken⟩ <;>
    simp [Scrolling.step, answered, taken]

/-- With no hit at hand and a token held, every call asks one continuation: the cursor's
keep-alive and that token. -/
theorem Scrolling.step_asks_held (s : Scrolling) (call : Cursor.Call) (empty : s.cursor.queue = [])
    (held : s.cursor.scrollId = some id) :
    (s.step call).transport.continuations =
      s.transport.continuations ++ [(s.cursor.keepAlive, id)] := by
  rw [s.step_transport call, Cursor.hasNext_transport_held empty held, Cursor.fetch_asks]

end Failed

/-- A continuation that fails, in the transport or in decoding its page, leaves the cursor as it
was. Whatever call made it, `hasNext` and `next` answer with that failure; the consumer keeps
its hits, hits at hand, token and keep-alive, only its transport having moved on; the next call
asks the same continuation again with the same keep-alive and token; and every later run of
calls takes the hits it would take had the failed call never been made, on the pages the
transport has left. -/
theorem failed_continuation_keeps_cursor (s : Scrolling) (call : Cursor.Call) {id : String}
    {f : Fault} (empty : s.cursor.queue = []) (held : s.cursor.scrollId = some id)
    (failed : ((s.transport.continueScroll s.cursor.keepAlive id).1 >>= RawReply.decode) = .error f) :
    let t := (s.transport.continueScroll s.cursor.keepAlive id).2
    (s.cursor.hasNext s.transport).1 = .error f ∧ (s.cursor.next s.transport).1 = .error f ∧
      s.step call = { s with transport := t } ∧
      (∀ call', ((s.step call).step call').transport.continuations =
        t.continuations ++ [(s.cursor.keepAlive, id)]) ∧
      ∀ more, ((s.step call).run more).taken =
        ({ s with transport := { s.transport with pages := t.pages } }.run more).taken ∧
        ((s.step call).run more).cursor =
          ({ s with transport := { s.transport with pages := t.pages } }.run more).cursor := by
  intro t
  have fetched : (s.cursor.fetch id s.transport).1 = .error f := Cursor.fetch_failed_iff.mpr failed
  have answered := Cursor.hasNext_of_failed empty held fetched
  have stepped : s.step call = { s with transport := t } := by
    cases call with
    | hasNext => simp [Scrolling.step, answered, Cursor.fetch_transport, t]
    | next =>
      simp [Scrolling.step, Cursor.next_of_failed empty held fetched, Cursor.fetch_transport, t,
        Except.toOption]
  refine ⟨by rw [answered], by rw [Cursor.next_of_failed empty held fetched], stepped, ?_, ?_⟩
  · intro call'
    rw [stepped]
    exact Scrolling.step_asks_held { s with transport := t } call' empty held
  · -- the consumer after the failure agrees with the one that never made the call
    intro more
    have agree : (s.step call).Agrees { s with transport := { s.transport with pages := t.pages } } := by
      rw [stepped]
      exact ⟨rfl, rfl, rfl⟩
    have later := agree.run more
    exact ⟨later.taken, later.cursor⟩

/-- A cursor with no hit at hand that holds the token `c1`, and whose next page is a response
object without an object body, answers `next` with the malformed reply and keeps its cursor. -/
theorem malformed_page_keeps_cursor :
    let s : Scrolling :=
      { taken := [], cursor := { queue := [], scrollId := some "c1", keepAlive := "1m" },
        transport := { initial := .wrapped .null, pages := [.ok (.wrapped .null)] } }
    s.cursor.queue = [] ∧ s.cursor.scrollId = some "c1" ∧
      (s.cursor.next s.transport).1 = .error (.malformedReply "unsupported reply type ObjectApiResponse") ∧
      (s.step .next).cursor = s.cursor := by
  intro s
  obtain ⟨-, answered, stepped, -⟩ := @failed_continuation_keeps_cursor s .next "c1" _ rfl rfl rfl
  exact ⟨rfl, rfl, answered, by rw [stepped]⟩

end PortableSearch
