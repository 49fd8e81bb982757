import TerminalText.Proofs.Codepage.Turns
import TerminalText.Proofs.Utf8.Substitution
import TerminalText.Session

/-!
# Sessions and how their stream is cut

Whoever reads from a line gets its bytes in pieces, as they happen to arrive.  `run_stretch` says
that the pieces do not matter: between two times at which settings are applied, all that a session
gives for the bytes fed to it is what a session at its start gives for the same bytes in one piece,
and the bytes held back at the end are the same too.  Nothing that was fed before is left.

The invariant is `Waits`: the bytes that a session holds back give nothing by themselves.  A request
that applies no settings takes the stream on by the bytes that it feeds, if any (`perform_step`).

Of bytes in one piece, `feed_substituted` says what is given for them in UTF-8, and `feed_turns` how
they are gone through: in how many turns, and how many of them are held back.
-/

namespace TerminalText.Session

/-! ### Requests and answers on the stream -/

/-- The bytes that a request feeds. -/
def Request.fed : Request → List UInt8
  | .feed bytes => bytes
  | _           => []

/-- The request feeds bytes. -/
def Request.isFeed : Request → Bool
  | .feed _ => true
  | _       => false

/-- The request applies settings. -/
def Request.isApply : Request → Bool
  | .apply _ => true
  | _        => false

/-- The code points that an answer gives for bytes. -/
def Answer.decoded : Answer → List Nat
  | .points ps => ps
  | _          => []

/-- The settings in force after requests. -/
def inForce (settings : Settings) : List Request → Settings
  | []             => settings
  | .apply t :: qs => inForce t qs
  | _ :: qs        => inForce settings qs

/-- Settings were applied last of all, or the session is at its start. -/
def Renewed (qs : List Request) : Prop := qs = [] ∨ ∃ rs t, qs = rs ++ [.apply t]

/-! ### Runs -/

/-- A run of two rows is the run of the second from where the first ends. -/
theorem run_append (s : Session) (qs rs : List Request) : s.run (qs ++ rs) =
    (((s.run qs).1.run rs).1, (s.run qs).2 ++ ((s.run qs).1.run rs).2) := by
  induction qs generalizing s with
  | nil => rfl
  | cons q qs ih => simp only [List.cons_append, run, ih]

theorem length_run (s : Session) (qs : List Request) : (s.run qs).2.length = qs.length := by
  induction qs generalizing s with
  | nil => rfl
  | cons q qs ih => simp only [run, List.length_cons, ih]

/-- A session has the settings that were applied last. -/
theorem settings_run (s : Session) (qs : List Request) :
    (s.run qs).1.settings = inForce s.settings qs := by
  induction qs generalizing s with
  | nil => rfl
  | cons q qs ih =>
    rw [run, ih]
    cases q <;> rfl

/-- Nothing is held back at the start, nor right after settings were applied. -/
theorem held_of_renewed {s : Session} {qs : List Request} (hs : s.held = []) (h : Renewed qs) :
    (s.run qs).1.held = [] := by
  rcases h with rfl | ⟨rs, t, rfl⟩
  · exact hs
  · rw [run_append]
    rfl

/-! ### Stretches without new settings -/

/-- What is held back gives nothing by itself. -/
def Waits (s : Session) : Prop := s.codepage.read s.held = ⟨[], s.held⟩

theorem waits_of_held {s : Session} (h : s.held = []) : s.Waits := by
  rw [Waits, h]
  exact Codepage.read_of_incomplete (by cases s.codepage <;> rfl)

/-- **A step on the stream.**  A request that applies no settings leaves the codepage, and answers
for the bytes it feeds as they are read behind those held back. -/
theorem perform_step {s : Session} (h : s.Waits) {q : Request} (hq : q.isApply = false) :
    (s.perform q).1.codepage = s.codepage ∧
      s.codepage.read (s.held ++ q.fed) = ⟨(s.perform q).2.decoded, (s.perform q).1.held⟩ := by
  cases q with
  | feed bytes => exact ⟨rfl, rfl⟩
  | apply t => cases hq
  | width | runColumns | encodeInput | translate | snapshot | status =>
    refine ⟨rfl, ?_⟩
    show s.codepage.read (s.held ++ []) = _
    rw [List.append_nil]
    exact h

/-- Whatever is asked, what is held back can still wait. -/
theorem perform_waits {s : Session} (h : s.Waits) (q : Request) : (s.perform q).1.Waits := by
  cases q with
  | feed bytes => exact Codepage.read_held _ _
  | apply t => exact waits_of_held rfl
  | width | runColumns | encodeInput | translate | snapshot | status => exact h

/-- **A stretch on the stream**: its answers are what is read for all its bytes at once. -/
theorem run_stream {s : Session} (h : s.Waits) {qs : List Request}
    (hqs : ∀ q ∈ qs, q.isApply = false) :
    s.codepage.read (s.held ++ qs.flatMap Request.fed) =
      ⟨(s.run qs).2.flatMap Answer.decoded, (s.run qs).1.held⟩ := by
  induction qs generalizing s with
  | nil =>
    rw [List.flatMap_nil, List.append_nil]
    exact h
  | cons q qs ih =>
    obtain ⟨hcp, hread⟩ := perform_step h (hqs q (.head _))
    have hrest := ih (perform_waits h q) fun r hr => hqs r (.tail _ hr)
    rw [hcp] at hrest
    rw [List.flatMap_cons, ← List.append_assoc, Codepage.read_append, hread, hrest]
    rfl

/-! ### What was fed before -/

/-- The session as if it held nothing back. -/
def drained (s : Session) : Session := { s with held := [] }

theorem drained_eq {s : Session} (h : s.held = []) : s.drained = s := by
  cases s
  cases h
  rfl

/-- Feeding changes what is held back, and nothing else. -/
theorem drained_feed (s : Session) {q : Request} (hq : q.isFeed = true) :
    (s.perform q).1.drained = s.drained := by
  cases q with
  | feed bytes => rfl
  | _ => cases hq

/-- What is held back changes nothing but the answers to feeding. -/
theorem drained_perform (s : Session) {q : Request} (hq : q.isFeed = false) :
    (s.perform q).1.drained = (s.drained.perform q).1 := by
  cases q with
  | feed bytes => cases hq
  | _ => rfl

/-- But for what is held back, feeding leaves no trace in a session. -/
theorem drained_run (s : Session) (qs : List Request) :
    (s.run qs).1.drained = (s.drained.run (qs.filter fun q => !q.isFeed)).1 := by
  induction qs generalizing s with
  | nil => rfl
  | cons q qs ih =>
    rw [run, ih]
    -- feeding leaves a drained session as it is; any other request is answered on both sides
    cases hq : q.isFeed with
    | true  => rw [drained_feed s hq, List.filter_cons_of_neg (by simp [hq])]
    | false => rw [drained_perform s hq, List.filter_cons_of_pos (by simp [hq]), run]

/-- Once settings are applied, the session is what it would be if nothing had been fed before. -/
theorem run_renewed {s : Session} {qs : List Request} (hs : s.held = []) (h : Renewed qs) :
    (s.run qs).1 = (s.run (qs.filter fun q => !q.isFeed)).1 := by
  rw [← drained_eq (held_of_renewed hs h), drained_run, drained_eq hs]

/-! ### Any run -/

/-- The answers to the middle of a row of requests. -/
theorem answers_middle (s : Session) (qs rs ts : List Request) :
    ((s.run (qs ++ rs ++ ts)).2.drop qs.length).take rs.length = ((s.run qs).1.run rs).2 := by
  rw [List.append_assoc, run_append, run_append, ← length_run s qs, List.drop_left,
    ← length_run (s.run qs).1 rs, List.take_left]

/-- **How the stream is cut has no effect.**  Take the requests of a session after `before`, which
ends with the last settings applied or is empty, and up to `after`, none of them applying settings:
the code points given for the bytes fed there are those that a new session with the settings then in
force gives for all the bytes at once, and the same bytes are held back.  What was fed before has
left no trace in the session. -/
theorem run_stretch (id : Nat) (settings : Settings) (utf8Locale : Bool)
    {before stretch : List Request} (hbefore : Renewed before)
    (hstretch : ∀ q ∈ stretch, q.isApply = false) (after : List Request)
    (newId : Nat) (newLocale : Bool) :
    let s := start id settings utf8Locale
    let once := (start newId (inForce settings before) newLocale).feed (stretch.flatMap Request.fed)
    let answers := ((s.run (before ++ stretch ++ after)).2.drop before.length).take stretch.length
    answers.flatMap Answer.decoded = once.2 ∧
    (s.run (before ++ stretch)).1.held = once.1.held ∧
    (s.run before).1 = (s.run (before.filter fun q => !q.isFeed)).1 := by
  intro s once answers
  have hheld : (s.run before).1.held = [] := held_of_renewed rfl hbefore
  have hcp : (s.run before).1.codepage = (inForce settings before).translation.codepage := by
    rw [codepage, (s.run before).1.translation_eq, settings_run]
    rfl
  have hstream := run_stream (waits_of_held hheld) hstretch
  rw [hheld, List.nil_append, hcp] at hstream
  have hdecoded : (((s.run before).1.run stretch).2).flatMap Answer.decoded = once.2 :=
    (congrArg Reading.points hstream).symm
  refine ⟨?_, ?_, run_renewed rfl hbefore⟩
  · rw [← hdecoded, ← answers_middle s before stretch after]
  · rw [run_append]
    exact (congrArg Reading.held hstream).symm

/-- The first three bytes of four are fed before the settings are applied, and the same three after
it, in two pieces and with the fourth and the beginning of another sequence behind them. -/
theorem run_stretch_resumed :
    let before := [Request.feed [0xF0, 0x9F, 0x98], .apply { ambiguousWide := true }]
    let stretch := [Request.feed [0xF0], .status, .feed [0x9F, 0x98, 0x80, 0xE6]]
    let s := start 0 {} false
    let answers := ((s.run (before ++ stretch ++ [.apply {}])).2.drop 2).take 3
    (Renewed before ∧ ∀ q ∈ stretch, q.isApply = false) ∧
      answers.flatMap Answer.decoded = [0x1F600] ∧
      (s.run (before ++ stretch)).1.held = [0xE6] := by
  intro before stretch s answers
  have hbefore : Renewed before := .inr ⟨[.feed [0xF0, 0x9F, 0x98]], _, rfl⟩
  have hstretch : ∀ q ∈ stretch, q.isApply = false := by decide
  obtain ⟨hdecoded, hheld, -⟩ := run_stretch 0 {} false hbefore hstretch [.apply {}] 1 true
  exact ⟨⟨hbefore, hstretch⟩, hdecoded.trans (by decide +kernel), hheld.trans (by decide +kernel)⟩

/-! ### Bytes in one piece -/

/-- **Feeding UTF-8 replaces maximal subparts.**  What a session at its start gives for bytes in
UTF-8, and what it holds back, is what the bytes stand for, and nothing else is. -/
theorem feed_substituted (id : Nat) {settings : Settings} (utf8Locale : Bool)
    (h : settings.translation.codepage = .utf8) (bytes : List UInt8) (ps : List Nat)
    (held : List UInt8) : Utf8.Substituted bytes ps held ↔
      ((start id settings utf8Locale).feed bytes).2 = ps ∧
      ((start id settings utf8Locale).feed bytes).1.held = held := by
  have hread : (start id settings utf8Locale).feed bytes =
      ({ start id settings utf8Locale with held := (Codepage.utf8.read bytes).held },
        (Codepage.utf8.read bytes).points) := by
    rw [← h]
    rfl
  rw [Utf8.substituted_iff_read, hread]
  constructor
  · intro he
    rw [he]
    exact ⟨rfl, rfl⟩
  · rintro ⟨rfl, rfl⟩
    rfl

/-- A sequence that breaks off, a byte that begins nothing, and one that waits. -/
theorem feed_substituted_broken : ({} : Settings).translation.codepage = .utf8 ∧
    Utf8.Substituted [0xE6, 0x97, 0x78, 0xC0, 0xF4] [0xFFFD, 0x78, 0xFFFD] [0xF4] := by
  have h : ({} : Settings).translation.codepage = .utf8 := by decide +kernel
  exact ⟨h, (feed_substituted 0 false h _ _ _).mpr ⟨by decide +kernel, by decide +kernel⟩⟩

/-- **Feeding always goes on, stays within the bytes and holds little back.**  Let any bytes be held
back, be they bytes that no session comes to hold, and let others be fed behind them, in any
codepage.  Decoding takes no more bytes than there are, and what can never be decoded is part of
what it leaves.  From no place within the bytes does a turn of the loop fail, and it goes on by a
byte at least unless it is the last, so that the loop ends in no more turns than there are bytes.
It holds back the end of the bytes, three of them at most and none but in UTF-8, and gives no more
code points than it takes bytes away. -/
theorem feed_turns (cp : Codepage) (held bytes : List UInt8) :
    let all := held ++ bytes
    let r := cp.read all
    (∀ s : Session, s.codepage = cp → s.held = held →
      s.feed bytes = ({ s with held := r.held }, r.points)) ∧
    (∀ ahead, (cp.decode ahead).consumed ≤ ahead.length) ∧
    (∀ rest n, rest ≠ [] → cp.malformed? rest = some n → 0 < n ∧ n ≤ rest.length) ∧
    (∀ c : Codepage.Cursor, c.start ≤ all.length →
      (∃ c', cp.turn? all c = some (.done c') ∧ c'.start ≤ all.length) ∨
      ∃ c', cp.turn? all c = some (.further c') ∧ c.start < c'.start ∧ c'.start ≤ all.length) ∧
    cp.readWithin? all.length all = some r ∧
    (r.held <:+ all ∧ r.held.length ≤ 3 ∧ (cp ≠ .utf8 → r.held = [])) ∧
    r.points.length ≤ all.length - r.held.length := by
  intro all r
  have hleaves : cp.Leaves all r := cp.leaves_read all
  refine ⟨?_, cp.decode_consumed_le, fun _ _ => Codepage.malformed?_bounds, fun c hc => ?_,
    cp.readWithin?_eq (Nat.le_refl _), ⟨hleaves.suffix, ?_, fun hcp => ?_⟩, ?_⟩
  · rintro s rfl rfl
    rfl
  · rcases cp.turn?_cases hc with ⟨c', hturn, hc', -⟩ | ⟨c', hturn, hfurther, hc', -⟩
    · exact .inl ⟨c', hturn, hc'⟩
    · exact .inr ⟨c', hturn, hfurther, hc'⟩
  · exact Codepage.length_le_of_incomplete hleaves.incomplete
  · exact Codepage.eq_nil_of_incomplete hcp hleaves.incomplete
  · exact Nat.le_sub_of_add_le hleaves.length_le

/-- A byte that no session holds back is replaced, a sequence breaks off, and three bytes of another
wait. -/
theorem feed_turns_unreachable :
    let s : Session := { start 0 {} false with held := [0xFF, 0xE6] }
    let bytes : List UInt8 := [0x97, 0x78, 0xF0, 0x9F, 0x98]
    let r : Reading := ⟨[0xFFFD, 0xFFFD, 0x78], [0xF0, 0x9F, 0x98]⟩
    s.codepage = .utf8 ∧ s.feed bytes = ({ s with held := r.held }, r.points) ∧
      Codepage.utf8.readWithin? 7 (s.held ++ bytes) = some r := by
  intro s bytes r
  have hcp : s.codepage = .utf8 := by decide +kernel
  have hread : Codepage.utf8.read (s.held ++ bytes) = r := by decide +kernel
  obtain ⟨hfeed, -, -, -, hloop, -⟩ := feed_turns .utf8 s.held bytes
  rw [hread] at hfeed hloop
  exact ⟨hcp, hfeed s hcp rfl, hloop⟩

end TerminalText.Session
