import TerminalText.Session

/-!
# Sessions side by side

A pool holds sessions in the order in which they were started, and the snapshots taken of them.
Identifiers are given out in order, so that the session at place `k` is `k` beyond the first.

A request names the session or the snapshot it is about by its place; a request about one that is
not there has no answer.
-/

namespace TerminalText

/-- Sessions side by side, with the snapshots taken of them. -/
structure Pool where
  /-- The identifier of the next session. -/
  nextId : Nat
  sessions : List Session
  snapshots : List Snapshot

namespace Pool

/-- No sessions. -/
def empty (firstId : Nat) : Pool := ⟨firstId, [], []⟩

/-- What is known of the locale where a session starts. -/
inductive LocaleSource where
  | known (utf8 : Bool)
  | environment (env : Locale.Environment)

/-- A session at its start, by what is known of the locale. -/
def LocaleSource.start (id : Nat) (settings : Settings) : LocaleSource → Session
  | known utf8      => .start id settings utf8
  | environment env => .startIn id settings env

/-- What a pool can be asked. -/
inductive Request where
  /-- Starts a session. -/
  | start (settings : Settings) (locale : LocaleSource)
  /-- Asks the session at a place. -/
  | session (place : Nat) (q : Session.Request)
  /-- Asks what a byte shows in a snapshot. -/
  | translateIn (snapshot : Nat) (byte : UInt8) (slot : Slot)
  /-- Asks whether a session still has the tables of a snapshot, and whether its tables are
  equal to them. -/
  | compare (place snapshot : Nat)

/-- What a pool answers. -/
inductive Answer where
  | started (place offset : Nat)
  | session (a : Session.Answer)
  | kept (snapshot : Nat)
  | shown (point : Nat) (control : Bool)
  | compared (same equal : Bool)
  deriving DecidableEq

/-- Starts a session.  Its offset is the distance of its identifier from that of the first. -/
def start (p : Pool) (settings : Settings) (locale : LocaleSource) : Pool × Answer :=
  let sessions := p.sessions ++ [locale.start p.nextId settings]
  let first := (sessions.head?.map Session.id).getD p.nextId
  ({ p with nextId := p.nextId + 1, sessions := sessions },
    .started p.sessions.length (p.nextId - first))

/-- Puts the session at a place into the pool, after its answer; a snapshot is kept. -/
def settle (p : Pool) (place : Nat) : Session × Session.Answer → Pool × Answer
  | (s, .snapshot k) =>
    ({ p with sessions := p.sessions.set place s, snapshots := p.snapshots ++ [k] },
      .kept p.snapshots.length)
  | (s, a)           => ({ p with sessions := p.sessions.set place s }, .session a)

/-- Answers a request. -/
def perform (p : Pool) : Request → Option (Pool × Answer)
  | .start settings locale  => some (p.start settings locale)
  | .session place q        =>
    match p.sessions[place]? with
    | some s => some (p.settle place (s.perform q))
    | none   => none
  | .translateIn k b slot   =>
    match p.snapshots[k]? with
    | some k => some (p, .shown (k.translation.translate b slot) (k.translation.isControl b))
    | none   => none
  | .compare place k        =>
    match p.sessions[place]?, p.snapshots[k]? with
    | some s, some k => some (p, .compared (s.Holds k) (k.translation = s.translation))
    | _,      _      => none

/-- Answers requests one after another, leaving the pool as it is where there is no answer. -/
def run (p : Pool) : List Request → Pool × List (Option Answer)
  | []      => (p, [])
  | q :: qs =>
    match p.perform q with
    | some (p', a) => let r := p'.run qs; (r.1, some a :: r.2)
    | none         => let r := p.run qs; (r.1, none :: r.2)

end Pool

end TerminalText
