import Mathlib.Data.List.Basic
import TerminalText.Proofs.Session.Stream
import TerminalText.Session.Pool

/-!
# Sessions that do not meet

The sessions of a pool share the counter of their identifiers and the list of snapshots, and nothing
else.

* What a session answers, it answers in the same way when it is asked by itself (`run_session`): the
  requests to others, and what was done before it was started, make no difference.
* Identifiers are given out one by one, and so each session has its own (`Numbered`).

What a request can do to a pool is said once, by `StepsTo`.  Whatever holds of one step is read off
its cases, and carried over a run by induction.
-/

namespace TerminalText

/-! ### One session by itself -/

namespace Session

/-- The session under another identifier. -/
def withId (s : Session) (id : Nat) : Session := { s with id := id }

/-- The answer of the session under another identifier, which snapshots show. -/
def Answer.withId (id : Nat) : Answer → Answer
  | .snapshot k => .snapshot { k with session := id }
  | a           => a

/-- One request is answered alike under any identifier, but for the label of a snapshot. -/
theorem perform_withId (s : Session) (id : Nat) (q : Request) :
    (s.withId id).perform q = ((s.perform q).1.withId id, (s.perform q).2.withId id) := by
  cases q <;> rfl

/-- Identifiers have no effect but on what snapshots are labelled with. -/
theorem run_withId (s : Session) (id : Nat) (qs : List Request) :
    (s.withId id).run qs = ((s.run qs).1.withId id, (s.run qs).2.map (Answer.withId id)) := by
  induction qs generalizing s with
  | nil => rfl
  | cons q qs ih => simp only [run, perform_withId, ih, List.map_cons]

theorem id_perform (s : Session) (q : Request) : (s.perform q).1.id = s.id := by
  cases q <;> rfl

/-- The generation counts how often settings were applied. -/
theorem generation_run (s : Session) (qs : List Request) :
    (s.run qs).1.generation = s.generation + qs.countP Request.isApply := by
  induction qs generalizing s with
  | nil => rfl
  | cons q qs ih =>
    rw [run, ih, List.countP_cons]
    cases q with
    | apply t => exact Nat.add_right_comm _ _ _
    | _ => rfl

/-- A session keeps its tables until settings are applied. -/
theorem generation_run_eq_iff (s : Session) (qs : List Request) :
    s.generation = (s.run qs).1.generation ↔ ∀ q ∈ qs, q.isApply = false := by
  rw [generation_run, Nat.left_eq_add, List.countP_eq_zero]
  simp only [Bool.not_eq_true]

/-- Tables made anew for the settings that were in force before contain what they did. -/
theorem translation_run {s : Session} {qs : List Request} (h : inForce s.settings qs = s.settings) :
    (s.run qs).1.translation = s.translation :=
  calc (s.run qs).1.translation
    _ = (s.run qs).1.settings.translation := (s.run qs).1.translation_eq
    _ = s.settings.translation := by rw [settings_run, h]
    _ = s.translation := s.translation_eq.symm

end Session

namespace Pool

theorem LocaleSource.start_withId (locale : LocaleSource) (id id' : Nat) (settings : Settings) :
    (locale.start id settings).withId id' = locale.start id' settings := by
  cases locale <;> rfl

/-! ### Requests -/

/-- The request starts a session. -/
def Request.isStart : Request → Bool
  | .start _ _ => true
  | _          => false

/-- What is asked of the session at a place. -/
def Request.to? (place : Nat) : Request → Option Session.Request
  | .session k q => if k = place then some q else none
  | _            => none

/-- All that is asked of the session at a place, in order. -/
def asked (place : Nat) (qs : List Request) : List Session.Request :=
  qs.filterMap (Request.to? place)

/-- The answer of a session, given the snapshots that are kept. -/
def Answer.ofSession? (kept : List Snapshot) : Answer → Option Session.Answer
  | .session a => some a
  | .kept k    => kept[k]?.map .snapshot
  | _          => none

/-- What the session at a place answers to a request, if it is asked and there. -/
def answerOf? (place : Nat) (kept : List Snapshot) (q : Request) (a : Option Answer) :
    Option Session.Answer :=
  (q.to? place).bind fun _ => a.bind (Answer.ofSession? kept)

/-- All that the session at a place answers, in order. -/
def answersOf (place : Nat) (kept : List Snapshot) (qs : List Request) (as : List (Option Answer)) :
    List Session.Answer :=
  (qs.zip as).filterMap fun r => answerOf? place kept r.1 r.2

/-! ### One step -/

/-- A request with its answer, where the pool stays as it is if there is none. -/
def step (p : Pool) (q : Request) : Pool × Option Answer :=
  match p.perform q with
  | some (p', a) => (p', some a)
  | none         => (p, none)

theorem run_cons (p : Pool) (q : Request) (qs : List Request) : p.run (q :: qs) =
    (((p.step q).1.run qs).1, (p.step q).2 :: ((p.step q).1.run qs).2) := by
  rw [run, step]
  cases p.perform q <;> rfl

/-- What a request can do to a pool, and what is answered. -/
inductive StepsTo (p : Pool) : Request → Pool → Option Answer → Prop where
  | start (settings : Settings) (locale : LocaleSource) :
      StepsTo p (.start settings locale) (p.start settings locale).1 (p.start settings locale).2
  | session {place : Nat} {s : Session} (h : p.sessions[place]? = some s) (q : Session.Request) :
      StepsTo p (.session place q) (p.settle place (s.perform q)).1 (p.settle place (s.perform q)).2
  | absent {place : Nat} (h : p.sessions[place]? = none) (q : Session.Request) :
      StepsTo p (.session place q) p none
  | translateIn (k : Nat) (b : UInt8) (slot : Slot) (a : Option Answer) :
      StepsTo p (.translateIn k b slot) p a
  | compare (place k : Nat) (a : Option Answer) : StepsTo p (.compare place k) p a

/-- Every step is one of those that a pool can take. -/
theorem stepsTo_step (p : Pool) (q : Request) : p.StepsTo q (p.step q).1 (p.step q).2 := by
  rw [step]
  cases q with
  | start settings locale => exact .start settings locale
  | session place q =>
    rw [perform]
    cases h : p.sessions[place]? with
    | none   => exact .absent h q
    | some s => exact .session h q
  | translateIn k b slot =>
    rw [perform]
    cases p.snapshots[k]? <;> exact .translateIn k b slot _
  | compare place k =>
    rw [perform]
    cases p.sessions[place]? <;> cases p.snapshots[k]? <;> exact .compare place k _

/-! ### After a start, and after an answer -/

/-- After a start, a session is the new one or one that was there. -/
theorem session_start_cases {p : Pool} {settings : Settings} {locale : LocaleSource} {place : Nat}
    {t : Session} (ht : (p.start settings locale).1.sessions[place]? = some t) :
    p.sessions[place]? = some t ∨
      place = p.sessions.length ∧ t = locale.start p.nextId settings := by
  rcases Nat.lt_or_ge place p.sessions.length with hlt | hge
  · exact .inl ((List.getElem?_append_left hlt).symm.trans ht)
  · have hnew := (List.getElem?_append_right hge).symm.trans ht
    rw [List.getElem?_singleton] at hnew
    split at hnew
    next hplace =>
      exact .inr ⟨Nat.le_antisymm (Nat.le_of_sub_eq_zero hplace) hge, (Option.some.inj hnew).symm⟩
    next => cases hnew

section Settle

variable (p : Pool) (place : Nat) (r : Session × Session.Answer)

theorem sessions_settle : (p.settle place r).1.sessions = p.sessions.set place r.1 := by
  rcases r with ⟨s, a⟩
  cases a <;> rfl

theorem nextId_settle : (p.settle place r).1.nextId = p.nextId := by
  rcases r with ⟨s, a⟩
  cases a <;> rfl

/-- After an answer, a session is the one that answered or one that was there. -/
theorem session_settle_cases {k : Nat} {t : Session}
    (ht : (p.settle place r).1.sessions[k]? = some t) :
    k ≠ place ∧ p.sessions[k]? = some t ∨ k = place ∧ t = r.1 := by
  rw [sessions_settle, List.getElem?_set] at ht
  split at ht
  next hk =>
    split at ht
    next => exact .inr ⟨hk.symm, (Option.some.inj ht).symm⟩
    next => cases ht
  next hk => exact .inl ⟨Ne.symm hk, ht⟩

/-- Snapshots that are kept stay where they are. -/
theorem snapshots_settle : p.snapshots <+: (p.settle place r).1.snapshots := by
  rcases r with ⟨s, a⟩
  cases a with
  | snapshot k => exact List.prefix_append _ _
  | _ => exact List.prefix_rfl

/-- The answer of a session can be told from that of the pool, and so it can with what is kept
later. -/
theorem ofSession?_settle {kept : List Snapshot} (h : (p.settle place r).1.snapshots <+: kept) :
    (p.settle place r).2.ofSession? kept = some r.2 := by
  rcases r with ⟨s, a⟩
  cases a with
  | snapshot k =>
    obtain ⟨later, rfl⟩ := h
    simp [settle, Answer.ofSession?]
  | _ => rfl

end Settle

/-! ### The session at a place -/

section Place

variable {p p' : Pool} {q : Request} {a : Option Answer} {place : Nat} {s : Session}

/-- A session that is there changes, and answers, as it does by itself. -/
theorem StepsTo.session_at (h : p.StepsTo q p' a) (hs : p.sessions[place]? = some s) :
    p'.sessions[place]? = some (s.run (q.to? place).toList).1 ∧
      ∀ kept, p'.snapshots <+: kept →
        (answerOf? place kept q a).toList = (s.run (q.to? place).toList).2 := by
  have hlt : place < p.sessions.length := (List.getElem?_eq_some_iff.mp hs).1
  cases h with
  | start settings locale => exact ⟨(List.getElem?_append_left hlt).trans hs, fun _ _ => rfl⟩
  | @session k t ht q =>
    by_cases hk : k = place
    · subst hk
      obtain rfl : s = t := Option.some.inj (hs.symm.trans ht)
      have hto : (Request.session k q).to? k = some q := if_pos rfl
      refine ⟨?_, fun kept hkept => ?_⟩
      · rw [hto, sessions_settle]
        exact List.getElem?_set_self hlt
      · rw [answerOf?, hto, Option.bind_some, Option.bind_some, ofSession?_settle _ _ _ hkept]
        rfl
    · have hto : (Request.session k q).to? place = none := if_neg hk
      simp only [answerOf?, hto, sessions_settle]
      exact ⟨(List.getElem?_set_ne hk).trans hs, fun _ _ => rfl⟩
  | @absent k hk q =>
    have hto : (Request.session k q).to? place = none := if_neg fun he => by simp [he, hs] at hk
    simp only [answerOf?, hto]
    exact ⟨hs, fun _ _ => rfl⟩
  | translateIn | compare => exact ⟨hs, fun _ _ => rfl⟩

/-- No request takes a snapshot away or changes one. -/
theorem StepsTo.prefix_snapshots (h : p.StepsTo q p' a) : p.snapshots <+: p'.snapshots := by
  cases h with
  | session => exact snapshots_settle _ _ _
  | _ => exact List.prefix_rfl

/-- Nothing is answered for a session that is not there. -/
theorem StepsTo.answer_absent (h : p.StepsTo q p' a) (hp : p.sessions.length ≤ place)
    (kept : List Snapshot) : answerOf? place kept q a = none := by
  cases h with
  | @session k t ht q =>
    have hne : k ≠ place := fun he => by
      have := (List.getElem?_eq_some_iff.mp ht).1
      omega
    rw [answerOf?, Request.to?, if_neg hne]
    rfl
  | @absent k hk q =>
    rw [answerOf?, Request.to?]
    split <;> rfl
  | start | translateIn | compare => rfl

/-- A session is added where one is started, and none is ever taken away. -/
theorem StepsTo.length_sessions (h : p.StepsTo q p' a) :
    p'.sessions.length = p.sessions.length + if q.isStart then 1 else 0 := by
  cases h with
  | start settings locale => exact List.length_append
  | session => rw [sessions_settle, List.length_set]; rfl
  | absent | translateIn | compare => rfl

end Place

/-! ### Runs -/

section Run

variable {p : Pool} {place : Nat} {s : Session}

/-- What every step keeps, every run keeps. -/
theorem run_induction (Keeps : Pool → Prop)
    (hstep : ∀ {p q p' a}, StepsTo p q p' a → Keeps p → Keeps p') (hp : Keeps p)
    (qs : List Request) : Keeps (p.run qs).1 := by
  induction qs generalizing p with
  | nil => exact hp
  | cons q qs ih =>
    rw [run_cons]
    exact ih (hstep (p.stepsTo_step q) hp)

theorem run_append (p : Pool) (qs rs : List Request) : p.run (qs ++ rs) =
    (((p.run qs).1.run rs).1, (p.run qs).2 ++ ((p.run qs).1.run rs).2) := by
  induction qs generalizing p with
  | nil => rfl
  | cons q qs ih => simp only [List.cons_append, run_cons, ih]

theorem length_run (p : Pool) (qs : List Request) : (p.run qs).2.length = qs.length := by
  induction qs generalizing p with
  | nil => rfl
  | cons q qs ih => simp only [run_cons, List.length_cons, ih]

theorem snapshots_run (p : Pool) (qs : List Request) :
    p.snapshots <+: (p.run qs).1.snapshots :=
  run_induction (p.snapshots <+: ·.snapshots) (fun h hp => hp.trans h.prefix_snapshots)
    List.prefix_rfl qs

theorem length_sessions_run (p : Pool) (qs : List Request) :
    (p.run qs).1.sessions.length = p.sessions.length + qs.countP Request.isStart := by
  induction qs generalizing p with
  | nil => rfl
  | cons q qs ih =>
    rw [run_cons, ih, (p.stepsTo_step q).length_sessions, List.countP_cons]
    omega

theorem asked_cons (place : Nat) (q : Request) (qs : List Request) :
    asked place (q :: qs) = (q.to? place).toList ++ asked place qs := by
  rw [asked, List.filterMap_cons]
  cases q.to? place <;> rfl

theorem answersOf_cons (place : Nat) (kept : List Snapshot) (q : Request) (qs : List Request)
    (a : Option Answer) (as : List (Option Answer)) : answersOf place kept (q :: qs) (a :: as) =
      (answerOf? place kept q a).toList ++ answersOf place kept qs as := by
  rw [answersOf, List.zip_cons_cons, List.filterMap_cons]
  cases answerOf? place kept q a <;> rfl

theorem answersOf_append (place : Nat) (kept : List Snapshot) {qs rs : List Request}
    {as bs : List (Option Answer)} (h : qs.length = as.length) :
    answersOf place kept (qs ++ rs) (as ++ bs) =
      answersOf place kept qs as ++ answersOf place kept rs bs := by
  simp only [answersOf, List.zip_append h, List.filterMap_append]

/-- **A session is not disturbed by others**: in any run it comes to be, and answers, as it does
when it is asked by itself. -/
theorem run_session (hs : p.sessions[place]? = some s) {qs : List Request} {kept : List Snapshot}
    (hkept : (p.run qs).1.snapshots <+: kept) :
    (p.run qs).1.sessions[place]? = some (s.run (asked place qs)).1 ∧
      answersOf place kept qs (p.run qs).2 = (s.run (asked place qs)).2 := by
  induction qs generalizing p s with
  | nil => exact ⟨hs, rfl⟩
  | cons q qs ih =>
    rw [run_cons] at hkept ⊢
    obtain ⟨hnext, hanswer⟩ := (p.stepsTo_step q).session_at hs
    obtain ⟨hsession, hanswers⟩ := ih hnext hkept
    rw [asked_cons, Session.run_append, answersOf_cons,
      hanswer kept ((snapshots_run _ qs).trans hkept), hanswers]
    exact ⟨hsession, rfl⟩

/-- A session that is never started answers nothing. -/
theorem answersOf_absent (kept : List Snapshot) {qs : List Request}
    (hp : (p.run qs).1.sessions.length ≤ place) : answersOf place kept qs (p.run qs).2 = [] := by
  induction qs generalizing p with
  | nil => rfl
  | cons q qs ih =>
    have hlen : p.sessions.length ≤ place := by
      rw [length_sessions_run] at hp
      omega
    rw [run_cons] at hp ⊢
    rw [answersOf_cons, (p.stepsTo_step q).answer_absent hlen, ih hp]
    rfl

end Run

/-! ### Identifiers -/

/-- Identifiers are those from `first` on, in the order in which sessions were started. -/
structure Numbered (first : Nat) (p : Pool) : Prop where
  nextId_eq : p.nextId = first + p.sessions.length
  id_eq : ∀ {place s}, p.sessions[place]? = some s → s.id = first + place

section Numbered

variable {first : Nat} {p p' : Pool}

theorem numbered_empty (first : Nat) : (empty first).Numbered first :=
  ⟨rfl, nofun⟩

theorem LocaleSource.id_start (locale : LocaleSource) (id : Nat) (settings : Settings) :
    (locale.start id settings).id = id := by
  cases locale <;> rfl

/-- A new session takes the next number. -/
theorem Numbered.start (h : p.Numbered first) (settings : Settings) (locale : LocaleSource) :
    (p.start settings locale).1.Numbered first where
  nextId_eq := by
    show p.nextId + 1 = first + (p.sessions ++ [_]).length
    rw [h.nextId_eq, List.length_append]
    rfl
  id_eq {place s} hs := by
    rcases session_start_cases hs with hs | ⟨rfl, rfl⟩
    · exact h.id_eq hs
    · rw [LocaleSource.id_start, h.nextId_eq]

/-- A session that has answered keeps its number. -/
theorem Numbered.settle (h : p.Numbered first) {place : Nat} {s : Session}
    (hs : p.sessions[place]? = some s) (q : Session.Request) :
    (p.settle place (s.perform q)).1.Numbered first where
  nextId_eq := by
    rw [nextId_settle, sessions_settle, List.length_set]
    exact h.nextId_eq
  id_eq {k t} ht := by
    rcases session_settle_cases _ _ _ ht with ⟨-, ht⟩ | ⟨rfl, rfl⟩
    · exact h.id_eq ht
    · rw [Session.id_perform, h.id_eq hs]

theorem StepsTo.numbered {q : Request} {a : Option Answer} (h : p.StepsTo q p' a)
    (hp : p.Numbered first) : p'.Numbered first := by
  cases h with
  | start settings locale => exact hp.start settings locale
  | session hs q => exact hp.settle hs q
  | absent | translateIn | compare => exact hp

/-- Numbers follow one another through a whole run. -/
theorem numbered_run (hp : p.Numbered first) (qs : List Request) : (p.run qs).1.Numbered first :=
  run_induction (Numbered first) StepsTo.numbered hp qs

/-- The identifiers of all sessions, in the order of their places. -/
theorem Numbered.ids_eq (h : p.Numbered first) :
    p.sessions.map Session.id = List.range' first p.sessions.length := by
  refine List.ext_getElem? fun place => ?_
  rw [List.getElem?_map]
  cases hs : p.sessions[place]? with
  | none =>
    rw [List.getElem?_eq_none_iff] at hs
    rw [List.getElem?_eq_none (by simpa using hs)]
    rfl
  | some s =>
    have hlt : place < p.sessions.length := (List.getElem?_eq_some_iff.mp hs).1
    rw [List.getElem?_range' hlt, Option.map_some, h.id_eq hs, Nat.one_mul]

/-- The identifier of a session is as far from that of the first as its place. -/
theorem Numbered.start_answer (h : p.Numbered first) (settings : Settings)
    (locale : LocaleSource) : (p.start settings locale).2 =
      .started p.sessions.length p.sessions.length := by
  have hlt : 0 < (p.start settings locale).1.sessions.length := by
    rw [(StepsTo.start settings locale).length_sessions]
    exact Nat.succ_pos _
  -- the first session is there at the latest now
  have hfirst := (h.start settings locale).id_eq (List.getElem?_eq_getElem hlt)
  show Answer.started _ (p.nextId -
    ((p.start settings locale).1.sessions.head?.map Session.id).getD p.nextId) = _
  rw [List.head?_eq_getElem?, List.getElem?_eq_getElem hlt, Option.map_some, Option.getD_some,
    hfirst, h.nextId_eq, Nat.add_zero, Nat.add_sub_cancel_left]

end Numbered

end Pool

end TerminalText
