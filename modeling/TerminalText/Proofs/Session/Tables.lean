import TerminalText.Proofs.Session.Pool

/-!
# Tables that are told apart

Whoever holds tables, a session or a snapshot, may ask whether they are the very ones that another
holds.  The answer goes by the session that they were made for and by how many were made for it
before (`Snapshot.Same`), and `Identified` is what makes it right: within a pool, tables that are
told to be the same contain the same.  It is kept by every request, for what a request makes nobody
held before (`StepsTo.made_or_kept`, `tables_run`).

A snapshot stays as it was taken, whatever is asked later (`snapshot_run`).  Only the session that
it was taken from has its very tables, and only until settings are applied there, be they the same
ones (`holds_run_iff`).

`run_apart` joins all that is known of sessions side by side, for any row of requests.
-/

namespace TerminalText

/-- The very same tables: made for one session, after as many others. -/
def Snapshot.Same (k l : Snapshot) : Prop := k.session = l.session ∧ k.generation = l.generation

theorem Snapshot.Same.symm {k l : Snapshot} (h : k.Same l) : l.Same k := ⟨h.1.symm, h.2.symm⟩

namespace Session

theorem snapshot_perform (s : Session) {q : Request} (h : q.isApply = false) :
    (s.perform q).1.snapshot = s.snapshot := by
  cases q with
  | apply t => cases h
  | _ => rfl

end Session

namespace Pool

/-! ### The tables that are held -/

/-- All the tables that are held, by the sessions and in snapshots. -/
def tables (p : Pool) : List Snapshot := p.sessions.map Session.snapshot ++ p.snapshots

/-- The request makes tables for the session at a place. -/
def Request.Makes (p : Pool) (place : Nat) : Request → Prop
  | .start _ _   => place = p.sessions.length
  | .session k q => k = place ∧ q.isApply = true
  | _            => False

/-- Tables are told apart.  Each snapshot is of a session that is there, and shows no later tables
than this has now; and what is held under one identity is one and the same. -/
structure Identified (first : Nat) (p : Pool) : Prop extends p.Numbered first where
  taken : ∀ k ∈ p.snapshots, ∃ s ∈ p.sessions, k.session = s.id ∧ k.generation ≤ s.generation
  eq_of_same : ∀ k ∈ p.tables, ∀ l ∈ p.tables, k.Same l → k = l

section Identified

variable {first : Nat} {p p' : Pool} {q : Request} {a : Option Answer} {k : Snapshot}
  {place : Nat} {s t : Session}

theorem identified_empty (first : Nat) : (empty first).Identified first where
  toNumbered := numbered_empty first
  taken      := nofun
  eq_of_same := nofun

theorem snapshot_mem_tables (h : s ∈ p.sessions) : s.snapshot ∈ p.tables :=
  List.mem_append_left _ (List.mem_map_of_mem h)

/-- No two sessions have one identifier. -/
theorem Numbered.eq_of_id (h : p.Numbered first) (hs : s ∈ p.sessions) (ht : t ∈ p.sessions)
    (hid : s.id = t.id) : s = t := by
  obtain ⟨i, hi⟩ := List.getElem?_of_mem hs
  obtain ⟨j, hj⟩ := List.getElem?_of_mem ht
  obtain rfl : i = j := by
    rw [h.id_eq hi, h.id_eq hj] at hid
    exact Nat.add_left_cancel hid
  exact Option.some.inj (hi.symm.trans hj)

/-- All identifiers given out are below the next. -/
theorem Numbered.id_lt (h : p.Numbered first) (hs : s ∈ p.sessions) : s.id < p.nextId := by
  obtain ⟨i, hi⟩ := List.getElem?_of_mem hs
  rw [h.id_eq hi, h.nextId_eq]
  exact Nat.add_lt_add_left (List.getElem?_eq_some_iff.mp hi).1 first

/-- Whatever is held was made for a session that is there. -/
theorem Identified.owner (h : p.Identified first) (hk : k ∈ p.tables) :
    ∃ s ∈ p.sessions, k.session = s.id ∧ k.generation ≤ s.generation := by
  rcases List.mem_append.mp hk with hk | hk
  · obtain ⟨s, hs, rfl⟩ := List.mem_map.mp hk
    exact ⟨s, hs, rfl, Nat.le_refl _⟩
  · exact h.taken k hk

/-- Nobody holds what a session of the next number begins with. -/
theorem Identified.fresh_of_start (h : p.Identified first) (ht : t.id = p.nextId)
    (hk : k ∈ p.tables) : ¬ t.Holds k := by
  rintro ⟨hid, -⟩
  obtain ⟨s, hs, hown, -⟩ := h.owner hk
  exact Nat.ne_of_lt (h.id_lt hs) (hown.symm.trans (hid.trans ht))

/-- Nobody holds what is made for a session when settings are applied there. -/
theorem Identified.fresh_of_apply (h : p.Identified first) (hs : s ∈ p.sessions)
    (hid : t.id = s.id) (hgeneration : t.generation = s.generation + 1) (hk : k ∈ p.tables) :
    ¬ t.Holds k := by
  rintro ⟨hsession, hsame⟩
  obtain ⟨u, hu, hown, hle⟩ := h.owner hk
  obtain rfl : u = s := h.eq_of_id hu hs (hown.symm.trans (hsession.trans hid))
  omega

/-! ### One step -/

/-- What a request makes, nobody held before; and where it makes nothing, a session keeps what it
had. -/
theorem StepsTo.made_or_kept (h : p.StepsTo q p' a) (hp : p.Identified first)
    (ht : p'.sessions[place]? = some t) :
    (q.Makes p place → ∀ k ∈ p.tables, ¬ t.Holds k) ∧
      (¬ q.Makes p place → ∃ s, p.sessions[place]? = some s ∧ t.snapshot = s.snapshot) := by
  cases h with
  | start settings locale =>
    rcases session_start_cases ht with hold | ⟨rfl, rfl⟩
    · have hlt := (List.getElem?_eq_some_iff.mp hold).1
      exact ⟨fun hnew => absurd hnew (Nat.ne_of_lt hlt), fun _ => ⟨t, hold, rfl⟩⟩
    · exact ⟨fun _ k => hp.fresh_of_start (locale.id_start _ _), fun hne => absurd rfl hne⟩
  | @session place' s hs q =>
    rcases session_settle_cases _ _ _ ht with ⟨hne, hold⟩ | ⟨rfl, rfl⟩
    · exact ⟨fun hmakes => absurd hmakes.1.symm hne, fun _ => ⟨t, hold, rfl⟩⟩
    · refine ⟨fun ⟨_, hq⟩ k => ?_, fun hq => ⟨s, hs, ?_⟩⟩
      · refine hp.fresh_of_apply (List.mem_of_getElem? hs) (s.id_perform q) ?_
        have hgeneration := s.generation_run [q]
        rwa [List.countP_singleton, if_pos hq] at hgeneration
      · exact s.snapshot_perform (Bool.eq_false_iff.mpr fun happly => hq ⟨rfl, happly⟩)
  | @absent place' hs q =>
    refine ⟨fun ⟨hplace, _⟩ => ?_, fun _ => ⟨t, ht, rfl⟩⟩
    rw [hplace, ht] at hs
    cases hs
  | translateIn | compare => exact ⟨False.elim, fun _ => ⟨t, ht, rfl⟩⟩

/-- A snapshot is of tables that were held when it was taken. -/
theorem StepsTo.mem_tables_of_kept (h : p.StepsTo q p' a) (hk : k ∈ p'.snapshots) :
    k ∈ p.tables := by
  cases h with
  | @session place' s hs q =>
    cases q with
    | snapshot =>
      rcases List.mem_append.mp hk with hk | hk
      · exact List.mem_append_right _ hk
      · rw [List.mem_singleton.mp hk]
        exact snapshot_mem_tables (List.mem_of_getElem? hs)
    | _ => exact List.mem_append_right _ hk
  | _ => exact List.mem_append_right _ hk

/-- What is held after a request was held before, or is what a session has that nobody held. -/
theorem StepsTo.mem_tables (h : p.StepsTo q p' a) (hp : p.Identified first) (hk : k ∈ p'.tables) :
    k ∈ p.tables ∨ ∃ t ∈ p'.sessions, t.snapshot = k ∧ ∀ l ∈ p.tables, ¬ t.Holds l := by
  rcases List.mem_append.mp hk with hk | hk
  · obtain ⟨t, ht, rfl⟩ := List.mem_map.mp hk
    obtain ⟨place, hplace⟩ := List.getElem?_of_mem ht
    obtain ⟨hmade, hkept⟩ := h.made_or_kept hp hplace
    by_cases hq : q.Makes p place
    · exact .inr ⟨t, ht, rfl, hmade hq⟩
    · obtain ⟨s, hs, hsame⟩ := hkept hq
      exact .inl (hsame ▸ snapshot_mem_tables (List.mem_of_getElem? hs))
  · exact .inl (h.mem_tables_of_kept hk)

/-- A request leaves tables told apart. -/
theorem StepsTo.identified (h : p.StepsTo q p' a) (hp : p.Identified first) :
    p'.Identified first where
  toNumbered := h.numbered hp.toNumbered
  taken k hk := by
    obtain ⟨s, hs, hid, hle⟩ := hp.owner (h.mem_tables_of_kept hk)
    obtain ⟨place, hplace⟩ := List.getElem?_of_mem hs
    have hlater := (h.session_at hplace).1
    refine ⟨_, List.mem_of_getElem? hlater, ?_, ?_⟩
    · rw [hid, hp.id_eq hplace, (h.numbered hp.toNumbered).id_eq hlater]
    · rw [Session.generation_run]
      exact Nat.le_add_right_of_le hle
  eq_of_same k hk l hl hsame := by
    rcases h.mem_tables hp hk with hk | ⟨t, ht, rfl, hfresh⟩
    · rcases h.mem_tables hp hl with hl | ⟨u, _, rfl, hfresh⟩
      · exact hp.eq_of_same k hk l hl hsame
      · exact absurd hsame (hfresh k hk)
    · rcases h.mem_tables hp hl with hl | ⟨u, hu, rfl, _⟩
      · exact absurd hsame.symm (hfresh l hl)
      · rw [(h.numbered hp.toNumbered).eq_of_id ht hu hsame.1]

/-- Tables are told apart through a whole run. -/
theorem identified_run (hp : p.Identified first) (qs : List Request) :
    (p.run qs).1.Identified first :=
  run_induction (Identified first) StepsTo.identified hp qs

/-- Whoever is told to have the very tables of a snapshot is told that they are equal. -/
theorem Identified.equal_of_same (hp : p.Identified first) {snapshot : Nat} {equal : Bool}
    (h : (p.step (.compare place snapshot)).2 = some (.compared true equal)) : equal = true := by
  rw [step, perform] at h
  cases hs : p.sessions[place]? with
  | none => simp [hs] at h
  | some s =>
    cases hk : p.snapshots[snapshot]? with
    | none => simp [hs, hk] at h
    | some k =>
      simp only [hs, hk, Option.some.injEq, Answer.compared.injEq, decide_eq_true_eq] at h
      obtain ⟨hholds, hequal⟩ := h
      have hheld : k ∈ p.tables := List.mem_append_right _ (List.mem_of_getElem? hk)
      have hown := snapshot_mem_tables (List.mem_of_getElem? hs)
      rw [← hequal, hp.eq_of_same k hheld s.snapshot hown hholds]
      exact decide_eq_true rfl

/-- **Tables are told apart by whose they are and when they were made.**  After any row of requests,
tables that are the same by this contain the same, so that a comparison that finds them the very
same finds them equal.  Whatever is asked next, where it makes tables for a session, neither another
session nor a snapshot had them before; where it does not, the session keeps those it had. -/
theorem tables_run (firstId : Nat) (row : List Request) (q : Request) :
    let p := ((empty firstId).run row).1
    (∀ k ∈ p.tables, ∀ l ∈ p.tables, k.Same l → k = l) ∧
    (∀ place t, (p.step q).1.sessions[place]? = some t →
      (q.Makes p place → ∀ k ∈ p.tables, ¬ t.Holds k) ∧
      (¬ q.Makes p place → ∃ s, p.sessions[place]? = some s ∧ t.snapshot = s.snapshot)) ∧
    ∀ place k equal, (p.step (.compare place k)).2 = some (.compared true equal) →
      equal = true := by
  intro p
  have hp : p.Identified firstId := identified_run (identified_empty firstId) row
  exact ⟨hp.eq_of_same, fun place t ht => (p.stepsTo_step q).made_or_kept hp ht,
    fun place k equal => hp.equal_of_same⟩

end Identified

/-! ### Snapshots -/

section Snapshots

variable {first : Nat} {p : Pool} {place k : Nat} {s : Session}

/-- A snapshot is kept as it was taken. -/
theorem snapshot_run {t : Snapshot} (hk : p.snapshots[k]? = some t) (qs : List Request) :
    (p.run qs).1.snapshots[k]? = some t := by
  obtain ⟨later, hlater⟩ := snapshots_run p qs
  rw [← hlater, List.getElem?_append_left (List.getElem?_eq_some_iff.mp hk).1]
  exact hk

/-- **The very tables of a session** at some time are those that it has later, until settings are
applied to it, and no other session comes to have them. -/
theorem holds_run_iff (hp : p.Numbered first) (hs : p.sessions[place]? = some s)
    {qs : List Request} {other : Nat} {t : Session}
    (ht : (p.run qs).1.sessions[other]? = some t) :
    t.Holds s.snapshot ↔ other = place ∧ ∀ q ∈ asked place qs, q.isApply = false := by
  have hid : s.id = t.id ↔ other = place := by
    rw [hp.id_eq hs, (numbered_run hp qs).id_eq ht]
    omega
  rw [Session.Holds, Session.snapshot, hid]
  refine and_congr_right fun hplace => ?_
  subst hplace
  obtain rfl : t = _ := Option.some.inj (ht.symm.trans (run_session hs List.prefix_rfl).1)
  exact Session.generation_run_eq_iff s _

/-- A snapshot goes on showing what its session showed when it was taken. -/
theorem translateIn_run (hk : p.snapshots[k]? = some s.snapshot) (qs : List Request) (b : UInt8)
    (slot : Slot) : (p.run qs).1.perform (.translateIn k b slot) = some ((p.run qs).1,
      .shown (s.translation.translate b slot) (s.translation.isControl b)) := by
  simp only [perform, snapshot_run hk]
  rfl

/-- A later session is told to have the tables of a snapshot if it is the one it was taken from and
no settings were applied there. -/
theorem compare_run (hp : p.Numbered first) (hs : p.sessions[place]? = some s)
    (hk : p.snapshots[k]? = some s.snapshot) {qs : List Request} {other : Nat} {t : Session}
    (ht : (p.run qs).1.sessions[other]? = some t) :
    (p.run qs).1.perform (.compare other k) = some ((p.run qs).1,
      .compared (other = place ∧ ∀ q ∈ asked place qs, q.isApply = false)
        (s.translation = t.translation)) := by
  simp only [perform, ht, snapshot_run hk]
  rw [decide_eq_decide.mpr (holds_run_iff hp hs ht)]
  rfl

/-- Settings applied again make other tables with the same contents. -/
theorem compare_run_inForce (hp : p.Numbered first) (hs : p.sessions[place]? = some s)
    (hk : p.snapshots[k]? = some s.snapshot) {qs : List Request}
    (h : Session.inForce s.settings (asked place qs) = s.settings) :
    (p.run qs).1.perform (.compare place k) = some ((p.run qs).1,
      .compared (∀ q ∈ asked place qs, q.isApply = false) true) := by
  have ht := (run_session hs (List.prefix_refl (p.run qs).1.snapshots)).1
  rw [compare_run hp hs hk ht]
  simp only [Session.translation_run h, true_and, decide_true]

theorem step_snapshot (hs : p.sessions[place]? = some s) : p.step (.session place .snapshot) =
    ({ p with sessions := p.sessions.set place s, snapshots := p.snapshots ++ [s.snapshot] },
      some (.kept p.snapshots.length)) := by
  simp only [step, perform, hs]
  rfl

/-- Taking a snapshot leaves the session as it is. -/
theorem step_snapshot_taken (hs : p.sessions[place]? = some s) :
    (p.step (.session place .snapshot)).1.sessions[place]? = some s ∧
      (p.step (.session place .snapshot)).1.snapshots[p.snapshots.length]? = some s.snapshot := by
  rw [step_snapshot hs]
  exact ⟨List.getElem?_set_self (List.getElem?_eq_some_iff.mp hs).1, List.getElem?_concat_length⟩

end Snapshots

/-! ### Any row of requests -/

/-- The answer to a request in the middle of a row. -/
theorem answer_middle (p : Pool) (before : List Request) (q : Request) (after : List Request) :
    (p.run (before ++ q :: after)).2[before.length]? = some ((p.run before).1.step q).2 := by
  rw [run_append, run_cons, ← length_run p before, List.getElem?_append_right (Nat.le_refl _),
    Nat.sub_self]
  rfl

/-- What a new session answers from its start on, it answers by itself. -/
theorem answersOf_start {first : Nat} {p : Pool} (hp : p.Numbered first) (settings : Settings)
    (locale : LocaleSource) {qs : List Request} {kept : List Snapshot}
    (hkept : (p.run (.start settings locale :: qs)).1.snapshots <+: kept) (aloneId : Nat) :
    let place := p.sessions.length
    answersOf place kept (.start settings locale :: qs) (p.run (.start settings locale :: qs)).2 =
      ((locale.start aloneId settings).run (asked place qs)).2.map
        (Session.Answer.withId (first + place)) := by
  intro place
  rw [run_cons] at hkept ⊢
  have hnew : (p.step (.start settings locale)).1.sessions[place]? =
      some ((locale.start aloneId settings).withId (first + place)) := by
    rw [LocaleSource.start_withId, ← hp.nextId_eq]
    exact List.getElem?_concat_length
  rw [answersOf_cons, (run_session hnew hkept).2, Session.run_withId]
  rfl

/-- **Sessions do not interfere, and snapshots stay as they are.**  Take any row of requests.

* The identifiers of the sessions follow one another, from the first on.
* Where a session is started, it is answered how far its identifier is from that of the first; and
  all that the session answers in the row is what it answers when it is asked alone, under whatever
  identifier.
* A snapshot that is taken in the row shows to the end what the session showed then.  A session has
  its very tables exactly if the snapshot was taken from it and no settings were applied to it
  since; and where the settings of that session are again what they were, its tables are equal to
  those of the snapshot, whether or not they are the same. -/
theorem run_apart (firstId : Nat) (row : List Request) :
    let r := (empty firstId).run row
    r.1.sessions.map Session.id = List.range' firstId (row.countP Request.isStart) ∧
    (∀ before settings locale after, row = before ++ .start settings locale :: after →
      let place := before.countP Request.isStart
      r.2[before.length]? = some (some (.started place place)) ∧
      ∀ aloneId, answersOf place r.1.snapshots row r.2 =
        ((locale.start aloneId settings).run (asked place after)).2.map
          (Session.Answer.withId (firstId + place))) ∧
    (∀ before place after s, row = before ++ .session place .snapshot :: after →
      ((empty firstId).run before).1.sessions[place]? = some s →
      let k := ((empty firstId).run before).1.snapshots.length
      let unapplied := ∀ q ∈ asked place after, q.isApply = false
      r.2[before.length]? = some (some (.kept k)) ∧
      (∀ b slot, r.1.perform (.translateIn k b slot) =
        some (r.1, .shown (s.translation.translate b slot) (s.translation.isControl b))) ∧
      (∀ other t, r.1.sessions[other]? = some t → r.1.perform (.compare other k) =
        some (r.1, .compared (other = place ∧ unapplied) (s.translation = t.translation))) ∧
      (Session.inForce s.settings (asked place after) = s.settings →
        r.1.perform (.compare place k) = some (r.1, .compared unapplied true))) := by
  intro r
  have hnumbered (qs : List Request) : ((empty firstId).run qs).1.Numbered firstId :=
    numbered_run (numbered_empty firstId) qs
  refine ⟨?_, ?_, ?_⟩
  · rw [(hnumbered row).ids_eq, length_sessions_run]
    exact congrArg (List.range' firstId ·) (Nat.zero_add _)
  · rintro before settings locale after rfl place
    have hplace : ((empty firstId).run before).1.sessions.length = place := by
      rw [length_sessions_run]
      exact Nat.zero_add _
    refine ⟨?_, fun aloneId => ?_⟩
    · rw [← hplace]
      exact (answer_middle _ _ _ _).trans (congrArg (some ∘ some)
        ((hnumbered before).start_answer settings locale))
    · have hstart := answersOf_start (hnumbered before) settings locale
        (List.prefix_refl (((empty firstId).run before).1.run
          (.start settings locale :: after)).1.snapshots) aloneId
      rw [hplace] at hstart
      simp only [r, run_append]
      rw [answersOf_append _ _ (length_run _ before).symm,
        answersOf_absent _ (Nat.le_of_eq hplace), List.nil_append, hstart]
  · rintro before place after s rfl hs k unapplied
    have hr : r.1 = ((((empty firstId).run before).1.step (.session place .snapshot)).1.run
        after).1 := by
      simp only [r, run_append, run_cons]
    have hkept : r.2[before.length]? = some (some (.kept k)) :=
      (answer_middle _ _ _ _).trans (by rw [step_snapshot hs])
    rw [hr]
    -- the pool right after the snapshot was taken
    have hp := (((empty firstId).run before).1.stepsTo_step (.session place .snapshot)).numbered
      (hnumbered before)
    obtain ⟨hs, hk⟩ := step_snapshot_taken hs
    exact ⟨hkept, translateIn_run hk after, fun other t ht => compare_run hp hs hk ht,
      fun hsame => compare_run_inForce hp hs hk hsame⟩

/-- Three bytes that would be one sequence come to two sessions and about an application of the
settings that are in force. -/
theorem run_apart_interleaved :
    let latin : Settings := { lineCodepage := "ISO-8859-1" }
    let before : List Request :=
      [.start {} (.known true), .session 0 (.feed [0xE6]), .start latin (.known false)]
    let after : List Request :=
      [.session 1 (.feed [0x97]), .session 0 (.apply {}), .session 0 (.feed [0xA5])]
    let s := ((Session.start 7 {} true).perform (.feed [0xE6])).1
    let row := before ++ .session 0 .snapshot :: after
    let r := (empty 7).run row
    (((empty 7).run before).1.sessions[0]? = some s ∧
        Session.inForce s.settings (asked 0 after) = s.settings) ∧
      r.2[2]? = some (some (.started 1 1)) ∧
      answersOf 1 r.1.snapshots row r.2 = [.points [0x97]] ∧
      r.1.perform (.compare 0 0) = some (r.1, .compared false true) := by
  intro latin before after s row r
  have hs : ((empty 7).run before).1.sessions[0]? = some s := rfl
  have hsame : Session.inForce s.settings (asked 0 after) = s.settings := rfl
  obtain ⟨-, hstart, hsnapshot⟩ := run_apart 7 row
  obtain ⟨hstarted, halone⟩ := hstart (before.take 2) latin (.known false)
    (.session 0 .snapshot :: after) rfl
  obtain ⟨-, -, -, hcompare⟩ := hsnapshot before 0 after s rfl hs
  exact ⟨⟨hs, hsame⟩, hstarted, (halone 0).trans (by decide +kernel), hcompare hsame⟩

end Pool

end TerminalText
