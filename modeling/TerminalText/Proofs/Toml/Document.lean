import TerminalText.Toml.Document

/-!
# Documents of one table

The plainest document is a header and below it lines of one entry each, every name of which is bare.
`Statement.readLine_header` and `Statement.readLine_entry` read such lines, and
`Document.build_header` makes the table: entries of different names all stand in it, in the order of
their lines.  If a name comes twice there is no table at all (`Document.build_repeated`), nor if the
header does (`Document.build_header_repeated`).
-/

namespace TerminalText.Toml

/-! ### Bare names -/

/-- A name that needs no quotes. -/
def IsBareName (k : List Char) : Prop := k ≠ [] ∧ k.all Key.isBare = true

instance (k : List Char) : Decidable (IsBareName k) := inferInstanceAs (Decidable (_ ∧ _))

variable {k x : List Char}

theorem IsBareName.exists_cons (hk : IsBareName k) :
    ∃ c r, k = c :: r ∧ Key.isBare c = true ∧ ∀ a ∈ r, Key.isBare a = true := by
  obtain ⟨hne, hall⟩ := hk
  obtain ⟨c, r, rfl⟩ := List.exists_cons_of_ne_nil hne
  rw [List.all_eq_true] at hall
  exact ⟨c, r, rfl, hall c (.head _), fun a ha => hall a (.tail _ ha)⟩

/-- A character that may stand in a bare name differs from one that may not. -/
theorem ne_of_isBare {c d : Char} (hc : Key.isBare c = true) (hd : Key.isBare d = false) :
    c ≠ d := by
  rintro rfl
  rw [hc] at hd
  cases hd

theorem isBlank_of_isBare {c : Char} (hc : Key.isBare c = true) : isBlank c = false := by
  have h₁ := ne_of_isBare hc (d := ' ') (by decide)
  have h₂ := ne_of_isBare hc (d := '\t') (by decide)
  simp [isBlank, h₁, h₂]

theorem skipBlanks_of_not_blank {c : Char} (hc : isBlank c = false) (r : List Char) :
    skipBlanks (c :: r) = c :: r := by
  rw [skipBlanks, List.dropWhile_cons, hc]
  rfl

theorem skipBlanks_bare (hk : IsBareName k) (x : List Char) : skipBlanks (k ++ x) = k ++ x := by
  obtain ⟨c, r, rfl, hc, _⟩ := hk.exists_cons
  exact skipBlanks_of_not_blank (isBlank_of_isBare hc) _

/-- A bare name is read to its end. -/
theorem Key.readName_bare (hk : IsBareName k) {d : Char} (hd : Key.isBare d = false) :
    Key.readName (k ++ d :: x) = some (k, d :: x) := by
  obtain ⟨c, r, rfl, hc, hr⟩ := hk.exists_cons
  rw [List.cons_append, Key.readName, if_pos hc, List.takeWhile_append_of_pos hr,
    List.dropWhile_append_of_pos hr, List.takeWhile_cons, List.dropWhile_cons, hd]
  · simp
  · exact ne_of_isBare hc (by decide)
  · exact ne_of_isBare hc (by decide)

/-- A bare name alone is a key. -/
theorem Key.read_bare (hk : IsBareName k) {d : Char} (hd : Key.isBare d = false)
    (hx : ∀ r, skipBlanks (d :: x) ≠ '.' :: r) :
    Key.read (k ++ d :: x) = some (⟨[], String.ofList k⟩, skipBlanks (d :: x)) := by
  have hnames : Key.readNames (k ++ d :: x) = some ([String.ofList k], skipBlanks (d :: x)) := by
    rw [Key.readNames, skipBlanks_bare hk]
    split
    next h => cases (Key.readName_bare hk hd).symm.trans h
    next h =>
      cases (Key.readName_bare hk hd).symm.trans h
      split
      next h' => exact absurd h' (hx _)
      next    => rfl
  rw [Key.read, hnames]
  rfl

/-! ### Values -/

/-- A text is a value with its quotes. -/
theorem Value.read_text {s t r : List Char} (h : Text.read s = some (t, r)) :
    Value.reader.read s = some (.text (String.ofList t), r) := by
  have hstart : (∃ x, s = '"' :: x) ∨ ∃ x, s = '\'' :: x := by
    unfold Text.read at h
    split at h
    case h_1 | h_2 => exact .inl ⟨_, rfl⟩
    case h_3 | h_4 => exact .inr ⟨_, rfl⟩
    case h_5 => cases h
  rcases hstart with ⟨x, rfl⟩ | ⟨x, rfl⟩
  · exact (congrArg (Option.map _) h).trans rfl
  · exact (congrArg (Option.map _) h).trans rfl

/-- A value does not start with a blank. -/
theorem Value.skipBlanks_of_read {s r : List Char} {v : Value}
    (h : Value.reader.read s = some (v, r)) : skipBlanks s = s := by
  cases s with
  | nil => rfl
  | cons c s =>
    by_cases hc : isBlank c = true
    · exfalso
      have hc' : c = ' ' ∨ c = '\t' := by simpa [isBlank] using hc
      rcases hc' with rfl | rfl <;> cases h
    · exact skipBlanks_of_not_blank (by simpa using hc) s

/-! ### Lines -/

/-- A line that begins with neither a comment nor a newline is read as a statement. -/
theorem Statement.readLine_of_ne {c : Char} {s : List Char} (hb : isBlank c = false) (h₁ : c ≠ '#')
    (h₂ : c ≠ '\n') (h₃ : c ≠ '\r') : Statement.readLine (c :: s) =
      (Statement.read (c :: s)).bind fun q => (finishLine? q.2).map fun r => (some q.1, r) := by
  rw [Statement.readLine, skipBlanks_of_not_blank hb]
  split
  next h => cases h
  next h => exact absurd (List.cons.inj h).1 h₁
  next h => exact absurd (List.cons.inj h).1 h₂
  next h => exact absurd (List.cons.inj h).1 h₃
  next   => rfl

/-- A bare name and a value are read as the entry they make. -/
theorem Value.readPair_bare {r : List Char} {v : Value} (hk : IsBareName k)
    (hv : Value.reader.read x = some (v, r)) :
    Value.readPair Value.reader (k ++ ' ' :: '=' :: ' ' :: x) =
      some ((⟨[], String.ofList k⟩, v), r) := by
  have hkey : Key.read (k ++ ' ' :: '=' :: ' ' :: x) =
      some (⟨[], String.ofList k⟩, '=' :: ' ' :: x) :=
    Key.read_bare hk (by decide) fun r h => by cases h
  have hblank : skipBlanks (' ' :: x) = x := Value.skipBlanks_of_read hv
  rw [Value.readPair, hkey]
  simp only [hblank, hv, Option.map_some]

/-- **A line with an entry**, under a bare name. -/
theorem Statement.readLine_entry {w r : List Char} {v : Value} (hk : IsBareName k)
    (hv : Value.reader.read (w ++ '\n' :: r) = some (v, '\n' :: r)) :
    Statement.readLine (k ++ ' ' :: '=' :: ' ' :: (w ++ '\n' :: r)) =
      some (some (.entry ⟨[], String.ofList k⟩ v), r) := by
  have hpair := Value.readPair_bare hk hv
  obtain ⟨c, s, rfl, hc, _⟩ := hk.exists_cons
  rw [List.cons_append] at hpair ⊢
  have hread : Statement.read (c :: (s ++ ' ' :: '=' :: ' ' :: (w ++ '\n' :: r))) =
      some (.entry ⟨[], String.ofList (c :: s)⟩ v, '\n' :: r) := by
    rw [Statement.read]
    · exact congrArg (Option.map _) hpair
    · exact fun r h => absurd (List.cons.inj h).1 (ne_of_isBare hc (by decide))
    · exact fun r h => absurd (List.cons.inj h).1 (ne_of_isBare hc (by decide))
  rw [Statement.readLine_of_ne (isBlank_of_isBare hc) (ne_of_isBare hc (by decide))
    (ne_of_isBare hc (by decide)) (ne_of_isBare hc (by decide)), hread]
  rfl

/-- **A line with the header** of a table with a bare name. -/
theorem Statement.readLine_header (hk : IsBareName k) (r : List Char) :
    Statement.readLine ('[' :: (k ++ ']' :: '\n' :: r)) =
      some (some (.table ⟨[], String.ofList k⟩), r) := by
  have hkey : Key.read (k ++ ']' :: '\n' :: r) =
      some (⟨[], String.ofList k⟩, ']' :: '\n' :: r) :=
    Key.read_bare hk (by decide) fun r h => by cases h
  obtain ⟨c, s, rfl, hc, _⟩ := hk.exists_cons
  have hread : Statement.read ('[' :: (c :: s ++ ']' :: '\n' :: r)) =
      some (.table ⟨[], String.ofList (c :: s)⟩, '\n' :: r) := by
    rw [Statement.read, hkey]
    · rfl
    · intro r h
      have hb : c = '[' := (List.cons.inj h).1
      exact ne_of_isBare hc (by decide) hb
  rw [Statement.readLine_of_ne (by decide) (by decide) (by decide) (by decide), hread]
  rfl

theorem Statement.readLines_nil : Statement.readLines [] = some [] := by
  rw [Statement.readLines]
  rfl

theorem Statement.readLines_cons {s r : List Char} {st : Option Statement} (hs : s ≠ [])
    (h : Statement.readLine s = some (st, r)) :
    Statement.readLines s = (Statement.readLines r).map (st.toList ++ ·) := by
  rw [Statement.readLines, dif_neg hs]
  split
  next h' => cases h.symm.trans h'
  next h' =>
    cases h.symm.trans h'
    rfl

/-! ### Building -/

theorem Table.get?_eq_none {t : Table} {key : String} (h : key ∉ t.map Prod.fst) :
    t.get? key = none := by
  induction t with
  | nil => rfl
  | cons e t ih =>
    rw [List.map_cons, List.mem_cons, not_or] at h
    rw [Table.get?, if_neg (Ne.symm h.1)]
    exact ih h.2

/-- There is a value under each key that a table has. -/
theorem Table.exists_of_mem {t : Table} {key : String} (h : key ∈ t.map Prod.fst) :
    ∃ v, t.get? key = some v := by
  induction t with
  | nil => cases h
  | cons e t ih =>
    rw [Table.get?]
    split
    · exact ⟨_, rfl⟩
    next hne => exact ih (List.mem_of_ne_of_mem (Ne.symm hne) h)

/-- Where names differ, an entry is found by its name. -/
theorem Table.get?_of_mem {t : Table} {key : String} {v : Value} (h : (t.map Prod.fst).Nodup)
    (hmem : (key, v) ∈ t) : t.get? key = some v := by
  induction t with
  | nil => cases hmem
  | cons e t ih =>
    obtain ⟨hfirst, hrest⟩ := List.nodup_cons.mp h
    rcases List.mem_cons.mp hmem with rfl | hmem
    · exact if_pos rfl
    · have hne : e.1 ≠ key := fun he => hfirst (he ▸ List.mem_map_of_mem hmem)
      rw [Table.get?, if_neg hne]
      exact ih hrest hmem

/-- A document in which a header was stated, and some entries after it. -/
def Document.headed (name : String) (entries : Table) : Document :=
  ⟨[(name, .table .header entries)], [name]⟩

/-- A key that is new is entered at the end of the table under the header. -/
theorem Document.state_entry {name key : String} {entries : Table} {v : Value}
    (h : entries.get? key = none) :
    (Document.headed name entries).state (.entry ⟨[], key⟩ v) =
      some (Document.headed name (entries ++ [(key, v)])) := by
  simp [Document.headed, Document.state, Table.change, Table.get?, Table.insert, h, Table.set,
    Table.add]

/-- Entries with keys of their own are all entered, in their order. -/
theorem Document.foldlM_entries {name : String} {entries : Table} (more : Table)
    (h : ((entries ++ more).map Prod.fst).Nodup) :
    (more.map fun e => Statement.entry ⟨[], e.1⟩ e.2).foldlM Document.state
      (Document.headed name entries) = some (Document.headed name (entries ++ more)) := by
  induction more generalizing entries with
  | nil => simp
  | cons e more ih =>
    have hnot : e.1 ∉ entries.map Prod.fst := fun hmem => by
      rw [List.map_append, List.nodup_append] at h
      exact h.2.2 _ hmem _ (.head _) rfl
    have hsplit : entries ++ e :: more = entries ++ [e] ++ more := List.append_cons ..
    rw [hsplit] at h ⊢
    rw [List.map_cons, List.foldlM_cons, Document.state_entry (Table.get?_eq_none hnot)]
    exact ih h

/-- A key that the table has is refused. -/
theorem Document.state_repeated {name key : String} {entries : Table} {v : Value}
    (h : key ∈ entries.map Prod.fst) :
    (Document.headed name entries).state (.entry ⟨[], key⟩ v) = none := by
  obtain ⟨v', hv'⟩ := Table.exists_of_mem h
  simp [Document.headed, Document.state, Table.change, Table.get?, Table.insert, hv']

/-- The first entry whose name has come before is refused.  The induction is on the entries to come,
while those that are there still have different names. -/
theorem Document.foldlM_repeated {name : String} {entries : Table} (more : Table)
    (hentries : (entries.map Prod.fst).Nodup) (h : ¬ ((entries ++ more).map Prod.fst).Nodup) :
    (more.map fun e => Statement.entry ⟨[], e.1⟩ e.2).foldlM Document.state
      (Document.headed name entries) = none := by
  induction more generalizing entries with
  | nil => exact absurd hentries (by rwa [List.append_nil] at h)
  | cons e more ih =>
    rw [List.map_cons, List.foldlM_cons]
    by_cases hmem : e.1 ∈ entries.map Prod.fst
    · rw [Document.state_repeated hmem]
      rfl
    · have hgrown : ((entries ++ [e]).map Prod.fst).Nodup := by
        rw [List.map_append, List.nodup_append]
        refine ⟨hentries, List.pairwise_singleton _ _, fun a ha b hb hab => hmem ?_⟩
        rwa [← List.mem_singleton.mp hb, ← hab]
      rw [List.append_cons] at h
      rw [Document.state_entry (Table.get?_eq_none hmem)]
      exact ih hgrown h

/-- **A header and its entries** make one table, which holds them all. -/
theorem Document.build_header (name : String) {entries : Table} (h : (entries.map Prod.fst).Nodup) :
    Document.build (.table ⟨[], name⟩ :: entries.map fun e => .entry ⟨[], e.1⟩ e.2) =
      some [(name, .table .header entries)] := by
  have hfold : (entries.map fun e => Statement.entry ⟨[], e.1⟩ e.2).foldlM Document.state
      (Document.headed name []) = some (Document.headed name entries) :=
    Document.foldlM_entries entries h
  have hstart : Document.empty.state (.table ⟨[], name⟩) = some (Document.headed name []) := rfl
  rw [Document.build, List.foldlM_cons, hstart]
  exact congrArg (Option.map Document.root) hfold

/-- **Entries of one name** under a header make no table. -/
theorem Document.build_repeated (name : String) {entries : Table}
    (h : ¬ (entries.map Prod.fst).Nodup) :
    Document.build (.table ⟨[], name⟩ :: entries.map fun e => .entry ⟨[], e.1⟩ e.2) = none := by
  have hfold : (entries.map fun e => Statement.entry ⟨[], e.1⟩ e.2).foldlM Document.state
      (Document.headed name []) = none :=
    Document.foldlM_repeated entries List.nodup_nil h
  have hstart : Document.empty.state (.table ⟨[], name⟩) = some (Document.headed name []) := rfl
  rw [Document.build, List.foldlM_cons, hstart]
  exact congrArg (Option.map Document.root) hfold

/-- **A header that comes again** below its entries makes no table. -/
theorem Document.build_header_repeated (name : String) {entries : Table}
    (h : (entries.map Prod.fst).Nodup) (rest : List Statement) :
    Document.build (.table ⟨[], name⟩ :: ((entries.map fun e => .entry ⟨[], e.1⟩ e.2) ++
      .table ⟨[], name⟩ :: rest)) = none := by
  have hfold : (entries.map fun e => Statement.entry ⟨[], e.1⟩ e.2).foldlM Document.state
      (Document.headed name []) = some (Document.headed name entries) :=
    Document.foldlM_entries entries h
  have hstart : Document.empty.state (.table ⟨[], name⟩) = some (Document.headed name []) := rfl
  have hagain : (Document.headed name entries).state (.table ⟨[], name⟩) = none := by
    simp [Document.headed, Document.state, Table.change, Table.define, Table.get?]
  have hrest : (Statement.table ⟨[], name⟩ :: rest).foldlM Document.state
      (Document.headed name entries) = none := by
    rw [List.foldlM_cons, hagain]
    rfl
  rw [Document.build, List.foldlM_cons, hstart, Option.bind_eq_bind, Option.bind_some,
    List.foldlM_append, hfold, Option.bind_eq_bind, Option.bind_some, hrest]
  rfl

end TerminalText.Toml
