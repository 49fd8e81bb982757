import TerminalText.Toml.Text.Write

/-!
# Texts are read as they were written

`read_write`: whatever a text holds, and whichever form it is written in, it is read back, and so is
where it ends.  What follows may be anything that does not start with a quote.

The four ways to read a text differ in which quotes pass and in what closes the text (`Delimited`),
and the ways to write one in how a character is put (`Spelled`).  The induction is on the text, with
the count of quotes that stand right before it: as long as no more of them are put than may pass,
nothing closes the text too early (`read_spelled`).
-/

namespace TerminalText.Toml.Text

/-! ### Hexadecimal digits -/

/-- A hexadecimal digit is read as it was written. -/
theorem hexDigit?_upperDigit : ∀ d < 16, hexDigit? (upperDigit d) = some d := by decide

/-- A control is read from its number in four digits. -/
theorem named?_control {c : Char} (h : c.toNat < 0x80) (r : List Char) :
    named? 4 ('0' :: '0' :: upperDigit (c.toNat / 16) :: upperDigit (c.toNat % 16) :: r) =
      some (c, r) := by
  have hzero : hexDigit? '0' = some 0 := rfl
  have hvalue : 16 * (c.toNat / 16) + c.toNat % 16 = c.toNat := Nat.div_add_mod _ _
  have hscalar : CodePoint.IsScalar c.toNat := CodePoint.isScalar_of_char c
  simp only [named?, hex?, hzero, hexDigit?_upperDigit (c.toNat / 16) (by omega),
    hexDigit?_upperDigit (c.toNat % 16) (by omega), Nat.mul_zero, Nat.zero_add, hvalue,
    if_pos hscalar, Char.ofNat_toNat]

/-! ### Characters between double quotes -/

theorem isPlain_of_not_control {c : Char} (hc : isControl c = false) (hn : c ≠ '\n') :
    isPlain c = true := by
  simp_all [isPlain, isControl]
  grind

/-- A character other than a quote is escaped, or stands for itself. -/
theorem writeChar_cases {c : Char} (m : Bool) (hq : c ≠ '"') :
    (∃ e, writeChar m c = '\\' :: e ∧ ∀ r, escape? (e ++ r) = some (c, r)) ∨
      writeChar m c = [c] ∧ (isBasic c = true ∨ m = true ∧ c = '\n') := by
  unfold writeChar
  split
  case h_1 | h_2 | h_4 | h_5 | h_6 => exact .inl ⟨_, rfl, fun r => rfl⟩
  case h_3 =>
    cases m with
    | false => exact .inl ⟨_, rfl, fun r => rfl⟩
    | true  => exact .inr ⟨rfl, .inr ⟨rfl, rfl⟩⟩
  case h_7 hn _ _ hs =>
    split
    next hc =>
      refine .inl ⟨_, rfl, fun r => named?_control ?_ r⟩
      simp [isControl] at hc
      omega
    next hc =>
      have hplain := isPlain_of_not_control (by simpa using hc) hn
      have hescape : c ≠ '\\' := hs
      refine .inr ⟨rfl, .inl ?_⟩
      simp [isBasic, hplain, hq, hescape]

/-- What is escaped is read in the place of its escape. -/
theorem basic_escape {c : Char} {e r : List Char} (h : escape? e = some (c, r)) :
    basic ('\\' :: e) = (basic r).map fun t => (c :: t.1, t.2) := by
  rw [basic]
  split
  next h' =>
    cases h.symm.trans h'
    rfl
  next h' => cases h.symm.trans h'

theorem basic_self {c : Char} (h : isBasic c = true) (r : List Char) :
    basic (c :: r) = (basic r).map fun t => (c :: t.1, t.2) := by
  rw [basic, if_pos h]
  · rintro rfl
    cases h
  · rintro rfl
    cases h

/-- What escapes a character joins no lines. -/
theorem joined?_of_escape? {c : Char} {e r : List Char} (h : escape? e = some (c, r)) :
    joined? e = none := by
  unfold escape? at h
  split at h
  case h_10 => cases h
  all_goals rfl

theorem multilineBasic_escape {c : Char} {e r : List Char} (h : escape? e = some (c, r)) :
    multilineBasic ('\\' :: e) = (multilineBasic r).map fun t => (c :: t.1, t.2) := by
  rw [multilineBasic]
  split
  next h' => cases (joined?_of_escape? h).symm.trans h'
  next =>
    split
    next h' =>
      cases h.symm.trans h'
      rfl
    next h' => cases h.symm.trans h'

theorem multilineBasic_self {c : Char} (h : isBasic c = true) (r : List Char) :
    multilineBasic (c :: r) = (multilineBasic r).map fun t => (c :: t.1, t.2) := by
  rw [multilineBasic, if_pos h]
  all_goals
    intros
    subst c
    cases h

/-! ### What stands between quotes -/

/-- Reads what stands between quotes: up to `most` of them in a row are part of it, and `closing`
ends it. -/
structure Delimited (q : Char) (most : Nat) (closing : List Char)
    (read : List Char → Option (List Char × List Char)) : Prop where
  passes : ∀ {run x}, run ≤ most → x.head? ≠ some q →
    read (List.replicate run q ++ x) = (read x).map fun t => (List.replicate run q ++ t.1, t.2)
  closes : ∀ {run rest}, run ≤ most → rest.head? ≠ some q →
    read (List.replicate run q ++ (closing ++ rest)) = some (List.replicate run q, rest)

theorem map_append_nil (o : Option (List Char × List Char)) :
    (o.map fun t => ([] ++ t.1, t.2)) = o := by
  cases o <;> rfl

/-- On one line no quote passes. -/
theorem Delimited.ofOne {q : Char} {read : List Char → Option (List Char × List Char)}
    (hclose : ∀ r, read (q :: r) = some ([], r)) : Delimited q 0 [q] read where
  passes {run x} h _ := by
    rw [Nat.le_zero.1 h]
    exact (map_append_nil _).symm
  closes {run rest} h _ := by
    rw [Nat.le_zero.1 h]
    exact hclose rest

/-- Quotes before the closing ones belong to the text, if there are two at most. -/
theorem trailing_replicate {q : Char} {run : Nat} {rest : List Char} (h : run ≤ 2)
    (hr : rest.head? ≠ some q) :
    trailing q (List.replicate run q ++ rest) = (List.replicate run q, rest) := by
  match run, h with
  | 0, _ | 1, _ => rcases rest with _ | ⟨a, _ | ⟨b, r⟩⟩ <;> simp_all [trailing]
  | 2, _        => simp [trailing, List.replicate]

/-- On several lines up to two quotes pass, and so many may stand right before the closing ones. -/
theorem Delimited.ofThree {q : Char} {read : List Char → Option (List Char × List Char)}
    (hclose : ∀ r, read (q :: q :: q :: r) = some (trailing q r))
    (hpass : ∀ x, (∀ r, x ≠ q :: q :: r) → read (q :: x) = (read x).map fun t => (q :: t.1, t.2)) :
    Delimited q 2 [q, q, q] read where
  passes {run x} h hx := by
    match run, h with
    | 0, _ => exact (map_append_nil _).symm
    | 1, _ =>
      refine hpass x fun r hr => hx ?_
      rw [hr]
      rfl
    | 2, _ =>
      have hx₁ : read (q :: x) = (read x).map fun t => (q :: t.1, t.2) :=
        hpass x fun r hr => hx (by rw [hr]; rfl)
      refine (hpass (q :: x) fun r hr => hx ?_).trans ?_
      · rw [(List.cons.inj hr).2]
        rfl
      · rw [hx₁, Option.map_map]
        rfl
  closes {run rest} h hr := by
    have hcomm : List.replicate run q ++ ([q, q, q] ++ rest) =
        q :: q :: q :: (List.replicate run q ++ rest) := by
      match run, h with
      | 0, _ | 1, _ | 2, _ => rfl
    rw [hcomm, hclose, trailing_replicate h hr]

theorem basic_delimited : Delimited '"' 0 ['"'] basic := .ofOne fun r => by rw [basic]

theorem literal_delimited : Delimited '\'' 0 ['\''] literal := .ofOne fun r => by rw [literal]

theorem multilineBasic_delimited : Delimited '"' 2 ['"', '"', '"'] multilineBasic := by
  refine .ofThree (fun r => by rw [multilineBasic]) fun x hx => ?_
  rw [multilineBasic]
  exact fun r hr => hx r hr

theorem multilineLiteral_delimited : Delimited '\'' 2 ['\'', '\'', '\''] multilineLiteral := by
  refine .ofThree (fun r => by rw [multilineLiteral]) fun x hx => ?_
  rw [multilineLiteral]
  exact fun r hr => hx r hr

/-! ### Spelled texts -/

/-- How one character is put: from its own first character on it is read back. -/
structure Put (read : List Char → Option (List Char × List Char)) (q c a : Char)
    (w : List Char) : Prop where
  reads : ∀ x, read (a :: (w ++ x)) = (read x).map fun t => (c :: t.1, t.2)
  not_quote : a ≠ q
  not_return : a ≠ '\r'
  newline : a = '\n' → c = '\n'

/-- The text `s` is put as `w` where `run` quotes stand before it, and no more than `most` quotes
are ever put in a row. -/
inductive Spelled (read : List Char → Option (List Char × List Char)) (q : Char) (most : Nat) :
    Nat → List Char → List Char → Prop where
  | nil (run : Nat) : Spelled read q most run [] []
  | quote {run : Nat} {s w : List Char} (hrun : run < most)
      (h : Spelled read q most (run + 1) s w) : Spelled read q most run (q :: s) (q :: w)
  | char {run : Nat} {c a : Char} {s p w : List Char} (hp : Put read q c a p)
      (h : Spelled read q most 0 s w) : Spelled read q most run (c :: s) (a :: (p ++ w))

variable {read : List Char → Option (List Char × List Char)} {q : Char} {most run : Nat}
  {closing s w rest : List Char}

/-- **What is spelled is read.** -/
theorem read_spelled (d : Delimited q most closing read) (h : Spelled read q most run s w)
    (hrun : run ≤ most) (hrest : rest.head? ≠ some q) :
    read (List.replicate run q ++ (w ++ (closing ++ rest))) =
      some (List.replicate run q ++ s, rest) := by
  induction h with
  | nil run =>
    rw [List.append_nil]
    exact d.closes hrun hrest
  | @quote run s w hlt _ ih =>
    -- this quote joins those that stand before the text
    have hmore (x : List Char) :
        List.replicate run q ++ q :: x = List.replicate (run + 1) q ++ x := by
      rw [List.replicate_succ', List.append_assoc]
      rfl
    rw [List.cons_append, hmore, hmore]
    exact ih hlt
  | @char run c a s p w hp _ ih =>
    -- the quotes so far belong to the text, and their count starts again
    have hnext : read (w ++ (closing ++ rest)) = some (s, rest) := ih (Nat.zero_le _)
    rw [List.cons_append, List.append_assoc, d.passes hrun (by simpa using hp.not_quote),
      hp.reads, hnext]
    rfl

theorem newline?_of_ne {a : Char} (h₁ : a ≠ '\n') (h₂ : a ≠ '\r') (r : List Char) :
    newline? (a :: r) = none := by
  unfold newline?
  split
  next h => exact absurd (List.cons.inj h).1 h₁
  next h => exact absurd (List.cons.inj h).1 h₂
  next   => rfl

/-- A spelled text starts with a newline only if the text holds one. -/
theorem newline?_spelled (h : Spelled read q most run s w) (hs : '\n' ∉ s) (h₁ : q ≠ '\n')
    (h₂ : q ≠ '\r') {x : List Char} (hx : newline? x = none) : newline? (w ++ x) = none := by
  cases h with
  | nil => exact hx
  | quote => exact newline?_of_ne h₁ h₂ _
  | char hp =>
    refine newline?_of_ne (fun ha => hs ?_) hp.not_return _
    rw [hp.newline ha]
    exact .head _

/-- The newline after the opening quotes is dropped, and no other. -/
theorem dropNewline_leading (h : Spelled read q most run s w) (h₁ : q ≠ '\n') (h₂ : q ≠ '\r')
    {x : List Char} (hx : newline? x = none) : dropNewline (leading s ++ (w ++ x)) = w ++ x := by
  by_cases hs : '\n' ∈ s
  · rw [leading, if_pos (by simpa using hs)]
    rfl
  · rw [leading, if_neg (by simpa using hs), List.nil_append, dropNewline,
      newline?_spelled h hs h₁ h₂ hx]
    rfl

theorem put_self {c : Char} (hread : ∀ r, read (c :: r) = (read r).map fun t => (c :: t.1, t.2))
    (hq : c ≠ q) (hr : c ≠ '\r') : Put read q c c [] where
  reads := hread
  not_quote := hq
  not_return := hr
  newline := id

/-! ### Texts with escapes are spelled -/

/-- A character may be put into a text by its escape. -/
theorem put_escape {c : Char} {e : List Char} (hread : ∀ {c e r}, escape? e = some (c, r) →
      read ('\\' :: e) = (read r).map fun t => (c :: t.1, t.2))
    (he : ∀ r, escape? (e ++ r) = some (c, r)) : Put read '"' c '\\' e where
  reads x := hread (he x)
  not_quote := by decide
  not_return := by decide
  newline h := absurd h (by decide)

/-- What is written with escapes is a spelling of the text, on one line or over several. -/
theorem spelled_writeBasic {m : Bool} (hesc : ∀ {c e r}, escape? e = some (c, r) →
      read ('\\' :: e) = (read r).map fun t => (c :: t.1, t.2))
    (hself : ∀ {c}, isBasic c = true ∨ m = true ∧ c = '\n' →
      ∀ r, read (c :: r) = (read r).map fun t => (c :: t.1, t.2)) (run : Nat) (s : List Char) :
    Spelled read '"' (maxRun m) run s (writeBasic m run s) := by
  fun_induction writeBasic m run s with
  | case1 run => exact .nil run
  | case2 run s hrun ih => exact .quote hrun ih
  | case3 run s hrun ih => exact .char (p := ['"']) (put_escape hesc fun r => rfl) ih
  | case4 run c s hc ih =>
    rcases writeChar_cases m hc with ⟨e, he, hr⟩ | ⟨he, hb⟩
    · rw [he]
      exact .char (put_escape hesc hr) ih
    · rw [he]
      refine .char (p := []) (put_self (hself hb) hc ?_) ih
      rintro rfl
      rcases hb with hb | ⟨_, hb⟩ <;> cases hb

theorem spelled_basic (s : List Char) : Spelled basic '"' 0 0 s (writeBasic false 0 s) := by
  refine spelled_writeBasic (m := false) basic_escape (fun {c} hc => ?_) 0 s
  rcases hc with hc | ⟨hm, _⟩
  · exact basic_self hc
  · cases hm

theorem spelled_multilineBasic (s : List Char) :
    Spelled multilineBasic '"' 2 0 s (writeBasic true 0 s) := by
  refine spelled_writeBasic (m := true) multilineBasic_escape (fun {c} hc r => ?_) 0 s
  rcases hc with hc | ⟨_, rfl⟩
  · exact multilineBasic_self hc r
  · rw [multilineBasic]

/-! ### Texts without escapes are spelled -/

theorem le_longestRun (q : Char) (run : Nat) (s : List Char) : run ≤ longestRun q run s := by
  fun_induction longestRun q run s with
  | case1 => exact Nat.le_refl _
  | case2 run s ih => exact Nat.le_of_succ_le ih
  | case3 => exact Nat.le_max_left _ _

/-- A text that is put as it is. -/
theorem spelled_self (hput : ∀ c ∈ s, c ≠ q → Put read q c c []) (h : longestRun q run s ≤ most) :
    Spelled read q most run s s := by
  induction s generalizing run with
  | nil => exact .nil run
  | cons c s ih =>
    have hput' : ∀ c ∈ s, c ≠ q → Put read q c c [] := fun x hx => hput x (.tail _ hx)
    by_cases hc : c = q
    · rw [longestRun, if_pos hc] at h
      subst c
      exact .quote (Nat.le_trans (le_longestRun q (run + 1) s) h) (ih hput' h)
    · rw [longestRun, if_neg hc] at h
      exact .char (p := []) (hput c (.head _) hc)
        (ih hput' (Nat.le_trans (Nat.le_max_right _ _) h))

/-- All but controls, newlines and the quote stand for themselves between single quotes. -/
theorem isLiteral_of_not_control {c : Char} (hc : isControl c = false) (hn : c ≠ '\n')
    (hq : c ≠ '\'') : isLiteral c = true := by
  simp [isLiteral, isPlain_of_not_control hc hn, hq]

theorem ne_return_of_not_control {c : Char} (hc : isControl c = false) : c ≠ '\r' := by
  rintro rfl
  cases hc

theorem literal_self {c : Char} (h : isLiteral c = true) (r : List Char) :
    literal (c :: r) = (literal r).map fun t => (c :: t.1, t.2) := by
  rw [literal, if_pos h]
  rintro rfl
  cases h

theorem multilineLiteral_self {c : Char} (h : isLiteral c = true ∨ c = '\n') (r : List Char) :
    multilineLiteral (c :: r) = (multilineLiteral r).map fun t => (c :: t.1, t.2) := by
  rcases h with h | rfl
  · rw [multilineLiteral, if_pos h]
    all_goals
      intros
      subst c
      cases h
  · rw [multilineLiteral]

/-- A text without controls, newlines and single quotes is its own spelling between single quotes.
-/
theorem spelled_literal (hs : ∀ c ∈ s, isControl c = false) (hn : '\n' ∉ s)
    (hrun : longestRun '\'' 0 s ≤ 0) : Spelled literal '\'' 0 0 s s := by
  refine spelled_self (fun c hc hq => ?_) hrun
  have hne : c ≠ '\n' := fun h => hn (h ▸ hc)
  exact put_self (literal_self (isLiteral_of_not_control (hs c hc) hne hq)) hq
    (ne_return_of_not_control (hs c hc))

/-- A text without controls, and with two single quotes in a row at most, is its own spelling
between three of them. -/
theorem spelled_multilineLiteral (hs : ∀ c ∈ s, isControl c = false)
    (hrun : longestRun '\'' 0 s ≤ 2) : Spelled multilineLiteral '\'' 2 0 s s := by
  refine spelled_self (fun c hc hq => ?_) hrun
  have hc' : isLiteral c = true ∨ c = '\n' := by
    by_cases hn : c = '\n'
    · exact .inr hn
    · exact .inl (isLiteral_of_not_control (hs c hc) hn hq)
  exact put_self (multilineLiteral_self hc') hq (ne_return_of_not_control (hs c hc))

/-! ### Any text -/

/-- A text on one line never starts as one between three quotes does. -/
theorem ne_three_quotes (h : Spelled read q 0 0 s w) (hrest : rest.head? ≠ some q) (r : List Char) :
    w ++ ([q] ++ rest) ≠ q :: q :: r := by
  intro he
  cases h with
  | nil =>
    have hr : rest = q :: r := (List.cons.inj he).2
    rw [hr] at hrest
    exact hrest rfl
  | quote hlt => cases hlt
  | char hp => exact hp.not_quote (List.cons.inj he).1

theorem read_one_double {x : List Char} (h : ∀ r, x ≠ '"' :: '"' :: r) :
    Text.read ('"' :: x) = basic x := by
  rw [Text.read]
  exact h

theorem read_one_single {x : List Char} (h : ∀ r, x ≠ '\'' :: '\'' :: r) :
    Text.read ('\'' :: x) = literal x := by
  rw [Text.read]
  exact h

/-- A text between single quotes holds no controls, and few enough quotes in a row. -/
theorem ofText_eq_literal (h : Form.ofText s = .literal) :
    (∀ c ∈ s, isControl c = false) ∧ '\n' ∉ s ∧ longestRun '\'' 0 s ≤ 0 := by
  simp only [Form.ofText] at h
  repeat' split at h
  all_goals cases h
  simp_all

theorem ofText_eq_multilineLiteral (h : Form.ofText s = .multilineLiteral) :
    (∀ c ∈ s, isControl c = false) ∧ longestRun '\'' 0 s ≤ 2 := by
  simp only [Form.ofText] at h
  repeat' split at h
  all_goals cases h
  simp_all

/-- **Texts are read as they were written**, unless a quote follows. -/
theorem read_write (s : List Char) {rest : List Char} (h₁ : rest.head? ≠ some '"')
    (h₂ : rest.head? ≠ some '\'') : Text.read (write s ++ rest) = some (s, rest) := by
  unfold write
  cases hf : Form.ofText s with
  | basic =>
    have hs := spelled_basic s
    rw [writeIn, List.append_assoc, List.append_assoc, List.singleton_append,
      read_one_double (ne_three_quotes hs h₁)]
    exact read_spelled basic_delimited hs (Nat.zero_le _) h₁
  | literal =>
    obtain ⟨hc, hn, hrun⟩ := ofText_eq_literal hf
    have hs := spelled_literal hc hn hrun
    rw [writeIn, List.append_assoc, List.append_assoc, List.singleton_append,
      read_one_single (ne_three_quotes hs h₂)]
    exact read_spelled literal_delimited hs (Nat.zero_le _) h₂
  | multilineBasic =>
    have hs := spelled_multilineBasic s
    rw [writeIn, List.append_assoc, List.append_assoc, List.append_assoc]
    show multilineBasic (dropNewline (leading s ++
      (writeBasic true 0 s ++ (['"', '"', '"'] ++ rest)))) = _
    rw [dropNewline_leading hs (by decide) (by decide) rfl]
    exact read_spelled multilineBasic_delimited hs (Nat.zero_le _) h₁
  | multilineLiteral =>
    obtain ⟨hc, hrun⟩ := ofText_eq_multilineLiteral hf
    have hs := spelled_multilineLiteral hc hrun
    rw [writeIn, List.append_assoc, List.append_assoc, List.append_assoc]
    show multilineLiteral (dropNewline (leading s ++ (s ++ (['\'', '\'', '\''] ++ rest)))) = _
    rw [dropNewline_leading hs (by decide) (by decide) rfl]
    exact read_spelled multilineLiteral_delimited hs (Nat.zero_le _) h₂

end TerminalText.Toml.Text
