import TerminalText.Proofs.Codepage.LocaleName
import TerminalText.Settings

/-!
# The locale and the registry

The codeset of a locale is read in two places and in two ways: the environment is asked whether it
is UTF-8 in one of two spellings, after the first dot, and the registry looks it up among its names,
after the last.  Where there is one dot, what the environment takes for UTF-8 the registry does too
(`parse_of_isUtf8`).
-/

namespace TerminalText.Locale

open Registry (Entry lookup lookup_codeset lookup_codeset_modifier parse squeeze squeeze_eq_filter
  standard)

variable {s t : List Char} {name : String} {env : Environment}

/-! ### The first dot -/

theorem afterFirstDot?_eq_some (h : afterFirstDot? s = some t) : ∃ l, s = l ++ '.' :: t := by
  induction s with
  | nil => cases h
  | cons c s ih =>
    rw [afterFirstDot?] at h
    split at h
    next hc =>
      cases hc
      cases h
      exact ⟨[], rfl⟩
    next =>
      obtain ⟨l, rfl⟩ := ih h
      exact ⟨c :: l, rfl⟩

/-- A single dot is the last one too. -/
theorem not_mem_of_count (h : (s ++ '.' :: t).count '.' = 1) : '.' ∉ t := by
  rw [List.count_append, List.count_cons_self] at h
  exact List.count_eq_zero.mp (by omega)

/-! ### The codeset -/

/-- A codeset is all that follows, but for the modifier if there is one. -/
theorem takeWhile_mark_cases (s : List Char) :
    s.takeWhile (· ≠ '@') = s ∨ ∃ m, s = s.takeWhile (· ≠ '@') ++ '@' :: m := by
  by_cases h : '@' ∈ s
  · obtain ⟨t, m, rfl, ht⟩ := List.eq_append_cons_of_mem h
    have hkept : ∀ c ∈ t, decide (c ≠ '@') = true := fun c hc =>
      decide_eq_true (ne_of_mem_of_not_mem hc ht)
    refine .inr ⟨m, ?_⟩
    rw [List.takeWhile_append_of_pos hkept, List.takeWhile_cons_of_neg (by simp), List.append_nil]
  · exact .inl (List.takeWhile_eq_self_iff.mpr fun c hc =>
      decide_eq_true (ne_of_mem_of_not_mem hc h))

/-- Both spellings of UTF-8 are spellings of its entry. -/
theorem squeeze_of_isUtf8Codeset (h : isUtf8Codeset t = true) :
    squeeze t = squeeze "UTF-8".toList := by
  rw [squeeze_eq_filter]
  rcases of_decide_eq_true h with h | h
  · rw [h]
    decide +kernel
  · rw [h]
    decide +kernel

/-! ### Looking the locale up -/

/-- Where the locale has UTF-8, a variable selects it, and its codeset is spelled as UTF-8 may be.
-/
theorem isUtf8_eq_true (h : isUtf8 env = true) : ∃ name codeset,
    selected? env = some name ∧ codeset? name = some codeset ∧ isUtf8Codeset codeset = true := by
  rw [isUtf8] at h
  split at h
  next codeset hcodeset =>
    obtain ⟨name, hname, hcodeset⟩ := Option.bind_eq_some_iff.mp hcodeset
    exact ⟨name, codeset, hname, hcodeset, h⟩
  next => cases h

/-- With a single dot, the registry finds the codeset that the environment is asked for. -/
theorem lookup_of_codeset? (hcodeset : codeset? name = some t) (hutf8 : isUtf8Codeset t = true)
    (hdot : name.toList.count '.' = 1) : lookup standard name = some .utf8 := by
  obtain ⟨rest, hrest, rfl⟩ := Option.map_eq_some_iff.mp hcodeset
  obtain ⟨l, hname⟩ := afterFirstDot?_eq_some hrest
  have hnone : '.' ∉ rest := not_mem_of_count (hname ▸ hdot)
  have hentry : (⟨"UTF-8", .utf8, true⟩ : Entry) ∈ standard := by decide
  have hspelled := squeeze_of_isUtf8Codeset hutf8
  rcases takeWhile_mark_cases rest with hwhole | ⟨m, hm⟩
  · rw [hwhole] at hspelled
    exact lookup_codeset hentry hnone hspelled hname
  · rw [hm] at hname hnone
    rw [List.mem_append, not_or] at hnone
    exact lookup_codeset_modifier hentry hnone.1 (fun h => hnone.2 (.tail _ h)) hspelled hname

/-- **The locale and the registry agree.**  Where the locale that an environment selects has UTF-8
for its codeset, and a single dot in its name, that name is a name of UTF-8, for those who refuse
unknown names and for those who do not. -/
theorem parse_of_isUtf8 (h : isUtf8 env = true) :
    ∃ name, selected? env = some name ∧ (name.toList.count '.' = 1 →
      Codepage.parse name = .ok .utf8 ∧ Codepage.resolve (some name) = .utf8) := by
  obtain ⟨name, codeset, hname, hcodeset, hutf8⟩ := isUtf8_eq_true h
  refine ⟨name, hname, fun hdot => ?_⟩
  have hlookup := lookup_of_codeset? hcodeset hutf8 hdot
  constructor
  · rw [Codepage.parse, parse, hlookup]
  · exact congrArg (Option.getD · .utf8) hlookup

/-- The strongest variable is empty.  The next one names another codepage for its language, after a
blank, and has a modifier behind its codeset. -/
theorem parse_of_isUtf8_modifier :
    let name := "\tKOI8-R@x.uTF8@y z"
    let env : Environment := fun v =>
      if v = "LC_ALL" then some "" else if v = "LC_CTYPE" then some name else none
    (isUtf8 env = true ∧ selected? env = some name ∧ name.toList.count '.' = 1) ∧
      Codepage.parse name = .ok .utf8 ∧ Codepage.resolve (some name) = .utf8 := by
  intro name env
  have h : isUtf8 env = true := by decide +kernel
  have hname : selected? env = some name := by decide +kernel
  have hdot : name.toList.count '.' = 1 := by decide +kernel
  obtain ⟨name', hname', hfound⟩ := parse_of_isUtf8 h
  cases hname.symm.trans hname'
  exact ⟨⟨h, hname, hdot⟩, hfound hdot⟩

end TerminalText.Locale
