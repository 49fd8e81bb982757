import Mathlib.Data.List.TakeWhile
import TerminalText.Proofs.Codepage.Registry

/-!
# Locale names in the registry

A name of a locale, `language.codeset` or `language.codeset@modifier`, is looked up as a whole
before its codeset is, and the whole is compared without its dots.  So a language might, with the
codeset after it, spell the name of another codepage.  It never does: no name of the registry ends
as another one (`standard_suffixFree`), and none holds the mark of a modifier (`standard_plain`).

Hence a locale is found by its codeset, whatever its language and its modifier (`lookup_locale`).
-/

namespace TerminalText

namespace Text

/-! ### Trimming around a character -/

variable {s : List Char} {c : Char}

/-- From a character that is no blank on, trimming at the start changes nothing. -/
theorem trimStart_append_cons (hc : isBlank c = false) (s t : List Char) :
    trimStart (s ++ c :: t) = trimStart s ++ c :: t := by
  rw [trimStart, trimStart, List.dropWhile_append]
  split
  next h =>
    rw [List.isEmpty_iff.mp h, List.nil_append, List.dropWhile_cons_of_neg (by simp [hc])]
  next => rfl

/-- Up to a character that is no blank, trimming at the end changes nothing. -/
theorem trimEnd_append_cons (hc : isBlank c = false) (s t : List Char) :
    trimEnd (s ++ c :: t) = s ++ c :: trimEnd t := by
  have hreverse : (s ++ c :: t).reverse = t.reverse ++ c :: s.reverse := by simp
  rw [trimEnd, hreverse, trimStart_append_cons hc, trimEnd]
  simp

/-- A character that is not blank keeps its two sides apart. -/
theorem trim_append_cons (hc : isBlank c = false) (s t : List Char) :
    trim (s ++ c :: t) = trimStart s ++ c :: trimEnd t := by
  rw [trim, trimStart_append_cons hc, trimEnd_append_cons hc]

theorem mem_of_mem_trimEnd (h : c ∈ trimEnd s) : c ∈ s :=
  List.mem_reverse.mp ((List.dropWhile_sublist _).subset (List.mem_reverse.mp h))

end Text

namespace Registry

open Text (isBlank mem_of_mem_trimEnd trim trimEnd trimEnd_append_cons trimStart trim_append_cons)

/-- No name ends as another one does. -/
def SuffixFree (entries : List Entry) : Prop :=
  ∀ e ∈ entries, ∀ e' ∈ entries, fold e.name.toList <:+ fold e'.name.toList → e = e'

instance (entries : List Entry) : Decidable (SuffixFree entries) :=
  inferInstanceAs (Decidable (∀ e ∈ entries, ∀ e' ∈ entries,
    fold e.name.toList <:+ fold e'.name.toList → e = e'))

/-- No name in the registry ends as another one does. -/
theorem standard_suffixFree : SuffixFree standard := by decide +kernel

variable {s t : List Char} {c : Char} {e : Entry}

/-- What is left of a name in the registry has neither the mark of a modifier nor a blank. -/
theorem standard_plain (he : e ∈ standard) (hc : c ∈ squeeze e.name.toList) :
    c ≠ '@' ∧ isBlank c = false := by
  have hall : ∀ e ∈ standard, (squeeze e.name.toList).all (fun c => c ≠ '@' && !isBlank c) := by
    decide +kernel
  simpa using List.all_eq_true.mp (hall e he) c hc

/-! ### The last dot -/

theorem afterLastDot?_eq_none (h : '.' ∉ s) : afterLastDot? s = none := by
  induction s with
  | nil => rfl
  | cons c s ih =>
    rw [List.mem_cons, not_or] at h
    rw [afterLastDot?, ih h.2]
    exact if_neg (Ne.symm h.1)

/-- What has no dot in it, behind a dot, is what follows the last dot. -/
theorem afterLastDot?_append (s : List Char) (ht : '.' ∉ t) :
    afterLastDot? (s ++ '.' :: t) = some t := by
  induction s with
  | nil =>
    rw [List.nil_append, afterLastDot?, afterLastDot?_eq_none ht]
    rfl
  | cons c s ih => rw [List.cons_append, afterLastDot?, ih]

/-- The codeset of a locale is what stands between its last dot and the mark behind it. -/
theorem codeset?_append (s : List Char) (ht : '.' ∉ t) :
    codeset? (s ++ '.' :: t) = some (t.takeWhile (· ≠ '@')) := by
  rw [codeset?, afterLastDot?_append s ht]
  rfl

/-! ### Spellings of an entry -/

theorem mem_squeeze (hc : c ∈ s) (hf : isFiller c = false) : c.toLower ∈ squeeze s :=
  List.mem_map_of_mem (List.mem_filter.mpr ⟨hc, by simp [hf]⟩)

theorem toLower_of_isBlank (h : isBlank c = true) : c.toLower = c := by
  have hall : Text.blanks.all (fun c => c.toLower = c) := by decide
  exact of_decide_eq_true (List.all_eq_true.mp hall c (List.contains_iff_mem.mp h))

/-- Only spaces are added to a name when it is spelled otherwise. -/
theorem onlySpaces_of_squeeze (he : e ∈ standard) (h : squeeze s = squeeze e.name.toList) :
    OnlySpaces s := by
  intro c hc hblank
  by_contra hspace
  have hfiller : isFiller c = false := by
    have hhyphen : c ≠ '-' := by
      rintro rfl
      cases hblank
    have hline : c ≠ '_' := by
      rintro rfl
      cases hblank
    simp [isFiller, hhyphen, hline, hspace]
  have hleft := mem_squeeze hc hfiller
  rw [toLower_of_isBlank hblank, h] at hleft
  exact Bool.false_ne_true ((standard_plain he hleft).2.symm.trans hblank)

theorem mark_not_mem_of_squeeze (he : e ∈ standard) (h : squeeze s = squeeze e.name.toList) :
    '@' ∉ s :=
  fun hc => (standard_plain he (h ▸ mem_squeeze hc rfl)).1 rfl

theorem find_of_squeeze (he : e ∈ standard) (h : squeeze s = squeeze e.name.toList) :
    find standard s = some e.codepage :=
  (find_eq_some_iff standard_distinct).mpr ⟨e, he, by rw [fold_eq_filter, fold_eq_filter, h], rfl⟩

/-! ### The whole name -/

theorem fold_append (s t : List Char) : fold (s ++ t) = fold s ++ fold t := by simp [fold]

/-- What ends as an entry is not found as another one. -/
theorem eq_of_find_append (he : e ∈ standard) (h : squeeze t = squeeze e.name.toList)
    {cp : Codepage} (hfind : find standard (s ++ t) = some cp) : cp = e.codepage := by
  obtain ⟨e', he', hfold, rfl⟩ := (find_eq_some_iff standard_distinct).mp hfind
  rw [fold_append, fold_eq_filter t, h, ← fold_eq_filter] at hfold
  rw [standard_suffixFree e he e' he' ⟨fold s, hfold.symm⟩]

/-- What has a modifier is not found as a whole. -/
theorem find_eq_none_of_mark (h : '@' ∈ s) : find standard s = none := by
  refine Option.eq_none_iff_forall_ne_some.mpr fun cp hfind => ?_
  obtain ⟨e, he, hfold, -⟩ := (find_eq_some_iff standard_distinct).mp hfind
  have hmark : '@' ∈ fold s := by
    rw [fold_eq_filter]
    exact List.mem_filter.mpr ⟨mem_squeeze h rfl, rfl⟩
  rw [← hfold, fold_eq_filter] at hmark
  exact (standard_plain he (List.mem_filter.mp hmark).1).1 rfl

/-! ### Locales -/

/-- The codeset is what is found, unless the whole name is another's. -/
theorem lookup_of_codeset {name : String} {cp : Codepage} (hname : trim name.toList = s ++ '.' :: t)
    (ht : '.' ∉ t) (hwhole : ∀ cp', find standard (s ++ '.' :: t) = some cp' → cp' = cp)
    (hcodeset : find standard (t.takeWhile (· ≠ '@')) = some cp) :
    lookup standard name = some cp := by
  rw [lookup_eq find_standard_nil, hname, codeset?_append s ht, Option.bind_some, hcodeset]
  cases hfind : find standard (s ++ '.' :: t) with
  | none     => rfl
  | some cp' => exact congrArg some (hwhole cp' hfind)

/-- A locale is found by its codeset. -/
theorem lookup_codeset {name : String} (he : e ∈ standard) (ht : '.' ∉ t)
    (h : squeeze t = squeeze e.name.toList) (hname : name.toList = s ++ '.' :: t) :
    lookup standard name = some e.codepage := by
  have hend : squeeze (trimEnd t) = squeeze e.name.toList :=
    (squeeze_trimEnd (onlySpaces_of_squeeze he h)).trans h
  have hmark : (trimEnd t).takeWhile (· ≠ '@') = trimEnd t :=
    List.takeWhile_eq_self_iff.mpr fun c hc => decide_eq_true fun hat =>
      mark_not_mem_of_squeeze he hend (hat ▸ hc)
  refine lookup_of_codeset (s := trimStart s) (t := trimEnd t) ?_ ?_ ?_ ?_
  · rw [hname, trim_append_cons (by decide)]
  · exact fun hdot => ht (mem_of_mem_trimEnd hdot)
  · -- the dot goes with the language: what ends the whole name is the codeset alone
    intro cp hfind
    rw [List.append_cons] at hfind
    exact eq_of_find_append he hend hfind
  · rw [hmark]
    exact find_of_squeeze he hend

/-- A locale is found by its codeset, whatever stands behind the mark. -/
theorem lookup_codeset_modifier {name : String} {m : List Char} (he : e ∈ standard) (ht : '.' ∉ t)
    (hm : '.' ∉ m) (h : squeeze t = squeeze e.name.toList)
    (hname : name.toList = s ++ '.' :: (t ++ '@' :: m)) :
    lookup standard name = some e.codepage := by
  have hmark : (t ++ '@' :: trimEnd m).takeWhile (· ≠ '@') = t := by
    have hnone : ∀ c ∈ t, decide (c ≠ '@') = true := fun c hc => decide_eq_true fun hat =>
      mark_not_mem_of_squeeze he h (hat ▸ hc)
    rw [List.takeWhile_append_of_pos hnone, List.takeWhile_cons_of_neg (by simp), List.append_nil]
  refine lookup_of_codeset (s := trimStart s) (t := t ++ '@' :: trimEnd m) ?_ ?_ ?_ ?_
  · rw [hname, trim_append_cons (by decide), trimEnd_append_cons (by decide)]
  · intro hdot
    rcases List.mem_append.mp hdot with hdot | hdot
    · exact ht hdot
    · exact hm (mem_of_mem_trimEnd (List.mem_of_ne_of_mem (by decide) hdot))
  · intro cp hfind
    rw [find_eq_none_of_mark (by simp)] at hfind
    cases hfind
  · rw [hmark]
    exact find_of_squeeze he h

/-- **Locales are found by their codesets.**  A language, whatever it holds, and a codeset that
spells an entry are looked up as that entry, and so they are with a modifier after them. -/
theorem lookup_locale (l n m : String) {e : Entry} (he : e ∈ standard) (hn : '.' ∉ n.toList)
    (hm : '.' ∉ m.toList) (h : squeeze n.toList = squeeze e.name.toList) :
    ∀ name ∈ [l ++ "." ++ n, l ++ "." ++ n ++ "@" ++ m],
      Codepage.parse name = .ok e.codepage ∧ Codepage.resolve (some name) = e.codepage := by
  have hlookup : ∀ name ∈ [l ++ "." ++ n, l ++ "." ++ n ++ "@" ++ m],
      lookup standard name = some e.codepage := by
    intro name hname
    rcases List.mem_pair.mp hname with rfl | rfl
    · exact lookup_codeset (s := l.toList) he hn h (by simp)
    · exact lookup_codeset_modifier (s := l.toList) he hn hm h (by simp)
  intro name hname
  constructor
  · rw [Codepage.parse, parse, hlookup name hname]
  · exact congrArg (Option.getD · .utf8) (hlookup name hname)

/-- The language is the name of a codepage and a locale itself, and the codeset stands among
blanks. -/
theorem lookup_locale_spaced :
    let e : Entry := ⟨"KOI8-R", .charset .koi8r, true⟩
    (e ∈ standard ∧ '.' ∉ " koi 8_r  ".toList ∧ '.' ∉ "@\t".toList ∧
      squeeze " koi 8_r  ".toList = squeeze e.name.toList) ∧
      Codepage.parse "\tUTF-8.x@IBM. koi 8_r  @@\t" = .ok (.charset .koi8r) ∧
      Codepage.resolve (some "\tUTF-8.x@IBM. koi 8_r  ") = .charset .koi8r := by
  intro e
  have he : e ∈ standard := by decide
  have hn : '.' ∉ " koi 8_r  ".toList := by decide
  have hm : '.' ∉ "@\t".toList := by decide
  have h : squeeze " koi 8_r  ".toList = squeeze e.name.toList := by decide +kernel
  have hlocale := lookup_locale "\tUTF-8.x@IBM" " koi 8_r  " "@\t" he hn hm h
  exact ⟨⟨he, hn, hm, h⟩, (hlocale _ (.tail _ (.head _))).1, (hlocale _ (.head _)).2⟩

end Registry

end TerminalText
