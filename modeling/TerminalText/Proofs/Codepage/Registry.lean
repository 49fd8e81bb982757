import Mathlib.Data.List.Nodup
import TerminalText.Codepage.Registry

/-!
# Names in the registry

What the registry answers does not hang on how a name is spelled, nor on how the registry is ordered
(`lookup_respelled`).

* Both passes of a lookup, over the whole name and over its codeset, see of a name only what is left
  without its fillers, in lower case (`squeeze`).  The dots are left as they divide a name, and so
  the codeset may be taken before or after (`codeset?_squeeze`).  The blanks that are trimmed have
  to be fillers, which only the space is (`OnlySpaces`).
* No two names of the registry agree (`standard_distinct`).  So there is one entry at most to be
  found, wherever it stands (`find_eq_some_iff`).
-/

namespace TerminalText.Registry

open Text (isBlank trim trimEnd trimStart)

/-- A separator that may stand anywhere in a name; a dot is none of them, as it divides the name. -/
def isFiller (c : Char) : Bool := c = '-' ∨ c = '_' ∨ c = ' '

/-- A name without fillers, and with ASCII letters in lower case. -/
def squeeze (name : List Char) : List Char :=
  (name.filter fun c => !isFiller c).map Char.toLower

/-- All blanks of a text are spaces. -/
def OnlySpaces (s : List Char) : Prop := ∀ c ∈ s, isBlank c = true → c = ' '

instance (s : List Char) : Decidable (OnlySpaces s) :=
  List.decidableBAll (fun c => isBlank c = true → c = ' ') s

/-- No two names agree. -/
def Distinct (entries : List Entry) : Prop := (entries.map fun e => fold e.name.toList).Nodup

instance (entries : List Entry) : Decidable (Distinct entries) :=
  inferInstanceAs (Decidable (List.Nodup _))

/-! ### Lower case -/

theorem toLower_of_not_isUpper {c : Char} (h : c.isUpper = false) : c.toLower = c :=
  dif_neg (of_decide_eq_false h)

theorem isLower_toLower {c : Char} (h : c.isUpper = true) : c.toLower.isLower = true := by
  have hc := of_decide_eq_true h
  have hval : c.toLower.val = c.val + ('a'.val - 'A'.val) := congrArg Char.val (dif_pos hc)
  have hlower : 'a'.val ≤ c.toLower.val ∧ c.toLower.val ≤ 'z'.val := by
    rw [hval]
    simp only [ge_iff_le, UInt32.le_iff_toNat_le, UInt32.toNat_add] at hc ⊢
    have hA : 'A'.val.toNat = 65 := rfl
    have hZ : 'Z'.val.toNat = 90 := rfl
    have ha : 'a'.val.toNat = 97 := rfl
    have hz : 'z'.val.toNat = 122 := rfl
    have hstep : ('a'.val - 'A'.val).toNat = 32 := rfl
    omega
  exact Bool.and_eq_true_iff.mpr ⟨decide_eq_true hlower.1, decide_eq_true hlower.2⟩

/-- In lower case a letter stays a letter, and so no other sign comes up. -/
theorem toLower_eq_iff {c d : Char} (hd : d.isAlpha = false) : c.toLower = d ↔ c = d := by
  obtain ⟨hupper, hlower⟩ := Bool.or_eq_false_iff.mp hd
  cases hc : c.isUpper with
  | true =>
    refine iff_of_false ?_ ?_
    · rintro rfl
      exact Bool.false_ne_true (hlower.symm.trans (isLower_toLower hc))
    · rintro rfl
      exact Bool.false_ne_true (hupper.symm.trans hc)
  | false => rw [toLower_of_not_isUpper hc]

/-! ### What is left of a name -/

variable {s t : List Char}

theorem squeeze_cons_filler {c : Char} (hc : isFiller c = true) : squeeze (c :: s) = squeeze s := by
  rw [squeeze, List.filter_cons_of_neg (by simp [hc])]
  rfl

theorem squeeze_cons {c : Char} (hc : isFiller c = false) :
    squeeze (c :: s) = c.toLower :: squeeze s := by
  rw [squeeze, List.filter_cons_of_pos (by simp [hc]), List.map_cons]
  rfl

/-- Squeezing does not care from which end a name is read. -/
theorem squeeze_reverse (s : List Char) : squeeze s.reverse = (squeeze s).reverse := by
  simp [squeeze]

/-- Fillers may be left out before or after letters are put in lower case. -/
theorem squeeze_eq_filter (s : List Char) :
    squeeze s = (s.map Char.toLower).filter fun c => !isFiller c := by
  have hlower (c : Char) : isFiller c.toLower = isFiller c := by
    simp [isFiller, toLower_eq_iff (d := '-') rfl, toLower_eq_iff (d := '_') rfl,
      toLower_eq_iff (d := ' ') rfl]
  rw [squeeze, List.filter_map]
  exact congrArg (fun keeps => (s.filter keeps).map Char.toLower)
    (funext fun c => congrArg (! ·) (hlower c).symm)

/-- Names are compared by what is left of them but for the dots. -/
theorem fold_eq_filter (s : List Char) : fold s = (squeeze s).filter (· ≠ '.') := by
  have hsign (c : Char) : (!isSeparator c) = (decide (c.toLower ≠ '.') && !isFiller c) := by
    rw [Bool.and_comm]
    simp [isSeparator, isFiller, toLower_eq_iff (d := '.') rfl, Bool.and_assoc]
  rw [fold, squeeze, List.filter_map, List.filter_filter]
  exact congrArg (fun p => (s.filter p).map Char.toLower) (funext hsign)

/-! ### Trimming -/

theorem OnlySpaces.trimStart (h : OnlySpaces s) : OnlySpaces (trimStart s) :=
  fun c hc => h c ((List.dropWhile_sublist _).subset hc)

theorem squeeze_trimStart (h : OnlySpaces s) : squeeze (trimStart s) = squeeze s := by
  induction s with
  | nil => rfl
  | cons c s ih =>
    rw [Text.trimStart, List.dropWhile_cons]
    split
    next hc =>
      cases h c (.head _) hc
      rw [squeeze_cons_filler rfl]
      exact ih fun d hd => h d (.tail _ hd)
    next => rfl

theorem squeeze_trimEnd (h : OnlySpaces s) : squeeze (trimEnd s) = squeeze s := by
  have hreverse : OnlySpaces s.reverse := fun c hc => h c (List.mem_reverse.mp hc)
  rw [trimEnd, squeeze_reverse, squeeze_trimStart hreverse, squeeze_reverse, List.reverse_reverse]

/-- Trimming spaces changes nothing of what counts in a name. -/
theorem squeeze_trim (h : OnlySpaces s) : squeeze (trim s) = squeeze s := by
  rw [trim, squeeze_trimEnd h.trimStart, squeeze_trimStart h]

/-! ### The codeset -/

/-- What follows the last dot is the same before and after squeezing, for no dot is squeezed out. -/
theorem afterLastDot?_squeeze (s : List Char) :
    afterLastDot? (squeeze s) = (afterLastDot? s).map squeeze := by
  induction s with
  | nil => rfl
  | cons c s ih =>
    cases hc : isFiller c with
    | true =>
      have hdot : c ≠ '.' := by
        rintro rfl
        cases hc
      rw [squeeze_cons_filler hc, ih, afterLastDot?]
      cases afterLastDot? s with
      | none   => simp [hdot]
      | some r => rfl
    | false =>
      rw [squeeze_cons hc, afterLastDot?, afterLastDot?, ih]
      cases afterLastDot? s with
      | none   =>
        simp only [Option.map_none, toLower_eq_iff (d := '.') rfl]
        split <;> rfl
      | some r => rfl

/-- What comes before the mark is the same before and after squeezing. -/
theorem takeWhile_squeeze (s : List Char) :
    (squeeze s).takeWhile (· ≠ '@') = squeeze (s.takeWhile (· ≠ '@')) := by
  have hmark (c : Char) : (!(!isFiller c) || decide (c.toLower ≠ '@')) = decide (c ≠ '@') := by
    by_cases hc : c = '@'
    · subst hc
      rfl
    · simp [hc, toLower_eq_iff (d := '@') rfl]
  rw [squeeze, List.takeWhile_map, List.takeWhile_filter]
  exact congrArg (fun p : Char → Bool => squeeze (s.takeWhile p)) (funext hmark)

/-- What is left of the codeset is the codeset of what is left. -/
theorem codeset?_squeeze (s : List Char) : codeset? (squeeze s) = (codeset? s).map squeeze := by
  rw [codeset?, codeset?, afterLastDot?_squeeze, Option.map_map, Option.map_map]
  exact congrArg (Option.map · (afterLastDot? s)) (funext takeWhile_squeeze)

/-! ### Finding a name -/

variable {entries entries' : List Entry}

/-- No two names in the registry agree. -/
theorem standard_distinct : Distinct standard := by decide +kernel

theorem Distinct.perm (h : Distinct entries) (hp : entries.Perm entries') : Distinct entries' :=
  (hp.map _).nodup_iff.mp h

theorem find_congr (h : squeeze s = squeeze t) : find entries s = find entries t := by
  rw [find, find, fold_eq_filter s, fold_eq_filter t, h]

/-- Where no two names agree, what is found is the one entry whose name agrees. -/
theorem find_eq_some_iff (h : Distinct entries) {cp : Codepage} : find entries s = some cp ↔
    ∃ e ∈ entries, fold e.name.toList = fold s ∧ e.codepage = cp := by
  rw [find, Option.map_eq_some_iff]
  constructor
  · rintro ⟨e, he, hcp⟩
    exact ⟨e, List.mem_of_find?_eq_some he, by simpa using List.find?_some he, hcp⟩
  · rintro ⟨e, he, hfold, hcp⟩
    have hsome : (entries.find? fun e => fold e.name.toList = fold s).isSome :=
      List.find?_isSome.mpr ⟨e, he, decide_eq_true hfold⟩
    -- the search may stop at an earlier entry, but two that agree are one
    obtain ⟨e', he'⟩ := Option.isSome_iff_exists.mp hsome
    have hagree : fold e'.name.toList = fold s := by simpa using List.find?_some he'
    have hsame : e' = e := List.inj_on_of_nodup_map h (List.mem_of_find?_eq_some he') he
      (hagree.trans hfold.symm)
    exact ⟨e, hsame ▸ he', hcp⟩

/-- Where names are distinct, the order of the entries makes no difference. -/
theorem find_perm (h : Distinct entries) (hp : entries.Perm entries') :
    find entries' = find entries := by
  funext s
  refine Option.ext fun cp => ?_
  rw [find_eq_some_iff h, find_eq_some_iff (h.perm hp)]
  simp only [hp.mem_iff]

/-! ### Looking a name up -/

theorem bind_codeset?_congr (h : squeeze s = squeeze t) :
    (codeset? s).bind (find entries) = (codeset? t).bind (find entries) := by
  have hcodeset := congrArg codeset? h
  rw [codeset?_squeeze, codeset?_squeeze] at hcodeset
  cases hs : codeset? s with
  | none =>
    rw [hs] at hcodeset
    rw [Option.map_eq_none_iff.mp hcodeset.symm]
  | some a =>
    rw [hs] at hcodeset
    obtain ⟨b, hb, hab⟩ := Option.map_eq_some_iff.mp hcodeset.symm
    rw [hb]
    exact find_congr hab.symm

/-- The whole name comes first, and then its codeset.  That blanks alone are no name needs no case
of its own where no entry agrees with nothing. -/
theorem lookup_eq (hnil : find entries [] = none) (name : String) : lookup entries name =
    (find entries (trim name.toList)).or ((codeset? (trim name.toList)).bind (find entries)) := by
  rw [lookup]
  split
  next h =>
    rw [h, hnil]
    rfl
  next => cases find entries (trim name.toList) <;> rfl

/-- No codepage has an empty name. -/
theorem find_standard_nil : find standard [] = none := by decide +kernel

/-- Names with no blanks but spaces that are squeezed to the same are looked up alike. -/
theorem lookup_congr {a b : String} (ha : OnlySpaces a.toList) (hb : OnlySpaces b.toList)
    (h : squeeze a.toList = squeeze b.toList) : lookup standard a = lookup standard b := by
  have htrim : squeeze (trim a.toList) = squeeze (trim b.toList) := by
    rw [squeeze_trim ha, squeeze_trim hb, h]
  rw [lookup_eq find_standard_nil, lookup_eq find_standard_nil, find_congr htrim,
    bind_codeset?_congr htrim]

/-- A look-up does not depend on the order of the entries, if their names are distinct. -/
theorem lookup_perm (h : Distinct entries) (hp : entries.Perm entries') (name : String) :
    lookup entries' name = lookup entries name := by
  rw [lookup, lookup, find_perm h hp]

/-- Parsing finds what looking up finds, and has words for the failure. -/
theorem parse_toOption (entries : List Entry) (name : String) :
    (parse entries name).toOption = lookup entries name := by
  rw [parse]
  cases lookup entries name <;> rfl

/-- **However a name is spelled, and however the registry is ordered**, the answer is the same.  Two
names whose only blanks are spaces, and of which the same is left without fillers and in lower case,
are both refused or both taken for the same codepage; and no name at all is taken for another
codepage, or refused in another way, where the entries stand in another order. -/
theorem lookup_respelled :
    (∀ a b : String, OnlySpaces a.toList → OnlySpaces b.toList →
      squeeze a.toList = squeeze b.toList →
        (Codepage.parse a).toOption = (Codepage.parse b).toOption ∧
          Codepage.resolve (some a) = Codepage.resolve (some b)) ∧
    ∀ entries : List Entry, entries.Perm standard → ∀ name : String,
      parse entries name = Codepage.parse name ∧
        resolve entries (some name) = Codepage.resolve (some name) := by
  constructor
  · intro a b ha hb h
    have hlookup : lookup standard a = lookup standard b := lookup_congr ha hb h
    constructor
    · rw [Codepage.parse, Codepage.parse, parse_toOption, parse_toOption, hlookup]
    · exact congrArg (Option.getD · .utf8) hlookup
  · intro entries hp name
    have hlookup := lookup_perm standard_distinct hp.symm name
    constructor
    · rw [Codepage.parse, parse, parse, hlookup]
    · exact congrArg (Option.getD · .utf8) hlookup

/-- A codeset among spaces, with a language and a modifier, and in a registry turned round. -/
theorem lookup_respelled_codeset :
    let a := " de_DE. ISO 8859_15@Euro "
    let b := "dede.iso-8859-15@EU-RO"
    (OnlySpaces a.toList ∧ OnlySpaces b.toList ∧ squeeze a.toList = squeeze b.toList ∧
      standard.reverse.Perm standard) ∧
      Codepage.parse b = .ok (.charset .latin9) ∧
      (Codepage.parse a).toOption = some (.charset .latin9) ∧
      parse standard.reverse b = .ok (.charset .latin9) ∧
      resolve standard.reverse (some a) = .charset .latin9 := by
  intro a b
  have ha : OnlySpaces a.toList := by decide +kernel
  have hb : OnlySpaces b.toList := by decide +kernel
  have h : squeeze a.toList = squeeze b.toList := by decide +kernel
  have hp : standard.reverse.Perm standard := List.reverse_perm _
  have hparse : Codepage.parse b = .ok (.charset .latin9) := by decide +kernel
  obtain ⟨hstrict, hsoft⟩ := lookup_respelled.1 a b ha hb h
  refine ⟨⟨ha, hb, h, hp⟩, hparse, ?_, ?_, ?_⟩
  · rw [hstrict, hparse]
    rfl
  · exact (lookup_respelled.2 _ hp b).1.trans hparse
  · rw [(lookup_respelled.2 _ hp a).2, hsoft]
    decide +kernel

end TerminalText.Registry
