import Mathlib.Algebra.Group.Nat.Defs
import Mathlib.Logic.ExistsUnique
import TerminalText.Interval

/-!
# Searching by halves

`RangeTable.contains` is made for tables whose ranges ascend, but it is a loop over any table.

* `contains?` runs the loop with nothing granted: it fails where it would look outside the table,
  and where it is not done after a number of probes.  It does not fail with one probe more than the
  binary logarithm of the length (`contains?_eq`).
* In a well-formed table a range that holds the point is never left out of the window
  (`searchWithin_complete`), as all before it end lower and all behind it begin higher.

`contains_eq_scan` puts these together with the soundness of the search, for which the table need
not be in any order.
-/

namespace TerminalText.RangeTable

/-! ### The search as a loop -/

/-- Looks for `p` in the ranges from `lo` up to and without `hi`, with so many probes; there is no
answer if the probes do not suffice, or if one is outside the table. -/
def searchWithin? (t : RangeTable) (p : Nat) (probes lo hi : Nat) : Option Bool :=
  if lo < hi then
    let mid := lo + (hi - lo) / 2
    match probes, t[mid]? with
    | probes + 1, some i =>
      if i.last < p then searchWithin? t p probes (mid + 1) hi
      else if p < i.first then searchWithin? t p probes lo mid
      else some true
    | _, _ => none
  else some false

/-- Looks for `p` in the table, with so many probes. -/
def contains? (t : RangeTable) (p : Nat) (probes : Nat) : Option Bool :=
  match t[0]?, t.back? with
  | some lowest, some highest =>
    if p < lowest.first ∨ highest.last < p then some false
    else t.searchWithin? p probes 0 t.size
  | _, _ => some false

/-- Each probe halves the window, and is within it. -/
theorem searchWithin?_eq {t : RangeTable} {p lo hi probes : Nat} (hhi : hi ≤ t.size)
    (h : hi - lo < 2 ^ probes) :
    t.searchWithin? p probes lo hi = some (t.searchWithin p lo hi hhi) := by
  induction probes generalizing lo hi with
  | zero =>
    have hempty : ¬ lo < hi := by omega
    rw [searchWithin?, searchWithin, if_neg hempty, dif_neg hempty]
  | succ probes ih =>
    rw [Nat.pow_succ] at h
    rw [searchWithin?, searchWithin]
    by_cases hlt : lo < hi
    · have hmid : lo + (hi - lo) / 2 < t.size := by omega
      simp only [hlt, if_true, dif_pos, Array.getElem?_eq_getElem hmid]
      split
      · exact ih hhi (by omega)
      · split
        · exact ih (Nat.le_of_lt hmid) (by omega)
        · rfl
    · rw [if_neg hlt, dif_neg hlt]

/-- With probes enough, the search comes to its answer without a look beyond the table. -/
theorem contains?_eq {t : RangeTable} {p probes : Nat} (h : t.size < 2 ^ probes) :
    t.contains? p probes = some (t.contains p) := by
  rw [contains?, contains, searchWithin?_eq (Nat.le_refl _) h]
  cases t[0]? with
  | none => rfl
  | some lowest =>
    cases t.back? with
    | none => rfl
    | some highest => exact (apply_ite some _ _ _).symm

/-! ### Tables as lists

What is to hold of each range of a long table is quicker to decide along its list. -/

theorem covers_iff_toList {t : RangeTable} {p : Nat} : t.Covers p ↔ ∃ i ∈ t.toList, p ∈ i := by
  simp only [Covers, Array.mem_toList_iff]

theorem wellFormed_iff_toList {t : RangeTable} : t.WellFormed ↔
    (∀ i ∈ t.toList, i.first ≤ i.last) ∧ Ascending t.toList := by
  simp only [WellFormed, Array.mem_toList_iff]

/-! ### Well-formed tables -/

/-- Ranges that are none of them empty, and each of which ends before the next, end before all that
come later. -/
theorem pairwise_of_ascending {r : List Interval} (hne : ∀ i ∈ r, i.first ≤ i.last)
    (h : Ascending r) : r.Pairwise fun i j => i.last < j.first := by
  induction r with
  | nil => exact .nil
  | cons i r ih =>
    cases r with
    | nil => exact List.pairwise_singleton _ _
    | cons j r =>
      obtain ⟨hij, hr⟩ := h
      have htail := ih (fun k hk => hne k (.tail _ hk)) hr
      have hj : j.first ≤ j.last := hne j (.tail _ (.head _))
      refine List.pairwise_cons.mpr ⟨fun k hk => ?_, htail⟩
      rcases List.mem_cons.mp hk with rfl | hk
      · exact hij
      · have hjk := List.rel_of_pairwise_cons htail hk
        omega

variable {t : RangeTable} {p j k : Nat}

/-- In a well-formed table each range ends before any later one begins. -/
theorem WellFormed.last_lt_first (h : t.WellFormed) (hjk : j < k) (hk : k < t.size) :
    t[j].last < t[k].first := by
  obtain ⟨hne, hascending⟩ := wellFormed_iff_toList.mp h
  exact List.pairwise_iff_getElem.mp (pairwise_of_ascending hne hascending) j k
    (Nat.lt_trans hjk hk) hk hjk

/-- Later ranges begin no lower, and end no lower. -/
theorem WellFormed.le_of_le (h : t.WellFormed) (hjk : j ≤ k) (hk : k < t.size) :
    t[j].first ≤ t[k].first ∧ t[j].last ≤ t[k].last := by
  rcases Nat.lt_or_eq_of_le hjk with hlt | rfl
  · have hborder := h.last_lt_first hlt hk
    have hj := h.1 t[j] (Array.getElem_mem _)
    have hk := h.1 t[k] (Array.getElem_mem _)
    omega
  · exact ⟨Nat.le_refl _, Nat.le_refl _⟩

/-- The ranges of a well-formed table share no point. -/
theorem WellFormed.eq_of_mem (h : t.WellFormed) (hj : j < t.size) (hk : k < t.size)
    (hpj : p ∈ t[j]) (hpk : p ∈ t[k]) : j = k := by
  rw [Interval.mem_def] at hpj hpk
  rcases Nat.lt_trichotomy j k with hlt | rfl | hlt
  · have := h.last_lt_first hlt hk
    omega
  · rfl
  · have := h.last_lt_first hlt hj
    omega

/-! ### Nothing is missed -/

/-- A range in the window that holds the point stays in the window until it is probed. -/
theorem searchWithin_complete (h : t.WellFormed) {lo hi : Nat} {hhi : hi ≤ t.size} (hlo : lo ≤ k)
    (hk : k < hi) (hp : p ∈ t[k]) : t.searchWithin p lo hi hhi = true := by
  rw [Interval.mem_def] at hp
  fun_induction searchWithin t p lo hi hhi with
  | case1 lo hi hhi _ mid hmid hlast ih =>
    rcases Nat.lt_or_ge mid k with hright | hleft
    · exact ih hright hk hp
    · -- what the probed range ends below, no range before it reaches
      have hends := (h.le_of_le hleft hmid).2
      omega
  | case2 lo hi hhi _ mid hmid _ hfirst ih =>
    rcases Nat.lt_or_ge k mid with hleft | hright
    · exact ih hlo hleft hp
    · have hbegins := (h.le_of_le hright (Nat.lt_of_lt_of_le hk hhi)).1
      omega
  | case3 => rfl
  | case4 => omega

/-- In a well-formed table every point that is covered is found. -/
theorem contains_complete (h : t.WellFormed) (hp : t.Covers p) : t.contains p = true := by
  obtain ⟨i, hi, hp⟩ := hp
  obtain ⟨k, hk, rfl⟩ := Array.mem_iff_getElem.mp hi
  have hne : 0 < t.size := Nat.zero_lt_of_lt hk
  -- the span of the table goes from its first range to its last
  have hlowest := (h.le_of_le (Nat.zero_le k) hk).1
  have hhighest := (h.le_of_le (Nat.le_sub_one_of_lt hk) (Nat.sub_one_lt_of_lt hne)).2
  have hspan : ¬ (p < t[0].first ∨ t[t.size - 1].last < p) := by
    rw [Interval.mem_def] at hp
    omega
  simp only [contains, Array.back?, Array.getElem?_eq_getElem hne,
    Array.getElem?_eq_getElem (Nat.sub_one_lt_of_lt hne), if_neg hspan]
  exact searchWithin_complete h (Nat.zero_le k) hk hp

/-- In a well-formed table the search finds what is covered. -/
theorem contains_iff (h : t.WellFormed) : t.contains p = true ↔ t.Covers p :=
  ⟨contains_sound, contains_complete h⟩

/-- **Searching by halves is looking at every range.**  In any table the search comes to an end,
with no probe outside the table, and a point that it finds is covered.  In a well-formed table it
finds every point that is covered, and a single range holds it. -/
theorem contains_eq_scan (t : RangeTable) (p : Nat) :
    t.contains? p (t.size.log2 + 1) = some (t.contains p) ∧
    (t.contains p = true → t.Covers p) ∧
    (t.WellFormed → (t.contains p = true ↔ t.Covers p) ∧
      (t.contains p = true → ∃! k : Fin t.size, p ∈ t[k])) := by
  refine ⟨contains?_eq Nat.lt_log2_self, contains_sound, fun h => ⟨contains_iff h, fun hp => ?_⟩⟩
  obtain ⟨i, hi, hp⟩ := contains_sound hp
  obtain ⟨k, hk, rfl⟩ := Array.mem_iff_getElem.mp hi
  exact ⟨⟨k, hk⟩, hp, fun j hj => Fin.ext (h.eq_of_mem j.isLt hk hj hp)⟩

/-- The point stands at the border of two ranges that touch. -/
theorem contains_eq_scan_border :
    let t : RangeTable := #[⟨0x10, 0x1F⟩, ⟨0x30, 0x30⟩, ⟨0x31, 0x35⟩, ⟨0x100, 0x1FF⟩]
    t.WellFormed ∧ t.contains 0x31 = true ∧ t.contains? 0x31 (t.size.log2 + 1) = some true ∧
      ∃! k : Fin t.size, 0x31 ∈ t[k] := by
  intro t
  have h : t.WellFormed := by decide
  obtain ⟨hloop, -, hwell⟩ := contains_eq_scan t 0x31
  have hfound : t.contains 0x31 = true := (hwell h).1.mpr (by decide)
  exact ⟨h, hfound, hloop.trans (congrArg some hfound), (hwell h).2 hfound⟩

end TerminalText.RangeTable
