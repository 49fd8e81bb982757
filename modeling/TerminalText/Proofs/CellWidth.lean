import Mathlib.Data.List.TakeWhile
import Mathlib.Data.Option.NAry
import TerminalText.CellWidth

/-!
# Runs and what has no width

A code point has no width exactly if it is a control (`ofPoint_eq_invalid_iff`): no test on the
tables, and no choice for ambiguous characters, makes or hides one.  A run has no width exactly if
one of its elements has none (`total_eq_none_iff`).

The columns of a run are a sum that is there only if every part of it is.  So a run may be measured
piece by piece (`total_append`) and in any order (`total_perm`), up to the NUL that ends it.

`ofRun_append` says this of code points: a piece that holds NUL hides all that follows, any other
adds its columns to those of the rest, and nothing but a control before the first NUL leaves a run
without a width.  A text is measured as its code points are (`ofText_eq_ofRun`).
-/

namespace TerminalText.CellWidth

/-! ### One code point -/

theorem columns_eq_none_iff {w : CellWidth} : w.columns = none ↔ w = invalid := by
  cases w <;> simp [columns]

theorem lt_of_isControl {p : Nat} (h : IsControl p) : p < 0xA0 := by
  rcases h with ⟨-, h⟩ | ⟨-, h⟩ <;> omega

/-- Where ambiguous characters are narrow, controls and nothing else have no width. -/
theorem plain_eq_invalid_iff {p : Nat} : plain p = invalid ↔ IsControl p := by
  by_cases hlow : p < 0x300
  · rw [plain, if_pos hlow]
    by_cases h₀ : p = 0
    · subst h₀
      simp [IsControl]
    · rw [if_neg h₀]
      by_cases hc : IsControl p <;> simp [hc]
  · refine iff_of_false ?_ fun hc => hlow (Nat.lt_trans (lt_of_isControl hc) (by decide))
    rw [plain, if_neg hlow]
    -- none of the tests beyond U+0300 ends in `invalid`
    repeat' split
    all_goals exact nofun

/-- Controls have no width, and all else has one. -/
theorem ofPoint_eq_invalid_iff {ambiguousWide : Bool} {p : Nat} :
    ofPoint ambiguousWide p = invalid ↔ IsControl p := by
  rw [ofPoint]
  split
  next h =>
    refine iff_of_false nofun fun hc => ?_
    rw [plain_eq_invalid_iff.mpr hc] at h
    cases h.2.1
  next => exact plain_eq_invalid_iff

/-! ### Sums that may be missing -/

variable {α β : Type} {columnsOf : α → Option Nat} {l m : List α}

/-- A run has no width if and only if one of its elements has none. -/
theorem total_eq_none_iff : total columnsOf l = none ↔ ∃ a ∈ l, columnsOf a = none := by
  induction l with
  | nil => simp [total]
  | cons a l ih =>
    simp only [List.mem_cons, exists_eq_or_imp, ← ih, total]
    cases columnsOf a with
    | none   => simp
    | some n => cases total columnsOf l <;> simp

theorem total_of_narrow (h : ∀ a ∈ l, columnsOf a = some 1) :
    total columnsOf l = some l.length := by
  induction l with
  | nil => rfl
  | cons a l ih =>
    rw [total, h a (.head _), ih fun b hb => h b (.tail _ hb)]
    exact congrArg some (Nat.add_comm 1 _)

theorem total_cons (a : α) (l : List α) :
    total columnsOf (a :: l) = Option.map₂ (· + ·) (columnsOf a) (total columnsOf l) := by
  rw [total]
  cases columnsOf a with
  | none   => rfl
  | some n => cases total columnsOf l <;> rfl

/-- What is measured in two pieces has the columns of both, if both have some. -/
theorem total_append (l m : List α) : total columnsOf (l ++ m) =
    Option.map₂ (· + ·) (total columnsOf l) (total columnsOf m) := by
  induction l with
  | nil =>
    rw [List.nil_append, total]
    cases total columnsOf m <;> simp
  | cons a l ih =>
    rw [List.cons_append, total_cons, total_cons, ih, Option.map₂_assoc Nat.add_assoc]

/-- The order of the elements makes no difference. -/
theorem total_perm (h : l.Perm m) : total columnsOf l = total columnsOf m := by
  induction h with
  | nil => rfl
  | cons a _ ih => rw [total_cons, total_cons, ih]
  | swap a b l => simp only [total_cons, Option.map₂_left_comm Nat.add_left_comm]
  | trans _ _ ih₁ ih₂ => exact ih₁.trans ih₂

theorem total_map (f : β → α) (l : List β) :
    total columnsOf (l.map f) = total (fun b => columnsOf (f b)) l := by
  induction l with
  | nil => rfl
  | cons b l ih => rw [List.map_cons, total_cons, total_cons, ih]

/-! ### Runs of code points -/

/-- Where one element alone gives NUL, it ends a run before or after the run is mapped. -/
theorem takeWhile_map_of_eq_zero_iff [DecidableEq α] {f : α → Nat} {nul : α}
    (h : ∀ a, f a = 0 ↔ a = nul) (l : List α) :
    (l.map f).takeWhile (· ≠ 0) = (l.takeWhile (· ≠ nul)).map f := by
  have hkept (a : α) : decide (f a ≠ 0) = decide (a ≠ nul) := by simp only [ne_eq, h]
  rw [List.takeWhile_map]
  exact congrArg (fun keeps => (l.takeWhile keeps).map f) (funext hkept)

/-- A run has no width if and only if a control stands in it before the first NUL. -/
theorem ofRun_eq_none_iff {ambiguousWide : Bool} {ps : List Nat} :
    ofRun ambiguousWide ps = none ↔ ∃ p ∈ ps.takeWhile (· ≠ 0), IsControl p := by
  simp only [ofRun, total_eq_none_iff, columns_eq_none_iff, ofPoint_eq_invalid_iff]

/-- A piece without NUL does not end the run. -/
theorem takeWhile_append_of_no_nul {ps : List Nat} (h : 0 ∉ ps) (rest : List Nat) :
    (ps ++ rest).takeWhile (· ≠ 0) = ps ++ rest.takeWhile (· ≠ 0) :=
  List.takeWhile_append_of_pos fun _ hp => decide_eq_true (ne_of_mem_of_not_mem hp h)

/-- A text has the columns of its code points. -/
theorem ofText_eq_ofRun (ambiguousWide : Bool) (text : String) :
    ofText ambiguousWide text = ofRun ambiguousWide (text.toList.map Char.toNat) := by
  have hnul (c : Char) : c.toNat = '\x00'.toNat ↔ c = '\x00' := Char.toNat_inj
  rw [ofText, ofRun, takeWhile_map_of_eq_zero_iff hnul, total_map]

/-- **Measuring in pieces.**  A piece that holds NUL has all the columns of a run that begins with
it.  One without NUL adds its columns to those of the rest, and if either has none, neither has the
run.  A run has no width exactly if a control stands in it before the first NUL, and what stands
there may stand in any order. -/
theorem ofRun_append (ambiguousWide : Bool) (xs ys : List Nat) :
    (0 ∈ xs → ofRun ambiguousWide (xs ++ ys) = ofRun ambiguousWide xs) ∧
    (0 ∉ xs → ofRun ambiguousWide (xs ++ ys) =
      Option.map₂ (· + ·) (ofRun ambiguousWide xs) (ofRun ambiguousWide ys)) ∧
    (ofRun ambiguousWide xs = none ↔ ∃ p ∈ xs.takeWhile (· ≠ 0), IsControl p) ∧
    ∀ xs' : List Nat, (xs'.takeWhile (· ≠ 0)).Perm (xs.takeWhile (· ≠ 0)) →
      ofRun ambiguousWide xs' = ofRun ambiguousWide xs := by
  refine ⟨fun h => ?_, fun h => ?_, ofRun_eq_none_iff, fun xs' hperm => total_perm hperm⟩
  · obtain ⟨ps, rest, rfl, hps⟩ := List.eq_append_cons_of_mem h
    rw [ofRun, ofRun, List.append_assoc, takeWhile_append_of_no_nul hps,
      takeWhile_append_of_no_nul hps]
    rfl
  · have hxs : xs.takeWhile (· ≠ 0) = xs := by simpa using takeWhile_append_of_no_nul h []
    rw [ofRun, ofRun, ofRun, takeWhile_append_of_no_nul h, total_append, hxs]

/-- Behind NUL a control makes no difference; before it an ideograph, a mark and a plus-minus sign
take two, no and two columns, and they do so turned round. -/
theorem ofRun_append_nul :
    let opened := [0x4E00, 0x300, 0xB1]
    let closed := [0x41, 0, 0x9B]
    (0 ∉ opened ∧ 0 ∈ closed ∧
      ((opened.reverse ++ closed).takeWhile (· ≠ 0)).Perm ((opened ++ closed).takeWhile (· ≠ 0))) ∧
      ofRun true (closed ++ opened) = some 1 ∧ ofRun true (opened ++ closed) = some 5 ∧
      ofRun true (opened.reverse ++ closed) = some 5 ∧ ofRun true (opened ++ [0x9B]) = none := by
  intro opened closed
  have hopened : 0 ∉ opened := by decide
  have hclosed : 0 ∈ closed := by decide
  have hperm : ((opened.reverse ++ closed).takeWhile (· ≠ 0)).Perm
      ((opened ++ closed).takeWhile (· ≠ 0)) := by decide
  have hsum : ofRun true (opened ++ closed) = some 5 :=
    ((ofRun_append true opened closed).2.1 hopened).trans (by decide +kernel)
  refine ⟨⟨hopened, hclosed, hperm⟩, ?_, hsum, ?_, ?_⟩
  · exact ((ofRun_append true closed opened).1 hclosed).trans (by decide +kernel)
  · exact ((ofRun_append true (opened ++ closed) []).2.2.2 _ hperm).trans hsum
  · exact (ofRun_append true (opened ++ [0x9B]) []).2.2.1.mpr (by decide)

end TerminalText.CellWidth
