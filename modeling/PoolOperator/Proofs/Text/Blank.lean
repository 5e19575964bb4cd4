import Mathlib.Data.List.Basic
import PoolOperator.Text.Blank

/-!
# What trimming leaves

A text is trimmed if it neither starts nor ends with a blank. Trimming finds the one trimmed text
that a text is but for blanks around it.
-/

namespace PoolOperator.Text

variable {cs t rest : List Char}

/-- Whether a text neither starts nor ends with a blank. -/
structure IsTrimmed (cs : List Char) : Prop where
  first {c : Char} (h : cs.head? = some c) : isBlank c = false
  last {c : Char} (h : cs.getLast? = some c) : isBlank c = false

/-- Whether a text is another one with blanks around it. -/
def IsPadded (t cs : List Char) : Prop :=
  ∃ before after, allBlank before = true ∧ allBlank after = true ∧ cs = before ++ t ++ after

theorem isTrimmed_of_forall (h : ∀ c ∈ cs, isBlank c = false) : IsTrimmed cs :=
  ⟨fun hc => h _ (List.mem_of_head? hc), fun hc => h _ (List.mem_of_getLast? hc)⟩

theorem isBlank_of_allBlank (h : allBlank cs = true) {c : Char} (hc : c ∈ cs) : isBlank c = true :=
  List.all_eq_true.mp h c hc

/-- No printable character of ASCII but the space is a blank. -/
theorem isBlank_eq_false_of_toNat {c : Char} (h : 33 ≤ c.toNat) (h' : c.toNat ≤ 126) :
    isBlank c = false := by
  simp only [isBlank, Bool.or_eq_false_iff, Bool.and_eq_false_iff, decide_eq_false_iff_not,
    beq_eq_false_iff_ne]
  omega

/-! ## One end -/

theorem trimStart_append (h : allBlank cs = true) (rest : List Char) :
    trimStart (cs ++ rest) = trimStart rest :=
  List.dropWhile_append_of_pos fun _ hc => isBlank_of_allBlank h hc

theorem trimEnd_append (h : allBlank cs = true) (rest : List Char) :
    trimEnd (rest ++ cs) = trimEnd rest := by
  have hreverse : ∀ c ∈ cs.reverse, isBlank c = true :=
    fun c hc => isBlank_of_allBlank h (List.mem_reverse.mp hc)
  rw [trimEnd, List.reverse_append, List.dropWhile_append_of_pos hreverse]
  rfl

theorem dropWhile_isBlank_of_head? (h : ∀ c, cs.head? = some c → isBlank c = false) :
    cs.dropWhile isBlank = cs := by
  cases cs with
  | nil => rfl
  | cons c cs => rw [List.dropWhile_cons, h c rfl, if_neg Bool.false_ne_true]

/-- All that is taken from the start is blank. -/
theorem exists_eq_append_trimStart (cs : List Char) :
    ∃ before, allBlank before = true ∧ cs = before ++ trimStart cs :=
  ⟨cs.takeWhile isBlank, List.all_takeWhile, List.takeWhile_append_dropWhile.symm⟩

theorem exists_eq_trimEnd_append (cs : List Char) :
    ∃ after, allBlank after = true ∧ cs = trimEnd cs ++ after := by
  refine ⟨(cs.reverse.takeWhile isBlank).reverse, ?_, ?_⟩
  · rw [allBlank, List.all_reverse]
    exact List.all_takeWhile
  · rw [trimEnd, ← List.reverse_append, List.takeWhile_append_dropWhile, List.reverse_reverse]

/-! ## Both ends -/

theorem isTrimmed_trim (cs : List Char) : IsTrimmed (trim cs) := by
  obtain ⟨after, -, hafter⟩ := exists_eq_trimEnd_append (trimStart cs)
  constructor
  · -- what the end is taken from starts as it did
    intro c hc
    have hstart : (trimStart cs).head? = some c := by
      rw [hafter, List.head?_append, show (trimEnd (trimStart cs)).head? = some c from hc]
      rfl
    have hfirst := List.head?_dropWhile_not isBlank cs
    rw [show (cs.dropWhile isBlank).head? = some c from hstart] at hfirst
    exact hfirst
  · intro c hc
    rw [trim, trimEnd, List.getLast?_reverse] at hc
    have hlast := List.head?_dropWhile_not isBlank (trimStart cs).reverse
    rw [hc] at hlast
    exact hlast

theorem trim_of_isTrimmed (h : IsTrimmed cs) : trim cs = cs := by
  have hstart : trimStart cs = cs := dropWhile_isBlank_of_head? fun _ => h.first
  have hend : cs.reverse.dropWhile isBlank = cs.reverse := by
    refine dropWhile_isBlank_of_head? fun c hc => h.last ?_
    rw [← List.head?_reverse, hc]
  rw [trim, hstart, trimEnd, hend, List.reverse_reverse]

theorem isPadded_trim (cs : List Char) : IsPadded (trim cs) cs := by
  obtain ⟨before, hbefore, hstart⟩ := exists_eq_append_trimStart cs
  obtain ⟨after, hafter, hend⟩ := exists_eq_trimEnd_append (trimStart cs)
  refine ⟨before, after, hbefore, hafter, ?_⟩
  rw [trim, List.append_assoc, ← hend, ← hstart]

/-- **Trimming** leaves the trimmed text that is there but for blanks around it, and no other. -/
theorem trim_eq_iff : trim cs = t ↔ IsTrimmed t ∧ IsPadded t cs := by
  constructor
  · rintro rfl
    exact ⟨isTrimmed_trim cs, isPadded_trim cs⟩
  · rintro ⟨ht, before, after, hbefore, hafter, rfl⟩
    have hstart : trimStart (before ++ t ++ after) = trimStart (t ++ after) := by
      rw [List.append_assoc, trimStart_append hbefore]
    cases t with
    | nil =>
      have hnil : trimStart (after ++ []) = [] := trimStart_append hafter []
      rw [List.append_nil] at hnil
      rw [trim, hstart, List.nil_append, hnil]
      rfl
    | cons c t =>
      have hsame : trimStart (c :: t ++ after) = c :: t ++ after :=
        dropWhile_isBlank_of_head? fun _ => ht.first
      have hself : trim (c :: t) = c :: t := trim_of_isTrimmed ht
      have hfirst : trimStart (c :: t) = c :: t := dropWhile_isBlank_of_head? fun _ => ht.first
      rw [trim, hfirst] at hself
      rw [trim, hstart, hsame, trimEnd_append hafter, hself]

/-! ## Parts of a trimmed text -/

/-- The first part of a trimmed text has blanks at its end only. -/
theorem IsTrimmed.left_eq_append (h : IsTrimmed (cs ++ rest)) (hpadded : IsPadded t cs) :
    ∃ after, allBlank after = true ∧ cs = t ++ after := by
  obtain ⟨before, after, hbefore, hafter, rfl⟩ := hpadded
  cases before with
  | nil => exact ⟨after, hafter, rfl⟩
  | cons c before =>
    have hblank := isBlank_of_allBlank hbefore List.mem_cons_self
    rw [h.first rfl] at hblank
    cases hblank

/-- The last part of a trimmed text has blanks at its start only. -/
theorem IsTrimmed.right_eq_append (h : IsTrimmed (rest ++ cs)) (hpadded : IsPadded t cs) :
    ∃ before, allBlank before = true ∧ cs = before ++ t := by
  obtain ⟨before, after, hbefore, hafter, rfl⟩ := hpadded
  rcases after.eq_nil_or_concat' with rfl | ⟨after, c, rfl⟩
  · exact ⟨before, hbefore, List.append_nil _⟩
  · have hblank := isBlank_of_allBlank hafter (List.mem_append_right after List.mem_cons_self)
    have hlast : (rest ++ (before ++ t ++ (after ++ [c]))).getLast? = some c := by simp
    rw [h.last hlast] at hblank
    cases hblank

/-- A text is trimmed if it starts and ends with trimmed texts that are not empty. -/
theorem IsTrimmed.append {last : List Char} (h : IsTrimmed cs) (hcs : cs ≠ [])
    (h' : IsTrimmed last) (hlast : last ≠ []) (rest : List Char) :
    IsTrimmed (cs ++ rest ++ last) := by
  constructor
  · intro c hc
    rw [List.append_assoc, List.head?_append_of_ne_nil _ hcs] at hc
    exact h.first hc
  · intro c hc
    rw [List.getLast?_append_of_ne_nil _ hlast] at hc
    exact h'.last hc

/-- There is nothing to cut a text at where the character is not in it. -/
theorem splitFirst?_eq_none {sep : Char} (h : sep ∉ cs) : splitFirst? sep cs = none := by
  rw [Option.eq_none_iff_forall_not_mem]
  rintro ⟨before, after⟩ hsplit
  obtain ⟨rfl, -⟩ := splitFirst?_eq_some.mp hsplit
  exact h (List.mem_append_right before List.mem_cons_self)

end PoolOperator.Text
