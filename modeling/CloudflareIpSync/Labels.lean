/-
CloudflareIpSync/Labels.lean

Lists read as labels between separators, like the labels of a domain name
between its dots.

A list of labels is a suffix of another one exactly if the text is the same, or
what is left of the other text ends in a separator (`splitOn_suffix_iff`).  So
"equal, or ends in a dot and the name" is a test on whole labels.  Among the
suffixes of one list of labels, the longer text has the more labels
(`length_splitOn_le_iff`).
-/
import Mathlib.Data.List.Infix

namespace Labels

variable {α : Type*} [BEq α] [LawfulBEq α] {sep : α} {xs ys zs : List α}

omit [BEq α] [LawfulBEq α] in
/-- The last labels follow a separator, if they are not all labels. -/
theorem exists_intercalate_append {ls ms : List (List α)} (hls : ls ≠ []) (hms : ms ≠ []) :
    ∃ before, [sep].intercalate (ls ++ ms) = before ++ sep :: [sep].intercalate ms := by
  induction ls with
  | nil => exact absurd rfl hls
  | cons l ls ih =>
      rw [List.cons_append, List.intercalate_cons_of_ne_nil (by simp [hms])]
      by_cases hrest : ls = []
      · refine ⟨l, ?_⟩
        rw [hrest, List.nil_append, List.append_assoc, List.singleton_append]
      · obtain ⟨before, hbefore⟩ := ih hrest
        refine ⟨l ++ [sep] ++ before, ?_⟩
        rw [hbefore, List.append_assoc (l ++ [sep])]

theorem splitOn_inj (h : xs.splitOn sep = ys.splitOn sep) : xs = ys := by
  calc xs = [sep].intercalate (xs.splitOn sep) := (List.intercalate_splitOn sep).symm
    _ = [sep].intercalate (ys.splitOn sep) := by rw [h]
    _ = ys := List.intercalate_splitOn sep

/-- **Labels and text.** -/
theorem splitOn_suffix_iff :
    ys.splitOn sep <:+ xs.splitOn sep ↔ ys = xs ∨ sep :: ys <:+ xs := by
  constructor
  · rintro ⟨ls, hls⟩
    rcases eq_or_ne ls [] with rfl | hne
    · exact .inl (splitOn_inj hls)
    · obtain ⟨before, hbefore⟩ : ∃ before, [sep].intercalate (ls ++ ys.splitOn sep) =
          before ++ sep :: [sep].intercalate (ys.splitOn sep) :=
        exists_intercalate_append hne (List.splitOn_ne_nil sep ys)
      rw [hls, List.intercalate_splitOn, List.intercalate_splitOn] at hbefore
      exact .inr ⟨before, hbefore.symm⟩
  · rintro (rfl | ⟨before, rfl⟩)
    · exact List.suffix_refl _
    · rw [List.splitOn_append_cons_self]
      exact List.suffix_append _ _

theorem suffix_of_splitOn_suffix (h : ys.splitOn sep <:+ xs.splitOn sep) : ys <:+ xs := by
  rcases splitOn_suffix_iff.mp h with rfl | h
  · exact List.suffix_refl ys
  · exact (List.suffix_cons sep ys).trans h

/-- The longer of two suffixes has the more labels. -/
theorem length_splitOn_le_iff (hys : ys.splitOn sep <:+ xs.splitOn sep)
    (hzs : zs.splitOn sep <:+ xs.splitOn sep) :
    (ys.splitOn sep).length ≤ (zs.splitOn sep).length ↔ ys.length ≤ zs.length := by
  constructor
  · intro hle
    have hsuffix := List.suffix_of_suffix_length_le hys hzs hle
    exact (suffix_of_splitOn_suffix hsuffix).length_le
  · intro hle
    rcases List.suffix_or_suffix_of_suffix hys hzs with h | h
    · exact h.length_le
    · -- then the texts have the same length, so they are the same
      have heq := (suffix_of_splitOn_suffix h).eq_of_length_le hle
      rw [heq]

end Labels
