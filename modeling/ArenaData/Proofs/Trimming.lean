import ArenaData.Text.Blank
import Mathlib.Data.List.DropRight

/-!
# Blanks around texts

Trimming takes away the blanks at the two ends of a text, whatever their number, and nothing more:
a trimmed text stays as it is, and blanks that are put around a text are taken away again.
-/

namespace ArenaData.Text

variable {c : Char} {front back : Text}

/-! ## What is left -/

theorem trim_sublist (t : Text) : t.trim.Sublist t :=
  (List.rdropWhile_prefix isBlank t.trimLeft).sublist.trans (List.dropWhile_sublist isBlank)

/-- Nothing is left to be taken away at the front once the end has been trimmed as well: the first
character of what is left is the first one of the text. -/
theorem trimLeft_trimRight {t : Text} (h : t.trimLeft = t) :
    t.trimRight.trimLeft = t.trimRight := by
  rw [trimLeft, List.dropWhile_eq_self_iff] at h ⊢
  intro hpos
  have hfront : t.trimRight <+: t := List.rdropWhile_prefix isBlank t
  have hlong : 0 < t.length := hpos.trans_le hfront.length_le
  have hfirst : t.trimRight[0] = t[0] := hfront.getElem hpos
  rw [hfirst]
  exact h hlong

theorem trim_trim (t : Text) : t.trim.trim = t.trim := by
  have hfront : t.trim.trimLeft = t.trim :=
    trimLeft_trimRight (List.dropWhile_idempotent isBlank t)
  rw [trim, hfront]
  exact List.rdropWhile_idempotent isBlank t.trimLeft

/-- Nothing is taken away in front of a character that is no blank. -/
theorem trim_cons_of_not_blank (hc : isBlank c = false) (t : Text) :
    trim (c :: t) = c :: t.trimRight := by
  have hstay : ¬ isBlank c = true := by simp [hc]
  rw [trim, trimLeft, List.dropWhile_cons_of_neg hstay, trimRight, List.reverse_cons,
    List.dropWhile_append]
  split
  · rename_i hnone
    rw [List.dropWhile_cons_of_neg hstay, trimRight, List.isEmpty_iff.mp hnone]
    rfl
  · rw [List.reverse_append]
    rfl

/-! ## What is taken away -/

/-- The text is nothing but blanks. -/
def AllBlank (t : Text) : Prop := ∀ c ∈ t, isBlank c = true

instance (t : Text) : Decidable (AllBlank t) :=
  decidable_of_iff (t.all isBlank = true) List.all_eq_true

theorem trim_concat (hc : isBlank c) (t : Text) : (t ++ [c]).trim = t.trim := by
  have hright (s : Text) : (s ++ [c]).trimRight = s.trimRight := by
    rw [trimRight, trimRight, List.reverse_append, List.reverse_singleton, List.singleton_append,
      List.dropWhile_cons_of_pos hc]
  rw [trim, trim, trimLeft, trimLeft, List.dropWhile_append]
  split
  · rename_i hblank
    rw [List.isEmpty_iff.mp hblank, List.dropWhile_cons_of_pos hc, List.dropWhile_nil]
  · exact hright _

theorem trim_append_blanks (t : Text) (h : AllBlank back) : (t ++ back).trim = t.trim := by
  induction back generalizing t with
  | nil => rw [List.append_nil]
  | cons c back ih =>
    have hback : AllBlank back := fun d hd => h d (List.mem_cons_of_mem c hd)
    rw [List.append_cons, ih (t ++ [c]) hback, trim_concat (h c List.mem_cons_self)]

theorem trim_between_blanks (hfront : AllBlank front) (t : Text) (hback : AllBlank back) :
    (front ++ t ++ back).trim = t.trim := by
  rw [trim_append_blanks _ hback, trim, trimLeft, List.dropWhile_append_of_pos hfront]
  rfl

/-- What is taken away at the end is blank, so it does not matter which end is trimmed first. -/
theorem trim_trimRight (t : Text) : t.trimRight.trim = t.trim := by
  have hcut : t = t.trimRight ++ (t.reverse.takeWhile isBlank).reverse := by
    rw [trimRight, ← List.reverse_append, List.takeWhile_append_dropWhile, List.reverse_reverse]
  have hblank : AllBlank (t.reverse.takeWhile isBlank).reverse := fun c hc =>
    List.mem_takeWhile_imp (List.mem_reverse.mp hc)
  conv_rhs => rw [hcut]
  exact (trim_append_blanks _ hblank).symm

end ArenaData.Text
