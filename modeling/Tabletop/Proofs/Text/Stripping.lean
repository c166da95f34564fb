import Mathlib.Data.List.DropRight
import Tabletop.Proofs.Text.Runs
import Tabletop.Text.Blank

/-!
# Stripping

What is left of a text after stripping is a part of it (`strip_isInfix`) that
neither begins nor ends with a blank (`heads_strip`, `isBlank_getLast?_strip`),
so stripping twice is stripping once (`strip_strip`). Texts put together are
stripped part by part (`strip_append`).
-/

namespace Tabletop

namespace Text

/-! ## One text -/

theorem stripEnd_prefix (t : Text) : t.stripEnd <+: t :=
  List.rdropWhile_prefix CodePoint.isBlank t

theorem stripEnd_stripEnd (t : Text) : t.stripEnd.stripEnd = t.stripEnd :=
  List.rdropWhile_idempotent CodePoint.isBlank t

theorem strip_isInfix (t : Text) : t.strip <:+: t := by
  have hs : t.stripStart <:+ t := List.dropWhile_suffix _
  exact t.stripStart.stripEnd_prefix.isInfix.trans hs.isInfix

/-- What is left of a text after stripping does not end with a blank. -/
theorem isBlank_getLast?_strip {t : Text} {c : CodePoint} (h : t.strip.getLast? = some c) :
    c.isBlank = false := by
  rw [strip, stripEnd, List.getLast?_reverse] at h
  have := List.head?_dropWhile_not CodePoint.isBlank t.stripStart.reverse
  rw [h] at this
  exact this

/-- What is left of a text after stripping does not begin with a blank. -/
theorem heads_strip (t : Text) : t.strip.Heads fun c => c.isBlank = false := by
  have hstart : t.stripStart.Heads fun c => c.isBlank = false := fun c hc => by
    have := List.head?_dropWhile_not CodePoint.isBlank t
    rw [show t.dropWhile CodePoint.isBlank = t.stripStart from rfl, hc] at this
    exact this
  exact hstart.of_prefix t.stripStart.stripEnd_prefix

theorem stripStart_strip (t : Text) : t.strip.stripStart = t.strip := (heads_strip t).dropWhile_eq

/-- Stripping twice is stripping once. -/
theorem strip_strip (t : Text) : t.strip.strip = t.strip := by
  rw [strip, stripStart_strip, strip, stripEnd_stripEnd]

/-- Nothing is stripped from a text without blanks. -/
theorem strip_eq_self {t : Text} (h : ∀ c ∈ t, c.isBlank = false) : t.strip = t := by
  have hs : t.Heads fun c => c.isBlank = false := fun c hc => h c (List.mem_of_mem_head? hc)
  have hr : Heads (fun c => c.isBlank = false) t.reverse := fun c hc =>
    h c (List.mem_reverse.1 (List.mem_of_mem_head? hc))
  rw [strip, stripStart, hs.dropWhile_eq, stripEnd, hr.dropWhile_eq, List.reverse_reverse]

theorem isBlank_of_isBlank_stripStart {t : Text} (h : t.stripStart.isBlank) : t.isBlank := by
  refine List.all_eq_true.2 fun c hc => ?_
  rw [← List.takeWhile_append_dropWhile (p := CodePoint.isBlank) (l := t), List.mem_append] at hc
  rcases hc with hc | hc
  · exact List.all_eq_true.1 List.all_takeWhile c hc
  · exact List.all_eq_true.1 h c hc

theorem isBlank_of_stripEnd_eq_nil {t : Text} (h : t.stripEnd = []) : t.isBlank :=
  List.all_eq_true.2 (List.rdropWhile_eq_nil_iff.1 h)

/-! ## Texts put together -/

theorem stripEnd_append (s : Text) {t : Text} (h : ¬ t.isBlank) :
    (s ++ t).stripEnd = s ++ t.stripEnd := by
  have hne : ¬ (t.reverse.dropWhile CodePoint.isBlank).isEmpty := fun he =>
    h (isBlank_of_stripEnd_eq_nil (List.reverse_eq_nil_iff.2 (List.isEmpty_iff.1 he)))
  rw [stripEnd, List.reverse_append, List.dropWhile_append, if_neg hne, List.reverse_append,
    List.reverse_reverse, stripEnd]

theorem stripEnd_append_of_isBlank (s : Text) {t : Text} (h : t.isBlank) :
    (s ++ t).stripEnd = s.stripEnd := by
  have hr : ∀ c ∈ t.reverse, c.isBlank := fun c hc =>
    List.all_eq_true.1 h c (List.mem_reverse.1 hc)
  rw [stripEnd, List.reverse_append, List.dropWhile_append_of_pos hr, stripEnd]

theorem stripStart_append_of_strip {s : Text} (hs : s.strip = s) (hne : s ≠ []) (t : Text) :
    (s ++ t).stripStart = s ++ t := by
  cases s with
  | nil => exact absurd rfl hne
  | cons c s =>
    have hc := heads_strip (c :: s)
    rw [hs] at hc
    exact (Heads.cons (hc c rfl)).dropWhile_eq

theorem stripEnd_of_strip {s : Text} (hs : s.strip = s) : s.stripEnd = s := by
  by_cases hne : s = []
  · rw [hne]
    rfl
  · have h := stripStart_append_of_strip hs hne []
    rw [List.append_nil] at h
    rwa [strip, h] at hs

/-- Behind a stripped text only the end is stripped. -/
theorem strip_append_stripEnd {s : Text} (hs : s.strip = s) (hne : s ≠ []) (t : Text) :
    (s ++ t).strip = s ++ t.stripEnd := by
  rw [strip, stripStart_append_of_strip hs hne]
  by_cases ht : t.isBlank
  · have hnil : t.stripEnd = [] := stripEnd_append_of_isBlank [] ht
    rw [stripEnd_append_of_isBlank s ht, stripEnd_of_strip hs, hnil, List.append_nil]
  · exact stripEnd_append s ht

/-- Nothing is stripped from around two stripped texts. -/
theorem strip_append {s t : Text} (hs : s.strip = s) (hs' : s ≠ []) (ht : t.strip = t)
    (ht' : t ≠ []) (between : Text) : (s ++ between ++ t).strip = s ++ between ++ t := by
  have hblank : ¬ t.isBlank := fun hb => by
    have hnil : t.stripEnd = [] := stripEnd_append_of_isBlank [] hb
    exact ht' ((stripEnd_of_strip ht).symm.trans hnil)
  rw [List.append_assoc, strip_append_stripEnd hs hs', stripEnd_append between hblank,
    stripEnd_of_strip ht]

end Text

end Tabletop
