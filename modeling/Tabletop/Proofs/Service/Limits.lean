import Tabletop.Proofs.Effects
import Tabletop.Service.State

/-!
# Limits that are whole numbers

Under limits that are whole numbers every expression can be compared
(`Limits.check_int`), and what is wrong with it is answered
(`Limits.isRefusal_of_check`).
-/

namespace Tabletop

namespace Limits

theorem anyExceeds_int (limit : Int) (ns : List Int) :
    anyExceeds (.int limit) ns = .ok (ns.any (limit < ·)) := by
  induction ns with
  | nil => rfl
  | cons n ns ih =>
    show (if decide (limit < n) then .ok true else anyExceeds (.int limit) ns) = _
    rw [ih, List.any_cons]
    cases decide (limit < n) <;> rfl

variable {l : Limits} {dice sides : Int} (hd : l.maxDice = .int dice)
  (hs : l.maxSides = .int sides) (e : Expression)
include hd hs

theorem check_int :
    l.check e = if dice < diceCount e then refuse .dice (.int dice)
      else if (e.diceTerms.map (·.faces)).any (sides < ·) then refuse .sides (.int sides)
      else .ok () := by
  rw [check, hd, hs, anyExceeds_int]
  show (if decide (dice < diceCount e) then _ else _) = _
  simp only [decide_eq_true_eq]
  rfl

variable {e}

theorem isRefusal_of_check {fault : LimitFault} (h : l.check e = .error fault) :
    (ServiceFault.limit fault).isRefusal := by
  have hrefuse : ∀ {shown : Text → LimitFault} {limit : Value},
      (∀ text, (ServiceFault.limit (shown text)).isRefusal) → refuse shown limit = .error fault →
      (ServiceFault.limit fault).isRefusal := by
    intro shown limit hshown h
    unfold refuse at h
    split at h <;> cases h
    · exact hshown _
    · rfl
  rw [check_int hd hs] at h
  split at h
  · exact hrefuse (fun _ => rfl) h
  · split at h
    · exact hrefuse (fun _ => rfl) h
    · cases h

end Limits

end Tabletop
