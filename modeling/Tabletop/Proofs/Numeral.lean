import Mathlib.Algebra.Group.Nat.Defs
import Tabletop.Proofs.Effects

/-!
# Numerals written and read

* `write_eq_ok_iff`, `writeAll_eq_ok_iff`: a number is written exactly if it does
  not need too many digits (`Writable`), and then in full;
* `unlimited_injective`: different numbers have different texts;
* `value_digits`: the digits of a number have it as their value;
* `writable_value`: the value of a run of digits that can be read can be written.
-/

namespace Tabletop

namespace Numeral

/-! ## Texts of numbers -/

theorem isDigit_of_mem_digits {n : Nat} {c : CodePoint} (h : c ∈ digits n) : c.isDigit := by
  obtain ⟨d, hd, rfl⟩ := List.mem_map.1 h
  exact Nat.isDigit_of_mem_toDigits (by decide) (by decide) hd

theorem digits_ne_nil (n : Nat) : digits n ≠ [] := by
  rw [digits, ne_eq, List.map_eq_nil_iff]
  exact Nat.toDigits_ne_nil

theorem digits_injective {m n : Nat} (h : digits m = digits n) : m = n := by
  have h := List.map_inj_right (fun _ _ => CodePoint.char.inj) |>.1 h
  rw [← Nat.ofDigitChars_ten_toDigits (n := m), h, Nat.ofDigitChars_ten_toDigits]

/-- The text of a number is made of digits and the sign. -/
theorem mem_unlimited {n : Int} {c : CodePoint} (h : c ∈ unlimited n) :
    c.isDigit ∨ c = .char '-' := by
  cases n with
  | ofNat n => exact .inl (isDigit_of_mem_digits h)
  | negSucc n =>
    rcases List.mem_cons.1 h with h | h
    · exact .inr h
    · exact .inl (isDigit_of_mem_digits h)

theorem unlimited_ne_nil (n : Int) : unlimited n ≠ [] := by
  cases n with
  | ofNat n => exact digits_ne_nil n
  | negSucc n => exact List.cons_ne_nil _ _

theorem unlimited_injective {m n : Int} (h : unlimited m = unlimited n) : m = n := by
  have hsign : ∀ m n, digits m ≠ .char '-' :: digits n := fun m n h => by
    have : CodePoint.char '-' ∈ digits m := h ▸ List.mem_cons_self
    exact absurd (isDigit_of_mem_digits this) (by decide)
  cases m with
  | ofNat m =>
    cases n with
    | ofNat n => rw [digits_injective h]
    | negSucc n => exact absurd h (hsign m _)
  | negSucc m =>
    cases n with
    | ofNat n => exact absurd h.symm (hsign n _)
    | negSucc n => rw [Nat.succ.inj (digits_injective (List.cons.inj h).2)]

/-! ## Writing -/

/-- A number that does not need too many digits. -/
def Writable (n : Int) : Prop := (digits n.natAbs).length ≤ maxDigits

instance (n : Int) : Decidable (Writable n) := inferInstanceAs (Decidable (_ ≤ _))

theorem writable_iff_lt {n : Int} : Writable n ↔ n.natAbs < 10 ^ maxDigits := by
  rw [Writable, digits, List.length_map]
  exact Nat.length_toDigits_le_iff (by decide) (by decide)

theorem Writable.mono {m n : Int} (h : Writable n) (hm : m.natAbs ≤ n.natAbs) : Writable m := by
  rw [writable_iff_lt] at h ⊢
  exact Nat.lt_of_le_of_lt hm h

theorem write_eq_ok_iff {n : Int} {t : Text} :
    write n = .ok t ↔ Writable n ∧ unlimited n = t := by
  unfold write Writable
  split <;> simp [*]

theorem writeAll_eq_ok_iff {ns : List Int} {ts : List Text} :
    writeAll ns = .ok ts ↔ (∀ n ∈ ns, Writable n) ∧ ns.map unlimited = ts := by
  induction ns generalizing ts with
  | nil => simp [writeAll]
  | cons n ns ih =>
    simp only [writeAll, except_bind_eq_ok_iff, write_eq_ok_iff, ih, List.forall_mem_cons]
    constructor
    · rintro ⟨_, ⟨hn, rfl⟩, _, ⟨hns, rfl⟩, h⟩
      exact ⟨⟨hn, hns⟩, Except.ok.inj h⟩
    · rintro ⟨⟨hn, hns⟩, rfl⟩
      exact ⟨_, ⟨hn, rfl⟩, _, ⟨hns, rfl⟩, rfl⟩

/-! ## Reading -/

/-- By induction on the digits, with the number that stands before them. -/
theorem value_digits (n : Nat) : value (digits n) = n := by
  have hfold : ∀ (cs : List Char) (m : Nat), (∀ c ∈ cs, c.isDigit) →
      (cs.map CodePoint.char).foldl (fun n d => 10 * n + d.digitValue) m
        = Nat.ofDigitChars 10 cs m := by
    intro cs
    induction cs with
    | nil => exact fun _ _ => rfl
    | cons c cs ih =>
      intro m hd
      rw [List.forall_mem_cons] at hd
      rw [List.map_cons, List.foldl_cons, CodePoint.digitValue, if_pos hd.1, ih _ hd.2,
        Nat.ofDigitChars_cons]
  rw [value, digits, hfold _ _ fun c hc => Nat.isDigit_of_mem_toDigits (by decide) (by decide) hc,
    Nat.ofDigitChars_ten_toDigits]

theorem digitValue_le (c : CodePoint) : c.digitValue ≤ 9 := by
  cases c with
  | char c =>
    simp only [CodePoint.digitValue]
    split
    · rename_i h
      simp only [Char.isDigit, Bool.and_eq_true, decide_eq_true_eq] at h
      have : c.toNat ≤ 57 := h.2
      show c.toNat - 48 ≤ 9
      omega
    · exact Nat.zero_le _
  | surrogate half => exact Nat.zero_le _

/-- A run of digits has a value with as many digits at most. -/
theorem writable_value {ds : Text} (h : ds.length ≤ maxDigits) : Writable (value ds) := by
  have hfold : ∀ (ds : Text) (n : Nat),
      ds.foldl (fun n d => 10 * n + d.digitValue) n < (n + 1) * 10 ^ ds.length := by
    intro ds
    induction ds with
    | nil =>
      intro n
      simp
    | cons d ds ih =>
      intro n
      have hd := digitValue_le d
      calc ds.foldl (fun n d => 10 * n + d.digitValue) (10 * n + d.digitValue)
          < (10 * n + d.digitValue + 1) * 10 ^ ds.length := ih _
        _ ≤ ((n + 1) * 10) * 10 ^ ds.length := Nat.mul_le_mul_right _ (by omega)
        _ = (n + 1) * 10 ^ (ds.length + 1) := by rw [Nat.mul_assoc, Nat.pow_succ, Nat.mul_comm 10]
  have hv : value ds < 10 ^ ds.length := by
    have := hfold ds 0
    rwa [Nat.zero_add, Nat.one_mul] at this
  rw [writable_iff_lt]
  exact Nat.lt_of_lt_of_le hv (Nat.pow_le_pow_right (by decide) h)

end Numeral

end Tabletop
