import Tabletop.Data.Json.Reader
import Tabletop.Data.Json.Writer
import Tabletop.Proofs.Numeral
import Tabletop.Proofs.Text.Runs
import Tabletop.Text.Utf8

/-!
# Writing JSON, and numbers that are too long

Only a whole number can keep data from being written (`Json.CanWrite`): data can
be written when every whole number in it can. Data that is to be sent must not
be nested too deep either (`Json.Fits`). A text that is one whole number with
too many digits is a fault of its own for the reader (`Json.read_long`); its
bytes are its digits (`Utf8.decode_ascii`).
-/

namespace Tabletop

/-- Bytes below 128 are the characters with their numbers. -/
theorem Utf8.decode_ascii {bytes : List UInt8} (h : ∀ b ∈ bytes, b.toNat < 0x80) :
    decode bytes = some (bytes.map fun b => .char (Char.ofNat b.toNat)) := by
  have hpart : decodePart none bytes
      = some (bytes.map fun b => .char (Char.ofNat b.toNat), none) := by
    induction bytes with
    | nil => rfl
    | cons b bytes ih =>
      rw [List.forall_mem_cons] at h
      rw [decodePart, if_pos h.1, ih h.2]
      rfl
  rw [decode, hpart]

/-! ## Nesting -/

namespace Value

@[simp] theorem nesting_null : null.nesting = 0 := rfl

@[simp] theorem nesting_bool (b : Bool) : (bool b).nesting = 0 := rfl

@[simp] theorem nesting_int (k : Int) : (int k).nesting = 0 := rfl

@[simp] theorem nesting_text (t : Text) : (text t).nesting = 0 := rfl

variable {n : Nat}

theorem itemNesting_le_iff {items : List Value} :
    itemNesting items ≤ n ↔ ∀ item ∈ items, item.nesting ≤ n := by
  induction items with
  | nil => simp [itemNesting]
  | cons item items ih => rw [itemNesting, Nat.max_le, ih, List.forall_mem_cons]

theorem memberNesting_le_iff {members : List (Text × Value)} :
    memberNesting members ≤ n ↔ ∀ member ∈ members, member.2.nesting ≤ n := by
  induction members with
  | nil => simp [memberNesting]
  | cons member members ih => rw [memberNesting, Nat.max_le, ih, List.forall_mem_cons]

@[simp] theorem nesting_list_le_iff {items : List Value} :
    (list items).nesting ≤ n + 1 ↔ ∀ item ∈ items, item.nesting ≤ n := by
  rw [nesting, Nat.add_le_add_iff_right, itemNesting_le_iff]

@[simp] theorem nesting_object_le_iff {members : List (Text × Value)} :
    (object members).nesting ≤ n + 1 ↔ ∀ member ∈ members, member.2.nesting ≤ n := by
  rw [nesting, Nat.add_le_add_iff_right, memberNesting_le_iff]

end Value

namespace Json

/-! ## Writing -/

/-- Data that has a JSON text. -/
def CanWrite (v : Value) : Prop := ∃ t, write v = .ok t

@[simp] theorem canWrite_bool (b : Bool) : CanWrite (.bool b) := ⟨_, rfl⟩

@[simp] theorem canWrite_text (t : Text) : CanWrite (.text t) := ⟨_, rfl⟩

@[simp] theorem canWrite_int (n : Int) : CanWrite (.int n) ↔ Numeral.Writable n := by
  simp only [CanWrite, write, Numeral.write_eq_ok_iff, exists_and_left, exists_eq', and_true]

theorem exists_writeItems_iff {items : List Value} :
    (∃ ts, writeItems items = .ok ts) ↔ ∀ item ∈ items, CanWrite item := by
  induction items with
  | nil => simp [writeItems]
  | cons item items ih =>
    rw [List.forall_mem_cons, ← ih]
    simp only [writeItems, except_bind_eq_ok_iff, CanWrite]
    constructor
    · rintro ⟨_, t, ht, ts, hts, -⟩
      exact ⟨⟨t, ht⟩, ts, hts⟩
    · rintro ⟨⟨t, ht⟩, ts, hts⟩
      exact ⟨_, t, ht, ts, hts, rfl⟩

@[simp] theorem canWrite_list (items : List Value) :
    CanWrite (.list items) ↔ ∀ item ∈ items, CanWrite item := by
  rw [← exists_writeItems_iff]
  simp only [CanWrite, write, except_bind_eq_ok_iff]
  constructor
  · rintro ⟨_, ts, hts, -⟩
    exact ⟨ts, hts⟩
  · rintro ⟨ts, hts⟩
    exact ⟨_, ts, hts, rfl⟩

theorem exists_writeMembers_iff {members : List (Text × Value)} :
    (∃ ts, writeMembers members = .ok ts) ↔ ∀ member ∈ members, CanWrite member.2 := by
  induction members with
  | nil => simp [writeMembers]
  | cons member members ih =>
    rw [List.forall_mem_cons, ← ih]
    simp only [writeMembers, except_bind_eq_ok_iff, CanWrite]
    constructor
    · rintro ⟨_, t, ht, ts, hts, -⟩
      exact ⟨⟨t, ht⟩, ts, hts⟩
    · rintro ⟨⟨t, ht⟩, ts, hts⟩
      exact ⟨_, t, ht, ts, hts, rfl⟩

@[simp] theorem canWrite_object (members : List (Text × Value)) :
    CanWrite (.object members) ↔ ∀ member ∈ members, CanWrite member.2 := by
  rw [← exists_writeMembers_iff]
  simp only [CanWrite, write, except_bind_eq_ok_iff]
  constructor
  · rintro ⟨_, ts, hts, -⟩
    exact ⟨ts, hts⟩
  · rintro ⟨ts, hts⟩
    exact ⟨_, ts, hts, rfl⟩

@[simp] theorem canWrite_null : CanWrite .null := ⟨_, rfl⟩

@[simp] theorem canWrite_float (x : Binary64) : CanWrite (.float x) := ⟨_, rfl⟩

/-- Data that can be written, and is not nested deeper than so much. -/
structure Fits (n : Nat) (v : Value) : Prop where
  canWrite : CanWrite v
  nesting_le : v.nesting ≤ n

section Fits

variable {n : Nat}

/-- Data that is neither a list nor an object fits everywhere. -/
theorem fits_of_canWrite {v : Value} (h : CanWrite v) (hv : v.nesting = 0) : Fits n v :=
  ⟨h, hv ▸ n.zero_le⟩

theorem Fits.text (t : Text) : Fits n (.text t) := fits_of_canWrite (canWrite_text t) rfl

theorem fits_list_iff {items : List Value} :
    Fits (n + 1) (.list items) ↔ ∀ item ∈ items, Fits n item := by
  constructor
  · rintro ⟨hw, hn⟩ item hitem
    exact ⟨(canWrite_list items).1 hw item hitem, Value.nesting_list_le_iff.1 hn item hitem⟩
  · exact fun h => ⟨(canWrite_list items).2 fun item hitem => (h item hitem).canWrite,
      Value.nesting_list_le_iff.2 fun item hitem => (h item hitem).nesting_le⟩

theorem fits_object_iff {members : List (Text × Value)} :
    Fits (n + 1) (.object members) ↔ ∀ member ∈ members, Fits n member.2 := by
  constructor
  · rintro ⟨hw, hn⟩ member hmember
    exact ⟨(canWrite_object members).1 hw member hmember,
      Value.nesting_object_le_iff.1 hn member hmember⟩
  · exact fun h => ⟨(canWrite_object members).2 fun member hmember => (h member hmember).canWrite,
      Value.nesting_object_le_iff.2 fun member hmember => (h member hmember).nesting_le⟩

end Fits

/-! ## Numbers that are too long -/

variable {ds : Text}

theorem splitDigits_of_digits (hd : ∀ c ∈ ds, c.isDigit) : Numeral.splitDigits ds = (ds, []) := by
  have hnil : Text.Heads (fun c => c.isDigit = false) [] := fun _ h => by cases h
  have htake := takeWhile_run_append hd hnil
  have hdrop := dropWhile_run_append hd hnil
  rw [List.append_nil] at htake hdrop
  rw [Numeral.splitDigits, htake, hdrop]

theorem isWordPart_of_isDigit {c : CodePoint} (h : c.isDigit) : isWordPart c := by
  cases c with
  | char c =>
    have hc : c.isDigit = true := h
    simp [isWordPart, Char.isAlphanum, hc]
  | surrogate half => cases h

/-- A digit does not begin anything but a number. -/
theorem begins_of_isDigit {c : CodePoint} (h : c.isDigit) :
    isGap c = false ∧ punctuation? c = none ∧ c ≠ .char '"' := by
  refine ⟨Bool.eq_false_iff.2 fun hg => ?_, ?_, ?_⟩
  · simp only [isGap, Bool.or_eq_true, decide_eq_true_eq] at hg
    rcases hg with ((rfl | rfl) | rfl) | rfl <;> exact absurd h (by decide)
  · unfold punctuation?
    split <;> first | rfl | exact absurd h (by decide)
  · rintro rfl
    exact absurd h (by decide)

/-- A run of digits is no word. -/
theorem wordTokens_of_digits (hd : ∀ c ∈ ds, c.isDigit) : wordTokens ds = numberTokens ds := by
  have hword : ∀ word : String, ¬ (∀ c ∈ Text.ofString word, c.isDigit) →
      ds ≠ Text.ofString word := by
    rintro word hw rfl
    exact hw hd
  rw [wordTokens, if_neg (hword "null" (by decide)), if_neg (hword "true" (by decide)),
    if_neg (hword "false" (by decide)), if_neg (hword "NaN" (by decide)),
    if_neg (hword "Infinity" (by decide)), if_neg (hword "-Infinity" (by decide))]

section Long

variable (hd : ∀ c ∈ ds, c.isDigit) (hzero : ds.Heads (· ≠ .char '0'))
  (hl : Numeral.maxDigits < ds.length)
include hd hzero hl

theorem numberTokens_long : numberTokens ds = [.longNumber ds.length] := by
  have hread : Numeral.read ds = .error (.reading ds.length) :=
    (Numeral.read_eq_error_iff ds).2 hl
  have hsplit := splitDigits_of_digits hd
  cases ds with
  | nil => cases hl
  | cons c ds =>
    have hc : c.isDigit := hd c List.mem_cons_self
    have hwhole : splitWhole (c :: ds) = (c :: ds, []) := by
      rw [splitWhole]
      · exact hsplit
      · rintro rest h
        exact hzero c rfl (List.cons.inj h).1
    unfold numberTokens
    split
    rename_i negative digits h
    have hdigits : digits = c :: ds := by
      split at h
      · rename_i hcs
        rw [(List.cons.inj hcs).1] at hc
        exact absurd hc (by decide)
      · exact (Prod.mk.inj h).2.symm
    simp [hdigits, hwhole, hread, splitFraction, splitExponent]

theorem tokens_long : tokens ds = [.longNumber ds.length] := by
  have hnumber := numberTokens_long hd hzero hl
  cases ds with
  | nil => cases hl
  | cons c ds =>
    obtain ⟨hgap, hpunctuation, hquote⟩ := begins_of_isDigit (hd c List.mem_cons_self)
    have hpart : ∀ c ∈ ds, isWordPart c := fun c hc =>
      isWordPart_of_isDigit (hd c (List.mem_cons_of_mem _ hc))
    have hnil : Text.Heads (fun c => isWordPart c = false) [] := fun _ h => by cases h
    have htake := takeWhile_run_append hpart hnil
    have hdrop := dropWhile_run_append hpart hnil
    rw [List.append_nil] at htake hdrop
    have hend : tokens [] = [] := by rw [tokens]
    rw [tokens, hpunctuation]
    simp only [hgap, hquote, isWordPart_of_isDigit (hd c List.mem_cons_self), htake, hdrop, hend,
      wordTokens_of_digits hd, hnumber, Bool.false_eq_true, if_false, if_true, List.append_nil]

/-- A whole number with too many digits is refused as such. -/
theorem read_long (depth : Nat) : read depth ds = .error (.numeral (.reading ds.length)) := by
  rw [read, tokens_long hd hzero hl]
  rfl

end Long

end Json

end Tabletop
