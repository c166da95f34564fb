import Tabletop.Text.CodePoint

/-!
# Runs of code points

A text is taken apart where a run ends: the run is of one kind, and the first
code point behind it, if there is one, is of another (`Text.Heads`). So a text
can be cut at the first separator (`eq_of_append_separator`), joined parts can
be told apart (`Text.join_injective`), and cutting at every separator gives them
back (`Text.splitOn_join`).
-/

namespace Tabletop

/-- The first code point, if there is one, has a property. -/
def Text.Heads (p : CodePoint → Prop) (t : Text) : Prop := ∀ c ∈ t.head?, p c

namespace Text.Heads

variable {p q : CodePoint → Prop} {s t : Text}

theorem mono (h : Heads p t) (hpq : ∀ c, p c → q c) : Heads q t := fun c hc => hpq c (h c hc)

theorem cons {c : CodePoint} (h : p c) : Heads p (c :: t) := fun x hx => by
  rw [List.head?_cons, Option.mem_some_iff] at hx
  exact hx ▸ h

theorem append (hs : ∀ c ∈ s, p c) (ht : Heads p t) : Heads p (s ++ t) := by
  cases s with
  | nil => exact ht
  | cons c s => exact cons (hs c List.mem_cons_self)

theorem of_prefix (h : Heads p t) (hs : s <+: t) : Heads p s := by
  obtain ⟨u, rfl⟩ := hs
  cases s with
  | nil => exact fun _ hc => by cases hc
  | cons c s => exact cons (h c rfl)

theorem dropWhile_eq {f : CodePoint → Bool} (h : Heads (fun c => f c = false) t) :
    t.dropWhile f = t := by
  cases t with
  | nil => rfl
  | cons c t => rw [List.dropWhile_cons_of_neg (by simp [h c rfl])]

theorem takeWhile_eq {f : CodePoint → Bool} (h : Heads (fun c => f c = false) t) :
    t.takeWhile f = [] := by
  cases t with
  | nil => rfl
  | cons c t => rw [List.takeWhile_cons_of_neg (by simp [h c rfl])]

end Text.Heads

/-- A run and what follows it, taken apart where the run ends. -/
theorem dropWhile_run_append {f : CodePoint → Bool} {run t : Text} (hr : ∀ c ∈ run, f c)
    (ht : t.Heads fun c => f c = false) : (run ++ t).dropWhile f = t := by
  rw [List.dropWhile_append_of_pos hr, ht.dropWhile_eq]

theorem takeWhile_run_append {f : CodePoint → Bool} {run t : Text} (hr : ∀ c ∈ run, f c)
    (ht : t.Heads fun c => f c = false) : (run ++ t).takeWhile f = run := by
  rw [List.takeWhile_append_of_pos hr, ht.takeWhile_eq, List.append_nil]

/-! ## Separators -/

/-- Two texts cut at the first separator. -/
theorem eq_of_append_separator {sep : CodePoint} {s s' t t' : Text} (hs : sep ∉ s) (hs' : sep ∉ s')
    (h : s ++ sep :: t = s' ++ sep :: t') : s = s' ∧ t = t' := by
  have hrun : ∀ {s : Text}, sep ∉ s → ∀ c ∈ s, (c != sep) = true := fun hs c hc => by
    simpa using fun he : c = sep => hs (he ▸ hc)
  have hsep : ∀ t : Text, Text.Heads (fun c => (c != sep) = false) (sep :: t) :=
    fun t => .cons (by simp)
  have ht := takeWhile_run_append (hrun hs) (hsep t)
  rw [h, takeWhile_run_append (hrun hs') (hsep t')] at ht
  obtain rfl := ht
  exact ⟨rfl, (List.cons.inj (List.append_cancel_left h)).2⟩

theorem Text.join_cons_cons (sep t t' : Text) (ts : List Text) :
    join sep (t :: t' :: ts) = t ++ sep ++ join sep (t' :: ts) := rfl

theorem Text.join_cons_ne_nil {sep t : Text} {ts : List Text} (h : t ≠ []) :
    join sep (t :: ts) ≠ [] := by
  cases ts with
  | nil => exact h
  | cons t' ts => simp [join_cons_cons, h]

theorem Text.mem_join {sep : Text} {ts : List Text} {c : CodePoint} (h : c ∈ join sep ts) :
    c ∈ sep ∨ ∃ t ∈ ts, c ∈ t := by
  induction ts with
  | nil => cases h
  | cons t ts ih =>
    cases ts with
    | nil => exact .inr ⟨t, List.mem_cons_self, h⟩
    | cons t' ts =>
      rw [join_cons_cons, List.mem_append, List.mem_append] at h
      rcases h with (h | h) | h
      · exact .inr ⟨t, List.mem_cons_self, h⟩
      · exact .inl h
      · exact (ih h).imp_right fun ⟨t, ht, hc⟩ => ⟨t, List.mem_cons_of_mem _ ht, hc⟩

/-- Parts that do not hold the separator are what joined text is cut into. -/
theorem Text.splitOn_join {sep : CodePoint} {ts : List Text} (h : ∀ t ∈ ts, sep ∉ t)
    (hne : ts ≠ []) : (join [sep] ts).splitOn sep = ts := by
  have hj : join [sep] ts = [sep].intercalate ts := by
    clear h hne
    induction ts with
    | nil => rfl
    | cons t ts ih =>
      cases ts with
      | nil => simp [join, List.intercalate]
      | cons t' ts =>
        rw [join_cons_cons, ih]
        simp [List.intercalate]
  rw [hj, List.splitOn_intercalate sep h hne]

/-- Parts that are not empty and do not hold the separator can be told apart when joined. -/
theorem Text.join_injective {sep : CodePoint} {ts us : List Text}
    (ht : ∀ t ∈ ts, t ≠ [] ∧ sep ∉ t) (hu : ∀ u ∈ us, u ≠ [] ∧ sep ∉ u)
    (h : join [sep] ts = join [sep] us) : ts = us := by
  have hone : ∀ {t u u' : Text} {us : List Text}, sep ∉ t → t ≠ join [sep] (u :: u' :: us) :=
    fun ht h => ht (h ▸ by simp [join_cons_cons])
  induction ts generalizing us with
  | nil =>
    cases us with
    | nil => rfl
    | cons u us => exact absurd h.symm (join_cons_ne_nil (hu u List.mem_cons_self).1)
  | cons t ts ih =>
    obtain ⟨ht₁, hts⟩ := List.forall_mem_cons.1 ht
    cases us with
    | nil => exact absurd h (join_cons_ne_nil ht₁.1)
    | cons u us =>
      obtain ⟨hu₁, hus⟩ := List.forall_mem_cons.1 hu
      cases ts with
      | nil =>
        cases us with
        | nil => exact congrArg ([·]) h
        | cons u' us => exact absurd h (hone ht₁.2)
      | cons t' ts =>
        cases us with
        | nil => exact absurd h.symm (hone hu₁.2)
        | cons u' us =>
          simp only [join_cons_cons, List.append_assoc, List.singleton_append] at h
          obtain ⟨rfl, hj⟩ := eq_of_append_separator ht₁.2 hu₁.2 h
          rw [ih hts hus hj]

end Tabletop
