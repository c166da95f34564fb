import Tabletop.Dice.Roll
import Tabletop.Proofs.Effects

/-!
# What rolling draws

Rolling only adds draws to its source (`Source.after`). `Outcomes x post fail`
states what is known of a computation when it returns and when it fails, and
`Draws x post` that it fails only where the draws end (`RollFault.IsEnd`), as
all rolling of dice does. Both are closed under sequencing, where the second
step draws behind the first one.

What a die draws is told by the rules of its term (`Die.Follows`): what replaces
its first draw (`Replaced`), and what the dice draw that it brings (`Exploded`).
-/

namespace Tabletop

namespace Source

/-- A source that has given some more draws. -/
def after (s : Source) (ds : List Draw) : Source := { s with drawn := s.drawn ++ ds }

@[simp] theorem after_nil (s : Source) : s.after [] = s := by simp [after]

@[simp] theorem after_after (s : Source) (ds ds' : List Draw) :
    (s.after ds).after ds' = s.after (ds ++ ds') := by
  have : s.drawn ++ ds ++ ds' = s.drawn ++ (ds ++ ds') := Array.ext' (by simp)
  simp only [after, this]

theorem after_inj {s : Source} {ds ds' : List Draw} (h : s.after ds = s.after ds') : ds = ds' := by
  have := congrArg (fun s => s.drawn.toList) h
  simpa [after] using this

end Source

/-- Values as draws of dice with some faces. -/
def drawsOf (faces : Int) (values : List Int) : List Draw := values.map fun value => { faces, value }

theorem drawsOf_append (faces : Int) (vs ws : List Int) :
    drawsOf faces (vs ++ ws) = drawsOf faces vs ++ drawsOf faces ws := List.map_append

/-- A source that gives no more draws: it has reached its limit, or has no answer. -/
def RollFault.IsEnd (fault : RollFault) (s : Source) : Prop :=
  fault = .overLimit s.limit ∧ s.limit ≤ s.drawn.size ∨
    fault = .exhausted s.drawn.size ∧ ∃ faces, s.answer s.drawn.size faces = none

/-- How a computation that draws comes out. It only adds draws to its source. When it returns, its
value and its draws satisfy `post`; when it fails, the draws have ended, or the fault and the draws
satisfy `fail`. -/
structure Outcomes {α : Type} (x : Rolling α) (post : α → List Draw → Prop)
    (fail : RollFault → List Draw → Prop) : Prop where
  ok {s : Source} {a : α} {s' : Source} : x s = .ok a s' → ∃ ds, s' = s.after ds ∧ post a ds
  error {s : Source} {fault : RollFault} {s' : Source} : x s = .error fault s' →
    ∃ ds, s' = s.after ds ∧ (fault.IsEnd s' ∨ fail fault ds)

/-- A computation that fails only where the draws end. -/
abbrev Draws {α : Type} (x : Rolling α) (post : α → List Draw → Prop) : Prop :=
  Outcomes x post fun _ _ => False

variable {α β : Type}

namespace Outcomes

variable {x : Rolling α} {p q : α → List Draw → Prop} {fail fail' : RollFault → List Draw → Prop}

theorem mono (h : Outcomes x p fail) (hp : ∀ a ds, p a ds → q a ds)
    (hf : ∀ fault ds, fail fault ds → fail' fault ds) : Outcomes x q fail' where
  ok hx := by
    obtain ⟨ds, hs, ha⟩ := h.ok hx
    exact ⟨ds, hs, hp _ _ ha⟩
  error hx := by
    obtain ⟨ds, hs, he⟩ := h.error hx
    exact ⟨ds, hs, he.imp_right (hf _ _)⟩

theorem throw (fault : RollFault) :
    Outcomes (MonadExcept.throw fault : Rolling α) (fun _ _ => False)
      fun fault' ds => fault' = fault ∧ ds = [] where
  ok hx := by cases hx
  error {s _ _} hx := by
    cases hx
    exact ⟨[], (Source.after_nil s).symm, .inr ⟨rfl, rfl⟩⟩

/-- The second of two steps draws behind the first one, and each of them may fail. -/
theorem bind {f : α → Rolling β} {r : α → β → List Draw → Prop}
    {g : α → RollFault → List Draw → Prop} (hx : Outcomes x p fail)
    (hf : ∀ a ds, p a ds → Outcomes (f a) (r a) (g a)) :
    Outcomes (x >>= f) (fun b ds => ∃ a ds₁ ds₂, p a ds₁ ∧ r a b ds₂ ∧ ds = ds₁ ++ ds₂)
      fun fault ds => fail fault ds ∨
        ∃ a ds₁ ds₂, p a ds₁ ∧ g a fault ds₂ ∧ ds = ds₁ ++ ds₂ where
  ok h := by
    obtain ⟨a, s₁, h₁, h₂⟩ := rolling_bind_eq_ok_iff.1 h
    obtain ⟨ds₁, rfl, hp⟩ := hx.ok h₁
    obtain ⟨ds₂, rfl, hr⟩ := (hf a ds₁ hp).ok h₂
    exact ⟨ds₁ ++ ds₂, Source.after_after _ _ _, a, ds₁, ds₂, hp, hr, rfl⟩
  error h := by
    rcases rolling_bind_eq_error_iff.1 h with h₁ | ⟨a, s₁, h₁, h₂⟩
    · obtain ⟨ds, hs, he⟩ := hx.error h₁
      exact ⟨ds, hs, he.imp_right .inl⟩
    · obtain ⟨ds₁, rfl, hp⟩ := hx.ok h₁
      obtain ⟨ds₂, rfl, he⟩ := (hf a ds₁ hp).error h₂
      exact ⟨ds₁ ++ ds₂, Source.after_after _ _ _,
        he.imp_right fun h => .inr ⟨a, ds₁, ds₂, hp, h, rfl⟩⟩

end Outcomes

namespace Draws

variable {x : Rolling α} {p q : α → List Draw → Prop}

theorem mono (h : Draws x p) (hp : ∀ a ds, p a ds → q a ds) : Draws x q :=
  Outcomes.mono h hp fun _ _ h => h

theorem pure (a : α) : Draws (Pure.pure a) fun b ds => b = a ∧ ds = [] where
  ok hx := by
    obtain ⟨rfl, rfl⟩ := rolling_pure_eq_ok_iff.1 hx
    exact ⟨[], (Source.after_nil _).symm, rfl, rfl⟩
  error hx := by cases hx

theorem bind {f : α → Rolling β} {r : α → β → List Draw → Prop} (hx : Draws x p)
    (hf : ∀ a ds, p a ds → Draws (f a) (r a)) :
    Draws (x >>= f) fun b ds => ∃ a ds₁ ds₂, p a ds₁ ∧ r a b ds₂ ∧ ds = ds₁ ++ ds₂ := by
  refine (Outcomes.bind hx hf).mono (fun _ _ h => h) ?_
  rintro _ _ (h | ⟨_, _, _, _, h, _⟩) <;> exact h

end Draws

/-! ## Dice -/

/-- Values of which only the last one passes a test. -/
def OnlyLast (stop : Int → Bool) (vs : List Int) : Prop :=
  ∃ init last, vs = init ++ [last] ∧ (∀ v ∈ init, stop v = false) ∧ stop last = true

theorem OnlyLast.cons {stop : Int → Bool} {v : Int} {vs : List Int} (hv : stop v = false)
    (h : OnlyLast stop vs) : OnlyLast stop (v :: vs) := by
  obtain ⟨init, last, rfl, hi, hl⟩ := h
  exact ⟨v :: init, last, rfl, List.forall_mem_cons.2 ⟨hv, hi⟩, hl⟩

/-- The draws that replace a first draw: none, one, or as many as it takes to be above the
threshold. -/
inductive Replaced (term : DiceTerm) (first : Int) : List Int → Prop where
  | kept (h : term.reroll = .never ∨ term.rerollThreshold < first) : Replaced term first []
  | once (h : term.reroll = .once) (hf : first ≤ term.rerollThreshold) (v : Int) :
    Replaced term first [v]
  | untilAbove (h : term.reroll = .untilAbove) (hf : first ≤ term.rerollThreshold) (low : List Int)
    (hl : ∀ v ∈ low, v ≤ term.rerollThreshold) (v : Int) (hv : term.rerollThreshold < v) :
    Replaced term first (low ++ [v])

/-- The draws of the dice that a value brings: none, or highest faces and then another one. -/
inductive Exploded (term : DiceTerm) (value : Int) : List Int → Prop where
  | whole (h : ¬ (term.explode ∧ value = term.faces)) : Exploded term value []
  | burst (h : term.explode ∧ value = term.faces) (high : List Int)
    (hh : ∀ v ∈ high, v = term.faces) (v : Int) (hv : v ≠ term.faces) :
    Exploded term value (high ++ [v])

/-- A die that follows the rules of its term. -/
structure Die.Follows (term : DiceTerm) (d : Die) : Prop where
  replaced : Replaced term d.first d.replacements
  exploded : Exploded term d.resolved d.extras

/-- The dice of a term: as many as it asks for, each with its own draws. -/
structure RolledDice (term : DiceTerm) (dice : List Die) : Prop where
  length : dice.length = term.count.toNat
  follows : ∀ d ∈ dice, d.Follows term

end Tabletop
