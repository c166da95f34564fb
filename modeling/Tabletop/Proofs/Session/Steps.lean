import Tabletop.Proofs.Effects
import Tabletop.Session

/-!
# Steps of a session

What a step leads to is said for the case that it returns and for the case that
it fails (`Session.Leads`), and carried through steps one after the other
(`Leads.bind`). The steps before the connection is there touch the log only
(`leads_settings`, `leads_openLog`, `leads_argumentOr`), and what connecting
leads to depends on the host (`leads_connect`).
-/

namespace Tabletop

namespace Session

/-! ## What a step leads to -/

/-- What holds behind a step from where `pre` holds: `post` if it returns, and `fail` if it
fails. -/
structure Leads {α : Type} (pre : Session → Prop) (x : Running α) (post : Session → Prop)
    (fail : SessionFault → Session → Prop) : Prop where
  ok {s : Session} {a : α} {s' : Session} : pre s → x s = .ok a s' → post s'
  error {s : Session} {fault : SessionFault} {s' : Session} : pre s → x s = .error fault s' →
    fail fault s'

namespace Leads

variable {α β : Type} {p q r : Session → Prop} {e : SessionFault → Session → Prop} {x : Running α}

theorem pure (a : α) : Leads p (Pure.pure a : Running α) p e where
  ok hs hx := by
    cases hx
    exact hs
  error _ hx := by cases hx

theorem throw {fault : SessionFault} (h : ∀ s, p s → e fault s) :
    Leads p (MonadExcept.throw fault : Running α) q e where
  ok _ hx := by cases hx
  error hs hx := by
    cases hx
    exact h _ hs

/-- Two steps, each of which may fail. -/
theorem bind {f : α → Running β} (hx : Leads p x q e) (hf : ∀ a, Leads q (f a) r e) :
    Leads p (x >>= f) r e where
  ok {s _ _} hs h := by
    cases h₁ : x s with
    | ok a s₁ =>
      rw [bind_of_ok h₁] at h
      exact (hf a).ok (hx.ok hs h₁) h
    | error fault s₁ =>
      rw [bind_of_error h₁] at h
      cases h
  error {s _ _} hs h := by
    cases h₁ : x s with
    | ok a s₁ =>
      rw [bind_of_ok h₁] at h
      exact (hf a).error (hx.ok hs h₁) h
    | error fault s₁ =>
      rw [bind_of_error h₁] at h
      cases h
      exact hx.error hs h₁

theorem imp (h : Leads p x q e) {p' : Session → Prop} (hp : ∀ s, p' s → p s) : Leads p' x q e where
  ok hs hx := h.ok (hp _ hs) hx
  error hs hx := h.error (hp _ hs) hx

/-- A step that reads the session first. -/
theorem get_bind {f : Session → Running β} (h : ∀ s, p s → Leads (· = s) (f s) q e) :
    Leads p (get >>= f) q e where
  ok {s _ _} hs hx := (h s hs).ok rfl hx
  error {s _ _} hs hx := (h s hs).error rfl hx

/-- No step is taken from where nothing is. -/
theorem of_false (x : Running α) : Leads (fun _ => False) x q e where
  ok hs _ := hs.elim
  error hs _ := hs.elim

end Leads

theorem leads_modify {p q : Session → Prop} {e : SessionFault → Session → Prop}
    {g : Session → Session} (h : ∀ s, p s → q (g s)) :
    Leads p (modify g : Running PUnit) q e where
  ok hs hx := by
    cases hx
    exact h _ hs
  error _ hx := by cases hx

theorem leads_note {p q : Session → Prop} {e : SessionFault → Session → Prop}
    (h : ∀ s log, p s → q { s with log }) (level : Level) (message : Text) :
    Leads p (note level message) q e := leads_modify fun s => h s _

/-! ## Preparation -/

section preparation

variable {p : Session → Prop} {e : SessionFault → Session → Prop}
  (he : ∀ fault s, p s → e fault s)

include he

theorem leads_ensure {α ε : Type} (fault : ε → SessionFault) (x : Except ε α) :
    Leads p (ensure fault x) p e := by
  cases x with
  | ok a => exact .pure a
  | error f => exact .throw (he (fault f))

theorem leads_settings (a : CommandLine.Arguments) : Leads p (settings a) p e := by
  unfold settings
  split
  · exact .get_bind fun s hs => (leads_ensure he _ _).imp fun _ h => h ▸ hs
  · exact .pure _

theorem leads_argumentOr (argument : Option (List Text)) (settings : Value) (name : Text)
    (default : Value) : Leads p (argumentOr argument settings name default) p e := by
  unfold argumentOr
  split
  · exact .pure _
  · exact leads_ensure he _ _

variable (hp : ∀ s log, p s → p { s with log })

include hp

theorem leads_logging (action : EStateM LogFault Logbook Unit) : Leads p (logging action) p e where
  ok {s _ _} hs hx := by
    unfold logging at hx
    split at hx
    · cases hx
      exact hp s _ hs
    · cases hx
  error {s _ _} hs hx := by
    unfold logging at hx
    split at hx
    · cases hx
    · cases hx
      exact he _ _ (hp s _ hs)

theorem leads_openLog (a : CommandLine.Arguments) (settings : Value) :
    Leads p (openLog a settings) p e := by
  unfold openLog
  refine (leads_argumentOr he _ _ _ _).bind fun level => ?_
  refine (leads_ensure he _ _).bind fun asked => ?_
  refine (leads_argumentOr he _ _ _ _).bind fun file => ?_
  refine (leads_logging he hp _).bind fun _ => ?_
  split
  · exact leads_logging he hp _
  · exact .pure ()

/-- What connecting leads to, by how the host answers. -/
theorem leads_connect {q : Session → Prop} (hq : ∀ s log, q s → q { s with log })
    (hc : ∀ s connected, p s → q { s with connected })
    (hi : ∀ s, q s → s.host.interrupted → e .interrupted s)
    (hu : ∀ s, q s → s.host.connectFault ≠ none → e .unreachable s) (url : Value) :
    Leads p (connect url) (fun s => q s ∧ s.host.connectFault = none) e := by
  unfold connect
  refine (leads_ensure he _ _).bind fun shown => ?_
  refine (leads_note hp _ _).bind fun _ => ?_
  refine (leads_modify fun s => hc s _).bind fun _ => ?_
  refine .get_bind fun s hs => ?_
  dsimp only
  split
  · rename_i h
    exact (Leads.throw fun t ht => ht ▸ hi s hs h).bind fun _ => .of_false _
  · split
    · rename_i h
      have hfault : s.host.connectFault ≠ none := by simp [h]
      refine (leads_note (q := e .unreachable) (fun t log ht => ?_) _ _).bind fun _ =>
        .throw fun _ h => h
      subst ht
      exact hu _ (hq _ _ hs) hfault
    · rename_i h
      refine leads_note (fun t log ht => ?_) _ _
      subst ht
      exact ⟨hq _ _ hs, h⟩

end preparation

end Session

end Tabletop
