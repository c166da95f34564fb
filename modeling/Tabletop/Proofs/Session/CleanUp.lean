import Tabletop.Proofs.Service.Delivery
import Tabletop.Proofs.Service.Lifecycle
import Tabletop.Proofs.Session.Steps

/-!
# Every session cleans up

However the work of a session ends, the session ends what it has begun on the bus:

* up to the clean up every step keeps the service `Service.Holding`, whether the
  step returns or fails: it remembers all that was made, and nothing has ended
  (`leads_work`);
* so the clean up ends each subscription once and then closes the connection
  (`Released`), whatever the bus refuses, unless it is itself told to stop while
  it waits for an end: then it leaves off there (`CutShort`, `cleanedUp_cleanUp`);
* the work ends with the fault of the start or of the first message that is not
  handled to its end, or because the session is told to stop (`Session.Ends`),
  be it in the middle of a message (`Session.workInto`), and so does the session
  (`run_cleans_up`).
-/

namespace Tabletop

/-- Each subscription that was made was to end once, and the connection was closed once, behind
everything else. -/
structure Released (journal : List Exchange) : Prop where
  ended : endedIn journal = madeIn journal
  once : (madeIn journal).Nodup
  closed : ∃ before, journal = before ++ [.close] ∧ closesIn before = 0

/-- The program is told to stop while it waits for the end of one of so many subscriptions. -/
def BusFaults.CutOff (f : BusFaults) (n : Nat) : Prop := ∃ i < n, f.unsubscribe i = some .interrupted

/-- The program was told to stop while it waited for the end of a subscription. It left off there:
the ends of those in front and of that one were asked for, each once, and the connection was not
closed. -/
structure CutShort (f : BusFaults) (journal : List Exchange) : Prop where
  ended : ∃ before sub rest, madeIn journal = before ++ sub :: rest ∧
    endedIn journal = before ++ [sub] ∧ f.unsubscribe before.length = some .interrupted ∧
    ¬ f.CutOff before.length
  once : (madeIn journal).Nodup
  closes : closesIn journal = 0

theorem CutShort.cutOff {f : BusFaults} {journal : List Exchange} (h : CutShort f journal) :
    f.CutOff (madeIn journal).length := by
  obtain ⟨before, sub, rest, hmade, -, hf, -⟩ := h.ended
  refine ⟨before.length, ?_, hf⟩
  rw [hmade, List.length_append, List.length_cons]
  exact Nat.lt_add_of_pos_right (Nat.succ_pos _)

namespace Service

/-- A service that remembers all subscriptions that were made on its bus, which has some faults. None
of them was to end yet. -/
structure Holding (f : BusFaults) (s : Service) : Prop where
  faults : s.bus.faults = f
  made : madeIn s.bus.journal = s.subscriptions
  numbers : s.subscriptions.map (·.number) = List.range s.bus.made
  ended : endedIn s.bus.journal = []
  closes : closesIn s.bus.journal = 0

namespace Holding

variable {f : BusFaults} {s t : Service}

theorem congr (h : s.Holding f) (hb : t.bus = s.bus) (hs : t.subscriptions = s.subscriptions) :
    t.Holding f := by
  obtain ⟨hf, hm, hn, he, hc⟩ := h
  rw [← hb, ← hs] at hm
  rw [← hb, ← hs] at hn
  rw [← hb] at hf he hc
  exact ⟨hf, hm, hn, he, hc⟩

theorem after (h : s.Holding f) {ds : List Draw} {xs : List Exchange} {ns : List Notice}
    (hm : madeIn xs = []) (he : endedIn xs = []) (hc : closesIn xs = 0) :
    (s.after ds xs ns).Holding f where
  faults := h.faults
  made := by simp [hm, h.made]
  numbers := h.numbers
  ended := by simp [he, h.ended]
  closes := by simp [hc, h.closes]

theorem joined (h : s.Holding f) (commands : List Command) : (s.joined commands).Holding f where
  faults := h.faults
  made := by simp [h.made]
  numbers := Subscription.map_number_append_numbered h.numbers commands
  ended := by simp [h.ended]
  closes := by simp [h.closes]

theorem start (h : s.Holding f) : (stateAfter (Service.start s)).Holding f := by
  have hstart := started_start s
  generalize Service.start s = res at hstart
  cases hstart with
  | opened ns => exact ((h.joined Command.all).congr (t := s.opened) rfl rfl).after rfl rfl rfl
  | refused ns => exact (h.joined _).after rfl rfl rfl

theorem deliver (h : s.Holding f) (subject : Text) (m : Message) :
    (stateAfter (Service.deliver subject m s)).Holding f := by
  obtain ⟨ds, xs, ns, hs, hx⟩ := (adds_deliver subject m s).exists_stateAfter
  rw [hs]
  exact h.after hx.made hx.ended hx.closes

theorem stopsAt_iff (h : s.Holding f) (i : Nat) :
    s.StopsAt i ↔ f.unsubscribe i = some .interrupted := by
  rw [StopsAt, h.ended, h.faults, List.length_nil, Nat.zero_add]

theorem nodup_subscriptions (h : s.Holding f) : s.subscriptions.Nodup :=
  Subscription.nodup_of_map_number h.numbers

theorem madeIn_append_unsubscribe (h : s.Holding f) (subs : List Subscription) :
    madeIn (s.bus.journal ++ subs.map .unsubscribe) = s.subscriptions := by
  rw [madeIn_append, madeIn_map_unsubscribe, List.append_nil, h.made]

theorem endedIn_append_unsubscribe (h : s.Holding f) (subs : List Subscription) :
    endedIn (s.bus.journal ++ subs.map .unsubscribe) = subs := by
  rw [endedIn_append, endedIn_map_unsubscribe, h.ended, List.nil_append]

theorem closesIn_append_unsubscribe (h : s.Holding f) (subs : List Subscription) :
    closesIn (s.bus.journal ++ subs.map .unsubscribe) = 0 := by
  rw [closesIn_append, closesIn_map_unsubscribe, h.closes]

/-- What a stop and the closing of the connection add. -/
theorem released (h : s.Holding f) :
    madeIn (s.bus.journal ++ s.subscriptions.map .unsubscribe ++ [.close]) = s.subscriptions ∧
      Released (s.bus.journal ++ s.subscriptions.map .unsubscribe ++ [.close]) := by
  have hmade : madeIn (s.bus.journal ++ s.subscriptions.map .unsubscribe ++ [.close])
      = s.subscriptions := by
    rw [madeIn_append, h.madeIn_append_unsubscribe]
    exact List.append_nil _
  refine ⟨hmade, ?_, ?_, _, rfl, h.closesIn_append_unsubscribe _⟩
  · rw [hmade, endedIn_append, h.endedIn_append_unsubscribe]
    exact List.append_nil _
  · rw [hmade]
    exact h.nodup_subscriptions

/-- What a stop adds that is cut short. -/
theorem cutShort (h : s.Holding f) {before rest : List Subscription} {sub : Subscription}
    (hs : s.subscriptions = before ++ sub :: rest) (hb : ∀ i < before.length, ¬ s.StopsAt i)
    (hf : s.StopsAt before.length) :
    CutShort f (s.bus.journal ++ (before ++ [sub]).map .unsubscribe) where
  ended := by
    refine ⟨before, sub, rest, ?_, h.endedIn_append_unsubscribe _, (h.stopsAt_iff _).1 hf, ?_⟩
    · rw [h.madeIn_append_unsubscribe, hs]
    · rintro ⟨i, hi, hcut⟩
      exact hb i hi ((h.stopsAt_iff i).2 hcut)
  once := by
    rw [h.madeIn_append_unsubscribe]
    exact h.nodup_subscriptions
  closes := h.closesIn_append_unsubscribe _

end Holding

end Service

namespace Session

/-! ## Preparation -/

/-- A step behind which the service is still holding, whether the step returns or fails. -/
abbrev KeepsHolding {α : Type} (f : BusFaults) (x : Running α) : Prop :=
  Leads (·.service.Holding f) x (·.service.Holding f) fun _ s => s.service.Holding f

/-- Up to the start the service is left alone, but for its options. -/
theorem keepsHolding_prepare (f : BusFaults) (a : CommandLine.Arguments) :
    KeepsHolding f (prepare a) := by
  have he : ∀ (_ : SessionFault) (s : Session), s.service.Holding f → s.service.Holding f :=
    fun _ _ h => h
  unfold prepare
  refine (leads_settings he _).bind fun settings => ?_
  refine (leads_openLog he (fun _ _ h => h) _ _).bind fun _ => ?_
  refine (leads_argumentOr he _ _ _ _).bind fun url => ?_
  refine (leads_connect he (fun _ _ h => h) (fun _ _ h => h) (fun _ _ h => h) (fun _ h _ => h)
    (fun _ h _ => h) _).bind fun _ => ?_
  refine (leads_ensure (fun _ _ h => h.1) _ _).bind fun block => ?_
  refine (leads_modify (q := (·.service.Holding f)) fun _ h => h.1).bind fun _ => ?_
  refine (leads_ensure he _ _).bind fun options => ?_
  exact leads_modify fun s h => h.congr rfl rfl

/-- A session that has not connected to anything, and has asked nothing of the bus. -/
structure Idle (h : Host) (s : Session) : Prop where
  host : s.host = h
  connected : s.connected = []
  journal : s.service.bus.journal = []

/-- Without a connection nothing is asked of the bus, and a session that has tried to connect fails
for that reason. -/
theorem leads_prepare_unreachable {h : Host} (hf : h.connectFault ≠ none)
    (hi : h.interrupted = false) (a : CommandLine.Arguments) :
    Leads (Idle h) (prepare a) (fun _ => False) fun fault s =>
      (s.connected ≠ [] → fault = .unreachable) ∧ s.service.bus.journal = [] := by
  have hlog : ∀ s log, Idle h s → Idle h { s with log } := fun s log hs => ⟨hs.1, hs.2, hs.3⟩
  have he : ∀ fault s, Idle h s →
      (s.connected ≠ [] → fault = SessionFault.unreachable) ∧ s.service.bus.journal = [] :=
    fun fault s hs => ⟨fun hc => absurd hs.connected hc, hs.journal⟩
  unfold prepare
  refine (leads_settings he _).bind fun settings => ?_
  refine (leads_openLog he hlog _ _).bind fun _ => ?_
  refine (leads_argumentOr he _ _ _ _).bind fun url => ?_
  have hinterrupted : ∀ s : Session, s.host = h ∧ s.service.bus.journal = [] →
      s.host.interrupted = false := fun s hs => hs.1 ▸ hi
  have hconnect := leads_connect (q := fun s => s.host = h ∧ s.service.bus.journal = []) he hlog
    (fun _ _ hs => hs) (fun _ _ hs => ⟨hs.host, hs.journal⟩)
    (fun s hs h => absurd ((hinterrupted s hs).symm.trans h) Bool.false_ne_true)
    (fun s hs _ => ⟨fun _ => rfl, hs.2⟩) url
  refine hconnect.bind fun _ => (Leads.of_false _).imp fun s hs => ?_
  exact hf (hs.1.1 ▸ hs.2)

/-! ## Serving -/

theorem serving_of_ok {α : Type} {action : Serving α} {s : Session} {a : α} {t : Service}
    (h : action s.service = .ok a t) : serving action s = .ok a { s with service := t }.collect := by
  rw [serving, h]

theorem serving_of_error {α : Type} {action : Serving α} {s : Session} {fault : ServiceFault}
    {t : Service} (h : action s.service = .error fault t) :
    serving action s = .error (.ofService fault) { s with service := t }.collect := by
  rw [serving, h]

section keeping

variable {f : BusFaults}

theorem keepsHolding_serving {α : Type} {action : Serving α}
    (h : ∀ s : Service, s.Holding f → (Service.stateAfter (action s)).Holding f) :
    KeepsHolding f (serving action) where
  ok {s _ _} hs hx := by
    have hafter := h _ hs
    unfold serving at hx
    split at hx
    · rename_i haction
      rw [haction] at hafter
      cases hx
      exact hafter.congr rfl rfl
    · cases hx
  error {s _ _} hs hx := by
    have hafter := h _ hs
    unfold serving at hx
    split at hx
    · cases hx
    · rename_i haction
      rw [haction] at hafter
      cases hx
      exact hafter.congr rfl rfl

theorem keepsHolding_start : KeepsHolding f start :=
  (keepsHolding_serving fun _ h => h.start).bind fun _ => leads_note (fun _ _ h => h) _ _

theorem keepsHolding_deliver (subject : Text) (m : Message) :
    KeepsHolding f (deliver subject m) := by
  have hdeliver : KeepsHolding f (serving (Service.deliver subject m)) :=
    keepsHolding_serving fun _ h => h.deliver subject m
  exact .get_bind fun s hs =>
    (hdeliver.bind fun _ => leads_modify fun _ h => h).imp fun _ h => h ▸ hs

theorem keepsHolding_deliverAll (messages : List (Text × Message)) :
    KeepsHolding f (deliverAll messages) := by
  induction messages with
  | nil => exact .pure ()
  | cons x rest ih => exact (keepsHolding_deliver x.1 x.2).bind fun _ => ih

/-- Work always ends with a fault, and the service remembers then what it has to end. -/
theorem leads_work (messages : List (Text × Message)) :
    Leads (·.service.Holding f) (work messages) (fun _ => False) fun _ s => s.service.Holding f :=
  keepsHolding_start.bind fun _ =>
    (keepsHolding_deliverAll messages).bind fun _ => .throw fun _ h => h

/-- The work of a session that is told to stop while one more message is handled, when the handling
has added so much. -/
def workInto (messages : List (Text × Message)) (ds : List Draw) (xs : List Exchange)
    (ns : List Notice) : Running Unit := do
  start
  deliverAll messages
  serving fun s => .error (.bus .interrupted) (s.after ds xs ns)

theorem leads_workInto {p r : Nat} {xs : List Exchange} (hx : Traffic p r xs)
    (messages : List (Text × Message)) (ds : List Draw) (ns : List Notice) :
    Leads (·.service.Holding f) (workInto messages ds xs ns) (fun _ => False)
      fun _ s => s.service.Holding f := by
  refine keepsHolding_start.bind fun _ => (keepsHolding_deliverAll messages).bind fun _ => ?_
  refine { ok := fun _ h => ?_, error := fun {s _ _} hs h => ?_ }
  · cases h
  · have hafter : (s.service.after ds xs ns).Holding f := hs.after hx.made hx.ended hx.closes
    cases h
    exact hafter.congr rfl rfl

end keeping

/-! ## Cleaning up -/

/-- What a clean up may come to, and what was asked of the bus by then. -/
inductive CleanedUp (f : BusFaults) : EStateM.Result SessionFault Session Unit → Prop where
  | closed {s : Session} (hn : ¬ f.CutOff (madeIn s.service.bus.journal).length)
    (hr : Released s.service.bus.journal) (hc : f.close = none) : CleanedUp f (.ok () s)
  | notClosed {s : Session} {fault : BusFault}
    (hn : ¬ f.CutOff (madeIn s.service.bus.journal).length) (hr : Released s.service.bus.journal)
    (hc : f.close = some fault) : CleanedUp f (.error (.ofService (.bus fault)) s)
  | cutShort {s : Session} (h : CutShort f s.service.bus.journal) :
    CleanedUp f (.error .interrupted s)

/-- The connection is closed, whether that is given up or not. -/
theorem serving_close (s : Session) :
    serving (Service.calling Bus.close) s = .ok (s.service.bus.faults.close.elim (.ok ()) .error)
      { s with service := s.service.after [] [.close] [] }.collect := by
  refine serving_of_ok ?_
  unfold Service.calling Bus.close
  cases s.service.bus.faults.close <;> simp [Service.after, Bus.record]

section cleaning

variable {f : BusFaults} {s : Session}

theorem cleanedUp_close (hf : s.service.bus.faults = f)
    (hn : ¬ f.CutOff (madeIn (s.service.bus.journal ++ [.close])).length)
    (hr : Released (s.service.bus.journal ++ [.close])) : CleanedUp f (close s) := by
  have hclose := serving_close s
  rw [hf] at hclose
  unfold close
  rw [bind_of_ok hclose]
  cases hc : f.close with
  | none => exact .closed hn hr hc
  | some fault => exact .notClosed hn hr hc

theorem cleanedUp_cleanUp (hs : s.service.Holding f) : CleanedUp f (cleanUp s) := by
  have hstop := Service.stopped_stop s.service
  unfold cleanUp
  generalize h : Service.stop s.service = res at hstop
  cases hstop with
  | interrupted ns hsub hb hf =>
    rw [bind_of_error (serving_of_error h)]
    refine .cutShort ?_
    show CutShort f ((s.service.parted _).after [] [] ns).bus.journal
    rw [Service.after_journal, List.append_nil, Service.parted_journal]
    exact hs.cutShort hsub hb hf
  | stopped ns hi =>
    rw [bind_of_ok (serving_of_ok h)]
    have hjournal : (s.service.stopped.after [] [] ns).bus.journal
        = s.service.bus.journal ++ s.service.subscriptions.map .unsubscribe := by
      rw [Service.after_journal, List.append_nil, Service.stopped, Service.parted_journal]
    obtain ⟨hmade, hreleased⟩ := hs.released
    refine cleanedUp_close ((s.service.parted_faults _).trans hs.faults) ?_ ?_
    · show ¬ f.CutOff (madeIn ((s.service.stopped.after [] [] ns).bus.journal ++ [.close])).length
      rw [hjournal, hmade]
      rintro ⟨i, hlt, hf⟩
      exact hi i hlt ((hs.stopsAt_iff i).2 hf)
    · show Released ((s.service.stopped.after [] [] ns).bus.journal ++ [.close])
      rw [hjournal]
      exact hreleased

end cleaning

/-! ## What ends a session -/

/-- What ends the work of a session: the start fails, or the handling of a message does behind
others that are handled to their end, or the session is told to stop behind the last one. -/
inductive Ends (messages : List (Text × Message)) (s : Session) : SessionFault → Prop where
  | atStart {fault : ServiceFault} {t : Service}
    (h : Service.start s.service = .error fault t) : Ends messages s (.ofService fault)
  | atMessage {before rest : List (Text × Message)} {subject : Text} {m : Message} {s₀ s₁ : Session}
    {fault : ServiceFault} {t : Service} (hm : messages = before ++ (subject, m) :: rest)
    (hs : start s = .ok () s₀) (hb : deliverAll before s₀ = .ok () s₁)
    (hd : Service.deliver subject m s₁.service = .error fault t) : Ends messages s (.ofService fault)
  | atStop {s₀ s₁ : Session} (hs : start s = .ok () s₀) (hd : deliverAll messages s₀ = .ok () s₁) :
    Ends messages s .interrupted

section endings

variable {s s' : Session} {subject : Text} {m : Message} {messages : List (Text × Message)}

theorem start_of_ok {t : Service} (h : Service.start s.service = .ok () t) :
    ∃ s', start s = .ok () s' := by
  unfold start
  rw [bind_of_ok (serving_of_ok h)]
  exact ⟨_, rfl⟩

theorem start_of_error {fault : ServiceFault} {t : Service}
    (h : Service.start s.service = .error fault t) : ∃ s', start s = .error (.ofService fault) s' := by
  unfold start
  exact ⟨_, bind_of_error (serving_of_error h)⟩

theorem deliver_of_ok {n : Nat} {t : Service} (h : Service.deliver subject m s.service = .ok n t) :
    ∃ s', deliver subject m s = .ok () s' := by
  unfold deliver
  rw [get_bind, bind_of_ok (serving_of_ok h)]
  exact ⟨_, rfl⟩

theorem deliver_of_error {fault : ServiceFault} {t : Service}
    (h : Service.deliver subject m s.service = .error fault t) :
    ∃ s', deliver subject m s = .error (.ofService fault) s' := by
  unfold deliver
  rw [get_bind]
  exact ⟨_, bind_of_error (serving_of_error h)⟩

theorem deliverAll_append {before rest : List (Text × Message)}
    (h : deliverAll before s = .ok () s') : deliverAll (before ++ rest) s = deliverAll rest s' := by
  induction before generalizing s with
  | nil =>
    cases h
    rfl
  | cons x before ih =>
    obtain ⟨subject, m⟩ := x
    rw [List.cons_append, deliverAll]
    rw [deliverAll] at h
    cases hd : deliver subject m s with
    | ok _ s₁ =>
      rw [bind_of_ok hd] at h ⊢
      exact ih h
    | error fault s₁ =>
      rw [bind_of_error hd] at h
      cases h

/-- Delivering fails with the first message that is not handled to its end. -/
theorem exists_deliver_of_deliverAll {fault : SessionFault}
    (h : deliverAll messages s = .error fault s') :
    ∃ before rest subject m s₁ f t, messages = before ++ (subject, m) :: rest ∧
      deliverAll before s = .ok () s₁ ∧ Service.deliver subject m s₁.service = .error f t ∧
      fault = .ofService f := by
  induction messages generalizing s with
  | nil => cases h
  | cons x messages ih =>
    obtain ⟨subject, m⟩ := x
    rw [deliverAll] at h
    cases hd : Service.deliver subject m s.service with
    | error f t =>
      obtain ⟨s₁, hdeliver⟩ := deliver_of_error hd
      rw [bind_of_error hdeliver] at h
      cases h
      exact ⟨[], messages, subject, m, s, f, t, rfl, rfl, hd, rfl⟩
    | ok n t =>
      obtain ⟨s₁, hdeliver⟩ := deliver_of_ok hd
      rw [bind_of_ok hdeliver] at h
      obtain ⟨before, rest, subject', m', s₂, f, t', rfl, hb, hd', rfl⟩ := ih h
      refine ⟨(subject, m) :: before, rest, subject', m', s₂, f, t', rfl, ?_, hd', rfl⟩
      rw [deliverAll, bind_of_ok hdeliver, hb]

/-- The work fails with what ends the session. -/
theorem ends_iff {fault : SessionFault} :
    Ends messages s fault ↔ ∃ s', work messages s = .error fault s' := by
  unfold work
  constructor
  · rintro (⟨h⟩ | ⟨rfl, hs, hb, hd⟩ | ⟨hs, hd⟩)
    · obtain ⟨s', hstart⟩ := start_of_error h
      exact ⟨s', bind_of_error hstart⟩
    · obtain ⟨s', hdeliver⟩ := deliver_of_error hd
      rw [bind_of_ok hs]
      refine ⟨s', bind_of_error ?_⟩
      rw [deliverAll_append hb, deliverAll, bind_of_error hdeliver]
    · rw [bind_of_ok hs, bind_of_ok hd]
      exact ⟨_, rfl⟩
  · rintro ⟨s', h⟩
    cases hs : Service.start s.service with
    | error f t =>
      obtain ⟨s₀, hstart⟩ := start_of_error hs
      rw [bind_of_error hstart] at h
      cases h
      exact .atStart hs
    | ok _ t =>
      obtain ⟨s₀, hstart⟩ := start_of_ok hs
      rw [bind_of_ok hstart] at h
      cases hd : deliverAll messages s₀ with
      | error f s₁ =>
        rw [bind_of_error hd] at h
        cases h
        obtain ⟨before, rest, subject, m, s₁, f, t, hm, hb, hdeliver, rfl⟩ :=
          exists_deliver_of_deliverAll hd
        exact .atMessage hm hstart hb hdeliver
      | ok _ s₁ =>
        rw [bind_of_ok hd] at h
        cases h
        exact .atStop hstart hd

end endings

/-! ## Runs -/

/-- The outcome of a session that is ended by a fault. One that is told to stop does not fail. -/
def outcomeOf : SessionFault → Outcome
  | .interrupted => .stopped
  | fault => .failed fault

/-- How a session ends, and what it has become, by what its steps come to. -/
def concluded : EStateM.Result SessionFault Session Unit → Outcome × Session
  | .ok () s => (.stopped, s)
  | .error fault s => (.failed fault, s)

/-- A session is cleaned up behind whatever has ended its work. A fault of the clean up takes the
place of what has. -/
theorem concluded_cleaningUp {action : Running Unit} {p s : Session} {fault : SessionFault}
    (h : action p = .error fault s) : ∃ t, t.service = s.service ∧
      concluded (cleaningUp (untilStopped action) p) = match cleanUp t with
        | .ok () s' => (outcomeOf fault, s')
        | .error fault' s' => (.failed fault', s') := by
  unfold cleaningUp untilStopped
  rw [h]
  cases fault with
  | interrupted =>
    -- the session notes that it is told to stop, and then cleans up
    obtain ⟨t, ht, hs⟩ : ∃ t, note .info "Shutdown requested" s = .ok () t ∧ t.service = s.service :=
      ⟨_, rfl, rfl⟩
    refine ⟨t, hs, ?_⟩
    dsimp only
    rw [ht]
    dsimp only
    cases cleanUp t <;> rfl
  | _ =>
    refine ⟨s, rfl, ?_⟩
    dsimp only
    cases cleanUp s <;> rfl

theorem holding_ofHost (h : Host) : (ofHost h).service.Holding h.busFaults :=
  ⟨rfl, rfl, rfl, rfl, rfl⟩

theorem idle_ofHost (h : Host) : Idle h (ofHost h) := ⟨rfl, rfl, rfl⟩

section runs

variable {h : Host} {line : List Text} {messages : List (Text × Message)}

theorem run_of_read {a : CommandLine.Arguments} (hread : CommandLine.read line = .ok (.run a)) :
    run h line messages = concluded (runWith a messages (ofHost h)) := by
  unfold run
  rw [hread]
  rfl

/-- How a session ends behind its work, and what was asked of the bus by then: its clean up is cut
short, or ends all that was begun. -/
structure WoundUp (f : BusFaults) (fault : SessionFault) (outcome : Outcome)
    (journal : List Exchange) : Prop where
  released : ¬ f.CutOff (madeIn journal).length → Released journal
  ended : ¬ f.CutOff (madeIn journal).length → outcome = match f.close with
    | none => outcomeOf fault
    | some closeFault => .failed (.ofService (.bus closeFault))
  cutShort : f.CutOff (madeIn journal).length →
    CutShort f journal ∧ outcome = .failed .interrupted

/-- Whatever has ended the work of a session, the session is wound up. -/
theorem woundUp_cleaningUp {f : BusFaults} {action : Running Unit} {p s : Session}
    {fault : SessionFault} (h : action p = .error fault s) (hs : s.service.Holding f) :
    ∃ outcome s', concluded (cleaningUp (untilStopped action) p) = (outcome, s') ∧
      WoundUp f fault outcome s'.service.bus.journal := by
  obtain ⟨t, hservice, hconcluded⟩ := concluded_cleaningUp h
  have hclean : CleanedUp f (cleanUp t) := cleanedUp_cleanUp (hservice ▸ hs)
  rw [hconcluded]
  generalize cleanUp t = result at hclean
  cases hclean with
  | closed hn hr hc =>
    exact ⟨_, _, rfl, fun _ => hr, fun _ => by rw [hc], fun h => absurd h hn⟩
  | notClosed hn hr hc =>
    exact ⟨_, _, rfl, fun _ => hr, fun _ => by rw [hc], fun h => absurd h hn⟩
  | cutShort hcut =>
    exact ⟨_, _, rfl, (absurd hcut.cutOff ·), (absurd hcut.cutOff ·), fun _ => ⟨hcut, rfl⟩⟩

section prepared

variable {a : CommandLine.Arguments} {p : Session}

theorem holding_of_prepare (hp : prepare a (ofHost h) = .ok () p) :
    p.service.Holding h.busFaults :=
  (keepsHolding_prepare _ a).ok (holding_ofHost h) hp

/-- A session that has got as far as its service. -/
theorem run_of_prepare (hread : CommandLine.read line = .ok (.run a))
    (hp : prepare a (ofHost h) = .ok () p) :
    ∃ fault outcome s, (∀ f, Ends messages p f ↔ f = fault) ∧
      run h line messages = (outcome, s) ∧
      WoundUp h.busFaults fault outcome s.service.bus.journal := by
  have hholding := holding_of_prepare hp
  cases hw : work messages p with
  | ok _ s => exact ((leads_work messages).ok hholding hw).elim
  | error fault s =>
    have hends : ∀ f, Ends messages p f ↔ f = fault := fun f => by
      rw [ends_iff, hw]
      constructor
      · rintro ⟨_, hf⟩
        cases hf
        rfl
      · rintro rfl
        exact ⟨s, rfl⟩
    obtain ⟨outcome, s', hconcluded, hwound⟩ :=
      woundUp_cleaningUp hw ((leads_work messages).error hholding hw)
    refine ⟨fault, outcome, s', hends, ?_, hwound⟩
    rw [run_of_read hread, runWith, bind_of_ok hp]
    exact hconcluded

/-- A session that is told to stop while a message is handled. -/
theorem woundUp_of_workInto (hp : prepare a (ofHost h) = .ok () p) {n r : Nat} {xs : List Exchange}
    (hx : Traffic n r xs) (ds : List Draw) (ns : List Notice) :
    ∃ fault outcome s t, workInto messages ds xs ns p = .error fault t ∧
      concluded (cleaningUp (untilStopped (workInto messages ds xs ns)) p) = (outcome, s) ∧
      WoundUp h.busFaults fault outcome s.service.bus.journal := by
  have hholding := holding_of_prepare hp
  have hleads := leads_workInto (f := h.busFaults) hx messages ds ns
  cases hw : workInto messages ds xs ns p with
  | ok _ t => exact (hleads.ok hholding hw).elim
  | error fault t =>
    obtain ⟨outcome, s, hconcluded, hwound⟩ := woundUp_cleaningUp hw (hleads.error hholding hw)
    exact ⟨fault, outcome, s, t, rfl, hconcluded, hwound⟩

end prepared

theorem run_of_prepare_error {a : CommandLine.Arguments} {fault : SessionFault} {s : Session}
    (hread : CommandLine.read line = .ok (.run a)) (hp : prepare a (ofHost h) = .error fault s) :
    run h line messages = (.failed fault, s) := by
  rw [run_of_read hread, runWith, bind_of_error hp]
  rfl

/-- A session that has tried to connect, but is not connected. -/
theorem run_of_unreachable (hf : h.connectFault ≠ none) (hi : h.interrupted = false)
    (hc : (run h line messages).2.connected ≠ []) :
    (run h line messages).1.exitStatus? = some 1 ∧
      (run h line messages).2.service.bus.journal = [] := by
  cases hread : CommandLine.read line with
  | error fault =>
    rw [run, hread] at hc
    exact absurd rfl hc
  | ok asked =>
    cases asked with
    | help =>
      rw [run, hread] at hc
      exact absurd rfl hc
    | run a =>
      have hprepare := leads_prepare_unreachable hf hi a
      cases hp : prepare a (ofHost h) with
      | ok _ p => exact (hprepare.ok (idle_ofHost h) hp).elim
      | error fault s =>
        obtain ⟨hunreachable, hjournal⟩ := hprepare.error (idle_ofHost h) hp
        rw [run_of_prepare_error hread hp] at hc ⊢
        rw [hunreachable hc]
        exact ⟨rfl, hjournal⟩

end runs

set_option maxRecDepth 4000 in
/-- A session that is told to stop again while it waits for the second subscription to end. -/
example :
    let faults : BusFaults := { unsubscribe := fun i => if i = 1 then some .interrupted else none }
    let s := (run { busFaults := faults, source := .ofScript [] } [] []).2
    endedIn s.service.bus.journal = [⟨0, .roll⟩, ⟨1, .describe⟩] ∧
      closesIn s.service.bus.journal = 0 := by
  cbv

end Session

end Tabletop
