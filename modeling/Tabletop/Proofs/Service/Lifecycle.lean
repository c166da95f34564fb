import Tabletop.Proofs.Service.Steps

/-!
# Starting and stopping

A start asks for a subscription to each command in turn. Those that it has made
when one is refused stay as they are (`Service.joined`), and the service is ready
only behind the last (`started_start`). A stop asks for the end of every
subscription that the service remembers and forgets them all, even if none of
them ends (`Service.stopped`). What the bus refuses does not matter; but if the
service is told to stop while it waits for an end, it leaves off there
(`stopped_stop`).
-/

namespace Tabletop

/-! ## The calls of the bus -/

/-- Subscriptions to some commands, one after the other, the first with a given number. -/
def Subscription.numbered (n : Nat) : List Command → List Subscription
  | [] => []
  | command :: rest => { number := n, command } :: numbered (n + 1) rest

theorem Subscription.map_command_numbered (n : Nat) (commands : List Command) :
    (numbered n commands).map (·.command) = commands := by
  induction commands generalizing n with
  | nil => rfl
  | cons command rest ih => rw [numbered, List.map_cons, ih]

theorem Subscription.map_number_numbered (n : Nat) (commands : List Command) :
    (numbered n commands).map (·.number) = List.range' n commands.length := by
  induction commands generalizing n with
  | nil => rfl
  | cons command rest ih => rw [numbered, List.map_cons, ih, List.length_cons, List.range'_succ]

section numbers

variable {subs : List Subscription} {n : Nat} (h : subs.map (·.number) = List.range n)

include h

/-- Subscriptions with different numbers are different. -/
theorem Subscription.nodup_of_map_number : subs.Nodup := by
  have hn : (subs.map (·.number)).Nodup := by
    rw [h]
    exact List.nodup_range
  exact hn.of_map _

theorem Subscription.map_number_append_numbered (commands : List Command) :
    (subs ++ numbered n commands).map (·.number) = List.range (n + commands.length) := by
  rw [List.map_append, h, map_number_numbered, List.range'_eq_map_range, List.range_add]

end numbers

/-- The call that made a subscription. -/
def Exchange.making (sub : Subscription) : Exchange := .subscribe sub.command (some sub)

section journals

variable (subs : List Subscription)

@[simp] theorem madeIn_map_making : madeIn (subs.map .making) = subs := by
  induction subs with
  | nil => rfl
  | cons sub rest ih => exact congrArg (sub :: ·) ih

@[simp] theorem requested_map_making : requested (subs.map .making) = subs.map (·.command) := by
  induction subs with
  | nil => rfl
  | cons sub rest ih => exact congrArg (sub.command :: ·) ih

@[simp] theorem endedIn_map_making : endedIn (subs.map .making) = [] := by
  induction subs with
  | nil => rfl
  | cons sub rest ih => exact ih

@[simp] theorem closesIn_map_making : closesIn (subs.map .making) = 0 := by
  induction subs with
  | nil => rfl
  | cons sub rest ih => exact ih

@[simp] theorem madeIn_map_unsubscribe : madeIn (subs.map .unsubscribe) = [] := by
  induction subs with
  | nil => rfl
  | cons sub rest ih => exact ih

@[simp] theorem endedIn_map_unsubscribe : endedIn (subs.map .unsubscribe) = subs := by
  induction subs with
  | nil => rfl
  | cons sub rest ih => exact congrArg (sub :: ·) ih

@[simp] theorem closesIn_map_unsubscribe : closesIn (subs.map .unsubscribe) = 0 := by
  induction subs with
  | nil => rfl
  | cons sub rest ih => exact ih

end journals

namespace Service

/-! ## Starting -/

/-- A service that has subscribed to some more commands. -/
def joined (s : Service) (commands : List Command) : Service :=
  { s with
    subscriptions := s.subscriptions ++ Subscription.numbered s.bus.made commands
    bus := { s.bus with
      made := s.bus.made + commands.length
      live := s.bus.live ++ Subscription.numbered s.bus.made commands
      journal := s.bus.journal ++ (Subscription.numbered s.bus.made commands).map .making } }

section joined

variable (s : Service) (commands : List Command)

@[simp] theorem joined_subscriptions : (s.joined commands).subscriptions
    = s.subscriptions ++ Subscription.numbered s.bus.made commands := rfl

@[simp] theorem joined_faults : (s.joined commands).bus.faults = s.bus.faults := rfl

@[simp] theorem joined_made : (s.joined commands).bus.made = s.bus.made + commands.length := rfl

@[simp] theorem joined_live : (s.joined commands).bus.live
    = s.bus.live ++ Subscription.numbered s.bus.made commands := rfl

@[simp] theorem joined_journal : (s.joined commands).bus.journal
    = s.bus.journal ++ (Subscription.numbered s.bus.made commands).map .making := rfl

theorem joined_nil : s.joined [] = s := by simp [joined, Subscription.numbered]

theorem joined_joined (command : Command) :
    (s.joined [command]).joined commands = s.joined (command :: commands) := by
  simp [joined, Subscription.numbered, Nat.add_assoc, Nat.add_comm 1]

theorem joined_after (ns : List Notice) :
    (s.after [] [] ns).joined commands = (s.joined commands).after [] [] ns := by
  simp [joined, after]

end joined

/-- What asking for subscriptions to some commands may come to. -/
inductive Asked (s : Service) (commands : List Command) :
    EStateM.Result ServiceFault Service Unit → Prop where
  | made : Asked s commands (.ok () (s.joined commands))
  | refused {before rest : List Command} {command : Command} {fault : BusFault}
    (hc : commands = before ++ command :: rest)
    (hf : s.bus.faults.subscribe ((requested s.bus.journal).length + before.length) = some fault) :
    Asked s commands
      (.error (.bus fault) ((s.joined before).after [] [.subscribe command none] []))

/-- One subscription is asked for. -/
theorem calling_subscribe (command : Command) (s : Service) :
    calling (Bus.subscribe command) s =
      match s.bus.faults.subscribe (requested s.bus.journal).length with
      | some fault => .ok (.error fault) (s.after [] [.subscribe command none] [])
      | none => .ok (.ok { number := s.bus.made, command })
          { s.joined [command] with subscriptions := s.subscriptions } := by
  unfold calling Bus.subscribe
  cases s.bus.faults.subscribe (requested s.bus.journal).length with
  | some fault => simp [after, Bus.record]
  | none => rfl

theorem asked_subscribeAll (commands : List Command) (s : Service) :
    Asked s commands (subscribeAll commands s) := by
  induction commands generalizing s with
  | nil =>
    have h : Asked s [] (.ok () (s.joined [])) := .made
    rwa [joined_nil] at h
  | cons command rest ih =>
    have hcall := calling_subscribe command s
    unfold subscribeAll
    cases hf : s.bus.faults.subscribe (requested s.bus.journal).length with
    | some fault =>
      rw [hf] at hcall
      rw [bind_of_ok hcall]
      have h : Asked s (command :: rest)
          (.error (.bus fault) ((s.joined []).after [] [.subscribe command none] [])) :=
        .refused rfl hf
      rwa [joined_nil] at h
    | none =>
      rw [hf] at hcall
      rw [bind_of_ok hcall]
      -- the subscription is remembered, and the others follow
      show Asked s (command :: rest) (subscribeAll rest (s.joined [command]))
      have hrest := ih (s.joined [command])
      generalize subscribeAll rest (s.joined [command]) = res at hrest
      cases hrest with
      | made =>
        rw [joined_joined]
        exact .made
      | @refused before rest' command' fault hc hf' =>
        rw [joined_joined]
        refine .refused (by rw [hc]; rfl) ?_
        rw [← hf', joined_journal, requested_append, requested_map_making,
          Subscription.map_command_numbered, joined_faults, List.length_append, List.length_cons,
          List.length_singleton, Nat.add_right_comm, Nat.add_assoc]

/-- A service that has subscribed to all commands. -/
def opened (s : Service) : Service := { s.joined Command.all with ready := true }

/-- What a start may come to. -/
inductive Started (s : Service) : EStateM.Result ServiceFault Service Unit → Prop where
  | opened (ns : List Notice) : Started s (.ok () (s.opened.after [] [] ns))
  | refused (ns : List Notice) {before rest : List Command} {command : Command} {fault : BusFault}
    (hc : Command.all = before ++ command :: rest)
    (hf : s.bus.faults.subscribe ((requested s.bus.journal).length + before.length) = some fault) :
    Started s (.error (.bus fault) ((s.joined before).after [] [.subscribe command none] ns))

theorem started_start (s : Service) : Started s (start s) := by
  unfold start
  rw [bind_of_ok (note_eq _ _ s)]
  generalize [_] = ns
  have hall := asked_subscribeAll Command.all (s.after [] [] ns)
  generalize h : subscribeAll Command.all (s.after [] [] ns) = res at hall
  cases hall with
  | made =>
    rw [joined_after] at h
    rw [bind_of_ok h, modify_bind]
    show Started s (note _ _ (s.opened.after [] [] ns))
    rw [note_eq, after_after]
    exact .opened _
  | refused hc hf =>
    rw [joined_after, after_after] at h
    rw [after_journal, List.append_nil, after_faults] at hf
    rw [bind_of_error h]
    exact .refused _ hc hf

/-! ## Stopping -/

/-- A service that has asked for the end of one more subscription. -/
def parting (s : Service) (sub : Subscription) : Service :=
  { s with bus := { s.bus with
      live := match s.bus.faults.unsubscribe (endedIn s.bus.journal).length with
        | none => s.bus.live.erase sub
        | some _ => s.bus.live
      journal := s.bus.journal ++ [.unsubscribe sub] } }

/-- A service that has asked for the end of some subscriptions, one after the other. -/
def parted (s : Service) (subs : List Subscription) : Service := subs.foldl parting s

/-- The service is told to stop while it waits for the end of a subscription: of the one behind so
many others. -/
def StopsAt (s : Service) (i : Nat) : Prop :=
  s.bus.faults.unsubscribe ((endedIn s.bus.journal).length + i) = some .interrupted

section parted

variable (s : Service) (sub : Subscription) (subs : List Subscription)

theorem endedIn_parting : endedIn (s.parting sub).bus.journal = endedIn s.bus.journal ++ [sub] :=
  endedIn_append _ _

theorem parted_cons : s.parted (sub :: subs) = (s.parting sub).parted subs := rfl

@[simp] theorem parted_faults : (s.parted subs).bus.faults = s.bus.faults := by
  induction subs generalizing s with
  | nil => rfl
  | cons sub rest ih => exact ih (s.parting sub)

@[simp] theorem parted_made : (s.parted subs).bus.made = s.bus.made := by
  induction subs generalizing s with
  | nil => rfl
  | cons sub rest ih => exact ih (s.parting sub)

@[simp] theorem parted_journal :
    (s.parted subs).bus.journal = s.bus.journal ++ subs.map .unsubscribe := by
  induction subs generalizing s with
  | nil => exact (List.append_nil _).symm
  | cons sub rest ih =>
    rw [parted_cons, ih, List.map_cons, List.append_cons]
    rfl

/-- Subscriptions whose end is not given up do not stay live. -/
theorem parted_live (h : ∀ i, s.bus.faults.unsubscribe i = none) :
    (s.parted subs).bus.live = subs.foldl List.erase s.bus.live := by
  induction subs generalizing s with
  | nil => rfl
  | cons sub rest ih =>
    rw [parted_cons, ih (s.parting sub) h, parting, h]
    rfl

theorem parted_after (ns : List Notice) :
    (s.after [] [] ns).parted subs = (s.parted subs).after [] [] ns := by
  induction subs generalizing s with
  | nil => rfl
  | cons sub rest ih =>
    have hparting : (s.after [] [] ns).parting sub = (s.parting sub).after [] [] ns := by
      simp [parting, after]
    rw [parted_cons, hparting, ih, parted_cons]

end parted

/-- What asking for the end of some subscriptions may come to. -/
inductive Parted (s : Service) (subs : List Subscription) :
    EStateM.Result ServiceFault Service Unit → Prop where
  | all (ns : List Notice) (h : ∀ i < subs.length, ¬ s.StopsAt i) :
    Parted s subs (.ok () ((s.parted subs).after [] [] ns))
  | interrupted (ns : List Notice) {before rest : List Subscription} {sub : Subscription}
    (hs : subs = before ++ sub :: rest) (hb : ∀ i < before.length, ¬ s.StopsAt i)
    (hf : s.StopsAt before.length) :
    Parted s subs (.error (.bus .interrupted) ((s.parted (before ++ [sub])).after [] [] ns))

/-- The end of one subscription is asked for. -/
theorem calling_unsubscribe (sub : Subscription) (s : Service) :
    calling (Bus.unsubscribe sub) s =
      .ok (match s.bus.faults.unsubscribe (endedIn s.bus.journal).length with
        | some fault => .error fault
        | none => .ok ()) (s.parting sub) := by
  unfold calling Bus.unsubscribe
  cases h : s.bus.faults.unsubscribe (endedIn s.bus.journal).length <;>
    simp [parting, Bus.record, h]

/-- The next subscription, and what is done about the others behind it. -/
theorem Parted.cons {s : Service} {sub : Subscription} {rest : List Subscription}
    {ns : List Notice} {x : EStateM.Result ServiceFault Service Unit} (hs : ¬ s.StopsAt 0)
    (h : Parted ((s.parting sub).after [] [] ns) rest x) : Parted s (sub :: rest) x := by
  have hnext : ∀ {i}, ((s.parting sub).after [] [] ns).StopsAt i ↔ s.StopsAt (i + 1) := fun {i} => by
    rw [StopsAt, after_journal, List.append_nil, endedIn_parting, List.length_append,
      List.length_singleton, Nat.add_assoc, Nat.add_comm 1 i]
    rfl
  have hcons : ∀ {n}, (∀ i < n, ¬ ((s.parting sub).after [] [] ns).StopsAt i) →
      ∀ i < n + 1, ¬ s.StopsAt i := by
    intro n hi i hn
    cases i with
    | zero => exact hs
    | succ i => exact fun hi' => hi i (Nat.lt_of_succ_lt_succ hn) (hnext.2 hi')
  cases h with
  | all ns' hi =>
    rw [parted_after, after_after, ← parted_cons]
    exact .all _ (hcons hi)
  | interrupted ns' hsubs hb hf =>
    rw [parted_after, after_after, ← parted_cons, ← List.cons_append]
    exact .interrupted _ (by rw [hsubs, List.cons_append]) (hcons hb) (hnext.1 hf)

theorem parted_unsubscribeAll (subs : List Subscription) (s : Service) :
    Parted s subs (unsubscribeAll subs s) := by
  induction subs generalizing s with
  | nil =>
    have h : Parted s [] (.ok () ((s.parted []).after [] [] [])) := .all [] fun _ h => by cases h
    rwa [after_nil] at h
  | cons sub rest ih =>
    unfold unsubscribeAll
    rw [bind_of_ok (calling_unsubscribe sub s)]
    cases hf : s.bus.faults.unsubscribe (endedIn s.bus.journal).length with
    | none =>
      have hrest : Parted ((s.parting sub).after [] [] []) rest
          (unsubscribeAll rest (s.parting sub)) := by
        rw [after_nil]
        exact ih _
      refine Parted.cons (fun h => ?_) hrest
      cases hf.symm.trans h
    | some fault =>
      cases fault with
      | refused message =>
        dsimp only
        rw [bind_of_ok (note_eq _ _ _)]
        refine Parted.cons (fun h => ?_) (ih _)
        cases hf.symm.trans h
      | interrupted =>
        have h : Parted s (sub :: rest)
            (.error (.bus .interrupted) ((s.parted ([] ++ [sub])).after [] [] [])) :=
          .interrupted [] rfl (fun _ h => by cases h) hf
        rwa [after_nil] at h

/-- A service that has stopped. -/
def stopped (s : Service) : Service :=
  { s.parted s.subscriptions with subscriptions := [], ready := false }

/-- What a stop may come to. It fails only if the service is told to stop on the way, whatever the
bus refuses. -/
inductive Stopped (s : Service) : EStateM.Result ServiceFault Service Unit → Prop where
  | stopped (ns : List Notice) (h : ∀ i < s.subscriptions.length, ¬ s.StopsAt i) :
    Stopped s (.ok () (s.stopped.after [] [] ns))
  | interrupted (ns : List Notice) {before rest : List Subscription} {sub : Subscription}
    (hs : s.subscriptions = before ++ sub :: rest) (hb : ∀ i < before.length, ¬ s.StopsAt i)
    (hf : s.StopsAt before.length) :
    Stopped s (.error (.bus .interrupted) ((s.parted (before ++ [sub])).after [] [] ns))

theorem stopped_stop (s : Service) : Stopped s (stop s) := by
  unfold stop
  rw [bind_of_ok (note_eq _ _ s), get_bind]
  generalize [_] = ns
  have hstops : ∀ i, (s.after [] [] ns).StopsAt i ↔ s.StopsAt i := fun i => by
    rw [StopsAt, after_journal, List.append_nil]
    rfl
  have hall := parted_unsubscribeAll s.subscriptions (s.after [] [] ns)
  rw [after_subscriptions]
  generalize h : unsubscribeAll s.subscriptions (s.after [] [] ns) = res at hall
  cases hall with
  | all ns' hi =>
    rw [parted_after, after_after] at h
    rw [bind_of_ok h, modify_bind]
    show Stopped s (note _ _ (s.stopped.after [] [] (ns ++ ns')))
    rw [note_eq, after_after]
    exact .stopped _ fun i hn => mt (hstops i).2 (hi i hn)
  | interrupted ns' hs hb hf =>
    rw [parted_after, after_after] at h
    rw [bind_of_error h]
    exact .interrupted _ hs (fun i hn => mt (hstops i).2 (hb i hn)) ((hstops _).1 hf)

end Service

end Tabletop
