import Tabletop.Proofs.Service.Delivery
import Tabletop.Proofs.Service.Lifecycle

/-!
# The subscriptions of a service over time

A service may be started and stopped any number of times and in any order, also
again behind a start that has failed (`Service.switched`). Over every such
history, as long as subscriptions can be ended:

* what the service remembers is in step with its bus (`Service.InStep`): each
  call keeps that (`InStep.called`), so a history does (`InStep.switched`), and
  no subscription is leaked or forgotten (`subscriptions_eq_live`);
* a start subscribes again to what it is subscribed to already, so a command has
  as many subscriptions as there were starts since the last stop, or fewer if
  one of them failed (`Service.HasEach`), and a message is handled as often
  (`deliver_eq_replicate`).
-/

namespace Tabletop

/-- A call that starts or stops a service. -/
inductive Switch where
  | start
  | stop
  deriving DecidableEq

/-- What a call does. -/
def Switch.action : Switch → Serving Unit
  | start => Service.start
  | stop => Service.stop

/-- The starts since the last stop, by how many there were before a call. -/
def Switch.starts (n : Nat) : Switch → Nat
  | start => n + 1
  | stop => 0

/-- How many calls of a history are starts since the last stop. -/
def startsSinceStop (calls : List Switch) : Nat := calls.foldl Switch.starts 0

/-- The subscriptions that were made and not ended, in the order in which they were made. -/
def remainingIn (journal : List Exchange) : List Subscription :=
  (madeIn journal).filter (· ∉ endedIn journal)

section remainingIn

variable {xs ys : List Exchange} {subs : List Subscription}

theorem remainingIn_append (hm : madeIn ys = []) (he : endedIn ys = []) :
    remainingIn (xs ++ ys) = remainingIn xs := by
  rw [remainingIn, madeIn_append, endedIn_append, hm, he, List.append_nil, List.append_nil,
    remainingIn]

theorem remainingIn_append_making (h : ∀ sub ∈ subs, sub ∉ endedIn xs) :
    remainingIn (xs ++ subs.map .making) = remainingIn xs ++ subs := by
  rw [remainingIn, madeIn_append, endedIn_append, madeIn_map_making, endedIn_map_making,
    List.append_nil, List.filter_append, remainingIn,
    List.filter_eq_self.2 fun sub hsub => decide_eq_true (h sub hsub)]

theorem remainingIn_append_unsubscribe (xs : List Exchange) (subs : List Subscription) :
    remainingIn (xs ++ subs.map .unsubscribe) = (remainingIn xs).filter (· ∉ subs) := by
  rw [remainingIn, madeIn_append, endedIn_append, madeIn_map_unsubscribe, endedIn_map_unsubscribe,
    List.append_nil, remainingIn, List.filter_filter]
  refine List.filter_congr fun sub _ => ?_
  rw [← Bool.decide_and, decide_eq_decide, List.mem_append, not_or, and_comm]

end remainingIn

/-- How many live subscriptions a subject has. -/
def Bus.subscribers (b : Bus) (subject : Text) : Nat := b.live.countP (·.subject = subject)

/-- A message to the subject of a command reaches that command, as often as it is subscribed to. -/
theorem Bus.recipients_subject (b : Bus) (command : Command) :
    b.recipients command.subject = List.replicate (b.subscribers command.subject) command := by
  rw [recipients, subscribers, List.eq_replicate_iff, List.length_map, List.countP_eq_length_filter]
  refine ⟨rfl, fun c hc => ?_⟩
  obtain ⟨sub, hsub, rfl⟩ := List.mem_map.1 hc
  exact Command.subject_inj (of_decide_eq_true (List.mem_filter.1 hsub).2)

theorem Subscription.countP_numbered (n : Nat) (commands : List Command) (command : Command) :
    (numbered n commands).countP (·.subject = command.subject) = commands.count command := by
  rw [List.count, ← map_command_numbered n commands, List.countP_map, map_command_numbered]
  refine List.countP_congr fun sub _ => ?_
  rw [decide_eq_true_iff, Function.comp_apply, beq_iff_eq]
  exact ⟨Command.subject_inj, fun h => congrArg Command.subject h⟩

theorem foldl_erase_self (subs : List Subscription) : subs.foldl List.erase subs = [] := by
  induction subs with
  | nil => rfl
  | cons sub rest ih => rw [List.foldl_cons, List.erase_cons_head, ih]

namespace Service

/-- A service after some calls, whether they fail or not. -/
def switched (s : Service) (calls : List Switch) : Service :=
  calls.foldl (fun s call => stateAfter (call.action s)) s

/-- What a call may make of a service. -/
inductive Called (s : Service) : Switch → Service → Prop where
  | opened (ns : List Notice) : Called s .start (s.opened.after [] [] ns)
  | refused (ns : List Notice) {before rest : List Command} {command : Command} {fault : BusFault}
    (hc : Command.all = before ++ command :: rest)
    (hf : s.bus.faults.subscribe ((requested s.bus.journal).length + before.length) = some fault) :
    Called s .start ((s.joined before).after [] [.subscribe command none] ns)
  | stopped (ns : List Notice) : Called s .stop (s.stopped.after [] [] ns)
  | interrupted (ns : List Notice) {before rest : List Subscription} {sub : Subscription}
    (hs : s.subscriptions = before ++ sub :: rest) (hf : s.StopsAt before.length) :
    Called s .stop ((s.parted (before ++ [sub])).after [] [] ns)

theorem called_action (s : Service) (call : Switch) :
    Called s call (stateAfter (call.action s)) := by
  cases call with
  | start =>
    have hstart := started_start s
    show Called s .start (stateAfter (start s))
    generalize start s = res at hstart
    cases hstart with
    | opened ns => exact .opened ns
    | refused ns hc hf => exact .refused ns hc hf
  | stop =>
    have hstop := stopped_stop s
    show Called s .stop (stateAfter (stop s))
    generalize stop s = res at hstop
    cases hstop with
    | stopped ns => exact .stopped ns
    | interrupted ns hs _ hf => exact .interrupted ns hs hf

theorem Called.faults {s t : Service} {call : Switch} (h : Called s call t) :
    t.bus.faults = s.bus.faults := by
  cases h with
  | opened ns => rfl
  | refused ns => rfl
  | stopped ns => exact s.parted_faults s.subscriptions
  | interrupted ns => exact s.parted_faults _

theorem faults_switched (s : Service) (calls : List Switch) :
    (s.switched calls).bus.faults = s.bus.faults := by
  induction calls generalizing s with
  | nil => rfl
  | cons call rest ih => exact (ih _).trans (called_action s call).faults

/-- A service that has not been started yet, and a bus that nothing was asked of. -/
structure Fresh (s : Service) : Prop where
  ready : s.ready = false
  subscriptions : s.subscriptions = []
  bus : s.bus = { faults := s.bus.faults }

/-! ## In step with the bus -/

/-- A service remembers what is live on its bus: whatever was made and not ended. -/
structure InStep (s : Service) : Prop where
  /-- Subscriptions can be ended. -/
  faults : ∀ i, s.bus.faults.unsubscribe i = none
  remembered : s.subscriptions = s.bus.live
  remaining : s.bus.live = remainingIn s.bus.journal
  numbers : (madeIn s.bus.journal).map (·.number) = List.range s.bus.made
  ended : ∀ sub ∈ endedIn s.bus.journal, sub.number < s.bus.made
  complete : s.ready → ∀ command, ∃ sub ∈ s.bus.live, sub.command = command

namespace InStep

variable {s : Service}

theorem of_fresh (hs : s.Fresh) (hu : ∀ i, s.bus.faults.unsubscribe i = none) : s.InStep := by
  have hlive : s.bus.live = [] := by rw [hs.bus]
  have hmade : s.bus.made = 0 := by rw [hs.bus]
  have hjournal : s.bus.journal = [] := by rw [hs.bus]
  refine ⟨hu, hs.subscriptions.trans hlive.symm, ?_, ?_, ?_, fun h => ?_⟩
  · rw [hlive, hjournal]
    rfl
  · rw [hmade, hjournal]
    rfl
  · rw [hjournal]
    exact fun _ h => by cases h
  · rw [hs.ready] at h
    cases h

theorem not_stopsAt (h : s.InStep) (i : Nat) : ¬ s.StopsAt i := by
  intro hi
  cases (h.faults _).symm.trans hi

/-- Each subscription was made once. -/
theorem nodup_madeIn (h : s.InStep) : (madeIn s.bus.journal).Nodup :=
  Subscription.nodup_of_map_number h.numbers

theorem number_lt (h : s.InStep) {sub : Subscription} (hsub : sub ∈ s.bus.live) :
    sub.number < s.bus.made := by
  rw [h.remaining] at hsub
  have hn := List.mem_map_of_mem (f := (·.number)) (List.mem_of_mem_filter hsub)
  rw [h.numbers] at hn
  exact List.mem_range.1 hn

/-- Calls that neither make nor end a subscription. -/
theorem after (h : s.InStep) {ds : List Draw} {xs : List Exchange} {ns : List Notice}
    (hm : madeIn xs = []) (he : endedIn xs = []) : (s.after ds xs ns).InStep where
  faults := h.faults
  remembered := h.remembered
  remaining := h.remaining.trans (remainingIn_append hm he).symm
  numbers := by simp [hm, h.numbers]
  ended := by simpa [he] using h.ended
  complete := h.complete

/-- New subscriptions are remembered, and none of them has ended: their numbers are new. -/
theorem joined (h : s.InStep) (commands : List Command) : (s.joined commands).InStep where
  faults := h.faults
  remembered := by simp [h.remembered]
  remaining := by
    have hnew : ∀ sub ∈ Subscription.numbered s.bus.made commands,
        sub ∉ endedIn s.bus.journal := fun sub hsub hended => by
      have hn := List.mem_map_of_mem (f := (·.number)) hsub
      rw [Subscription.map_number_numbered] at hn
      exact absurd (h.ended sub hended) (Nat.not_lt.2 (List.mem_range'_1.1 hn).1)
    rw [joined_live, joined_journal, remainingIn_append_making hnew, h.remaining]
  numbers := by
    rw [joined_journal, madeIn_append, madeIn_map_making]
    exact Subscription.map_number_append_numbered h.numbers commands
  ended := by
    simp only [joined_journal, endedIn_append, endedIn_map_making, List.append_nil, joined_made]
    exact fun sub hsub => Nat.lt_add_right _ (h.ended sub hsub)
  complete := fun hr command => by
    obtain ⟨sub, hsub, hc⟩ := h.complete hr command
    exact ⟨sub, List.mem_append_left _ hsub, hc⟩

/-- A service is ready behind the last command. -/
theorem opened (h : s.InStep) : s.opened.InStep :=
  { h.joined Command.all with
    complete := fun _ command => by
      have hall := Command.mem_all command
      rw [← Subscription.map_command_numbered s.bus.made Command.all] at hall
      obtain ⟨sub, hsub, hc⟩ := List.mem_map.1 hall
      exact ⟨sub, List.mem_append_right _ hsub, hc⟩ }

theorem live_stopped (h : s.InStep) : s.stopped.bus.live = [] := by
  show (s.parted s.subscriptions).bus.live = []
  rw [parted_live _ _ h.faults, h.remembered, foldl_erase_self]

/-- All that was made has ended behind a stop: what had not was remembered. -/
theorem stopped (h : s.InStep) : s.stopped.InStep where
  faults := by simpa [Service.stopped] using h.faults
  remembered := h.live_stopped.symm
  remaining := by
    rw [h.live_stopped, Service.stopped, parted_journal, remainingIn_append_unsubscribe,
      ← h.remaining, h.remembered]
    exact (List.filter_eq_nil_iff.2 fun sub hsub => by simpa using hsub).symm
  numbers := by simpa [Service.stopped] using h.numbers
  ended := by
    have hnumber : ∀ sub ∈ endedIn s.bus.journal ++ s.subscriptions, sub.number < s.bus.made := by
      rw [h.remembered, List.forall_mem_append]
      exact ⟨h.ended, fun sub => h.number_lt⟩
    simpa [Service.stopped] using hnumber
  complete := fun hr => by cases hr

/-- Every call keeps a service in step, whether it fails or not. -/
theorem called {t : Service} {call : Switch} (h : s.InStep) (ht : Called s call t) : t.InStep := by
  cases ht with
  | opened ns => exact h.opened.after rfl rfl
  | refused ns => exact (h.joined _).after rfl rfl
  | stopped ns => exact h.stopped.after rfl rfl
  | interrupted ns hs hf => exact absurd hf (h.not_stopsAt _)

/-- Behind a stop there is nothing left. -/
theorem of_stop {t : Service} (h : s.InStep) (ht : Called s .stop t) :
    t.bus.live = [] ∧ t.subscriptions = [] ∧ t.ready = false := by
  cases ht with
  | stopped ns => exact ⟨h.live_stopped, rfl, rfl⟩
  | interrupted ns hs hf => exact absurd hf (h.not_stopsAt _)

theorem switched (h : s.InStep) (calls : List Switch) : (s.switched calls).InStep := by
  induction calls generalizing s with
  | nil => exact h
  | cons call rest ih => exact ih (h.called (called_action s call))

end InStep

theorem switched_append (s : Service) (calls : List Switch) (call : Switch) :
    s.switched (calls ++ [call]) = stateAfter (call.action (s.switched calls)) := by
  rw [switched, List.foldl_append]
  rfl

/-- A message reaches nothing on a bus without live subscriptions. -/
theorem deliver_of_live_eq_nil {s : Service} (h : s.bus.live = []) (subject : Text) (m : Message) :
    deliver subject m s = .ok 0 s := by
  rw [deliver_eq, Bus.recipients, h]
  rfl

/-- No subscription is leaked or forgotten. Over every history of starts and stops of a service
whose subscriptions can be ended, whichever of them the bus refuses to make, the service remembers
exactly what is live: whatever was made and not ended, in the order in which it was made. A service
that is ready is subscribed to every command; and behind a stop it is not ready, nothing is live, and
a message reaches nothing. -/
theorem subscriptions_eq_live {s : Service} (hs : s.Fresh)
    (hu : ∀ i, s.bus.faults.unsubscribe i = none) (calls : List Switch) :
    let t := s.switched calls
    let u := s.switched (calls ++ [.stop])
    (t.subscriptions = t.bus.live ∧ t.bus.live = remainingIn t.bus.journal ∧
      (madeIn t.bus.journal).Nodup) ∧
    (t.ready → ∀ command, ∃ sub ∈ t.bus.live, sub.command = command) ∧
    u.bus.live = [] ∧ u.subscriptions = [] ∧ u.ready = false ∧
      ∀ subject m, deliver subject m u = .ok 0 u := by
  intro t u
  have h : t.InStep := (InStep.of_fresh hs hu).switched calls
  have hstop : Called t .stop u := by
    have hcall := called_action t .stop
    rwa [← switched_append] at hcall
  obtain ⟨hlive, hsubscriptions, hready⟩ := h.of_stop hstop
  exact ⟨⟨h.remembered, h.remaining, h.nodup_madeIn⟩, h.complete, hlive, hsubscriptions, hready,
    fun subject m => deliver_of_live_eq_nil hlive subject m⟩

/-- A start that fails at the second command, and another one that does not. -/
theorem subscriptions_eq_live_of_retried_start :
    let s : Service := {
      bus := { faults := { subscribe := fun i => if i = 1 then some (.refused "busy") else none } }
      source := .ofScript [] }
    let t := s.switched [.start, .start]
    let u := s.switched ([.start, .start] ++ [.stop])
    s.Fresh ∧ (∀ i, s.bus.faults.unsubscribe i = none) ∧
    (s.switched [.start]).subscriptions = [⟨0, .roll⟩] ∧
    t.subscriptions = [⟨0, .roll⟩, ⟨1, .roll⟩, ⟨2, .describe⟩, ⟨3, .help⟩] ∧
    (t.subscriptions = t.bus.live ∧ t.bus.live = remainingIn t.bus.journal ∧
      (madeIn t.bus.journal).Nodup) ∧
    (t.ready → ∀ command, ∃ sub ∈ t.bus.live, sub.command = command) ∧
    u.bus.live = [] ∧ u.subscriptions = [] ∧ u.ready = false ∧
      ∀ subject m, deliver subject m u = .ok 0 u := by
  intro s
  have hfresh : s.Fresh := ⟨rfl, rfl, rfl⟩
  have hu : ∀ i, s.bus.faults.unsubscribe i = none := fun _ => rfl
  have hfirst : (s.switched [.start]).subscriptions = [⟨0, .roll⟩] := by
    cbv
  have hsecond : (s.switched [.start, .start]).subscriptions
      = [⟨0, .roll⟩, ⟨1, .roll⟩, ⟨2, .describe⟩, ⟨3, .help⟩] := by
    cbv
  exact ⟨hfresh, hu, hfirst, hsecond, subscriptions_eq_live hfresh hu [.start, .start]⟩

/-! ## As often as it was started -/

/-- The subject of each command has at most so many live subscriptions, and no fewer if the bus
refuses none. -/
def HasEach (s : Service) (n : Nat) : Prop :=
  ∀ command : Command, s.bus.subscribers command.subject ≤ n ∧
    ((∀ i, s.bus.faults.subscribe i = none) → s.bus.subscribers command.subject = n)

theorem subscribers_joined (s : Service) (commands : List Command) (command : Command) :
    (s.joined commands).bus.subscribers command.subject
      = s.bus.subscribers command.subject + commands.count command := by
  rw [Bus.subscribers, joined_live, List.countP_append, Subscription.countP_numbered,
    Bus.subscribers]

namespace HasEach

variable {s : Service} {n : Nat}

theorem of_live_eq_nil (h : s.bus.live = []) : s.HasEach 0 := by
  have hnone : ∀ command : Command, s.bus.subscribers command.subject = 0 := fun command => by
    rw [Bus.subscribers, h]
    rfl
  exact fun command => ⟨(hnone command).le, fun _ => hnone command⟩

/-- A start adds one subscription to each command. -/
theorem opened (h : s.HasEach n) : s.opened.HasEach (n + 1) := by
  intro command
  obtain ⟨hle, heq⟩ := h command
  have hadd : s.opened.bus.subscribers command.subject
      = s.bus.subscribers command.subject + 1 := by
    rw [← List.count_eq_one_of_mem Command.nodup_all (Command.mem_all command)]
    exact subscribers_joined s Command.all command
  exact ⟨hadd.trans_le (Nat.succ_le_succ hle), fun hf => hadd.trans (congrArg (· + 1) (heq hf))⟩

/-- A start that fails has added at most one to each. -/
theorem joined {before rest : List Command} (h : s.HasEach n) (hc : Command.all = before ++ rest)
    (hf : ∃ i fault, s.bus.faults.subscribe i = some fault) : (s.joined before).HasEach (n + 1) := by
  intro command
  have hone : before.count command ≤ 1 := by
    refine List.nodup_iff_count_le_one.1 ?_ command
    have hall := Command.nodup_all
    rw [hc] at hall
    exact hall.of_append_left
  have hadd := subscribers_joined s before command
  refine ⟨hadd.trans_le (Nat.add_le_add (h command).1 hone), fun hnone => ?_⟩
  obtain ⟨i, fault, hf⟩ := hf
  exact absurd ((hnone i).symm.trans hf) nofun

/-- A call of a service that is in step with its bus. -/
theorem called {t : Service} {call : Switch} (hs : s.InStep) (h : s.HasEach n)
    (ht : Called s call t) : t.HasEach (call.starts n) := by
  cases ht with
  | opened ns => exact h.opened
  | refused ns hc hf => exact h.joined hc ⟨_, _, hf⟩
  | stopped ns => exact of_live_eq_nil hs.live_stopped
  | interrupted ns _ hf => exact absurd hf (hs.not_stopsAt _)

theorem switched (hs : s.InStep) (h : s.HasEach n) (calls : List Switch) :
    (s.switched calls).HasEach (calls.foldl Switch.starts n) := by
  induction calls generalizing s n with
  | nil => exact h
  | cons call rest ih =>
    have hcall := called_action s call
    exact ih (hs.called hcall) (h.called hs hcall)

end HasEach

/-- The subject of a command has no more live subscriptions than there were starts since the last
stop, and exactly as many if the bus refuses none. A message that is delivered to it is handled once
for each of them, up to the first time that fails, and is announced and answered at most as often. -/
theorem deliver_eq_replicate {s : Service} (hs : s.Fresh)
    (hu : ∀ i, s.bus.faults.unsubscribe i = none) (calls : List Switch) (command : Command) :
    let t := s.switched calls
    let k := t.bus.subscribers command.subject
    k ≤ startsSinceStop calls ∧
    ((∀ i, s.bus.faults.subscribe i = none) → k = startsSinceStop calls) ∧
    ∀ m, deliver command.subject m t
        = (do handleAll m (List.replicate k command); return k) t ∧
      (publishedIn (t.callsMade (deliver command.subject m t))).length ≤ k ∧
      (repliesIn (t.callsMade (deliver command.subject m t))).length ≤ k := by
  intro t k
  have hlive : s.bus.live = [] := by rw [hs.bus]
  have heach : t.HasEach (startsSinceStop calls) :=
    (HasEach.of_live_eq_nil hlive).switched (.of_fresh hs hu) calls
  obtain ⟨hle, heq⟩ := heach command
  rw [faults_switched] at heq
  have hrecipients : t.bus.recipients command.subject = List.replicate k command :=
    t.bus.recipients_subject command
  refine ⟨hle, heq, fun m => ?_⟩
  have htraffic := (adds_deliver command.subject m t).traffic
  rw [hrecipients, List.length_replicate] at htraffic
  refine ⟨?_, htraffic.published, htraffic.replies⟩
  rw [deliver_eq, hrecipients, List.length_replicate]

/-- A service that was stopped and started again handles a message once. -/
theorem deliver_eq_replicate_of_restart :
    let s : Service := { source := .ofScript [4] }
    let t := s.switched [.start, .stop, .start]
    let k := t.bus.subscribers Command.roll.subject
    s.Fresh ∧ (∀ i, s.bus.faults.unsubscribe i = none) ∧
    startsSinceStop [.start, .stop, .start] = 1 ∧
    k ≤ startsSinceStop [.start, .stop, .start] ∧
    ((∀ i, s.bus.faults.subscribe i = none) → k = startsSinceStop [.start, .stop, .start]) ∧
    ∀ m, deliver Command.roll.subject m t
        = (do handleAll m (List.replicate k Command.roll); return k) t ∧
      (publishedIn (t.callsMade (deliver Command.roll.subject m t))).length ≤ k ∧
      (repliesIn (t.callsMade (deliver Command.roll.subject m t))).length ≤ k := by
  intro s t k
  have hfresh : s.Fresh := ⟨rfl, rfl, rfl⟩
  have hu : ∀ i, s.bus.faults.unsubscribe i = none := fun _ => rfl
  exact ⟨hfresh, hu, rfl, deliver_eq_replicate hfresh hu [.start, .stop, .start] .roll⟩

set_option maxRecDepth 1000 in
/-- A service that was started twice rolls, announces and answers a message twice. -/
theorem handled_twice_of_two_starts :
    let s : Service := { source := .ofScript [4, 5] }
    let t := s.switched [.start, .start]
    let m : Message := { data := Utf8.encode "\x7b\"args\": \"d6\"\x7d", replyTo := "r" }
    s.Fresh ∧ (∀ i, s.bus.faults.unsubscribe i = none) ∧
    t.bus.subscribers Command.roll.subject = 2 ∧
    t.drawsTaken (deliver Command.roll.subject m t) = drawsOf 6 [4, 5] ∧
    (publishedIn (t.callsMade (deliver Command.roll.subject m t))).length = 2 ∧
    (repliesIn (t.callsMade (deliver Command.roll.subject m t))).length = 2 := by
  intro s t m
  have hfresh : s.Fresh := ⟨rfl, rfl, rfl⟩
  have hsubscribers : t.bus.subscribers Command.roll.subject = 2 := by
    cbv
  have hdraws : t.drawsTaken (deliver Command.roll.subject m t) = drawsOf 6 [4, 5] := by
    cbv
  have hpublished :
      (publishedIn (t.callsMade (deliver Command.roll.subject m t))).length = 2 := by
    cbv
  have hreplies : (repliesIn (t.callsMade (deliver Command.roll.subject m t))).length = 2 := by
    cbv
  exact ⟨hfresh, fun _ => rfl, hsubscribers, hdraws, hpublished, hreplies⟩

end Service

end Tabletop
