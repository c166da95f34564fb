import Tabletop.Proofs.Evaluation.Outcomes
import Tabletop.Service

/-!
# Steps of the service

While it handles a message the service only adds to its state: draws to its
source, calls to the journal of its bus, and notices (`Service.after`). One
statement for each operation says what it adds and when it fails:

* `announce_eq`, `respond_eq`: neither fails, and each makes one call at most;
* `served_serve`: all that serving an order may come to; `serve_of_roll_ok` and
  `serve_of_roll_error` say what it comes to after a roll;
* `handle_of_request`: a message that is understood is answered with the
  response to its request.
-/

namespace Tabletop

namespace Service

/-- A service with some more draws, calls and notices. -/
def after (s : Service) (ds : List Draw) (xs : List Exchange) (ns : List Notice) : Service :=
  { s with
    source := s.source.after ds
    bus := { s.bus with journal := s.bus.journal ++ xs }
    notices := s.notices ++ ns }

section after

variable (s : Service) (ds ds' : List Draw) (xs xs' : List Exchange) (ns ns' : List Notice)

@[simp] theorem after_journal : (s.after ds xs ns).bus.journal = s.bus.journal ++ xs := rfl

@[simp] theorem after_subscriptions : (s.after ds xs ns).subscriptions = s.subscriptions := rfl

@[simp] theorem after_faults : (s.after ds xs ns).bus.faults = s.bus.faults := rfl

@[simp] theorem after_made : (s.after ds xs ns).bus.made = s.bus.made := rfl

@[simp] theorem after_nil : s.after [] [] [] = s := by simp [after]

@[simp] theorem after_after :
    (s.after ds xs ns).after ds' xs' ns' = s.after (ds ++ ds') (xs ++ xs') (ns ++ ns') := by
  simp [after]

theorem after_draws_inj {s : Service} {ds ds' : List Draw}
    (h : s.after ds [] [] = s.after ds' [] []) : ds = ds' :=
  Source.after_inj (congrArg Service.source h)

end after

/-- The service when a computation is over. -/
def stateAfter {α : Type} : EStateM.Result ServiceFault Service α → Service
  | .ok _ s' | .error _ s' => s'

/-! ## The log and the bus -/

theorem note_eq (level : Level) (message : Text) (s : Service) :
    note level message s = .ok () (s.after [] [] [{ logger, level, message }]) := by
  show EStateM.Result.ok () _ = _
  simp [after]

/-- The call that sends data, if it can be written and the bus takes it. -/
def sent (call : Payload → Exchange) (v : Value) (fault : Option Text) : List Exchange :=
  match Payload.ofValue v with
  | .ok payload => if fault = none then [call payload] else []
  | .error _ => []

/-- A call that adds to the journal unless the bus has a fault, which is noted then. -/
theorem calling_bind_note {call : EStateM Text Bus Unit} {x : Exchange} {s : Service}
    {fault : Option Text} (hnone : fault = none → call s.bus = .ok () (s.bus.record x))
    (hsome : ∀ f, fault = some f → call s.bus = .error f s.bus) (level : Level) (before : Text) :
    ∃ ns, (calling call >>= fun
        | .ok () => pure ()
        | .error message => note level (before ++ message)) s
      = .ok () (s.after [] (if fault = none then [x] else []) ns) := by
  cases fault with
  | none =>
    have h : calling call s = .ok (.ok ()) (s.after [] [x] []) := by
      rw [calling, hnone rfl]
      simp [after, Bus.record]
    rw [bind_of_ok h]
    exact ⟨[], rfl⟩
  | some f =>
    have h : calling call s = .ok (.error f) s := by rw [calling, hsome f rfl]
    rw [bind_of_ok h]
    exact ⟨_, note_eq _ _ s⟩

/-- The call that announces a roll. -/
def announced (s : Service) (a : Announcement) : List Exchange :=
  sent (.publish rolledSubject) (a.toValue s.now) s.bus.faults.publish

/-- An announcement does not fail. -/
theorem announce_eq (a : Announcement) (s : Service) :
    ∃ ns, announce a s = .ok () (s.after [] (s.announced a) ns) := by
  unfold announce announced sent
  rw [get_bind]
  cases Payload.ofValue (a.toValue s.now) with
  | error fault => exact ⟨_, (pure_bind_eq _ _).trans (note_eq _ _ s)⟩
  | ok payload =>
    exact calling_bind_note (fun h => by rw [Bus.publish, h]) (fun f h => by rw [Bus.publish, h])
      .debug (Text.ofString "Could not publish roll event: ")

/-- The call that answers a message. -/
def replied (m : Message) (response : Response) : List Exchange :=
  if m.wantsReply then sent .reply response.toValue m.respondFault else []

/-- An answer does not fail. -/
theorem respond_eq (m : Message) (response : Response) (s : Service) :
    ∃ ns, respond m response s = .ok () (s.after [] (replied m response) ns) := by
  unfold respond replied sent
  split
  · cases Payload.ofValue response.toValue with
    | error fault => exact ⟨_, (pure_bind_eq _ _).trans (note_eq _ _ s)⟩
    | ok payload =>
      exact calling_bind_note (fun h => by rw [Bus.respond, h]) (fun f h => by rw [Bus.respond, h])
        .error (Text.ofString "Error sending response: ")
  · exact ⟨[], by rw [after_nil]; rfl⟩

/-! ## Rolling -/

/-- What the roll of a line may come to: its draws are all that it adds. -/
inductive Rolled (s : Service) (line : Text) : EStateM.Result ServiceFault Service Result → Prop where
  | unread {fault : ParseFault} (hp : Expression.parse line = .error fault) :
    Rolled s line (.error (.input (.parse fault)) s)
  | overLimit {e : Expression} {fault : LimitFault} (hp : Expression.parse line = .ok e)
    (hl : s.options.limits.check e = .error fault) : Rolled s line (.error (.limit fault) s)
  | stopped {e : Expression} {ds : List Draw} {fault : RollFault}
    (hp : Expression.parse line = .ok e) (hl : s.options.limits.check e = .ok ())
    (he : e.evaluate line.strip s.source = .error fault (s.source.after ds)) :
    Rolled s line (.error (.roll fault) (s.after ds [] []))
  | rolled {e : Expression} {ds : List Draw} {r : Result}
    (hp : Expression.parse line = .ok e) (hl : s.options.limits.check e = .ok ())
    (he : e.evaluate line.strip s.source = .ok r (s.source.after ds)) :
    Rolled s line (.ok r (s.after ds [] []))

theorem rolled_roll (s : Service) (line : Text) : Rolled s line (roll line s) := by
  have hafter : ∀ ds, { s with source := s.source.after ds } = s.after ds [] [] := fun ds => by
    simp [after]
  unfold roll
  cases hp : Expression.parse line with
  | error fault => exact .unread hp
  | ok e =>
    dsimp only
    cases hl : s.options.limits.check e with
    | error fault => exact .overLimit hp hl
    | ok =>
      dsimp only
      cases he : e.evaluate line.strip s.source with
      | error fault source =>
        obtain ⟨ds, rfl, -⟩ := (outcomes_evaluate line.strip e).error he
        dsimp only
        rw [hafter]
        exact .stopped hp hl he
      | ok r source =>
        obtain ⟨ds, rfl, -⟩ := (outcomes_evaluate line.strip e).ok he
        dsimp only
        rw [hafter]
        exact .rolled hp hl he

/-- A roll that returns is that of an expression within the limits. -/
theorem roll_eq_ok {s s' : Service} {line : Text} {r : Result} (h : roll line s = .ok r s') :
    ∃ e ds, Expression.parse line = .ok e ∧ s.options.limits.check e = .ok () ∧
      e.evaluate line.strip s.source = .ok r (s.source.after ds) ∧ s' = s.after ds [] [] := by
  have hr := rolled_roll s line
  rw [h] at hr
  cases hr with
  | rolled hp hl he => exact ⟨_, _, hp, hl, he, rfl⟩

theorem line_ne_nil_of_roll {s s' : Service} {line : Text} {r : Result}
    (h : roll line s = .ok r s') : line ≠ [] := by
  rintro rfl
  obtain ⟨e, ds, hp, -⟩ := roll_eq_ok h
  cases hp

/-- A roll that fails adds only draws too. -/
theorem after_of_roll_eq_error {s s' : Service} {line : Text} {fault : ServiceFault}
    (h : roll line s = .error fault s') : ∃ ds, s' = s.after ds [] [] := by
  have hr := rolled_roll s line
  rw [h] at hr
  cases hr with
  | unread => exact ⟨[], (after_nil s).symm⟩
  | overLimit => exact ⟨[], (after_nil s).symm⟩
  | stopped => exact ⟨_, rfl⟩

/-- The call that announces the roll of an order, if rolls are announced. -/
def announcedFor (s : Service) (order : Order) (r : Result) : List Exchange :=
  if s.options.announces.isTruthy then
    s.announced { channel := order.channel, user := order.user, result := r,
                  description := order.description }
  else []

/-- What serving an order may come to. A roll is announced before it is written for chat. -/
inductive Served (s : Service) (order : Order) :
    EStateM.Result ServiceFault Service Response → Prop where
  | usage (h : order.line = []) : Served s order (.ok (.failed rollUsage) s)
  | refused {fault : ServiceFault} {ds : List Draw} (ns : List Notice)
    (hr : roll order.line s = .error fault (s.after ds [] [])) (hf : fault.isRefusal) :
    Served s order
      (.ok (.failed (errorText fault.message s.options.marks.isTruthy)) (s.after ds [] ns))
  | failed {fault : ServiceFault} {ds : List Draw}
    (hr : roll order.line s = .error fault (s.after ds [] [])) (hf : ¬ fault.isRefusal) :
    Served s order (.error fault (s.after ds [] []))
  | rolled {r : Result} {ds : List Draw} {chat : Text} (ns : List Notice)
    (hr : roll order.line s = .ok r (s.after ds [] []))
    (hc : r.chatText order.description s.options.marks.isTruthy = .ok chat) :
    Served s order (.ok (.rolled r chat) (s.after ds (s.announcedFor order r) ns))
  | unshown {r : Result} {ds : List Draw} {fault : TranscriptFault} (ns : List Notice)
    (hr : roll order.line s = .ok r (s.after ds [] []))
    (hc : r.chatText order.description s.options.marks.isTruthy = .error fault) :
    Served s order (.error (.transcript fault) (s.after ds (s.announcedFor order r) ns))

theorem attempt_eq_ok {α : Type} {x : Serving α} {s s' : Service} {a : α} (h : x s = .ok a s') :
    attempt x s = .ok (.ok a) s' := by
  rw [attempt, h]

theorem attempt_eq_error {α : Type} {x : Serving α} {s s' : Service} {fault : ServiceFault}
    (h : x s = .error fault s') : attempt x s = .ok (.error fault) s' := by
  rw [attempt, h]

/-- The result of an order, announced if rolls are announced. -/
theorem served_of_roll {s : Service} {order : Order} {r : Result} {ds : List Draw}
    (hr : roll order.line s = .ok r (s.after ds [] [])) (ns : List Notice) :
    Served s order ((match r.chatText order.description s.options.marks.isTruthy with
      | .ok chat => pure (.rolled r chat)
      | .error fault => throw (.transcript fault) : Serving Response)
        (s.after ds (s.announcedFor order r) ns)) := by
  cases hc : r.chatText order.description s.options.marks.isTruthy with
  | ok chat => exact .rolled ns hr hc
  | error fault => exact .unshown ns hr hc

theorem served_serve (s : Service) (order : Order) : Served s order (serve order s) := by
  unfold serve
  split
  · rename_i h
    exact .usage (List.isEmpty_iff.1 h)
  · rw [get_bind]
    cases hr : roll order.line s with
    | error fault s' =>
      obtain ⟨ds, rfl⟩ := after_of_roll_eq_error hr
      rw [bind_of_ok (attempt_eq_error hr)]
      dsimp only
      split
      · rename_i hf
        rw [bind_of_ok (note_eq _ _ _), after_after, List.append_nil]
        exact .refused _ hr hf
      · rename_i hf
        exact .failed hr hf
    | ok r s' =>
      obtain ⟨_, ds, -, -, -, rfl⟩ := roll_eq_ok hr
      have hserved := served_of_roll hr
      unfold announcedFor at hserved
      rw [bind_of_ok (attempt_eq_ok hr)]
      dsimp only
      split
      · rename_i ha
        obtain ⟨ns, hn⟩ := announce_eq
          (.mk order.channel order.user r order.description) (s.after ds [] [])
        rw [bind_of_ok hn, after_after, List.append_nil]
        simp only [ha, if_true] at hserved
        exact hserved ns
      · rename_i ha
        simp only [ha] at hserved
        exact hserved []

/-- An order whose roll has a result is served as that result, if there is a chat text of it. -/
theorem serve_of_roll_ok {s : Service} {order : Order} {r : Result} {ds : List Draw}
    (hr : roll order.line s = .ok r (s.after ds [] [])) :
    ∃ ns, serve order s = match r.chatText order.description s.options.marks.isTruthy with
      | .ok chat => .ok (.rolled r chat) (s.after ds (s.announcedFor order r) ns)
      | .error fault => .error (.transcript fault) (s.after ds (s.announcedFor order r) ns) := by
  have h := served_serve s order
  generalize serve order s = res at h
  cases h with
  | usage h => exact absurd h (line_ne_nil_of_roll hr)
  | refused _ hr' | failed hr' =>
    rw [hr] at hr'
    cases hr'
  | rolled ns hr' hc | unshown ns hr' hc =>
    rw [hr] at hr'
    obtain ⟨rfl, hs⟩ := EStateM.Result.ok.inj hr'
    obtain rfl := after_draws_inj hs
    rw [hc]
    exact ⟨ns, rfl⟩

/-- An order whose roll has a result that can be written for chat is served. -/
theorem serve_of_roll {s : Service} {order : Order} {r : Result} {ds : List Draw} {chat : Text}
    (hr : roll order.line s = .ok r (s.after ds [] []))
    (hc : r.chatText order.description s.options.marks.isTruthy = .ok chat) :
    ∃ ns, serve order s = .ok (.rolled r chat) (s.after ds (s.announcedFor order r) ns) := by
  obtain ⟨ns, h⟩ := serve_of_roll_ok hr
  rw [hc] at h
  exact ⟨ns, h⟩

/-- An order whose roll fails is answered with the fault if that is a refusal, and fails otherwise.
An empty line is refused too, though with another text. -/
theorem serve_of_roll_error {s : Service} {order : Order} {fault : ServiceFault} {ds : List Draw}
    (hr : roll order.line s = .error fault (s.after ds [] [])) :
    (fault.isRefusal ∧ ∃ error ns, serve order s = .ok (.failed error) (s.after ds [] ns)) ∨
      (¬ fault.isRefusal ∧ serve order s = .error fault (s.after ds [] [])) := by
  have h := served_serve s order
  generalize serve order s = res at h
  cases h with
  | usage h =>
    have hempty : roll [] s = .error (.input (.parse (.refused ⟨.blank, [], []⟩))) s := rfl
    rw [h, hempty] at hr
    obtain ⟨rfl, hs⟩ := EStateM.Result.error.inj hr
    have hds : [] = ds := after_draws_inj ((after_nil s).trans hs)
    exact .inl ⟨rfl, rollUsage, [], by rw [← hds, after_nil]⟩
  | refused ns hr' hf =>
    rw [hr] at hr'
    obtain ⟨rfl, hs⟩ := EStateM.Result.error.inj hr'
    obtain rfl := after_draws_inj hs
    exact .inl ⟨hf, _, ns, rfl⟩
  | failed hr' hf =>
    rw [hr] at hr'
    obtain ⟨rfl, hs⟩ := EStateM.Result.error.inj hr'
    obtain rfl := after_draws_inj hs
    exact .inr ⟨hf, rfl⟩
  | rolled _ hr' | unshown _ hr' =>
    rw [hr] at hr'
    cases hr'

/-! ## Requests -/

/-- The order that a command makes of its arguments, if it makes one. -/
def order? (members : List (Text × Value)) (args : Text) : Command → Option Order
  | .roll => some (orderOf members args.strip none)
  | .describe => args.splitFirstWord?.map fun (line, rest) =>
    orderOf members line (if rest.isEmpty then none else some rest)
  | .help => none

/-- The response to a command that makes no order of its arguments. -/
def guidance (args : Text) : Command → Response
  | .roll | .describe => .failed describeUsage
  | .help => .explained (guide (args.words.any fun w => w = "-d" ∨ w = "--detailed"))

variable {command : Command} {members : List (Text × Value)}

/-- A request whose arguments are a text is an order, or a question about the commands. -/
theorem request_of_text {args : Text} (h : memberOr members "args" (.text []) = .text args)
    (s : Service) : request command members s =
      match order? members args command with
      | some order => serve order s
      | none => .ok (guidance args command) s := by
  have ha : ∀ operation, arguments members operation = .ok args := fun operation => by
    rw [arguments, h]
  cases command with
  | roll => rw [request, ha]; rfl
  | describe =>
    rw [request, ha, order?]
    dsimp only
    cases args.splitFirstWord? <;> rfl
  | help => rw [request, ha]; rfl

/-- A request whose arguments are of another kind fails, and the fault is that of the kind. -/
theorem exists_fault_of_not_text (h : ∀ args, memberOr members "args" (.text []) ≠ .text args) :
    ∃ fault, ∀ s, request command members s = .error (.input fault) s := by
  have ha : ∀ operation, ∃ fault, arguments members operation = .error fault := fun operation => by
    unfold arguments
    split
    · rename_i args hargs
      exact absurd hargs (h args)
    · exact ⟨_, rfl⟩
  cases command with
  | roll | describe | help =>
    obtain ⟨fault, hf⟩ := ha _
    exact ⟨fault, fun s => by rw [request, hf]; rfl⟩

theorem request_of_not_text (h : ∀ args, memberOr members "args" (.text []) ≠ .text args)
    (s : Service) : ∃ fault, request command members s = .error (.input fault) s := by
  obtain ⟨fault, hf⟩ : ∃ fault, ∀ s, request command members s = .error (.input fault) s :=
    exists_fault_of_not_text h
  exact ⟨fault, hf s⟩

/-! ## Messages -/

variable {m : Message} {s s' : Service}

theorem handle_of_fault {fault : Json.Fault} (h : Message.read m = .error fault) :
    handle command m s = .error (.data fault) s := by
  rw [handle, h]
  rfl

/-- A message that is not understood is noted and answered. -/
theorem handle_of_unread {fault : MessageFault} (h : Message.read m = .ok (.error fault)) :
    ∃ ns, handle command m s = respond m (.failed invalidMessage) (s.after [] [] ns) := by
  rw [handle, h]
  exact ⟨_, bind_of_ok (note_eq _ _ s)⟩

/-- A message that is understood is answered with the response to its request. -/
theorem handle_of_request {response : Response} (h : Message.read m = .ok (.ok members))
    (hr : request command members s = .ok response s') :
    handle command m s = respond m response s' := by
  rw [handle, h]
  exact bind_of_ok hr

theorem handle_of_request_error {fault : ServiceFault} (h : Message.read m = .ok (.ok members))
    (hr : request command members s = .error fault s') :
    handle command m s = .error fault s' := by
  rw [handle, h]
  exact bind_of_error hr

end Service

end Tabletop
