import Tabletop.Proofs.Service.Announcing

/-!
# Services that roll alike

Two services with the same limits and the same source of draws, whatever else
they are told and whatever their buses refuse, handle messages with the same
data alike: the same draws, the same fault or none, and answers that report the
same (`Handling.Agree`). Nothing that is published, answered or shown comes back
into a roll. This is a comparison of two runs, step by step:

* `roll_congr`: a roll reads the limits and the source of a service only;
* `alike_serve`, `alike_request`, `alike_handle`: what serving an order, a
  request and a message come to, in both services (`Alike`);
* then any number of messages, one after the other, by induction on them.
-/

namespace Tabletop

/-- Responses that report the same; an error may be worded in another way. -/
inductive Response.Alike : Response → Response → Prop where
  | rolled (r : Result) (chat chat' : Text) : Alike (.rolled r chat) (.rolled r chat')
  | explained (chat : Text) : Alike (.explained chat) (.explained chat)
  | failed (error error' : Text) : Alike (.failed error) (.failed error')

/-- Answers that report the same: both a success or neither, and the same members of a result. -/
def Value.ReportsSame (v v' : Value) : Prop :=
  v.get? "success" = v'.get? "success" ∧ ∀ name ∈ Result.memberNames,
    (v.get? "result").bind (·.get? name) = (v'.get? "result").bind (·.get? name)

theorem Response.Alike.reportsSame {a b : Response} (h : a.Alike b) :
    a.toValue.ReportsSame b.toValue := by
  cases h with
  | rolled r chat chat' =>
    refine ⟨rfl, fun name hn => ?_⟩
    rw [Response.get?_result r chat hn, Response.get?_result r chat' hn]
  | explained chat => exact ⟨rfl, fun _ _ => rfl⟩
  | failed error error' => exact ⟨rfl, fun _ _ => rfl⟩

theorem Response.Alike.refl (response : Response) : response.Alike response := by
  cases response with
  | rolled r chat => exact .rolled r chat chat
  | explained chat => exact .explained chat
  | failed error => exact .failed error error

namespace Service

/-- Two services with the same limits and the same source. -/
structure RollsAlike (s t : Service) : Prop where
  limits : s.options.limits = t.options.limits
  source : s.source = t.source

/-- How a computation comes out in two services: with the same draws, and with the same fault or
with two values of which a relation holds; and another one holds of the calls that were made. -/
inductive Alike {α : Type} (R : α → α → Prop) (P : List Exchange → List Exchange → Prop)
    (s t : Service) :
    EStateM.Result ServiceFault Service α → EStateM.Result ServiceFault Service α → Prop where
  | ok {a b : α} {ds : List Draw} {xs ys : List Exchange} {ns ns' : List Notice} (ha : R a b)
    (hx : P xs ys) : Alike R P s t (.ok a (s.after ds xs ns)) (.ok b (t.after ds ys ns'))
  | error {fault : ServiceFault} {ds : List Draw} {xs ys : List Exchange} {ns ns' : List Notice}
    (hx : P xs ys) :
    Alike R P s t (.error fault (s.after ds xs ns)) (.error fault (t.after ds ys ns'))

theorem Alike.ok_self {α : Type} {R : α → α → Prop} {P : List Exchange → List Exchange → Prop}
    {s t : Service} {a b : α} (ha : R a b) (hx : P [] []) : Alike R P s t (.ok a s) (.ok b t) := by
  have h : Alike R P s t (.ok a (s.after [] [] [])) (.ok b (t.after [] [] [])) := .ok ha hx
  rwa [after_nil, after_nil] at h

theorem Alike.error_self {α : Type} {R : α → α → Prop} {P : List Exchange → List Exchange → Prop}
    {s t : Service} {fault : ServiceFault} (hx : P [] []) :
    Alike R P s t (.error fault s) (.error fault t) := by
  have h : Alike R P s t (.error fault (s.after [] [] [])) (.error fault (t.after [] [] [])) :=
    .error hx
  rwa [after_nil, after_nil] at h

/-- No answers among some calls. -/
def Unanswered (xs ys : List Exchange) : Prop := repliesIn xs = [] ∧ repliesIn ys = []

/-- Any two answers among some calls report the same. -/
def AnswersAgree (xs ys : List Exchange) : Prop :=
  ∀ p ∈ repliesIn xs, ∀ p' ∈ repliesIn ys, p.value.ReportsSame p'.value

theorem Unanswered.answersAgree {xs ys : List Exchange} (h : Unanswered xs ys) :
    AnswersAgree xs ys := by
  intro p hp
  rw [h.1] at hp
  cases hp

theorem unanswered_nil : Unanswered [] [] := ⟨rfl, rfl⟩

section Alike

variable {s t : Service}

theorem RollsAlike.after (h : s.RollsAlike t) (ds : List Draw) (xs ys : List Exchange)
    (ns ns' : List Notice) : (s.after ds xs ns).RollsAlike (t.after ds ys ns') where
  limits := h.limits
  source := congrArg (Source.after · ds) h.source

/-! ## Rolls -/

/-- A roll reads the limits and the source of a service only. -/
theorem roll_congr (h : s.RollsAlike t) (line : Text) :
    roll line t = match roll line s with
      | .ok r s' => .ok r { t with source := s'.source }
      | .error fault s' => .error fault { t with source := s'.source } := by
  have ht : { t with source := s.source } = t := by rw [h.source]
  unfold roll
  rw [← h.limits, ← h.source]
  cases Expression.parse line with
  | error fault =>
    dsimp only
    rw [ht]
  | ok e =>
    dsimp only
    cases s.options.limits.check e with
    | error fault =>
      dsimp only
      rw [ht]
    | ok =>
      dsimp only
      cases e.evaluate line.strip s.source <;> rfl

/-- A roll that returns does so in both services, with the same draws. -/
theorem roll_eq_ok_of_rollsAlike (h : s.RollsAlike t) {line : Text} {r : Result} {ds : List Draw}
    (hr : roll line s = .ok r (s.after ds [] [])) : roll line t = .ok r (t.after ds [] []) := by
  rw [roll_congr h, hr]
  simp [after, h.source]

theorem roll_eq_error_of_rollsAlike (h : s.RollsAlike t) {line : Text} {fault : ServiceFault}
    {ds : List Draw} (hr : roll line s = .error fault (s.after ds [] [])) :
    roll line t = .error fault (t.after ds [] []) := by
  rw [roll_congr h, hr]
  simp [after, h.source]

/-! ## Orders and requests -/

theorem unanswered_announcedFor (order order' : Order) (r : Result) :
    Unanswered (s.announcedFor order r) (t.announcedFor order' r) :=
  ⟨repliesIn_announcedFor s order r, repliesIn_announcedFor t order' r⟩

/-- The same order, served in both services. -/
theorem alike_serve (h : s.RollsAlike t) (order : Order) :
    Alike Response.Alike Unanswered s t (serve order s) (serve order t) := by
  cases hroll : roll order.line s with
  | error fault s' =>
    obtain ⟨ds, rfl⟩ := after_of_roll_eq_error hroll
    have hs := serve_of_roll_error hroll
    have ht := serve_of_roll_error (roll_eq_error_of_rollsAlike h hroll)
    rcases hs with ⟨hf, error, ns, hs⟩ | ⟨hf, hs⟩
    · rcases ht with ⟨-, error', ns', ht⟩ | ⟨hf', -⟩
      · rw [hs, ht]
        exact .ok (.failed error error') unanswered_nil
      · exact absurd hf hf'
    · rcases ht with ⟨hf', -⟩ | ⟨-, ht⟩
      · exact absurd hf' hf
      · rw [hs, ht]
        exact .error unanswered_nil
  | ok r s' =>
    obtain ⟨_, ds, -, -, -, rfl⟩ := roll_eq_ok hroll
    obtain ⟨ns, hs⟩ := serve_of_roll_ok hroll
    obtain ⟨ns', ht⟩ := serve_of_roll_ok (roll_eq_ok_of_rollsAlike h hroll)
    rw [hs, ht, Result.chatText_eq_map, Result.chatText_eq_map r _ t.options.marks.isTruthy]
    cases r.chatText none false with
    | error fault => exact .error (unanswered_announcedFor order order r)
    | ok chat => exact .ok (.rolled r _ _) (unanswered_announcedFor order order r)

theorem alike_request (h : s.RollsAlike t) (command : Command) (members : List (Text × Value)) :
    Alike Response.Alike Unanswered s t (request command members s)
      (request command members t) := by
  by_cases hargs : ∃ args, memberOr members "args" (.text []) = .text args
  · obtain ⟨args, hargs⟩ := hargs
    rw [request_of_text hargs, request_of_text hargs]
    cases order? members args command with
    | none => exact .ok_self (.refl _) unanswered_nil
    | some order => exact alike_serve h order
  · obtain ⟨fault, hf⟩ : ∃ fault, ∀ s, request command members s = .error (.input fault) s :=
      exists_fault_of_not_text (not_exists.1 hargs)
    rw [hf, hf]
    exact .error_self unanswered_nil

/-! ## Messages -/

theorem value_of_mem_replied {m : Message} {response : Response} {p : Payload}
    (h : p ∈ repliesIn (replied m response)) : p.value = response.toValue := by
  unfold replied sent at h
  split at h
  · split at h
    · rename_i payload hp
      split at h
      · obtain rfl := List.mem_singleton.1 h
        exact Payload.value_of_ofValue hp
      · cases h
    · cases h
  · cases h

variable {m m' : Message}

/-- Two answers, by what holds of the calls up to and with them. -/
theorem alike_respond {P : List Exchange → List Exchange → Prop} {a b : Response} {ds : List Draw}
    {xs ys : List Exchange} {ns ns' : List Notice}
    (hx : P (xs ++ replied m a) (ys ++ replied m' b)) :
    Alike (fun _ _ => True) P s t (respond m a (s.after ds xs ns))
      (respond m' b (t.after ds ys ns')) := by
  obtain ⟨_, hs⟩ := respond_eq m a (s.after ds xs ns)
  obtain ⟨_, ht⟩ := respond_eq m' b (t.after ds ys ns')
  rw [hs, ht, after_after, after_after]
  exact .ok trivial hx

/-- Two messages that are understood are handled as their requests are, and answered. -/
theorem Alike.handle {R : Response → Response → Prop} {P Q : List Exchange → List Exchange → Prop}
    {command command' : Command} {members members' : List (Text × Value)}
    (hm : Message.read m = .ok (.ok members)) (hm' : Message.read m' = .ok (.ok members'))
    (h : Alike R P s t (request command members s) (request command' members' t))
    (hQ : ∀ {xs ys}, P xs ys → Q xs ys ∧
      ∀ {a b}, R a b → Q (xs ++ replied m a) (ys ++ replied m' b)) :
    Alike (fun _ _ => True) Q s t (handle command m s) (handle command' m' t) := by
  generalize hs : request command members s = x at h
  generalize ht : request command' members' t = y at h
  cases h with
  | ok hab hx =>
    rw [handle_of_request hm hs, handle_of_request hm' ht]
    exact alike_respond ((hQ hx).2 hab)
  | error hx =>
    rw [handle_of_request_error hm hs, handle_of_request_error hm' ht]
    exact .error (hQ hx).1

/-- Responses that report the same, whether or not an answer is wanted or can be sent. -/
theorem Unanswered.answersAgree_replied {xs ys : List Exchange} (hx : Unanswered xs ys)
    {a b : Response} (hab : a.Alike b) :
    AnswersAgree (xs ++ replied m a) (ys ++ replied m' b) := by
  intro p hp p' hp'
  rw [repliesIn_append, hx.1, List.nil_append] at hp
  rw [repliesIn_append, hx.2, List.nil_append] at hp'
  rw [value_of_mem_replied hp, value_of_mem_replied hp']
  exact hab.reportsSame

/-- Messages with the same data, for the same command. -/
theorem alike_handle (h : s.RollsAlike t) (command : Command) (hm : m.data = m'.data) :
    Alike (fun _ _ => True) AnswersAgree s t (handle command m s) (handle command m' t) := by
  have hread : Message.read m = Message.read m' := by rw [Message.read, Message.read, hm]
  cases hr : Message.read m with
  | error fault =>
    rw [handle_of_fault hr, handle_of_fault (hread ▸ hr)]
    exact .error_self unanswered_nil.answersAgree
  | ok read =>
    cases read with
    | error fault =>
      obtain ⟨ns, hs⟩ : ∃ ns, handle command m s
          = respond m (.failed invalidMessage) (s.after [] [] ns) := handle_of_unread hr
      obtain ⟨ns', ht⟩ : ∃ ns, handle command m' t
          = respond m' (.failed invalidMessage) (t.after [] [] ns) := handle_of_unread (hread ▸ hr)
      rw [hs, ht]
      exact alike_respond (unanswered_nil.answersAgree_replied (.failed _ _))
    | ok members =>
      exact (alike_request h command members).handle hr (hread ▸ hr) fun hx =>
        ⟨hx.answersAgree, hx.answersAgree_replied⟩

end Alike

/-! ## Any number of messages -/

/-- What the handling of a message has come to: the fault that it ended with, the draws that it
took, and the answers to it. -/
structure Handling where
  fault? : Option ServiceFault
  draws : List Draw
  answers : List Payload

/-- The fault that a computation ends with. -/
def faultOf? {α : Type} : EStateM.Result ServiceFault Service α → Option ServiceFault
  | .ok _ _ => none
  | .error fault _ => some fault

/-- What the handling of a message by a service has come to. -/
def handling (s : Service) (x : EStateM.Result ServiceFault Service Unit) : Handling :=
  { fault? := faultOf? x, draws := s.drawsTaken x, answers := repliesIn (s.callsMade x) }

/-- Messages for commands, handled one after the other, also after a fault. -/
def handlings : List (Command × Message) → Service → List Handling
  | [], _ => []
  | (command, m) :: rest, s =>
    s.handling (handle command m s) :: handlings rest (stateAfter (handle command m s))

/-- The same fault or none, the same draws, and answers that report the same. -/
structure Handling.Agree (x y : Handling) : Prop where
  fault : x.fault? = y.fault?
  draws : x.draws = y.draws
  answers : ∀ p ∈ x.answers, ∀ p' ∈ y.answers, p.value.ReportsSame p'.value

/-- One message: its handlings agree, and the services still roll alike. -/
theorem agree_handling {s t : Service} (h : s.RollsAlike t)
    {x y : EStateM.Result ServiceFault Service Unit}
    (hxy : Alike (fun _ _ => True) AnswersAgree s t x y) :
    (s.handling x).Agree (t.handling y) ∧ (stateAfter x).RollsAlike (stateAfter y) := by
  cases hxy with
  | @ok a b ds xs ys ns ns' _ hx =>
    refine ⟨⟨rfl, ?_, ?_⟩, h.after ds xs ys ns ns'⟩
    · rw [handling, handling, drawsTaken_of_ok rfl, drawsTaken_of_ok rfl]
    · rw [handling, handling, callsMade_of_ok rfl, callsMade_of_ok rfl]
      exact hx
  | @error fault ds xs ys ns ns' hx =>
    refine ⟨⟨rfl, ?_, ?_⟩, h.after ds xs ys ns ns'⟩
    · rw [handling, handling, drawsTaken_of_error rfl, drawsTaken_of_error rfl]
    · rw [handling, handling, callsMade_of_error rfl, callsMade_of_error rfl]
      exact hx

/-- Two services with the same limits and the same source handle messages with the same data alike,
whether they announce rolls, mark chat texts, can publish, or can and are to answer: message by
message, they take the same draws and end with the same fault or none, and where both send an
answer, the answers report the same. -/
theorem agree_handlings {s t : Service} (h : s.RollsAlike t) {ms ms' : List (Command × Message)}
    (hm : List.Forall₂ (fun x y => x.1 = y.1 ∧ x.2.data = y.2.data) ms ms') :
    List.Forall₂ Handling.Agree (handlings ms s) (handlings ms' t) := by
  induction hm generalizing s t with
  | nil => exact .nil
  | @cons x y ms ms' hxy _ ih =>
    obtain ⟨command, m⟩ := x
    obtain ⟨command', m'⟩ := y
    obtain ⟨rfl, hdata⟩ : command = command' ∧ m.data = m'.data := hxy
    obtain ⟨hagree, hafter⟩ := agree_handling h (alike_handle h command hdata)
    exact .cons hagree (ih hafter)

set_option maxRecDepth 1000 in
/-- A service that neither announces nor marks, whose bus refuses to publish, and whose first message
wants no answer, beside one with everything in order: a roll, and then a line that is refused. -/
theorem agree_handlings_of_silent_service :
    let s : Service := { source := .ofScript [1, 4, 2] }
    let t : Service := {
      options := { announces := .bool false, marks := .bool false }
      bus := { faults := { publish := some "closed" } }
      source := .ofScript [1, 4, 2] }
    let ms : List (Command × Message) := [
      (.roll, ⟨Utf8.encode "\x7b\"args\": \"2d6r\"\x7d", "r", none⟩),
      (.roll, ⟨Utf8.encode "\x7b\"args\": \"d0\"\x7d", "r", none⟩)]
    let ms' : List (Command × Message) := [
      (.roll, ⟨Utf8.encode "\x7b\"args\": \"2d6r\"\x7d", [], none⟩),
      (.roll, ⟨Utf8.encode "\x7b\"args\": \"d0\"\x7d", "r", none⟩)]
    s.RollsAlike t ∧ (handlings ms s).map Handling.draws = [drawsOf 6 [1, 4, 2], []] ∧
      List.Forall₂ Handling.Agree (handlings ms s) (handlings ms' t) := by
  intro s t ms ms'
  have h : s.RollsAlike t := ⟨rfl, rfl⟩
  have hdraws : (handlings ms s).map Handling.draws = [drawsOf 6 [1, 4, 2], []] := by
    cbv
  exact ⟨h, hdraws, agree_handlings h (.cons ⟨rfl, rfl⟩ (.cons ⟨rfl, rfl⟩ .nil))⟩

end Service

end Tabletop
