import Tabletop.Proofs.Service.Announcing

/-!
# What the delivery of a message adds

A message that is delivered calls each command that is subscribed to its
subject. Whatever comes of the calls, they add to the journal of the bus at most
one announcement and at most one answer each, and nothing else (`Traffic`): no
subscription is made or ended on the way, and the connection stays open. One
lemma for each operation, from serving an order to handling a message
(`adds_serve`, `adds_request`, `adds_respond`, `adds_handle`), and then for any
number of commands by induction (`adds_handleAll`).
-/

namespace Tabletop

/-- Calls that announce and answer: no more than so many announcements and so many answers, and no
other calls. -/
structure Traffic (announcements answers : Nat) (xs : List Exchange) : Prop where
  published : (publishedIn xs).length ≤ announcements
  replies : (repliesIn xs).length ≤ answers
  made : madeIn xs = []
  ended : endedIn xs = []
  closes : closesIn xs = 0

namespace Traffic

variable {p p' r r' : Nat} {xs ys : List Exchange}

theorem nil (p r : Nat) : Traffic p r [] := ⟨p.zero_le, r.zero_le, rfl, rfl, rfl⟩

theorem publish (subject : Text) (payload : Payload) (r : Nat) :
    Traffic 1 r [.publish subject payload] :=
  ⟨Nat.le_refl 1, r.zero_le, rfl, rfl, rfl⟩

theorem reply (payload : Payload) (p : Nat) : Traffic p 1 [.reply payload] :=
  ⟨p.zero_le, Nat.le_refl 1, rfl, rfl, rfl⟩

theorem append (h : Traffic p r xs) (h' : Traffic p' r' ys) :
    Traffic (p + p') (r + r') (xs ++ ys) where
  published := by
    rw [publishedIn_append, List.length_append]
    exact Nat.add_le_add h.published h'.published
  replies := by
    rw [repliesIn_append, List.length_append]
    exact Nat.add_le_add h.replies h'.replies
  made := by rw [madeIn_append, h.made, h'.made, List.append_nil]
  ended := by rw [endedIn_append, h.ended, h'.ended, List.append_nil]
  closes := by rw [closesIn_append, h.closes, h'.closes]

end Traffic

namespace Service

/-- How a computation comes out that adds draws, notices, and calls that announce and answer. -/
inductive Adds {α : Type} (p r : Nat) (s : Service) :
    EStateM.Result ServiceFault Service α → Prop where
  | ok {a : α} {ds : List Draw} {xs : List Exchange} {ns : List Notice} (hx : Traffic p r xs) :
    Adds p r s (.ok a (s.after ds xs ns))
  | error {fault : ServiceFault} {ds : List Draw} {xs : List Exchange} {ns : List Notice}
    (hx : Traffic p r xs) : Adds p r s (.error fault (s.after ds xs ns))

section Adds

variable {α β : Type} {p p' r r' : Nat} {s : Service}

theorem Adds.ok_self (a : α) (s : Service) : Adds p r s (.ok a s) := by
  have h : Adds p r s (.ok a (s.after [] [] [])) := .ok (.nil p r)
  rwa [after_nil] at h

theorem Adds.error_self (fault : ServiceFault) (s : Service) :
    Adds (α := α) p r s (.error fault s) := by
  have h : Adds (α := α) p r s (.error fault (s.after [] [] [])) := .error (.nil p r)
  rwa [after_nil] at h

/-- What is added behind some calls is added after them. -/
theorem Adds.after {ds : List Draw} {xs : List Exchange} {ns : List Notice}
    {x : EStateM.Result ServiceFault Service α} (hx : Traffic p r xs)
    (h : Adds p' r' (s.after ds xs ns) x) : Adds (p + p') (r + r') s x := by
  cases h with
  | ok hy =>
    rw [after_after]
    exact .ok (hx.append hy)
  | error hy =>
    rw [after_after]
    exact .error (hx.append hy)

/-- Two steps add what either adds. -/
theorem Adds.bind {x : Serving α} {f : α → Serving β} (hx : Adds p r s (x s))
    (hf : ∀ a s', Adds p' r' s' (f a s')) : Adds (p + p') (r + r') s ((x >>= f) s) := by
  generalize h : x s = res at hx
  cases hx with
  | ok hx =>
    rw [bind_of_ok h]
    exact .after hx (hf _ _)
  | @error fault ds xs ns hx =>
    have hx := hx.append (.nil p' r')
    rw [List.append_nil] at hx
    rw [bind_of_error h]
    exact .error hx

/-- What has been added when a computation is over. -/
theorem Adds.exists_stateAfter {x : EStateM.Result ServiceFault Service α} (h : Adds p r s x) :
    ∃ ds xs ns, stateAfter x = s.after ds xs ns ∧ Traffic p r xs := by
  cases h with
  | ok hx | error hx => exact ⟨_, _, _, rfl, hx⟩

theorem Adds.traffic {x : EStateM.Result ServiceFault Service α} (h : Adds p r s x) :
    Traffic p r (s.callsMade x) := by
  cases h with
  | ok hx =>
    rw [callsMade_of_ok rfl]
    exact hx
  | error hx =>
    rw [callsMade_of_error rfl]
    exact hx

end Adds

/-! ## One message -/

variable {s : Service}

theorem traffic_announcedFor (s : Service) (order : Order) (r : Result) :
    Traffic 1 0 (s.announcedFor order r) := by
  unfold announcedFor announced sent
  split
  · split
    · split
      · exact .publish _ _ 0
      · exact .nil 1 0
    · exact .nil 1 0
  · exact .nil 1 0

theorem traffic_replied (m : Message) (response : Response) : Traffic 0 1 (replied m response) := by
  unfold replied sent
  split
  · split
    · split
      · exact .reply _ 0
      · exact .nil 0 1
    · exact .nil 0 1
  · exact .nil 0 1

theorem adds_serve (order : Order) (s : Service) : Adds 1 0 s (serve order s) := by
  have h := served_serve s order
  generalize serve order s = res at h
  cases h with
  | usage => exact .ok_self _ s
  | refused => exact .ok (.nil 1 0)
  | failed => exact .error (.nil 1 0)
  | @rolled r => exact .ok (traffic_announcedFor s order r)
  | @unshown r => exact .error (traffic_announcedFor s order r)

theorem adds_request (command : Command) (members : List (Text × Value)) (s : Service) :
    Adds 1 0 s (request command members s) := by
  by_cases hargs : ∃ args, memberOr members "args" (.text []) = .text args
  · obtain ⟨args, hargs⟩ := hargs
    rw [request_of_text hargs]
    cases order? members args command with
    | none => exact .ok_self _ s
    | some order => exact adds_serve order s
  · obtain ⟨fault, hf⟩ : ∃ fault, request command members s = .error (.input fault) s :=
      request_of_not_text (not_exists.1 hargs) s
    rw [hf]
    exact .error_self _ s

theorem adds_respond (m : Message) (response : Response) (s : Service) :
    Adds 0 1 s (respond m response s) := by
  obtain ⟨ns, h⟩ := respond_eq m response s
  rw [h]
  exact .ok (traffic_replied m response)

/-- A command announces once at most, and answers once at most. -/
theorem adds_handle (command : Command) (m : Message) (s : Service) :
    Adds 1 1 s (handle command m s) := by
  cases hm : Message.read m with
  | error fault =>
    rw [handle_of_fault hm]
    exact .error_self _ s
  | ok read =>
    cases read with
    | error fault =>
      obtain ⟨ns, h⟩ : ∃ ns, handle command m s
          = respond m (.failed invalidMessage) (s.after [] [] ns) := handle_of_unread hm
      rw [h]
      exact .after (.nil 1 0) (adds_respond m _ _)
    | ok members =>
      rw [handle, hm]
      exact (adds_request command members s).bind fun response => adds_respond m response

/-! ## Any number of commands -/

/-- Commands that a message calls, up to the first that fails, announce and answer once each at
most. -/
theorem adds_handleAll (m : Message) (commands : List Command) (s : Service) :
    Adds commands.length commands.length s (handleAll m commands s) := by
  induction commands generalizing s with
  | nil => exact .ok_self () s
  | cons command rest ih =>
    rw [List.length_cons, Nat.add_comm]
    exact (adds_handle command m s).bind fun _ => ih

/-- A delivered message calls the commands that are subscribed to its subject. -/
theorem deliver_eq (subject : Text) (m : Message) (s : Service) :
    deliver subject m s =
      (do handleAll m (s.bus.recipients subject); return (s.bus.recipients subject).length) s := rfl

theorem adds_deliver (subject : Text) (m : Message) (s : Service) :
    Adds (s.bus.recipients subject).length (s.bus.recipients subject).length s
      (deliver subject m s) := by
  have hlength : ∀ (_ : Unit) s', Adds 0 0 s'
      ((pure (s.bus.recipients subject).length : Serving Nat) s') := fun _ s' => .ok_self _ s'
  exact (adds_handleAll m (s.bus.recipients subject) s).bind hlength

end Service

end Tabletop
