import Tabletop.Proofs.Data.Reading
import Tabletop.Proofs.Transcript.Chat

/-!
# Announcements agree with answers

A roll is announced before its chat text is laid out, and the announcement and
the answer are written to JSON one after the other, so each could fail without
the other. Both have the members of the result, and a result whose members can
be written has a chat text. The announcement has besides only what was read from
the request (`canWrite_announcement_iff`), which can be written too, but may be
nested so deep that the announcement around it cannot be sent
(`nesting_announcement_le_iff`). So handling a message adds an answer that
reports a success together with an announcement, unless there is no room for
one, or neither (`silent_or_answered_of_order`).
-/

namespace Tabletop

/-- The names that a result has its members under. -/
def Result.memberNames : List Text := ["expression", "total", "detail", "rolls"]

/-- An announcement has the members of its result. -/
theorem Announcement.get?_toValue (a : Announcement) (now : Text) {name : Text}
    (h : name ∈ Result.memberNames) : (a.toValue now).get? name = a.result.toValue.get? name := by
  simp only [Result.memberNames, List.mem_cons, List.not_mem_nil, or_false] at h
  rcases h with rfl | rfl | rfl | rfl <;> rfl

/-- An answer with a result has its members. -/
theorem Response.get?_result (r : Result) (chat : Text) {name : Text}
    (h : name ∈ Result.memberNames) :
    ((rolled r chat).toValue.get? "result").bind (·.get? name) = r.toValue.get? name := by
  simp only [Result.memberNames, List.mem_cons, List.not_mem_nil, or_false] at h
  rcases h with rfl | rfl | rfl | rfl <;> rfl

/-- What follows the first word of a text is empty, or shows. -/
theorem Text.isBlank_rest_of_splitFirstWord? {t word rest : Text}
    (h : t.splitFirstWord? = some (word, rest)) (hne : rest ≠ []) : rest.isBlank = false := by
  unfold splitFirstWord? at h
  dsimp only at h
  split at h
  · cases h
  · obtain ⟨-, rfl⟩ := Prod.mk.inj (Option.some.inj h)
    have hh := heads_strip (t.stripStart.dropWhile (!·.isBlank))
    generalize strip (t.stripStart.dropWhile (!·.isBlank)) = rest at hh hne
    cases rest with
    | nil => exact absurd rfl hne
    | cons c rest => rw [isBlank, List.all_cons, hh c rfl, Bool.false_and]

/-! ## What can be written -/

/-- Whatever a message holds can be written, and sent by itself. -/
theorem fits_of_message {m : Message} {members : List (Text × Value)}
    (h : Service.Message.read m = .ok (.ok members)) :
    ∀ member ∈ members, Json.Fits Payload.maxDepth member.2 := by
  unfold Service.Message.read at h
  split at h
  · cases h
  · split at h
    · rename_i hr
      cases h
      exact Json.fits_object_iff.1 (Json.fits_of_read hr)
    all_goals cases h

theorem fits_memberOr {n : Nat} {members : List (Text × Value)}
    (h : ∀ member ∈ members, Json.Fits n member.2) (name default : Text) :
    Json.Fits n (Service.memberOr members name (.text default)) := by
  rw [Service.memberOr, lookup?]
  cases hm : members.find? fun m => m.1 = name with
  | none => exact .text default
  | some member => exact h member (List.mem_of_find?_eq_some hm)

/-- An announcement can be written if its result can, and what was read for it. -/
theorem canWrite_announcement_iff (a : Announcement) (now : Text) :
    Json.CanWrite (a.toValue now) ↔
      Json.CanWrite a.channel ∧ Json.CanWrite a.user ∧ Json.CanWrite a.result.toValue := by
  have hd : Json.CanWrite a.descriptionValue := by
    rw [Announcement.descriptionValue]
    split <;> simp
  simp [Announcement.toValue, Result.toValue, hd, or_imp, forall_and]

/-- An announcement is nested one level deeper than the channel and the user in it. -/
theorem nesting_announcement_le_iff (a : Announcement) (now : Text) :
    (a.toValue now).nesting ≤ Payload.maxDepth ↔
      a.channel.nesting < Payload.maxDepth ∧ a.user.nesting < Payload.maxDepth := by
  have hrolls : ∀ roll ∈ a.result.rolls, roll.toValue.nesting ≤ 977 := fun roll _ =>
    roll.nesting_toValue_le.trans (by decide)
  have hd : a.descriptionValue.nesting = 0 := by
    rw [Announcement.descriptionValue]
    split <;> rfl
  simpa [Announcement.toValue, Result.members, Payload.maxDepth, hd, Nat.lt_succ_iff]
    using fun _ _ => hrolls

theorem canWrite_response_iff (r : Result) (chat : Text) :
    Json.CanWrite (Response.rolled r chat).toValue ↔ Json.CanWrite r.toValue := by
  simp [Response.toValue, Result.toValue, Response.chatMember, or_imp, forall_and]

/-- The channel and the user of an order leave room for an announcement around them. -/
def Order.LeavesRoom (order : Order) : Prop :=
  order.channel.nesting < Payload.maxDepth ∧ order.user.nesting < Payload.maxDepth

/-- An announcement can be sent if there is room for it, and what is in it can be written. -/
theorem fits_announcement_iff (order : Order) (r : Result) (now : Text) :
    Json.Fits Payload.maxDepth
        (Announcement.toValue ⟨order.channel, order.user, r, order.description⟩ now) ↔
      order.LeavesRoom ∧ Json.CanWrite order.channel ∧ Json.CanWrite order.user ∧
        Json.CanWrite r.toValue := by
  have hw := canWrite_announcement_iff ⟨order.channel, order.user, r, order.description⟩ now
  have hn := nesting_announcement_le_iff ⟨order.channel, order.user, r, order.description⟩ now
  exact ⟨fun h => ⟨hn.1 h.nesting_le, hw.1 h.canWrite⟩, fun h => ⟨hw.2 h.2, hn.2 h.1⟩⟩

namespace Service

/-- Data that fits is sent. -/
theorem sent_of_fits {v : Value} (h : Json.Fits Payload.maxDepth v) (call : Payload → Exchange) :
    ∃ payload, payload.value = v ∧ sent call v none = [call payload] := by
  obtain ⟨payload, hp⟩ := Payload.exists_ofValue_iff.2 h
  refine ⟨payload, Payload.value_of_ofValue hp, ?_⟩
  rw [sent, hp]
  rfl

theorem sent_of_not_fits {v : Value} (h : ¬ Json.Fits Payload.maxDepth v)
    (call : Payload → Exchange) (fault : Option Text) : sent call v fault = [] := by
  rw [sent]
  cases hp : Payload.ofValue v with
  | ok payload => exact absurd (Payload.exists_ofValue_iff.1 ⟨payload, hp⟩) h
  | error f => rfl

/-- A roll is not announced if there is no room for it, or its result cannot be written. -/
theorem announcedFor_eq_nil {s : Service} {order : Order} {r : Result}
    (h : order.LeavesRoom → ¬ Json.CanWrite r.toValue) : s.announcedFor order r = [] := by
  unfold announcedFor
  split
  · refine sent_of_not_fits (fun hf => ?_) _ _
    obtain ⟨hroom, -, -, hr⟩ := (fits_announcement_iff order r s.now).1 hf
    exact h hroom hr
  · rfl

/-! ## What a message adds -/

/-- The calls that a service has made by the time a computation is over. -/
def callsMade {ε α : Type} (s : Service) : EStateM.Result ε Service α → List Exchange
  | .ok _ s' | .error _ s' => s'.bus.journal.drop s.bus.journal.length

variable {s : Service} {command : Command} {m : Message}

theorem callsMade_of_ok {α : Type} {x : EStateM.Result ServiceFault Service α} {a : α}
    {ds : List Draw} {xs : List Exchange} {ns : List Notice} (h : x = .ok a (s.after ds xs ns)) :
    s.callsMade x = xs := by
  rw [h]
  exact List.drop_left

theorem callsMade_of_error {α : Type} {x : EStateM.Result ServiceFault Service α}
    {fault : ServiceFault} {ds : List Draw} {xs : List Exchange} {ns : List Notice}
    (h : x = .error fault (s.after ds xs ns)) : s.callsMade x = xs := by
  rw [h]
  exact List.drop_left

/-- Nothing was published, and no answer reports a success. -/
def Silent (xs : List Exchange) : Prop :=
  publishedIn xs = [] ∧ ∀ reply ∈ repliesIn xs, reply.value.get? "success" ≠ some (.bool true)

/-- One roll was answered, and published if there was room for it. -/
def Answered (s : Service) (order : Order) (xs : List Exchange) : Prop :=
  ∃ r chat reply, r.chatText order.description s.options.marks.isTruthy = .ok chat ∧
    repliesIn xs = [reply] ∧ reply.value = (Response.rolled r chat).toValue ∧
    (order.LeavesRoom → ∃ event, publishedIn xs = [(rolledSubject, event)] ∧
      event.value = Announcement.toValue
        { channel := order.channel, user := order.user, result := r,
          description := order.description } s.now) ∧
    (¬ order.LeavesRoom → publishedIn xs = [])

/-- An answer that reports a failure is silent. -/
theorem silent_replied_failed (m : Message) (error : Text) : Silent (replied m (.failed error)) := by
  unfold replied sent
  split
  · split
    · rename_i payload hp
      split
      · refine ⟨rfl, fun reply h => ?_⟩
        obtain rfl := List.mem_singleton.1 h
        rw [Payload.value_of_ofValue hp]
        exact fun h => by cases h
      · exact ⟨rfl, fun _ h => by cases h⟩
    · exact ⟨rfl, fun _ h => by cases h⟩
  · exact ⟨rfl, fun _ h => by cases h⟩

theorem silent_nil : Silent [] := ⟨rfl, fun _ h => by cases h⟩

/-- A message that is answered with a failure at once. -/
theorem silent_of_failed {error : Text} {ns : List Notice}
    (h : handle command m s = respond m (.failed error) (s.after [] [] ns)) :
    Silent (s.callsMade (handle command m s)) := by
  obtain ⟨ns', hrespond⟩ := respond_eq m (.failed error) (s.after [] [] ns)
  rw [after_after] at hrespond
  rw [callsMade_of_ok (h.trans hrespond)]
  exact silent_replied_failed m error

/-- A message that is given up at once. -/
theorem silent_of_fault {fault : ServiceFault} (h : handle command m s = .error fault s) :
    Silent (s.callsMade (handle command m s)) := by
  have hend : handle command m s = .error fault (s.after [] [] []) := by rw [after_nil, h]
  rw [callsMade_of_error hend]
  exact silent_nil

section order

variable (hw : m.wantsReply) (hf : m.respondFault = none) (hp : s.bus.faults.publish = none)
  (ha : s.options.announces.isTruthy)
include hw hf hp ha

/-- The result of an order is answered, if its members can be written, and announced besides, if
there is room for that. -/
theorem silent_or_answered_of_roll {order : Order} {r : Result} {chat : Text}
    (hchannel : Json.CanWrite order.channel) (huser : Json.CanWrite order.user)
    (hc : r.chatText order.description s.options.marks.isTruthy = .ok chat) :
    Silent (s.announcedFor order r ++ replied m (.rolled r chat)) ∨
      s.Answered order (s.announcedFor order r ++ replied m (.rolled r chat)) := by
  rw [replied, if_pos hw, hf]
  have hreply := (Response.rolled r chat).fits_toValue_iff.trans (canWrite_response_iff r chat)
  by_cases hr : Json.CanWrite r.toValue
  · obtain ⟨reply, hv, hanswer⟩ := sent_of_fits (hreply.2 hr) .reply
    rw [hanswer]
    by_cases hroom : order.LeavesRoom
    · obtain ⟨event, hv', hpublish⟩ := sent_of_fits
        ((fits_announcement_iff order r s.now).2 ⟨hroom, hchannel, huser, hr⟩)
        (.publish rolledSubject)
      rw [announcedFor, if_pos ha, announced, hp, hpublish]
      exact .inr ⟨r, chat, reply, hc, rfl, hv, fun _ => ⟨event, rfl, hv'⟩, fun h => absurd hroom h⟩
    · rw [announcedFor_eq_nil fun h => absurd h hroom]
      exact .inr ⟨r, chat, reply, hc, rfl, hv, fun h => absurd h hroom, fun _ => rfl⟩
  · rw [announcedFor_eq_nil fun _ => hr, sent_of_not_fits (mt hreply.1 hr)]
    exact .inl silent_nil

omit hw hf hp ha in
/-- A result without a chat text is not announced. -/
theorem announcedFor_of_unshown {order : Order} {r : Result} {ds : List Draw}
    {fault : TranscriptFault} (hr : roll order.line s = .ok r (s.after ds [] []))
    (hc : r.chatText order.description s.options.marks.isTruthy = .error fault) :
    s.announcedFor order r = [] := by
  refine announcedFor_eq_nil fun _ hcan => ?_
  obtain ⟨e, ds', -, -, he, -⟩ := roll_eq_ok hr
  obtain ⟨-, -, parts, hparts, -⟩ := (outcomes_evaluate order.line.strip e).ok he
  obtain ⟨chat, hchat⟩ := hparts.exists_chatText_of_canWrite hcan order.description
    s.options.marks.isTruthy
  rw [hc] at hchat
  cases hchat

omit hw hf hp ha in
/-- The calls for an order whose roll has a chat text. -/
theorem callsMade_of_roll {members : List (Text × Value)} {args : Text} {order : Order} {r : Result}
    {ds : List Draw} {chat : Text} (hm : Message.read m = .ok (.ok members))
    (hargs : memberOr members "args" (.text []) = .text args)
    (ho : order? members args command = some order)
    (hroll : roll order.line s = .ok r (s.after ds [] []))
    (hc : r.chatText order.description s.options.marks.isTruthy = .ok chat) :
    s.callsMade (handle command m s) = s.announcedFor order r ++ replied m (.rolled r chat) := by
  have hserve : request command members s = serve order s := by rw [request_of_text hargs, ho]
  obtain ⟨ns, h⟩ := serve_of_roll_ok hroll
  rw [hc] at h
  obtain ⟨ns', hrespond⟩ := respond_eq m (.rolled r chat) (s.after ds (s.announcedFor order r) ns)
  rw [after_after] at hrespond
  exact callsMade_of_ok ((handle_of_request hm (hserve.trans h)).trans hrespond)

/-- A request with an order adds an answer that reports a success, with an announcement if there is
room for it, or neither. -/
theorem silent_or_answered_of_order {members : List (Text × Value)} {args : Text} {order : Order}
    (hm : Message.read m = .ok (.ok members))
    (hargs : memberOr members "args" (.text []) = .text args)
    (ho : order? members args command = some order) (hchannel : Json.CanWrite order.channel)
    (huser : Json.CanWrite order.user) :
    Silent (s.callsMade (handle command m s)) ∨
      s.Answered order (s.callsMade (handle command m s)) := by
  have hserve : request command members s = serve order s := by rw [request_of_text hargs, ho]
  cases hroll : roll order.line s with
  | error fault s' =>
    obtain ⟨ds, rfl⟩ := after_of_roll_eq_error hroll
    left
    rcases serve_of_roll_error hroll with ⟨-, error, ns, h⟩ | ⟨-, h⟩
    · obtain ⟨ns', hrespond⟩ := respond_eq m (.failed error) (s.after ds [] ns)
      rw [after_after] at hrespond
      rw [callsMade_of_ok ((handle_of_request hm (hserve.trans h)).trans hrespond)]
      exact silent_replied_failed m error
    · rw [callsMade_of_error (handle_of_request_error hm (hserve.trans h))]
      exact silent_nil
  | ok r s' =>
    obtain ⟨_, ds, -, -, -, rfl⟩ := roll_eq_ok hroll
    cases hc : r.chatText order.description s.options.marks.isTruthy with
    | error fault =>
      obtain ⟨ns, h⟩ := serve_of_roll_ok hroll
      rw [hc] at h
      rw [callsMade_of_error (handle_of_request_error hm (hserve.trans h)),
        announcedFor_of_unshown hroll hc]
      exact .inl silent_nil
    | ok chat =>
      rw [callsMade_of_roll hm hargs ho hroll hc]
      exact silent_or_answered_of_roll hw hf hp ha hchannel huser hc

end order

/-! ## Announcements and answers -/

/-- An announcement and the answer to a command with some members. They have the members of one
result. The announcement names who asked, and as its description the line above the plain chat text
of the result, if there is one. -/
structure Agree (command : Command) (members : List (Text × Value)) (r : Result) (plain : Text)
    (event reply : Value) : Prop where
  success : reply.get? "success" = some (.bool true)
  result : ∀ name ∈ Result.memberNames, event.get? name = r.toValue.get? name ∧
    (reply.get? "result").bind (·.get? name) = r.toValue.get? name
  channel : event.get? "channel" = some (memberOr members "channel" (.text "unknown"))
  user : event.get? "user" = some (memberOr members "user" (.text "unknown"))
  description :
    (event.get? "description" = some .null ∧
      (reply.get? "result").bind (·.get? "formatted") = some (.text plain)) ∨
    (command = .describe ∧ ∃ description, event.get? "description" = some (.text description) ∧
      (reply.get? "result").bind (·.get? "formatted")
        = some (.text (description ++ .char '\n' :: plain)))

/-- The order in a request names who asked, and its description shows. -/
theorem order_of_order? {members : List (Text × Value)} {args : Text} {order : Order}
    (h : order? members args command = some order) :
    order.channel = memberOr members "channel" (.text "unknown") ∧
      order.user = memberOr members "user" (.text "unknown") ∧
      (order.description = none ∨ command = .describe ∧
        ∃ description, order.description = some description ∧ description.isBlank = false) := by
  cases command with
  | roll =>
    obtain rfl := Option.some.inj h
    exact ⟨rfl, rfl, .inl rfl⟩
  | describe =>
    obtain ⟨⟨word, rest⟩, hs, rfl⟩ := Option.map_eq_some_iff.1 h
    refine ⟨rfl, rfl, ?_⟩
    cases rest with
    | nil => exact .inl rfl
    | cons c rest =>
      exact .inr ⟨rfl, c :: rest, rfl,
        Text.isBlank_rest_of_splitFirstWord? hs (List.cons_ne_nil c rest)⟩
  | help => cases h

/-- The channel or the user in a request is nested as deep as a message allows: in one more list, and
the message would not be read. -/
def BarelyRead (members : List (Text × Value)) : Prop :=
  (memberOr members "channel" (.text "unknown")).nesting + 1 = maxDepth ∨
    (memberOr members "user" (.text "unknown")).nesting + 1 = maxDepth

/-- A request leaves room for an announcement unless its message is barely read. -/
theorem leavesRoom_iff_not_barelyRead {members : List (Text × Value)} {args : Text} {order : Order}
    (hm : Message.read m = .ok (.ok members)) (ho : order? members args command = some order) :
    order.LeavesRoom ↔ ¬ BarelyRead members := by
  have hfits := fits_of_message hm
  have hchannel := (fits_memberOr hfits "channel" "unknown").nesting_le
  have huser := (fits_memberOr hfits "user" "unknown").nesting_le
  obtain ⟨hc, hu, -⟩ := order_of_order? ho
  rw [Order.LeavesRoom, BarelyRead, hc, hu, maxDepth]
  omega

/-- The answer to an order agrees with its announcement, if there is one. -/
theorem Answered.agree {members : List (Text × Value)} {args : Text} {order : Order}
    (ho : order? members args command = some order) {xs : List Exchange}
    (h : s.Answered order xs) :
    ∃ reply r plain, repliesIn xs = [reply] ∧ reply.value.get? "success" = some (.bool true) ∧
      r.chatText none s.options.marks.isTruthy = .ok plain ∧
      (order.LeavesRoom → ∃ event, publishedIn xs = [(rolledSubject, event)] ∧
        Agree command members r plain event.value reply.value) ∧
      (¬ order.LeavesRoom → publishedIn xs = []) := by
  obtain ⟨r, chat, reply, hc, hreplies, hreply, hroom, hno⟩ := h
  obtain ⟨plain, hplain, rfl⟩ := Result.exists_plain_of_chatText hc
  obtain ⟨hchannel, huser, hdescription⟩ := order_of_order? ho
  refine ⟨reply, r, plain, hreplies, by rw [hreply]; rfl, hplain, fun h => ?_, hno⟩
  obtain ⟨event, hpublished, hevent⟩ := hroom h
  refine ⟨event, hpublished, ?_⟩
  rw [hevent, hreply, hchannel, huser]
  refine ⟨rfl, fun name hn => ?_, rfl, rfl, ?_⟩
  · exact ⟨Announcement.get?_toValue _ s.now hn, Response.get?_result r _ hn⟩
  · rcases hdescription with hd | ⟨hcommand, description, hd, hshows⟩
    · rw [hd]
      exact .inl ⟨rfl, rfl⟩
    · rw [hd]
      refine .inr ⟨hcommand, description, rfl, ?_⟩
      rw [Result.descriptionLine, hshows, if_neg Bool.false_ne_true, List.append_assoc]
      rfl

/-- A request to roll a die in a channel that is so many lists in one another. -/
def nestedRequest (n : Nat) : List UInt8 :=
  Utf8.encode "\x7b\"channel\": " ++ (List.replicate n 91 ++
    (List.replicate n 93 ++ Utf8.encode ", \"args\": \"d6\"\x7d"))

/-- The text of such a request. -/
def nestedRequestText (n : Nat) : Text :=
  Text.ofString "\x7b\"channel\": " ++ (List.replicate n (.char '[') ++
    (List.replicate n (.char ']') ++ Text.ofString ", \"args\": \"d6\"\x7d"))

theorem decode_nestedRequest (n : Nat) :
    Utf8.decode (nestedRequest n) = some (nestedRequestText n) := by
  have hopen : Utf8.encode "\x7b\"channel\": "
      = [123, 34, 99, 104, 97, 110, 110, 101, 108, 34, 58, 32] := by
    cbv
  have hclose : Utf8.encode ", \"args\": \"d6\"\x7d"
      = [44, 32, 34, 97, 114, 103, 115, 34, 58, 32, 34, 100, 54, 34, 125] := by
    cbv
  rw [nestedRequest, hopen, hclose, Utf8.decode_ascii]
  · simp only [List.map_append, List.map_replicate]
    rfl
  · simp only [List.forall_mem_append, List.mem_replicate, and_imp]
    refine ⟨by simp, ?_, ?_, by simp⟩
    all_goals
      rintro b - rfl
      decide

theorem tokens_nestedRequestText (n : Nat) :
    Json.tokens (nestedRequestText n)
      = [.openObject, .text "channel", .colon] ++
        (List.replicate n .openList ++ (List.replicate n .closeList ++
          [.comma, .text "args", .colon, .text "d6", .closeObject])) := by
  have hopen : ∀ t, Json.tokens (Text.ofString "\x7b\"channel\": " ++ t)
      = [.openObject, .text "channel", .colon] ++ Json.tokens t := fun t => by
    have hname : Json.tokens (.char '"' :: (Text.ofString "channel\": " ++ t))
        = .text "channel" :: Json.tokens (Text.ofString ": " ++ t) := Json.tokens_quoted rfl rfl
    show Json.tokens (.char '\x7b' :: .char '"' :: (Text.ofString "channel\": " ++ t)) = _
    rw [Json.tokens_cons_of_punctuation rfl, hname]
    show Json.Token.openObject :: .text "channel" :: Json.tokens (.char ':' :: .char ' ' :: t) = _
    rw [Json.tokens_cons_of_punctuation rfl, Json.tokens]
    rfl
  have hclose : Json.tokens ", \"args\": \"d6\"\x7d"
      = [.comma, .text "args", .colon, .text "d6", .closeObject] := by
    cbv
  rw [nestedRequestText, hopen, Json.tokens_replicate_append rfl, Json.tokens_replicate_append rfl,
    hclose]

/-- The request is read as long as it is nested no deeper than is allowed. -/
theorem read_nestedRequest {n : Nat} (hn : n + 2 ≤ maxDepth) (replyTo : Text) :
    Message.read { data := nestedRequest (n + 1), replyTo }
      = .ok (.ok [("channel", Json.nestedLists n), ("args", .text "d6")]) := by
  have hrun : ∀ rest, Json.run maxDepth { need := .value, frames := [] }
      ([.openObject, .text "channel", .colon] ++ rest)
        = Json.run maxDepth { need := .value, frames := [.object [] "channel"] } rest := fun _ => rfl
  have hlists : [Json.Frame.object [] "channel"].length + n < maxDepth := by
    rw [List.length_singleton]
    omega
  rw [Message.read, decode_nestedRequest]
  dsimp only
  rw [Json.read, tokens_nestedRequestText, hrun, Json.run_nestedLists hlists]
  rfl

end Service

end Tabletop
