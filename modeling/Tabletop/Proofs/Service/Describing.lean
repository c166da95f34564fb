import Tabletop.Proofs.Service.Alike

/-!
# Describing a roll

A request to describe is the request to roll the first word of its arguments,
with what follows that word, stripped, as a description: the same draws, the same
fault or none, and the same calls, only that a result is announced with the
description and answered with it above the chat text (`described_as_rolled`).

* `Text.splitFirstWord?_of_opensWith`: the first word and the description,
  whatever the blanks around them;
* `described_serve`: an order with and without a description. A roll that fails
  does not look at it (`serve_congr_of_error`), and a result has a chat text, an
  announcement and an answer with it if it has them without it
  (`described_announcedFor`, `described_replied`).
-/

namespace Tabletop

/-! ## The first word -/

/-- A text opens with a word, a longest run without a blank, and goes on with a rest. -/
structure Text.OpensWith (t word rest : Text) : Prop where
  eq_append : ∃ blanks : Text, (∀ c ∈ blanks, c.isBlank) ∧ t = blanks ++ (word ++ rest)
  ne_nil : word ≠ []
  shows : ∀ c ∈ word, c.isBlank = false
  ends : rest.Heads fun c => c.isBlank

namespace Text

/-- A text that is not blank opens with a word. -/
theorem exists_opensWith {t : Text} (h : ¬ t.isBlank) : ∃ word rest, t.OpensWith word rest := by
  have hbody : t.stripStart ≠ [] := fun hnil => h (isBlank_of_isBlank_stripStart (hnil ▸ rfl))
  refine ⟨t.stripStart.takeWhile (!·.isBlank), t.stripStart.dropWhile (!·.isBlank),
    ⟨t.takeWhile CodePoint.isBlank, fun c hc => List.all_eq_true.1 List.all_takeWhile c hc, ?_⟩,
    ?_, fun c hc => ?_, fun c hc => ?_⟩
  · rw [List.takeWhile_append_dropWhile, stripStart, List.takeWhile_append_dropWhile]
  · have hhead := List.head?_dropWhile_not CodePoint.isBlank t
    unfold stripStart at hbody ⊢
    cases hd : t.dropWhile CodePoint.isBlank with
    | nil => exact absurd hd hbody
    | cons c body =>
      rw [hd] at hhead
      rw [List.takeWhile_cons_of_pos (by simpa using hhead)]
      exact List.cons_ne_nil _ _
  · simpa using List.all_eq_true.1 List.all_takeWhile c hc
  · have hhead := List.head?_dropWhile_not (fun c : CodePoint => !c.isBlank) t.stripStart
    rw [hc] at hhead
    simpa using hhead

theorem splitFirstWord?_of_opensWith {t word rest : Text} (h : t.OpensWith word rest) :
    t.splitFirstWord? = some (word, rest.strip) := by
  obtain ⟨⟨blanks, hb, rfl⟩, hne, hshows, hends⟩ := h
  have hword : Heads (fun c => c.isBlank = false) (word ++ rest) := by
    cases word with
    | nil => exact absurd rfl hne
    | cons c word => exact .cons (hshows c List.mem_cons_self)
  have hbody : stripStart (blanks ++ (word ++ rest)) = word ++ rest :=
    dropWhile_run_append hb hword
  have hshows' : ∀ c ∈ word, (!c.isBlank) = true := fun c hc => by rw [hshows c hc]; rfl
  have hends' : rest.Heads fun c => (!c.isBlank) = false := hends.mono fun c hc => by rw [hc]; rfl
  have hsome : (word ++ rest).isEmpty = false := by simp [hne]
  simp only [splitFirstWord?, hbody, hsome, takeWhile_run_append hshows' hends',
    dropWhile_run_append hshows' hends', if_false, Bool.false_eq_true]

theorem splitFirstWord?_of_isBlank {t : Text} (h : t.isBlank) : t.splitFirstWord? = none := by
  have hbody : t.stripStart = [] := by
    rw [stripStart, List.dropWhile_eq_nil_iff]
    exact List.all_eq_true.1 h
  rw [splitFirstWord?, hbody]
  rfl

end Text

/-! ## What a description changes -/

/-- A text as a description. An empty one is none. -/
def descriptionOf (d : Text) : Option Text := if d.isEmpty then none else some d

/-- A chat text below a description. -/
def headed (d chat : Text) : Text := if d.isEmpty then chat else d ++ .char '\n' :: chat

theorem descriptionLine_append {d : Text} (hd : d ≠ [] → d.isBlank = false) (chat : Text) :
    Result.descriptionLine (descriptionOf d) ++ chat = headed d chat := by
  unfold descriptionOf headed
  by_cases h : d = []
  · simp [h, Result.descriptionLine]
  · simp [h, hd h, Result.descriptionLine]

/-- Two responses, without and with a description. -/
inductive Response.Described (d : Text) : Response → Response → Prop where
  | rolled (r : Result) (chat : Text) : Described d (.rolled r chat) (.rolled r (headed d chat))
  | failed (error : Text) : Described d (.failed error) (.failed error)

/-- Two calls, without and with a description: the announcement of a result, or an answer. -/
inductive Exchange.Described (d : Text) : Exchange → Exchange → Prop where
  | publish {a : Announcement} {now : Text} {p q : Payload} (ha : a.description = none)
    (hp : p.value = a.toValue now)
    (hq : q.value = Announcement.toValue { a with description := descriptionOf d } now) :
    Described d (.publish rolledSubject p) (.publish rolledSubject q)
  | reply {a b : Response} {p q : Payload} (h : a.Described d b) (hp : p.value = a.toValue)
    (hq : q.value = b.toValue) : Described d (.reply p) (.reply q)

namespace Service

/-- Two pieces of data are sent, or neither, if either both fit or neither. -/
theorem forall₂_sent {R : Exchange → Exchange → Prop} {v w : Value}
    (hvw : Json.Fits Payload.maxDepth v ↔ Json.Fits Payload.maxDepth w) {call : Payload → Exchange}
    (h : ∀ p q : Payload, p.value = v → q.value = w → R (call p) (call q)) (fault : Option Text) :
    List.Forall₂ R (sent call v fault) (sent call w fault) := by
  by_cases hv : Json.Fits Payload.maxDepth v
  · obtain ⟨p, hp⟩ := Payload.exists_ofValue_iff.2 hv
    obtain ⟨q, hq⟩ := Payload.exists_ofValue_iff.2 (hvw.1 hv)
    rw [sent, sent, hp, hq]
    dsimp only
    split
    · exact .cons (h p q (Payload.value_of_ofValue hp) (Payload.value_of_ofValue hq)) .nil
    · exact .nil
  · rw [sent_of_not_fits hv, sent_of_not_fits (mt hvw.2 hv)]
    exact .nil

variable {s : Service} {d : Text}

/-- A result is announced without the description if and only if it is with it. -/
theorem described_announcedFor (s : Service) {order : Order} (hnone : order.description = none)
    (r : Result) (d : Text) :
    List.Forall₂ (Exchange.Described d) (s.announcedFor order r)
      (s.announcedFor { order with description := descriptionOf d } r) := by
  unfold announcedFor
  split
  · refine forall₂_sent ?_ (fun p q hp hq => .publish hnone hp hq) _
    exact (fits_announcement_iff order r s.now).trans
      (fits_announcement_iff { order with description := descriptionOf d } r s.now).symm
  · exact .nil

theorem described_replied {m m' : Message} (hw : m.wantsReply = m'.wantsReply)
    (hf : m.respondFault = m'.respondFault) {a b : Response} (hab : a.Described d b) :
    List.Forall₂ (Exchange.Described d) (replied m a) (replied m' b) := by
  unfold replied
  rw [hw, hf]
  split
  · refine forall₂_sent ?_ (fun p q hp hq => .reply hab hp hq) _
    rw [Response.fits_toValue_iff, Response.fits_toValue_iff]
    cases hab with
    | rolled r chat => rw [canWrite_response_iff, canWrite_response_iff]
    | failed error => exact Iff.rfl
  · exact .nil

/-! ## Orders -/

/-- An order whose roll fails is served by its line alone. -/
theorem serve_congr_of_error {order order' : Order} (hline : order.line = order'.line)
    {fault : ServiceFault} {s' : Service} (h : roll order.line s = .error fault s') :
    serve order s = serve order' s := by
  have h' : roll order'.line s = .error fault s' := hline ▸ h
  unfold serve
  rw [hline]
  split
  · rfl
  · rw [get_bind, get_bind, bind_of_ok (attempt_eq_error h'), bind_of_ok (attempt_eq_error h')]

/-- An order without a description, and with one. -/
theorem described_serve (s : Service) {order : Order} (hnone : order.description = none)
    (hd : d ≠ [] → d.isBlank = false) :
    Alike (Response.Described d) (List.Forall₂ (Exchange.Described d)) s s (serve order s)
      (serve { order with description := descriptionOf d } s) := by
  cases hroll : roll order.line s with
  | error fault s' =>
    have hserve : serve order s = serve { order with description := descriptionOf d } s :=
      serve_congr_of_error rfl hroll
    rw [← hserve]
    obtain ⟨ds, rfl⟩ := after_of_roll_eq_error hroll
    rcases serve_of_roll_error hroll with ⟨-, error, ns, h⟩ | ⟨-, h⟩
    · rw [h]
      exact Alike.ok (.failed error) .nil
    · rw [h]
      exact Alike.error .nil
  | ok r s' =>
    obtain ⟨_, ds, -, -, -, rfl⟩ := roll_eq_ok hroll
    obtain ⟨ns, h⟩ := serve_of_roll_ok hroll
    obtain ⟨ns', h'⟩ : ∃ ns, serve { order with description := descriptionOf d } s = _ :=
      serve_of_roll_ok hroll
    have hcalls := described_announcedFor s hnone r d
    rw [h, h', hnone, Result.chatText_eq_map, Result.chatText_eq_map r (descriptionOf d)]
    cases r.chatText none false with
    | error fault => exact .error hcalls
    | ok chat =>
      dsimp only [Except.map]
      rw [descriptionLine_append hd]
      exact .ok (.rolled r _) hcalls

/-! ## Messages -/

/-- A message is a request for a channel and a user with a text as its arguments. Arguments that are
missing are empty. -/
def Asks (m : Message) (channel user : Value) (args : Text) : Prop :=
  ∃ members, Message.read m = .ok (.ok members) ∧
    memberOr members "channel" (.text "unknown") = channel ∧
    memberOr members "user" (.text "unknown") = user ∧
    memberOr members "args" (.text []) = .text args

variable {m m' : Message} {channel user : Value} {args word rest : Text}

/-- A request to roll a word is the order to roll it. -/
theorem request_roll_eq {members : List (Text × Value)}
    (h : memberOr members "args" (.text []) = .text word) (hword : ∀ c ∈ word, c.isBlank = false)
    (s : Service) : request .roll members s = serve (orderOf members word none) s := by
  rw [request_of_text h, order?, Text.strip_eq_self hword]

/-- A request to describe is the order to roll the first word of its arguments, with a
description. -/
theorem request_describe_eq {members : List (Text × Value)}
    (h : memberOr members "args" (.text []) = .text args) (hopens : args.OpensWith word rest)
    (s : Service) : request .describe members s =
      serve (orderOf members word (descriptionOf rest.strip)) s := by
  rw [request_of_text h, order?, Text.splitFirstWord?_of_opensWith hopens]
  rfl

/-- A request to describe that has no word in it is answered with the usage. -/
theorem handle_describe_of_isBlank (h : Asks m channel user args) (hblank : args.isBlank)
    (s : Service) :
    ∃ ns, handle .describe m s = .ok () (s.after [] (replied m (.failed describeUsage)) ns) := by
  obtain ⟨members, hm, -, -, hargs⟩ := h
  have hr : request .describe members s = .ok (.failed describeUsage) s := by
    rw [request_of_text hargs, order?, Text.splitFirstWord?_of_isBlank hblank]
    rfl
  rw [handle_of_request hm hr]
  exact respond_eq m _ s

/-- The calls for an answer that can be written. -/
theorem replied_eq_of_canWrite {response : Response} (h : Json.CanWrite response.toValue) :
    publishedIn (replied m response) = [] ∧
    (repliesIn (replied m response)).map Payload.value =
      if m.wantsReply ∧ m.respondFault = none then [response.toValue] else [] := by
  obtain ⟨payload, hp⟩ := Payload.exists_ofValue_iff.2 (response.fits_toValue_iff.2 h)
  rw [replied, sent, hp]
  by_cases hw : m.wantsReply = true <;> by_cases hf : m.respondFault = none <;>
    simp [hw, hf, publishedIn, repliesIn, Payload.value_of_ofValue hp]

/-- A request to describe, whatever the service and its source of draws: without a word in its
arguments it draws and publishes nothing, and is answered with the usage. Otherwise its arguments
open with a word, and it comes to what the request to roll that word comes to, with the rest of them
as a description. -/
theorem described_as_rolled (hm : Asks m channel user args) (s : Service) :
    (args.isBlank → ∃ xs ns, handle .describe m s = .ok () (s.after [] xs ns) ∧
      publishedIn xs = [] ∧ (repliesIn xs).map Payload.value =
        if m.wantsReply ∧ m.respondFault = none then [(Response.failed describeUsage).toValue]
        else []) ∧
    (¬ args.isBlank → ∃ word rest, args.OpensWith word rest) ∧
    ∀ word rest m', args.OpensWith word rest → Asks m' channel user word →
      m'.wantsReply = m.wantsReply → m'.respondFault = m.respondFault →
      Alike (fun _ _ => True) (List.Forall₂ (Exchange.Described rest.strip)) s s
        (handle .roll m' s) (handle .describe m s) := by
  refine ⟨fun hblank => ?_, Text.exists_opensWith, fun word rest m' hopens hm' hw hf => ?_⟩
  · obtain ⟨ns, h⟩ := handle_describe_of_isBlank hm hblank s
    exact ⟨_, ns, h, replied_eq_of_canWrite (canWrite_failed _)⟩
  · obtain ⟨members, hm, rfl, rfl, hargs⟩ := hm
    obtain ⟨members', hm', hchannel, huser, hargs'⟩ := hm'
    have hshows := Text.isBlank_rest_of_splitFirstWord? (Text.splitFirstWord?_of_opensWith hopens)
    have horder : orderOf members word (descriptionOf rest.strip)
        = { orderOf members' word none with description := descriptionOf rest.strip } := by
      rw [orderOf, orderOf, hchannel, huser]
    have hnone : (orderOf members' word none).description = none := rfl
    have hrequest := described_serve s hnone hshows
    rw [← horder, ← request_roll_eq hargs' hopens.shows, ← request_describe_eq hargs hopens]
      at hrequest
    exact hrequest.handle hm' hm fun hx => ⟨hx, fun hab =>
      List.rel_append hx (described_replied hw hf hab)⟩

set_option maxRecDepth 1000 in
/-- Two dice, one of which is rerolled, with blanks of three kinds around them and in their
description. -/
theorem described_as_rolled_dice :
    let m : Message := {
      data := Utf8.encode "\x7b\"args\": \"\u2003 2d6r\\t Sneak  attack \", \"user\": \"u\"\x7d"
      replyTo := "r" }
    let m' : Message := {
      data := Utf8.encode "\x7b\"user\": \"u\", \"args\": \"2d6r\"\x7d"
      replyTo := "r" }
    let s : Service := { source := .ofScript [1, 4, 2] }
    Asks m (.text "unknown") (.text "u") "\u2003 2d6r\t Sneak  attack " ∧
    Text.OpensWith "\u2003 2d6r\t Sneak  attack " "2d6r" "\t Sneak  attack " ∧
    Asks m' (.text "unknown") (.text "u") "2d6r" ∧
    (s.callsMade (handle .roll m' s)).length = 2 ∧
    Alike (fun _ _ => True) (List.Forall₂ (Exchange.Described "Sneak  attack")) s s
      (handle .roll m' s) (handle .describe m s) := by
  intro m m' s
  have hm : Asks m (.text "unknown") (.text "u") "\u2003 2d6r\t Sneak  attack " :=
    ⟨[("args", .text "\u2003 2d6r\t Sneak  attack "), ("user", .text "u")], by cbv, rfl, rfl, rfl⟩
  have hm' : Asks m' (.text "unknown") (.text "u") "2d6r" :=
    ⟨[("user", .text "u"), ("args", .text "2d6r")], by cbv, rfl, rfl, rfl⟩
  have hopens : Text.OpensWith "\u2003 2d6r\t Sneak  attack " "2d6r" "\t Sneak  attack " :=
    ⟨⟨"\u2003 ", by decide, rfl⟩, List.cons_ne_nil _ _, by decide, .cons (by decide)⟩
  have hcalls : (s.callsMade (handle .roll m' s)).length = 2 := by
    cbv
  have hstrip : Text.strip "\t Sneak  attack " = "Sneak  attack" := by decide
  have hw : m.wantsReply = true := rfl
  have hw' : m'.wantsReply = true := rfl
  have hf : m.respondFault = none := rfl
  have hf' : m'.respondFault = none := rfl
  have h := (described_as_rolled hm s).2.2 _ _ m' hopens hm' (hw'.trans hw.symm) (hf'.trans hf.symm)
  rw [hstrip] at h
  exact ⟨hm, hopens, hm', hcalls, h⟩

end Service

end Tabletop
