import Tabletop.Proofs.Data.Json
import Tabletop.Proofs.Service.Limits
import Tabletop.Proofs.Service.Steps
import Tabletop.Proofs.Transcript.LongForm

/-!
# Requests are answered

A request that wants an answer gets exactly one (`Service.AnswersOnce`), unless
it holds a number or a nesting that the reader refuses, its arguments are no
text, or a sum of its roll is too long to write (`Service.CanAnswer`); then it
gets none (`answersOnce_iff`). Every operation but `Service.respond` leaves the
answers as they are, so a request that is understood comes down to its response
(`answersOnce_iff_of_respond`), and a response to whether it can be written
(`canWrite_rolled_iff`).
-/

namespace Tabletop

/-! ## Answers -/

/-- Data that reports a success with a result, or a failure with an error. -/
def Value.IsAnswer (v : Value) : Prop :=
  (∃ result, v = .object [("success", .bool true), ("result", result)]) ∨
    ∃ error, v = .object [("success", .bool false), ("error", .text error)]

theorem Response.isAnswer_toValue (response : Response) : response.toValue.IsAnswer := by
  cases response with
  | rolled result chat => exact .inl ⟨_, rfl⟩
  | explained chat => exact .inl ⟨_, rfl⟩
  | failed error => exact .inr ⟨_, rfl⟩

theorem Payload.value_of_ofValue {v : Value} {payload : Payload} (h : ofValue v = .ok payload) :
    payload.value = v := by
  unfold ofValue at h
  split at h
  · split at h <;> cases h
    rfl
  · cases h

/-- Data can be sent if it can be written and is not nested too deep. -/
theorem Payload.exists_ofValue_iff {v : Value} :
    (∃ payload, ofValue v = .ok payload) ↔ Json.Fits maxDepth v := by
  constructor
  · rintro ⟨payload, h⟩
    obtain rfl := value_of_ofValue h
    exact ⟨⟨_, payload.write_value⟩, payload.nesting_le⟩
  · rintro ⟨⟨t, ht⟩, hn⟩
    unfold ofValue
    rw [dif_pos hn]
    split
    · exact ⟨_, rfl⟩
    · rename_i hw
      rw [ht] at hw
      cases hw

theorem Roll.nesting_toValue_le (r : Roll) : r.toValue.nesting ≤ 3 := by
  simp [toValue, Value.ofInts, RerollRecord.toValue]

/-- A response is nested six deep at most: a replaced value in a roll of its result. -/
theorem Response.nesting_toValue_le (response : Response) : response.toValue.nesting ≤ 6 := by
  cases response with
  | rolled r chat =>
    have hrolls : ∀ roll ∈ r.rolls, roll.toValue.nesting ≤ 3 := fun roll _ =>
      roll.nesting_toValue_le
    simpa [toValue, Result.members, chatMember] using hrolls
  | explained chat | failed error => simp [toValue, chatMember]

/-- A response can be sent if it can be written. -/
theorem Response.fits_toValue_iff (response : Response) :
    Json.Fits Payload.maxDepth response.toValue ↔ Json.CanWrite response.toValue :=
  ⟨fun h => h.canWrite, fun h =>
    ⟨h, response.nesting_toValue_le.trans (by decide : 6 ≤ Payload.maxDepth)⟩⟩

/-! ## Responses with a result -/

namespace Roll

/-- The numbers of a roll that its draws bound can be written. -/
structure Writable (r : Roll) : Prop where
  faces : Numeral.Writable r.faces
  raw : ∀ v ∈ r.raw, Numeral.Writable v
  final : ∀ v ∈ r.final, Numeral.Writable v
  rerolls : ∀ record ∈ r.rerolls, record.Writable

/-- The others can be written: the sum, and positions of dice. -/
structure Reportable (r : Roll) : Prop where
  total : Numeral.Writable r.total
  positions : ∀ record ∈ r.rerolls, Numeral.Writable record.index

theorem canWrite_toValue_iff (r : Roll) :
    Json.CanWrite r.toValue ↔ r.Writable ∧ r.Reportable := by
  have h : Json.CanWrite r.toValue ↔ Numeral.Writable r.faces ∧
      (∀ v ∈ r.raw, Numeral.Writable v) ∧ (∀ v ∈ r.final, Numeral.Writable v) ∧
      Numeral.Writable r.total ∧
      ∀ record ∈ r.rerolls, Numeral.Writable record.index ∧ record.Writable := by
    simp [toValue, Value.ofInts, RerollRecord.toValue, RerollRecord.Writable]
  rw [h]
  constructor
  · rintro ⟨hfaces, hraw, hfinal, htotal, hrecords⟩
    exact ⟨⟨hfaces, hraw, hfinal, fun record hr => (hrecords record hr).2⟩, htotal,
      fun record hr => (hrecords record hr).1⟩
  · rintro ⟨hw, hr⟩
    exact ⟨hw.faces, hw.raw, hw.final, hr.total,
      fun record h => ⟨hr.positions record h, hw.rerolls record h⟩⟩

end Roll

/-- The sums of a result, and the positions of its replaced dice, can be written. -/
structure Result.Reportable (r : Result) : Prop where
  total : Numeral.Writable r.total
  rolls : ∀ roll ∈ r.rolls, roll.Reportable

theorem writable_of_mem_rolls {xs : List Operand} {parts : List Part}
    (h : List.Forall₂ Operand.Becomes xs parts) (hw : ∀ x ∈ xs, x.Writable)
    (hd : ∀ d ∈ parts.flatMap Part.draws, d.InRange) :
    ∀ roll ∈ parts.flatMap Part.rolls, roll.Writable := by
  induction h with
  | nil => exact fun _ h => by cases h
  | cons hx _ ih =>
    rw [List.forall_mem_cons] at hw
    rw [List.flatMap_cons, List.forall_mem_append] at hd ⊢
    refine ⟨?_, ih hw.2 hd.2⟩
    cases hx with
    | number n => exact fun _ h => by cases h
    | @roll term dice hr =>
      have hv := writable_draws hw.1 hd.1
      refine List.forall_mem_singleton.2
        { faces := hw.1
          raw := fun v h => hv v (Roll.mem_draws_of_mem_raw h)
          final := fun v h => hv v (Roll.mem_draws_of_mem_final h)
          rerolls := fun record h => ?_ }
      obtain ⟨h₁, h₂⟩ := Roll.mem_draws_of_mem_rerolls h
      exact ⟨hv _ h₁, hv _ h₂⟩

/-- The response with a result can be written if the result can be reported. -/
theorem canWrite_rolled_iff {line : Text} {e : Expression} {parts : List Part} {r : Result}
    (he : Evaluation line e parts r) (hw : ∀ x ∈ e.operands, x.Writable)
    (hd : ∀ d ∈ parts.flatMap Part.draws, d.InRange) (chat : Text) :
    Json.CanWrite (Response.rolled r chat).toValue ↔ r.Reportable := by
  have hrolls := writable_of_mem_rolls he.becomes hw hd
  rw [← he.rolls] at hrolls
  have h : Json.CanWrite (Response.rolled r chat).toValue ↔
      Numeral.Writable r.total ∧ ∀ roll ∈ r.rolls, Json.CanWrite roll.toValue := by
    simp [Response.toValue, Result.members, Response.chatMember]
  rw [h]
  constructor
  · rintro ⟨htotal, hr⟩
    exact ⟨htotal, fun roll hm => ((Roll.canWrite_toValue_iff roll).1 (hr roll hm)).2⟩
  · rintro ⟨htotal, hr⟩
    exact ⟨htotal, fun roll hm => (Roll.canWrite_toValue_iff roll).2 ⟨hrolls roll hm, hr roll hm⟩⟩

namespace Service

/-- A message is handled to its end, with one answer to it. -/
def AnswersOnce (s : Service) (command : Command) (m : Message) : Prop :=
  ∃ s' payload, handle command m s = .ok () s' ∧
    repliesIn s'.bus.journal = repliesIn s.bus.journal ++ [payload] ∧ payload.value.IsAnswer

/-- The reader takes the message, the arguments of a request in it are a text, and if its roll has
a result, that can be reported. -/
def CanAnswer (s : Service) (command : Command) (m : Message) : Prop :=
  match Message.read m with
  | .error _ => False
  | .ok (.error _) => True
  | .ok (.ok members) =>
    ∃ args, memberOr members "args" (.text []) = .text args ∧
      ∀ order, order? members args command = some order →
        ∀ r s', roll order.line s = .ok r s' → r.Reportable

variable {s s' : Service} {command : Command} {m : Message}

/-- An announcement is no answer. -/
theorem repliesIn_announcedFor (s : Service) (order : Order) (r : Result) :
    repliesIn (s.announcedFor order r) = [] := by
  unfold announcedFor announced sent
  split
  · split
    · split <;> rfl
    · rfl
  · rfl

/-- The handling of a message comes down to its response, if one comes of it. -/
theorem answersOnce_iff_of_respond (hw : m.wantsReply) (hf : m.respondFault = none)
    {response : Response} (h : handle command m s = respond m response s')
    (hs : repliesIn s'.bus.journal = repliesIn s.bus.journal) :
    s.AnswersOnce command m ↔ Json.CanWrite response.toValue := by
  obtain ⟨ns, hr⟩ := respond_eq m response s'
  rw [hr] at h
  rw [← Response.fits_toValue_iff, ← Payload.exists_ofValue_iff]
  constructor
  · rintro ⟨_, payload, hh, hj, -⟩
    rw [h] at hh
    cases hh
    rw [after_journal, repliesIn_append, hs, List.append_cancel_left_eq, replied, if_pos hw, hf,
      sent] at hj
    split at hj
    · exact ⟨_, ‹_›⟩
    · cases hj
  · rintro ⟨payload, hp⟩
    refine ⟨_, payload, h, ?_, ?_⟩
    · rw [after_journal, repliesIn_append, hs, replied, if_pos hw, hf, sent, hp]
      rfl
    · rw [Payload.value_of_ofValue hp]
      exact response.isAnswer_toValue

theorem not_answersOnce_of_error {fault : ServiceFault} (h : handle command m s = .error fault s') :
    ¬ s.AnswersOnce command m := by
  rintro ⟨_, _, hh, -⟩
  rw [h] at hh
  cases hh

theorem canWrite_failed (error : Text) : Json.CanWrite (Response.failed error).toValue := by
  simp [Response.toValue]

theorem canWrite_guidance (args : Text) (command : Command) :
    Json.CanWrite (guidance args command).toValue := by
  cases command <;> simp [guidance, Response.toValue, Response.chatMember]

/-- The draws that a service has taken by the time a computation is over. -/
def drawsTaken {ε α : Type} (s : Service) : EStateM.Result ε Service α → List Draw
  | .ok _ s' | .error _ s' => s'.source.drawn.toList.drop s.source.drawn.size

theorem drawsTaken_of_ok {α : Type} {x : EStateM.Result ServiceFault Service α} {a : α}
    {ds : List Draw} {xs : List Exchange} {ns : List Notice} (h : x = .ok a (s.after ds xs ns)) :
    s.drawsTaken x = ds := by
  rw [h]
  exact drop_after s.source ds

theorem drawsTaken_of_error {α : Type} {x : EStateM.Result ServiceFault Service α}
    {fault : ServiceFault} {ds : List Draw} {xs : List Exchange} {ns : List Notice}
    (h : x = .error fault (s.after ds xs ns)) : s.drawsTaken x = ds := by
  rw [h]
  exact drop_after s.source ds

/-! ## Rolls -/

/-- What is known of a result that was rolled with draws in range. -/
theorem exists_evaluation_of_roll {line : Text} {r : Result} {ds : List Draw}
    (h : roll line s = .ok r (s.after ds [] [])) (hd : ∀ d ∈ ds, d.InRange) :
    ∃ e parts, Evaluation line.strip e parts r ∧ (∀ x ∈ e.operands, x.Writable) ∧
      ∀ d ∈ parts.flatMap Part.draws, d.InRange := by
  obtain ⟨e, ds', hp, -, hr, hs⟩ := roll_eq_ok h
  obtain rfl := after_draws_inj hs
  obtain ⟨ds', hs, parts, he, rfl⟩ := (outcomes_evaluate line.strip e).ok hr
  obtain rfl := Source.after_inj hs
  exact ⟨e, parts, he, writable_of_parse hp, hd⟩

/-- A roll that fails is answered, under limits that are whole numbers, unless the draws end. -/
theorem isRefusal_or_isEnd {line : Text} {fault : ServiceFault} {ds : List Draw} {dice sides : Int}
    (hdice : s.options.limits.maxDice = .int dice)
    (hsides : s.options.limits.maxSides = .int sides)
    (h : roll line s = .error fault (s.after ds [] [])) (hd : ∀ d ∈ ds, d.InRange) :
    fault.isRefusal ∨ ∃ f, fault = .roll f ∧ f.IsEnd (s.source.after ds) := by
  have hr := rolled_roll s line
  rw [h] at hr
  generalize hs : s.after ds [] [] = s' at hr
  cases hr with
  | unread hp => exact .inl rfl
  | overLimit hp hl => exact .inl (Limits.isRefusal_of_check hdice hsides hl)
  | stopped hp hl he =>
    obtain rfl := after_draws_inj hs
    exact .inr ⟨_, rfl, isEnd_of_evaluate_error (valid_of_parse hp) (writable_of_parse hp) he hd⟩

/-- A request with an order is answered unless its roll has a result that cannot be reported. -/
theorem answersOnce_iff_of_order {members : List (Text × Value)} {args : Text} {order : Order}
    {dice sides : Int} (hdice : s.options.limits.maxDice = .int dice)
    (hsides : s.options.limits.maxSides = .int sides) (hw : m.wantsReply)
    (hf : m.respondFault = none) (hm : Message.read m = .ok (.ok members))
    (ha : memberOr members "args" (.text []) = .text args)
    (ho : order? members args command = some order)
    (hd : ∀ d ∈ drawsTaken s (handle command m s), d.InRange)
    (hend : ∀ fault s', handle command m s = .error (.roll fault) s' → ¬ fault.IsEnd s'.source) :
    s.AnswersOnce command m ↔ ∀ r s', roll order.line s = .ok r s' → r.Reportable := by
  have hserve : request command members s = serve order s := by rw [request_of_text ha, ho]
  have hserved := served_serve s order
  generalize hres : serve order s = res at hserved
  rw [hres] at hserve
  cases hserved with
  | usage h =>
    rw [answersOnce_iff_of_respond hw hf (handle_of_request hm hserve) rfl]
    exact iff_of_true (canWrite_failed _) fun r s' hr => absurd h (line_ne_nil_of_roll hr)
  | refused ns hr hfault =>
    rw [answersOnce_iff_of_respond hw hf (handle_of_request hm hserve) (by simp)]
    refine iff_of_true (canWrite_failed _) fun r s' hr' => ?_
    rw [hr] at hr'
    cases hr'
  | failed hr hfault =>
    have hh := handle_of_request_error hm hserve
    rw [drawsTaken_of_error hh] at hd
    rcases isRefusal_or_isEnd hdice hsides hr hd with h | ⟨f, rfl, h⟩
    · exact absurd h hfault
    · exact absurd h (hend f _ hh)
  | @rolled r ds chat ns hr hc =>
    have hh := handle_of_request hm hserve
    obtain ⟨ns', hrespond⟩ := respond_eq m (.rolled r chat) (s.after ds (s.announcedFor order r) ns)
    rw [hh, hrespond, after_after, List.append_nil, drawsTaken_of_ok rfl] at hd
    obtain ⟨e, parts, he, hwritable, hrange⟩ := exists_evaluation_of_roll hr hd
    rw [answersOnce_iff_of_respond hw hf hh
      (by rw [after_journal, repliesIn_append, repliesIn_announcedFor, List.append_nil]),
      canWrite_rolled_iff he hwritable hrange]
    constructor
    · intro hreport r' s' hr'
      rw [hr] at hr'
      cases hr'
      exact hreport
    · exact fun h => h r _ hr
  | @unshown r ds fault ns hr hc =>
    have hh := handle_of_request_error hm hserve
    rw [drawsTaken_of_error hh] at hd
    obtain ⟨e, parts, he, hwritable, hrange⟩ := exists_evaluation_of_roll hr hd
    refine iff_of_false (not_answersOnce_of_error hh) fun h => ?_
    obtain ⟨chat, ht⟩ := (he.exists_chatText_iff hwritable hrange _ _).2 (h r _ hr).total
    rw [ht] at hc
    cases hc

/-! ## Messages -/

/-- A message that wants an answer, and that can be answered, is handled to its end with exactly
one answer to it if and only if the reader takes it, the arguments of its request are a text, and
the result of its roll can be reported. This is under limits that are whole numbers, for draws in
range that do not end. -/
theorem answersOnce_iff {dice sides : Int} (hdice : s.options.limits.maxDice = .int dice)
    (hsides : s.options.limits.maxSides = .int sides) (hw : m.wantsReply)
    (hf : m.respondFault = none) (hd : ∀ d ∈ drawsTaken s (handle command m s), d.InRange)
    (hend : ∀ fault s', handle command m s = .error (.roll fault) s' → ¬ fault.IsEnd s'.source) :
    s.AnswersOnce command m ↔ s.CanAnswer command m := by
  unfold CanAnswer
  split
  · rename_i fault hm
    exact iff_of_false (not_answersOnce_of_error (handle_of_fault hm)) id
  · rename_i fault hm
    obtain ⟨ns, hh⟩ : ∃ ns, handle command m s
        = respond m (.failed invalidMessage) (s.after [] [] ns) := handle_of_unread hm
    rw [answersOnce_iff_of_respond hw hf hh (by simp)]
    exact iff_of_true (canWrite_failed _) trivial
  · rename_i members hm
    by_cases ha : ∃ args, memberOr members "args" (.text []) = .text args
    · obtain ⟨args, ha⟩ := ha
      rw [ha]
      simp only [Value.text.injEq, exists_eq_left']
      cases ho : order? members args command with
      | none =>
        have hr : request command members s = .ok (guidance args command) s := by
          rw [request_of_text ha, ho]
        rw [answersOnce_iff_of_respond hw hf (handle_of_request hm hr) rfl]
        exact iff_of_true (canWrite_guidance args command) fun _ h => by cases h
      | some order =>
        rw [answersOnce_iff_of_order hdice hsides hw hf hm ha ho hd hend]
        simp only [Option.some.injEq, forall_eq']
    · obtain ⟨fault, hr⟩ : ∃ fault, request command members s = .error (.input fault) s :=
        request_of_not_text (not_exists.1 ha) s
      exact iff_of_false (not_answersOnce_of_error (handle_of_request_error hm hr))
        fun ⟨args, h, _⟩ => ha ⟨args, h⟩

/-- A request for two dice of which one is rerolled, from its draws to its answer. -/
theorem answersOnce_of_rerolled_dice :
    let m : Message := { data := Utf8.encode "\x7b\"args\": \"2d6r + 1\"\x7d", replyTo := "r" }
    let s : Service := { source := .ofScript [1, 4, 2] }
    s.drawsTaken (handle .roll m s) = drawsOf 6 [1, 4, 2] ∧ s.CanAnswer .roll m ∧
      s.AnswersOnce .roll m := by
  intro m s
  let r : Result :=
    { expression := "2d6r + 1"
      rolls := [{ faces := 6, raw := [4, 2], final := [4, 2], total := 6, rerolls := [⟨0, 1, 4⟩] }]
      total := 7
      detail := "[4,2] + 1"
      parsed := some {
        first := .dice { count := 2, faces := 6, reroll := .once, source := "2d6r" }
        tail := [(.add, .literal 1)] } }
  let members : List (Text × Value) := [("args", .text "2d6r + 1")]
  let order : Order := orderOf members "2d6r + 1" none
  have hm : Message.read m = .ok (.ok members) := by
    cbv
  have ha : memberOr members "args" (.text []) = .text "2d6r + 1" := by
    cbv
  have ho : order? members "2d6r + 1" .roll = some order := by
    cbv
  have hr : roll order.line s = .ok r (s.after (drawsOf 6 [1, 4, 2]) [] []) := by
    cbv
  have hc : r.chatText order.description s.options.marks.isTruthy
      = .ok "🎲 2d6r + 1 = [1→4,2] (rerolled 1→4) + 1 = 7" := by
    cbv
  obtain ⟨ns, hserve⟩ := serve_of_roll hr hc
  have hrequest : request .roll members s = serve order s := by rw [request_of_text ha, ho]
  obtain ⟨ns', hrespond⟩ := respond_eq m _ (s.after (drawsOf 6 [1, 4, 2]) (s.announcedFor order r) ns)
  have hh := (handle_of_request hm (hrequest.trans hserve)).trans hrespond
  rw [after_after, List.append_nil] at hh
  have hd : ∀ d ∈ drawsOf 6 [1, 4, 2], d.InRange := by decide
  rw [← drawsTaken_of_ok hh] at hd
  have hend : ∀ fault s', handle .roll m s = .error (.roll fault) s' → ¬ fault.IsEnd s'.source := by
    intro fault s' h
    rw [hh] at h
    cases h
  have hreport : r.Reportable :=
    ⟨by decide, fun roll h => by
      obtain rfl := List.mem_singleton.1 h
      exact ⟨by decide, by decide⟩⟩
  have hcan : s.CanAnswer .roll m := by
    unfold CanAnswer
    rw [hm]
    refine ⟨_, ha, fun order' ho' r' s' hr' => ?_⟩
    obtain rfl := Option.some.inj (ho.symm.trans ho')
    obtain ⟨rfl, -⟩ := EStateM.Result.ok.inj (hr.symm.trans hr')
    exact hreport
  exact ⟨drawsTaken_of_ok hh, hcan, (answersOnce_iff rfl rfl rfl rfl hd hend).2 hcan⟩

/-- A message that is one whole number with too many digits is not answered, though it is no
object. -/
theorem not_answersOnce_of_long_number :
    let m : Message := { data := List.replicate 4301 49, replyTo := "r" }
    let s : Service := { source := .ofScript [] }
    m.wantsReply ∧ m.respondFault = none ∧
      handle .roll m s = .error (.data (.numeral (.reading 4301))) s ∧ ¬ s.AnswersOnce .roll m := by
  intro m s
  have hdecode : Utf8.decode m.data = some (List.replicate 4301 (.char '1')) := by
    rw [Utf8.decode_ascii (fun b hb => by rw [List.eq_of_mem_replicate hb]; decide),
      List.map_replicate]
    rfl
  have hdigits : ∀ c ∈ List.replicate 4301 (CodePoint.char '1'), c.isDigit := fun c hc => by
    rw [List.eq_of_mem_replicate hc]
    rfl
  have hzero : Text.Heads (· ≠ .char '0') (List.replicate 4301 (.char '1')) := fun c hc => by
    rw [List.eq_of_mem_replicate (List.mem_of_mem_head? hc)]
    decide
  have hread := Json.read_long hdigits hzero (by rw [List.length_replicate]; decide) maxDepth
  rw [List.length_replicate] at hread
  have hm : Message.read m = .error (.numeral (.reading 4301)) := by
    rw [Message.read, hdecode]
    dsimp only
    rw [hread]
  have hh : handle .roll m s = .error (.data (.numeral (.reading 4301))) s := handle_of_fault hm
  exact ⟨rfl, rfl, hh, not_answersOnce_of_error hh⟩

end Service

end Tabletop
