import Tabletop.Proofs.Service.Answering

/-!
# Chat texts

The description and the mark of a chat text stand in front of it and do not
decide whether there is one (`chatText_eq_map`). A result of which the members
can be written has a chat text (`Evaluation.exists_chatText_of_canWrite`),
whatever was drawn: the values that the long form shows are those that stayed
and those that the records name.
-/

namespace Tabletop

/-- A chat text is the one without description and mark, with both before it. -/
theorem Result.chatText_eq_map (r : Result) (description : Option Text) (showMark : Bool) :
    r.chatText description showMark = (r.chatText none false).map fun chat =>
      descriptionLine description ++ (markIf showMark diceMark ++ chat) := by
  unfold chatText
  cases r.body with
  | error fault => rfl
  | ok body =>
    dsimp only [bind, Except.bind]
    cases Numeral.write r.total with
    | error fault => rfl
    | ok total => simp [Except.map, descriptionLine, markIf]

/-- The description of a chat text is a line in front of it. -/
theorem Result.exists_plain_of_chatText {r : Result} {description : Option Text} {showMark : Bool}
    {chat : Text} (h : r.chatText description showMark = .ok chat) :
    ∃ plain, r.chatText none showMark = .ok plain ∧ chat = descriptionLine description ++ plain := by
  rw [chatText_eq_map] at h ⊢
  cases hc : r.chatText none false with
  | error fault =>
    rw [hc] at h
    cases h
  | ok bare =>
    rw [hc] at h
    obtain rfl := Except.ok.inj h
    exact ⟨_, rfl, rfl⟩

/-! ## Results that can be written -/

/-- The values that a roll has held can be written if its members can. -/
theorem Roll.Writable.heldValues {r : Roll} (h : r.Writable) :
    ∀ v ∈ r.heldValues, Numeral.Writable v := by
  intro v hv
  obtain ⟨⟨value, index⟩, hm, hv⟩ := List.mem_flatMap.1 hv
  rcases List.mem_append.1 hv with hv | hv
  · obtain ⟨record, hr, rfl⟩ := List.mem_map.1 hv
    exact (h.rerolls record (List.mem_of_mem_filter hr)).1
  · obtain rfl := List.mem_singleton.1 hv
    exact h.raw _ (List.fst_mem_of_mem_zipIdx hm)

/-- Parts that were written in the plain form, and of which the rolls can be written as data, can be
written in the long form. -/
theorem traceParts_chainTrace_of_writable {xs : List Operand} {parts : List Part}
    (h : List.Forall₂ Operand.Becomes xs parts) {texts : List Text}
    (ht : traceParts Roll.trace parts = .ok texts)
    (hw : ∀ roll ∈ parts.flatMap Part.rolls, roll.Writable) :
    ∃ texts, traceParts Roll.chainTrace parts = .ok texts := by
  rw [traceParts_eq_ok_iff] at ht
  induction h generalizing texts with
  | nil => exact ⟨[], rfl⟩
  | @cons x part xs parts hx _ ih =>
    obtain ⟨text, texts, hpart, hparts, rfl⟩ := List.forall₂_cons_left_iff.1 ht
    rw [List.flatMap_cons, List.forall_mem_append] at hw
    obtain ⟨texts', hts⟩ := ih hparts hw.2
    obtain ⟨text', ht'⟩ : ∃ text, part.trace Roll.chainTrace = .ok text := by
      cases hx with
      | number n => exact ⟨text, hpart⟩
      | @roll term dice hd =>
        have hv := (hw.1 _ List.mem_cons_self).heldValues
        rw [Roll.ofDice_heldValues] at hv
        exact ⟨_, Roll.chainTrace_ofDice_eq_ok_iff.2 ⟨hv, rfl⟩⟩
    exact ⟨text' :: texts', by rw [traceParts, ht', hts]; rfl⟩

/-- A result whose members can be written has a chat text. -/
theorem Evaluation.exists_chatText_of_canWrite {line : Text} {e : Expression} {parts : List Part}
    {r : Result} (he : Evaluation line e parts r) (hw : Json.CanWrite r.toValue)
    (description : Option Text) (showMark : Bool) :
    ∃ chat, r.chatText description showMark = .ok chat := by
  have hmembers : Numeral.Writable r.total ∧ ∀ roll ∈ r.rolls, Json.CanWrite roll.toValue := by
    simpa [Result.toValue, Result.members] using hw
  have hrolls : ∀ roll ∈ parts.flatMap Part.rolls, roll.Writable := fun roll h =>
    ((Roll.canWrite_toValue_iff roll).1 (hmembers.2 roll (he.rolls ▸ h))).1
  obtain ⟨texts, ht⟩ : ∃ texts, traceParts Roll.trace parts = .ok texts := by
    have hd := he.trace?_eq Roll.trace
    rw [he.detail, Option.some_inj, eq_comm, except_bind_eq_ok_iff] at hd
    obtain ⟨texts, ht, -⟩ := hd
    exact ⟨texts, ht⟩
  obtain ⟨texts', ht'⟩ := traceParts_chainTrace_of_writable he.becomes ht hrolls
  have hlong := he.trace?_eq Roll.chainTrace
  rw [ht'] at hlong
  exact (Result.exists_chatText_iff_of_body ((body_eq_ok_iff he).2 hlong) description showMark).2
    hmembers.1

end Tabletop
