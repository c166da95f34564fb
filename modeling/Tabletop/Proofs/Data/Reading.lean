import Tabletop.Proofs.Data.Json

/-!
# Data that was read

Data that was read from JSON can be written again, and is nested no deeper than
the reader was told to go (`Json.fits_of_read`): it takes no whole number with
more digits than the writer writes, and opens no list or object too many. The
states of the reader hold nothing else (`State.Fits`), which each token keeps
(`fits_step`), given that the tokens hold only data that fits everywhere
(`plain_of_mem_tokens`).

Lists in lists are read as such as long as they are allowed (`run_nestedLists`).
-/

namespace Tabletop

namespace Json

/-! ## Tokens -/

/-- A token that holds nothing but data that can be written, and no list or object. -/
def Token.Plain : Token → Prop
  | scalar v => CanWrite v ∧ v.nesting = 0
  | _ => True

theorem canWrite_of_read_whole {whole : Text} {n : Nat} (negative : Bool)
    (h : Numeral.read whole = .ok n) : CanWrite (.int (if negative then -n else n)) := by
  unfold Numeral.read at h
  split at h
  · rename_i hl
    obtain rfl := Except.ok.inj h
    refine (canWrite_int _).2 ((Numeral.writable_value hl).mono ?_)
    cases negative <;> simp
  · cases h

theorem plain_of_mem_numberTokens {word : Text} {token : Token} (h : token ∈ numberTokens word) :
    token.Plain := by
  have hstuck : ∀ {rest : Text}, token ∈ (if rest.isEmpty then [] else [Token.bad]) →
      token.Plain := by
    intro rest h
    split at h
    · cases h
    · obtain rfl := List.mem_singleton.1 h
      trivial
  -- The splits open the parts of the number one by one: sign, digits, fraction and exponent.
  unfold numberTokens at h
  split at h
  split at h
  split at h
  · obtain rfl := List.mem_singleton.1 h
    trivial
  · split at h
    split at h
    dsimp only at h
    split at h
    · split at h
      · rename_i n hn
        rcases List.mem_cons.1 h with rfl | h
        · exact ⟨canWrite_of_read_whole _ hn, rfl⟩
        · exact hstuck h
      · obtain rfl := List.mem_singleton.1 h
        trivial
    · rcases List.mem_cons.1 h with rfl | h
      · exact ⟨canWrite_float _, rfl⟩
      · exact hstuck h

theorem plain_of_mem_wordTokens {word : Text} {token : Token} (h : token ∈ wordTokens word) :
    token.Plain := by
  have hscalar : ∀ {v : Value}, CanWrite v → v.nesting = 0 → token ∈ [Token.scalar v] →
      token.Plain := by
    intro v hv hn h
    obtain rfl := List.mem_singleton.1 h
    exact ⟨hv, hn⟩
  unfold wordTokens at h
  split at h
  · exact hscalar canWrite_null rfl h
  split at h
  · exact hscalar (canWrite_bool _) rfl h
  split at h
  · exact hscalar (canWrite_bool _) rfl h
  split at h
  · exact hscalar (canWrite_float _) rfl h
  split at h
  · exact hscalar (canWrite_float _) rfl h
  split at h
  · exact hscalar (canWrite_float _) rfl h
  · exact plain_of_mem_numberTokens h

theorem plain_of_punctuation {c : CodePoint} {token : Token} (h : punctuation? c = some token) :
    token.Plain := by
  unfold punctuation? at h
  split at h <;> cases h <;> trivial

theorem plain_of_mem_tokens {t : Text} {token : Token} (h : token ∈ tokens t) :
    token.Plain := by
  have hbad : token ∈ [Token.bad] → token.Plain := fun h => by
    obtain rfl := List.mem_singleton.1 h
    trivial
  fun_induction tokens t with
  | case1 => cases h
  | case2 c rest hg ih => exact ih h
  | case3 c rest hg token' hp ih =>
    rcases List.mem_cons.1 h with rfl | h
    · exact plain_of_punctuation hp
    · exact ih h
  | case4 | case5 | case8 => exact hbad h
  | case6 rest inside after hs text hu hg hp ih =>
    rcases List.mem_cons.1 h with rfl | h
    · trivial
    · exact ih h
  | case7 c rest hg hp hq hw ih =>
    rcases List.mem_append.1 h with h | h
    · exact plain_of_mem_wordTokens h
    · exact ih h

/-! ## States -/

/-- What is open holds nothing but data that fits. -/
def Frame.Fits (n : Nat) : Frame → Prop
  | list items => ∀ item ∈ items, Json.Fits n item
  | object members _ => ∀ member ∈ members, Json.Fits n member.2

/-- Of what is open, each holds nothing but data that fits in its place. -/
def FramesFit (depth : Nat) : List Frame → Prop
  | [] => True
  | frame :: frames =>
    (∃ n, depth = n + 1 + frames.length ∧ frame.Fits n) ∧ FramesFit depth frames

/-- A value that is complete fits. -/
def Need.Fits (depth : Nat) : Need → Prop
  | nothing v => Json.Fits depth v
  | _ => True

/-- A state that holds nothing but data that fits. -/
structure State.Fits (depth : Nat) (s : State) : Prop where
  need : s.need.Fits depth
  frames : FramesFit depth s.frames

theorem fits_of_mem_setMember {n : Nat} {name : Text} {v : Value} (hv : Fits n v)
    {members : List (Text × Value)} (hm : ∀ member ∈ members, Fits n member.2) :
    ∀ member ∈ setMember name v members, Fits n member.2 := by
  induction members with
  | nil => exact List.forall_mem_singleton.2 hv
  | cons member members ih =>
    rw [List.forall_mem_cons] at hm
    unfold setMember
    split
    · exact List.forall_mem_cons.2 ⟨hv, hm.2⟩
    · exact List.forall_mem_cons.2 ⟨hm.1, ih hm.2⟩

section

variable {depth n : Nat} {frames : List Frame} (hf : FramesFit depth frames)
include hf

theorem FramesFit.exists_eq_add : ∃ n, depth = n + frames.length := by
  cases frames with
  | nil => exact ⟨depth, rfl⟩
  | cons frame frames =>
    obtain ⟨⟨n, hn, -⟩, -⟩ := hf
    exact ⟨n, hn.trans (by rw [List.length_cons, Nat.add_assoc, Nat.add_comm 1])⟩

/-- A value that fits in its place is put there. -/
theorem fits_complete {v : Value} (hn : depth = n + frames.length) (hv : Fits n v) :
    (State.complete v frames).Fits depth := by
  cases frames with
  | nil => exact ⟨hn ▸ hv, trivial⟩
  | cons frame frames =>
    obtain ⟨⟨n', hn', hframe⟩, hframes⟩ := hf
    obtain rfl : n = n' := by
      rw [List.length_cons] at hn
      omega
    cases frame with
    | list items => exact ⟨trivial, ⟨n, hn', List.forall_mem_cons.2 ⟨hv, hframe⟩⟩, hframes⟩
    | object members name => exact ⟨trivial, ⟨n, hn', fits_of_mem_setMember hv hframe⟩, hframes⟩

theorem fits_openValue {token : Token} (ht : token.Plain) {s' : State}
    (h : openValue depth frames token = .ok s') : s'.Fits depth := by
  have hopen : ∀ {frame : Frame} {need : Need}, frames.length < depth →
      (∀ n, frame.Fits n) → need.Fits depth →
      State.Fits depth { need, frames := frame :: frames } := fun hl hframe hneed =>
    ⟨hneed, ⟨depth - 1 - frames.length, by omega, hframe _⟩, hf⟩
  obtain ⟨n, hn⟩ := hf.exists_eq_add
  unfold openValue at h
  split at h
  · split at h
    · rename_i hl
      cases h
      exact hopen hl (fun _ _ h => by cases h) trivial
    · cases h
  · split at h
    · rename_i hl
      cases h
      exact hopen hl (fun _ _ h => by cases h) trivial
    · cases h
  · cases h
    exact fits_complete hf hn (.text _)
  · cases h
    exact fits_complete hf hn (fits_of_canWrite ht.1 ht.2)
  · cases h
  · cases h

theorem fits_openMember {token : Token} {s' : State} (h : openMember frames token = .ok s') :
    s'.Fits depth := by
  unfold openMember at h
  split at h
  · split at h
    · cases h
      exact ⟨trivial, hf⟩
    · cases h
  · cases h

end

section

variable {depth : Nat} {frames : List Frame}

theorem fits_closeList {items : List Value} (hf : FramesFit depth (.list items :: frames)) :
    (State.complete (.list items.reverse) frames).Fits depth := by
  obtain ⟨⟨n, hn, hitems⟩, hframes⟩ := hf
  exact fits_complete hframes hn
    (fits_list_iff.2 fun item h => hitems item (List.mem_reverse.1 h))

theorem fits_closeObject {members : List (Text × Value)} {name : Text}
    (hf : FramesFit depth (.object members name :: frames)) :
    (State.complete (.object members) frames).Fits depth := by
  obtain ⟨⟨n, hn, hmembers⟩, hframes⟩ := hf
  exact fits_complete hframes hn (fits_object_iff.2 hmembers)

end

/-- One token. -/
theorem fits_step {depth : Nat} {s s' : State} {token : Token} (hs : s.Fits depth)
    (ht : token.Plain) (h : step depth s token = .ok s') : s'.Fits depth := by
  obtain ⟨need, frames⟩ := s
  have hf : FramesFit depth frames := hs.frames
  simp only [step] at h
  split at h
  case h_1 | h_3 => exact fits_openValue hf ht h
  case h_4 | h_6 => exact fits_openMember hf h
  case h_2 | h_10 =>
    cases h
    exact fits_closeList hf
  case h_5 | h_11 =>
    cases h
    exact fits_closeObject hf
  case h_7 | h_8 | h_9 =>
    cases h
    exact ⟨trivial, hf⟩
  case h_12 => cases h

/-- By induction on the tokens. -/
theorem fits_run {depth : Nat} {s s' : State} {ts : List Token} (hs : s.Fits depth)
    (ht : ∀ token ∈ ts, token.Plain) (h : run depth s ts = .ok s') : s'.Fits depth := by
  induction ts generalizing s with
  | nil =>
    obtain rfl := Except.ok.inj h
    exact hs
  | cons token ts ih =>
    rw [List.forall_mem_cons] at ht
    unfold run at h
    split at h
    · rename_i s₁ h₁
      exact ih (fits_step hs ht.1 h₁) ht.2 h
    · cases h

/-- Data that was read can be written, and is nested no deeper than was allowed. -/
theorem fits_of_read {depth : Nat} {t : Text} {v : Value} (h : read depth t = .ok v) :
    Fits depth v := by
  unfold read at h
  split at h
  · rename_i frames hr
    obtain rfl := Except.ok.inj h
    have hs : State.Fits depth { need := .value, frames := [] } := ⟨trivial, trivial⟩
    exact (fits_run hs (fun _ => plain_of_mem_tokens) hr).need
  · cases h
  · cases h

/-! ## Lists in lists -/

theorem tokens_cons_of_punctuation {c : CodePoint} {token : Token}
    (h : punctuation? c = some token) (t : Text) : tokens (c :: t) = token :: tokens t := by
  have hgap : isGap c = false := by
    unfold punctuation? at h
    split at h <;> first | rfl | cases h
  rw [tokens, hgap, h]
  rfl

theorem tokens_replicate_append {c : CodePoint} {token : Token} (h : punctuation? c = some token)
    (n : Nat) (t : Text) :
    tokens (List.replicate n c ++ t) = List.replicate n token ++ tokens t := by
  induction n with
  | zero => rfl
  | succ n ih =>
    rw [List.replicate_succ, List.cons_append, tokens_cons_of_punctuation h, ih]
    rfl

theorem tokens_quoted {rest inside after text : Text}
    (hs : splitString? rest = some (inside, after)) (hu : unescape inside = some text) :
    tokens (.char '"' :: rest) = .text text :: tokens after := by
  rw [tokens]
  simp only [show isGap (.char '"') = false from rfl, show punctuation? (.char '"') = none from rfl,
    Bool.false_eq_true, if_false, if_true]
  split
  · rename_i h
    rw [hs] at h
    cases h
  · rename_i h
    rw [hs] at h
    cases h
    rw [hu]

/-- An empty list in so many others. -/
def nestedLists : Nat → Value
  | 0 => .list []
  | n + 1 => .list [nestedLists n]

theorem nesting_nestedLists (n : Nat) : (nestedLists n).nesting = n + 1 := by
  induction n with
  | zero => rfl
  | succ n ih =>
    rw [nestedLists, Value.nesting, Value.itemNesting, ih]
    rfl

/-- By induction on how many there are: the first list opens, and the others are its only item. -/
theorem run_nestedLists {depth n : Nat} {frames : List Frame} (h : frames.length + n < depth)
    (rest : List Token) :
    run depth { need := .value, frames }
        (List.replicate (n + 1) .openList ++ (List.replicate (n + 1) .closeList ++ rest))
      = run depth (.complete (nestedLists n) frames) rest := by
  have hopen : step depth { need := .value, frames } .openList
      = .ok { need := .valueOrClose, frames := .list [] :: frames } :=
    if_pos (Nat.lt_of_le_of_lt (Nat.le_add_right _ _) h)
  rw [List.replicate_succ, List.cons_append, run, hopen]
  dsimp only
  induction n generalizing frames rest with
  | zero => rfl
  | succ n ih =>
    have hlength : (Frame.list [] :: frames).length + n < depth := by
      rw [List.length_cons]
      omega
    have hnext : step depth { need := .valueOrClose, frames := .list [] :: frames } .openList
        = .ok { need := .valueOrClose, frames := .list [] :: .list [] :: frames } :=
      if_pos (Nat.lt_of_le_of_lt (Nat.le_add_right _ _) hlength)
    have hinner := ih hlength (.closeList :: rest) hnext
    rw [List.replicate_succ, List.cons_append, run, hnext]
    rw [List.replicate_succ' (n := n + 1), List.append_assoc, List.singleton_append]
    exact hinner

end Json

end Tabletop
