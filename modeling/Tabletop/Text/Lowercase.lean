import Tabletop.Text.Cased

/-!
# Lower case

A text in lower case (`Text.lowercase`): every code point gives its lower-case letter, with two
exceptions. The dotted capital I gives two code points, and the capital sigma looks at its
neighbours: at the end of a word it gives the final sigma.

* `Text.lowercase_cons`: a code point in front of a text adds its own lower-case form, once the
  text behind it is read in its context.
* `Text.lowercaseAfter_eq`: without a sigma in the text, the context does not matter.
-/

namespace Tabletop

namespace Text

/-- The dotted capital I, U+0130. -/
def dottedCapitalI : CodePoint := .char '\u0130'

/-- The capital sigma, U+03A3. -/
def capitalSigma : CodePoint := .char '\u03A3'

/-- Whether the nearest code point that is not looked through is a letter with case. -/
def startsCased (t : Text) : Bool :=
  match t.dropWhile CodePoint.isCaseIgnorable with
  | [] => false
  | c :: _ => c.isCased

/-- The lower-case form of one code point, between the text `before` it, last code point first, and
the text `after` it. -/
def lowerOne (before : Text) (c : CodePoint) (after : Text) : Text :=
  if c = dottedCapitalI then [.char 'i', .char '\u0307']
  else if c = capitalSigma then
    if startsCased before && !startsCased after then [.char 'ς'] else [.char 'σ']
  else [c.lowerLetter]

/-- The lower-case form of a text that follows the text `before` it, last code point first. -/
def lowercaseAfter (before : Text) : Text → Text
  | [] => []
  | c :: rest => lowerOne before c rest ++ lowercaseAfter (c :: before) rest

/-- A text in lower case. -/
def lowercase (t : Text) : Text := lowercaseAfter [] t

/-! ## Context -/

theorem lowercase_nil : lowercase [] = [] := rfl

theorem lowercase_cons (c : CodePoint) (t : Text) :
    lowercase (c :: t) = lowerOne [] c t ++ lowercaseAfter [c] t := rfl

theorem lowercaseAfter_append (before s t : Text) (h : capitalSigma ∉ s) :
    lowercaseAfter before (s ++ t) =
      lowercaseAfter before s ++ lowercaseAfter (s.reverse ++ before) t := by
  induction s generalizing before with
  | nil => rfl
  | cons c s ih =>
    have hc : ¬ c = capitalSigma := fun e => h (e ▸ List.mem_cons_self)
    have hs : capitalSigma ∉ s := fun m => h (List.mem_cons_of_mem _ m)
    simp only [List.cons_append, lowercaseAfter, lowerOne, if_neg hc, ih (c :: before) hs,
      List.reverse_cons, List.append_assoc, List.nil_append]

theorem lowercaseAfter_eq (before t : Text) (h : capitalSigma ∉ t) :
    lowercaseAfter before t = lowercase t := by
  suffices ∀ b₁ b₂ : Text, lowercaseAfter b₁ t = lowercaseAfter b₂ t from this before []
  intro b₁ b₂
  induction t generalizing b₁ b₂ with
  | nil => rfl
  | cons c t ih =>
    have hc : ¬ c = capitalSigma := fun e => h (e ▸ List.mem_cons_self)
    have ht : capitalSigma ∉ t := fun m => h (List.mem_cons_of_mem _ m)
    simp only [lowercaseAfter, lowerOne, if_neg hc, ih ht (c :: b₁) (c :: b₂)]

end Text

end Tabletop
