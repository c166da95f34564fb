import Tabletop.Data.Value

/-!
# JSON tokens

A JSON text cut into tokens (`Json.tokens`): punctuation, texts, and scalars. What is no token is
one bad token, and nothing follows it that matters. A whole number too long to read is a token of
its own, so that the reader meets it in its place.

* `Json.unescape`: the text that the inside of a quoted text stands for. Two escapes that are the
  halves of a surrogate pair give one character; a lone half stays.
* `Json.length_lt_of_splitString?`: what follows a quoted text is shorter.
-/

namespace Tabletop

namespace Json

/-- A token. -/
inductive Token where
  | openList
  | closeList
  | openObject
  | closeObject
  | comma
  | colon
  | text (t : Text)
  | scalar (v : Value)
  | longNumber (digits : Nat)
  | bad

/-- The gaps between tokens. -/
def isGap (c : CodePoint) : Bool :=
  c = .char ' ' || c = .char '\t' || c = .char '\r' || c = .char '\n'

/-- The token of a punctuation character. -/
def punctuation? : CodePoint → Option Token
  | .char '[' => some .openList
  | .char ']' => some .closeList
  | .char '\x7b' => some .openObject
  | .char '\x7d' => some .closeObject
  | .char ',' => some .comma
  | .char ':' => some .colon
  | _ => none

/-! ## Quoted texts -/

/-- The inside of a quoted text whose opening quote has been read, and what follows it. -/
def splitString? : Text → Option (Text × Text)
  | [] => none
  | .char '"' :: rest => some ([], rest)
  | .char '\\' :: c :: rest =>
    (splitString? rest).map fun (inside, after) => (.char '\\' :: c :: inside, after)
  | c :: rest => (splitString? rest).map fun (inside, after) => (c :: inside, after)

/-- The code point of an escape of one character. -/
def escape? : CodePoint → Option CodePoint
  | .char '"' => some (.char '"')
  | .char '\\' => some (.char '\\')
  | .char '/' => some (.char '/')
  | .char 'b' => some (.char '\x08')
  | .char 'f' => some (.char '\x0c')
  | .char 'n' => some (.char '\n')
  | .char 'r' => some (.char '\r')
  | .char 't' => some (.char '\t')
  | _ => none

/-- The value of a hexadecimal digit. -/
def hexValue? : CodePoint → Option Nat
  | .surrogate _ => none
  | .char c =>
    if c.isDigit then some (c.toNat - '0'.toNat)
    else if 'a' ≤ c ∧ c ≤ 'f' then some (c.toNat - 'a'.toNat + 10)
    else if 'A' ≤ c ∧ c ≤ 'F' then some (c.toNat - 'A'.toNat + 10)
    else none

/-- The value of a run of hexadecimal digits. -/
def hexNumber? (ds : Text) : Option Nat :=
  ds.foldlM (fun n d => (hexValue? d).map (16 * n + ·)) 0

/-- The code points of the inside of a quoted text, with surrogates as they are escaped. -/
def unescapeHalves : Text → Option Text
  | [] => some []
  | .char '\\' :: .char 'u' :: a :: b :: c :: d :: rest => do
    let point ← CodePoint.ofNat? (← hexNumber? [a, b, c, d])
    let t ← unescapeHalves rest
    some (point :: t)
  | .char '\\' :: c :: rest => do
    let point ← escape? c
    let t ← unescapeHalves rest
    some (point :: t)
  | c :: rest =>
    if c.val < 0x20 ∨ c = .char '\\' then none
    else do
      let t ← unescapeHalves rest
      some (c :: t)

/-- The two halves of a surrogate pair become one character. -/
def joinHalves : Text → Text
  | .surrogate high :: .surrogate low :: rest =>
    if high.val < 1024 ∧ 1024 ≤ low.val then
      .char (Char.ofNat (0x10000 + high.val * 1024 + (low.val - 1024))) :: joinHalves rest
    else .surrogate high :: joinHalves (.surrogate low :: rest)
  | c :: rest => c :: joinHalves rest
  | [] => []

/-- The text that the inside of a quoted text stands for. -/
def unescape (inside : Text) : Option Text := (unescapeHalves inside).map joinHalves

theorem length_lt_of_splitString? {t inside after : Text}
    (h : splitString? t = some (inside, after)) : after.length < t.length := by
  fun_induction splitString? t generalizing inside with
  | case1 => cases h
  | case2 rest =>
    cases h
    exact Nat.lt_succ_self _
  | case3 c rest ih =>
    obtain ⟨⟨i, a⟩, hi, he⟩ := Option.map_eq_some_iff.1 h
    cases he
    have := ih hi
    simp only [List.length_cons]
    omega
  | case4 c rest _ _ ih =>
    obtain ⟨⟨i, a⟩, hi, he⟩ := Option.map_eq_some_iff.1 h
    cases he
    have := ih hi
    simp only [List.length_cons]
    omega

/-! ## Words and numbers -/

/-- The characters of words and numbers. -/
def isWordPart : CodePoint → Bool
  | .surrogate _ => false
  | .char c => c.isAlphanum || c = '+' || c = '-' || c = '.'

/-- A fraction in front of a text: its digits, and what follows it. -/
def splitFraction : Text → Text × Text
  | .char '.' :: rest =>
    let (ds, after) := Numeral.splitDigits rest
    if ds.isEmpty then ([], .char '.' :: rest) else (ds, after)
  | t => ([], t)

/-- A text without the sign in front of it, and whether that is a minus. -/
def splitSign : Text → Bool × Text
  | .char '-' :: rest => (true, rest)
  | .char '+' :: rest => (false, rest)
  | t => (false, t)

/-- An exponent in front of a text, if there is one, and what follows it. -/
def splitExponent (t : Text) : Option Int × Text :=
  match t with
  | .char 'e' :: rest | .char 'E' :: rest =>
    let (negative, digits) := splitSign rest
    let (ds, after) := Numeral.splitDigits digits
    let n : Int := Numeral.value ds
    if ds.isEmpty then (none, t) else (some (if negative then -n else n), after)
  | _ => (none, t)

/-- The digits of a whole number in front of a text: a zero stands alone. -/
def splitWhole (t : Text) : Text × Text :=
  match t with
  | .char '0' :: rest => ([.char '0'], rest)
  | _ => Numeral.splitDigits t

/-- The tokens of a number and of what is stuck to it. -/
def numberTokens (word : Text) : List Token :=
  let (negative, digits) :=
    match word with
    | .char '-' :: rest => (true, rest)
    | _ => (false, word)
  let (whole, rest) := splitWhole digits
  if whole.isEmpty then [.bad]
  else
    let (fraction, rest) := splitFraction rest
    let (exponent, rest) := splitExponent rest
    let stuck : List Token := if rest.isEmpty then [] else [.bad]
    if fraction.isEmpty ∧ exponent.isNone then
      match Numeral.read whole with
      | .ok n => .scalar (.int (if negative then -n else n)) :: stuck
      | .error _ => [.longNumber whole.length]
    else
      let coefficient := Numeral.value (whole ++ fraction)
      let power := exponent.getD 0 - fraction.length
      .scalar (.float (Binary64.ofDecimal negative coefficient power)) :: stuck

/-- The tokens of a run of word characters. -/
def wordTokens (word : Text) : List Token :=
  if word = Text.ofString "null" then [.scalar .null]
  else if word = Text.ofString "true" then [.scalar (.bool true)]
  else if word = Text.ofString "false" then [.scalar (.bool false)]
  else if word = Text.ofString "NaN" then [.scalar (.float .nan)]
  else if word = Text.ofString "Infinity" then [.scalar (.float (.infinite false))]
  else if word = Text.ofString "-Infinity" then [.scalar (.float (.infinite true))]
  else numberTokens word

set_option linter.unusedVariables false in
/-- The tokens of a text. -/
def tokens (t : Text) : List Token :=
  match t with
  | [] => []
  | c :: rest =>
    if isGap c then tokens rest
    else
      match punctuation? c with
      | some token => token :: tokens rest
      | none =>
        if c = .char '"' then
          match hs : splitString? rest with
          | none => [.bad]
          | some (inside, after) =>
            match unescape inside with
            | none => [.bad]
            | some text => .text text :: tokens after
        else if isWordPart c then
          wordTokens (c :: rest.takeWhile isWordPart) ++ tokens (rest.dropWhile isWordPart)
        else [.bad]
termination_by t.length
decreasing_by
  · exact Nat.lt_succ_self _
  · exact Nat.lt_succ_self _
  · have := length_lt_of_splitString? hs
    simp only [List.length_cons]
    omega
  · have : (rest.dropWhile isWordPart).length ≤ rest.length := (List.dropWhile_sublist _).length_le
    simp only [List.length_cons]
    omega

end Json

end Tabletop
