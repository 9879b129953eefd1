/-!
# Tokens of an input text

An input text is a sequence of literal characters and of `<name>` escapes.  Reading goes from left
to right: at a `<` with a later `>` and something between the two the text up to the first `>` is
one escape, and everywhere else one character is one literal.  So `<>` is two literals, a `<`
without a later `>` is a literal, and the name of an escape may hold further `<`.

* `Token.first?` takes one token off a text, and `eq_append_of_first?` says that the token's own
  characters and the rest make up the text again.
* `tokenize` is the whole sequence, and `render` writes a sequence back as text.
-/

namespace MonitorKeys

/-- One unit of the input. -/
inductive Token where
  /-- A single character that stands for itself. -/
  | literal (c : Char)
  /-- The name between the brackets of an escape. -/
  | escape (name : String)
  deriving DecidableEq, Repr

namespace Token

/-! ## Writing -/

/-- The characters of a token as they stand in the input. -/
def chars : Token → List Char
  | literal c => [c]
  | escape name => '<' :: name.toList ++ ['>']

@[simp] theorem chars_literal (c : Char) : (literal c).chars = [c] := rfl

@[simp] theorem chars_escape (name : String) :
    (escape name).chars = '<' :: name.toList ++ ['>'] := rfl

/-! ## Reading -/

/-- The name of the escape that a text opens with, and the text after its closing bracket. -/
def escape? : List Char → Option (List Char × List Char)
  | [] => none
  | c :: body =>
    if c = '<' then
      match body.dropWhile (· ≠ '>') with
      | [] => none
      | _ :: rest =>
        let name := body.takeWhile (· ≠ '>')
        if name = [] then none else some (name, rest)
    else none

/-- The first token of a text, and the text after it. -/
def first? (cs : List Char) : Option (Token × List Char) :=
  match escape? cs, cs with
  | some (name, rest), _ => some (escape (String.ofList name), rest)
  | none, [] => none
  | none, c :: rest => some (literal c, rest)

theorem head_of_dropWhile_ne {cs rest : List Char} {c : Char}
    (h : cs.dropWhile (· ≠ '>') = c :: rest) : c = '>' := by
  have := List.head?_dropWhile_not (fun d : Char => decide (d ≠ '>')) cs
  rw [h] at this
  simpa using this

/-- An escape and the text after it make up the text again. -/
theorem eq_append_of_escape? {cs name rest : List Char} (h : escape? cs = some (name, rest)) :
    cs = '<' :: name ++ '>' :: rest := by
  unfold escape? at h
  split at h
  · simp at h
  · next c body =>
    split at h
    · next hc =>
      split at h
      · simp at h
      · next d rest' hdrop =>
        have hd := head_of_dropWhile_ne hdrop
        have hbody :=
          List.takeWhile_append_dropWhile (p := fun d : Char => decide (d ≠ '>')) (l := body)
        rw [hdrop, hd] at hbody
        simp only [Option.ite_none_left_eq_some, Option.some.injEq, Prod.mk.injEq] at h
        obtain ⟨-, rfl, rfl⟩ := h
        rw [hc, List.cons_append, hbody]
    · simp at h

/-- A token's characters and the text after it make up the text again. -/
theorem eq_append_of_first? {cs rest : List Char} {t : Token} (h : first? cs = some (t, rest)) :
    cs = t.chars ++ rest := by
  unfold first? at h
  split at h
  · next name rest' he =>
    simp only [Option.some.injEq, Prod.mk.injEq] at h
    obtain ⟨rfl, rfl⟩ := h
    simp [eq_append_of_escape? he]
  · simp at h
  · simp only [Option.some.injEq, Prod.mk.injEq] at h
    obtain ⟨rfl, rfl⟩ := h
    simp

theorem length_lt_of_first? {cs rest : List Char} {t : Token} (h : first? cs = some (t, rest)) :
    rest.length < cs.length := by
  rw [eq_append_of_first? h]
  cases t with
  | literal c => simp
  | escape name =>
    simp only [chars_escape, List.length_append, List.length_cons]
    omega

/-- The tokens of a list of characters. -/
def scan (cs : List Char) : List Token :=
  match _ : first? cs with
  | some (t, rest) => t :: scan rest
  | none => []
termination_by cs.length
decreasing_by exact length_lt_of_first? ‹_›

end Token

/-- The tokens of a text, from left to right. -/
def tokenize (input : String) : List Token :=
  Token.scan input.toList

/-- The text that a sequence of tokens is written as. -/
def render (tokens : List Token) : String :=
  String.ofList (tokens.flatMap Token.chars)

end MonitorKeys
