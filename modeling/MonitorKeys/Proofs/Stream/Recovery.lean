import Mathlib.Data.List.Nodup
import MonitorKeys.Proofs.Stream.Output

/-!
# A plain text can be read off its output

In a plain text every token stands for one character: it is a literal or one of the two brackets
written by its alias.  `sentName_inj_of_typed` says that no two such tokens are sent under the same
name, and `framed_sentName` that the line of each can be found in the output, the one for a line end
included.  So `written_run_eq_iff` holds: the input can be recovered from the output.
-/

namespace MonitorKeys

namespace Token

open KeyName

/-- A token that stands for one character of a plain text. -/
def Typed : Token → Prop
  | literal _ => True
  | escape name => name = "lt" ∨ name = "gt"

instance : DecidablePred Typed
  | literal _ => inferInstanceAs (Decidable True)
  | escape _ => inferInstanceAs (Decidable (_ ∨ _))

theorem ne_wait_of_typed {t : Token} (h : t.Typed) : t ≠ escape "wait" := by
  rintro rfl
  revert h
  decide

theorem not_typed_of_mem_renamedLetters : ∀ entry ∈ renamedLetters, ¬ entry.1.Typed := by
  decide +kernel

/-- A token of plain text is renamed, or it is a literal that names its own key. -/
theorem Typed.sentName_cases {t : Token} (h : t.Typed) :
    (t, t.sentName) ∈ renamed ∨ ∃ c, t = literal c ∧ t.sentName = String.singleton c := by
  rcases t.sentName_cases with hmem | ⟨hinner, -, -⟩
  · rcases List.mem_append.1 hmem with hrenamed | hletter
    · exact Or.inl hrenamed
    · exact absurd h (not_typed_of_mem_renamedLetters _ hletter)
  · cases t with
    | literal c =>
      refine Or.inr ⟨c, rfl, ?_⟩
      rw [← String.toList_inj, hinner, String.toList_singleton, inner]
    | escape name =>
      rcases h with rfl | rfl
      · exact Or.inl (by decide)
      · exact Or.inl (by decide)

theorem singleton_notMem_renamed (c : Char) (t : Token) :
    (t, String.singleton c) ∉ renamed := by
  intro hmem
  have hlong := (wordLike_of_mem_renamed _ (List.mem_append_left _ hmem)).1
  simp at hlong

/-- Tokens of plain text that are sent under the same name are the same. -/
theorem sentName_inj_of_typed {t u : Token} (ht : t.Typed) (hu : u.Typed)
    (h : t.sentName = u.sentName) : t = u := by
  rcases ht.sentName_cases with htmem | ⟨c, rfl, hc⟩
  · rcases hu.sentName_cases with humem | ⟨d, rfl, hd⟩
    · have hentry := List.inj_on_of_nodup_map nodup_renamed htmem humem h
      exact congrArg Prod.fst hentry
    · rw [h, hd] at htmem
      exact absurd htmem (singleton_notMem_renamed d t)
  · rcases hu.sentName_cases with humem | ⟨d, rfl, hd⟩
    · rw [← h, hc] at humem
      exact absurd humem (singleton_notMem_renamed c u)
    · rw [hc, hd] at h
      have hcd : c = d := by simpa using congrArg String.toList h
      rw [hcd]

/-- The name of a token of plain text holds a line end only when it is the line end itself. -/
theorem framed_sentName {t : Token} (h : t.Typed) : Framed t.sentName := by
  rcases h.sentName_cases with hmem | ⟨c, rfl, hc⟩
  · obtain ⟨hlong, -, -, hnone⟩ := wordLike_of_mem_renamed _ (List.mem_append_left _ hmem)
    refine Or.inr ⟨?_, hnone⟩
    intro hempty
    simp [hempty] at hlong
  · rw [hc]
    by_cases hend : c = '\n'
    · exact Or.inl (by rw [hend]; rfl)
    · exact Or.inr ⟨by simp, by simpa using Ne.symm hend⟩

end Token

/-- Every token of a plain text is sent. -/
theorem sentNames_of_typed {tokens : List Token} (h : ∀ t ∈ tokens, t.Typed) :
    sentNames tokens = tokens.map Token.sentName := by
  rw [sentNames, List.filter_eq_self.2]
  intro t ht
  simpa using Token.ne_wait_of_typed (h t ht)

theorem eq_of_map_sentName_eq {a b : List Token} (ha : ∀ t ∈ a, t.Typed) (hb : ∀ t ∈ b, t.Typed)
    (h : a.map Token.sentName = b.map Token.sentName) : a = b := by
  induction a generalizing b with
  | nil => exact (List.map_eq_nil_iff.1 h.symm).symm
  | cons t a ih =>
    cases b with
    | nil => simp at h
    | cons u b =>
      rw [List.map_cons, List.map_cons, List.cons.injEq] at h
      have htu := Token.sentName_inj_of_typed (ha t (by simp)) (hb u (by simp)) h.1
      have hrest := ih (fun v hv => ha v (List.mem_cons_of_mem t hv))
        (fun v hv => hb v (List.mem_cons_of_mem u hv)) h.2
      rw [htu, hrest]

/-- The tokens of a plain text can be read off their translation. -/
theorem translationOf_inj_of_typed {a b : List Token} (ha : ∀ t ∈ a, t.Typed)
    (hb : ∀ t ∈ b, t.Typed) (h : translationOf a = translationOf b) : a = b := by
  have hframed : ∀ tokens : List Token, (∀ t ∈ tokens, t.Typed) →
      ∀ name ∈ sentNames tokens, Framed name := by
    intro tokens htokens name hname
    obtain ⟨t, ht, -, rfl⟩ := mem_sentNames hname
    exact Token.framed_sentName (htokens t ht)
  have hnames := (translationOf_eq_iff (hframed a ha) (hframed b hb)).1 h
  rw [sentNames_of_typed ha, sentNames_of_typed hb] at hnames
  exact eq_of_map_sentName_eq ha hb hnames

/-- Two plain texts with the same output are the same text. -/
theorem written_run_eq_iff (delay : Nat) (filter : Log.Filter) (failure : OutputFailure)
    {s t : String} (hs : ∀ token ∈ tokenize s, token.Typed)
    (ht : ∀ token ∈ tokenize t, token.Typed) :
    let output input :=
      written ((Sender.mk streamSink delay filter).run input (.unlimited failure)).events
    output s = output t ↔ s = t := by
  intro output
  have houtput : ∀ input, output input = translation input := fun input =>
    (run_unlimited delay filter failure input).2
  rw [houtput, houtput]
  constructor
  · intro h
    have htokens := translationOf_inj_of_typed hs ht h
    rw [← render_tokenize s, htokens, render_tokenize]
  · rintro rfl
    rfl

/-- The line for a line end has two of them: the name, and the end of the line. -/
example : (Token.literal '\n').line = Text.bytesOf "sendkey \n\n" := by
  decide

/-- An open bracket that stands for itself and its alias are typed differently. -/
theorem written_run_ne_of_alias :
    let output input :=
      written ((Sender.mk streamSink 7 (.upTo none)).run input (.unlimited .nothingAccepted)).events
    (∀ token ∈ tokenize "A\n<", token.Typed) ∧ (∀ token ∈ tokenize "A\n<lt>", token.Typed) ∧
      output "A\n<" ≠ output "A\n<lt>" := by
  intro output
  have hopen : tokenize "A\n<" = [.literal 'A', .literal '\n', .literal '<'] := by decide +kernel
  have halias : tokenize "A\n<lt>" = [.literal 'A', .literal '\n', .escape "lt"] := by
    decide +kernel
  have hfirst : ∀ token ∈ tokenize "A\n<", token.Typed := by
    rw [hopen]
    decide
  have hsecond : ∀ token ∈ tokenize "A\n<lt>", token.Typed := by
    rw [halias]
    decide
  refine ⟨hfirst, hsecond, ?_⟩
  intro hequal
  have hsame := (written_run_eq_iff 7 (.upTo none) .nothingAccepted hfirst hsecond).1 hequal
  exact absurd hsame (by decide)

end MonitorKeys
