import Mathlib
import Messaging.Cql.Lexis

/-!
Reading statements piece by piece: a statement is read as its first characters are, and then the
others from where those have left the reader.
-/
namespace Messaging.Cql.Lexis

variable {s t u : State} {out more : List Token}

theorem readFrom_cons {c : Char} {cs : List Char} (hstep : step s c = some (t, out))
    (hrest : readFrom t cs = some (u, more)) : readFrom s (c :: cs) = some (u, out ++ more) := by
  simp [readFrom, hstep, hrest]

theorem readFrom_append_eq (s : State) (cs ds : List Char) :
    readFrom s (cs ++ ds) = (readFrom s cs).bind fun (t, out) =>
      (readFrom t ds).map fun (u, more) => (u, out ++ more) := by
  induction cs generalizing s with
  | nil => simp [readFrom]
  | cons c cs ih =>
    rw [List.cons_append, readFrom, readFrom]
    cases step s c with
    | none => rfl
    | some first =>
      simp only [Option.bind_eq_bind, Option.bind_some, ih]
      cases readFrom first.1 cs with
      | none => rfl
      | some second =>
        simp only [Option.map_eq_bind, Option.bind_some, Option.bind_assoc, Function.comp_def,
          Option.pure_def, List.append_assoc]

theorem readFrom_append {cs ds : List Char} (hfirst : readFrom s cs = some (t, out))
    (hsecond : readFrom t ds = some (u, more)) :
    readFrom s (cs ++ ds) = some (u, out ++ more) := by
  simp only [readFrom_append_eq, hfirst, Option.bind_some, hsecond, Option.map_some]

/-- Whatever follows, the parts that end within the first characters stand first. -/
theorem prefix_of_tokens? {lead rest : String} {parts : List Token}
    (hlead : readFrom .between lead.toList = some (t, out))
    (h : tokens? (lead ++ rest) = some parts) : out <+: parts := by
  rw [tokens?, String.toList_append, readFrom_append_eq, hlead, Option.bind_some] at h
  cases hrest : readFrom t rest.toList with
  | none => simp [hrest] at h
  | some second =>
    simp only [hrest, Option.map_some, Option.bind_eq_bind, Option.bind_some,
      Option.bind_eq_some_iff, Option.pure_def, Option.some.injEq] at h
    obtain ⟨last, -, rfl⟩ := h
    rw [List.append_assoc]
    exact List.prefix_append out _

theorem readFrom_word {cs : List Char} (h : ∀ c ∈ cs, isWordChar c = true) (read : List Char) :
    readFrom (.word read) cs = some (.word (cs.reverse ++ read), []) := by
  induction cs generalizing read with
  | nil => rfl
  | cons c cs ih =>
    have hstep : step (.word read) c = some (.word (c :: read), []) := by
      rw [step, if_pos (h c List.mem_cons_self)]
    have hrest := ih (fun d hd => h d (List.mem_cons_of_mem c hd)) (c :: read)
    rw [readFrom_cons hstep hrest, List.reverse_cons, List.append_assoc]
    rfl

theorem start_of_isAlpha {c : Char} (h : c.isAlpha = true) : start c = some (.word [c], []) := by
  have hblank : isBlank c = false := by
    simp only [isBlank, Bool.or_eq_false_iff, decide_eq_false_iff_not]
    refine ⟨⟨⟨?_, ?_⟩, ?_⟩, ?_⟩ <;> rintro rfl <;> simp at h
  simp [start, hblank, h]

theorem readFrom_of_isAlpha {c : Char} {cs : List Char} (hletter : c.isAlpha = true)
    (h : ∀ d ∈ cs, isWordChar d = true) :
    readFrom .between (c :: cs) = some (.word (c :: cs).reverse, []) := by
  have hstep : step .between c = some (.word [c], []) := start_of_isAlpha hletter
  rw [readFrom_cons hstep (readFrom_word h [c]), List.reverse_cons]
  rfl

theorem readFrom_word_blank {read cs : List Char} (hrest : readFrom .between cs = some (t, out)) :
    readFrom (.word read) (' ' :: cs) = some (t, wordOf read :: out) := by
  have hstep : step (.word read) ' ' = some (.between, [wordOf read]) := rfl
  exact readFrom_cons hstep hrest

/-- A quoted name without double quotes in it is read as it is, up to its closing quote. -/
theorem readFrom_quotedName {cs : List Char} (h : '"' ∉ cs) (read : List Char) :
    readFrom (.quotedName read) cs = some (.quotedName (cs.reverse ++ read), []) := by
  induction cs generalizing read with
  | nil => rfl
  | cons c cs ih =>
    rw [List.mem_cons, not_or] at h
    have hstep : step (.quotedName read) c = some (.quotedName (c :: read), []) := by
      rw [step, if_neg (Ne.symm h.1)]
    rw [readFrom_cons hstep (ih h.2 (c :: read)), List.reverse_cons, List.append_assoc]
    rfl

theorem tokens?_eq_some {statement : String} {last : List Token}
    (hread : readFrom .between statement.toList = some (s, out)) (hfinish : finish s = some last) :
    tokens? statement = some (out ++ last) := by
  simp [tokens?, hread, hfinish]

end Messaging.Cql.Lexis
