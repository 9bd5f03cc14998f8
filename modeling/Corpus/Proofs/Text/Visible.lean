import Corpus.Text.Blank

/-!
# What can be seen of a text

`visible` is a text without its blanks. It is what has to survive when blanks are only layout:
texts put together with blanks between them show what each of them shows.
-/

set_option autoImplicit false

namespace Corpus.Text

/-- The characters of a text that are not blank. -/
def visible (text : List Char) : List Char :=
  text.filter (!isBlank ·)

@[simp] theorem visible_nil : visible [] = [] := rfl

@[simp] theorem visible_append (s t : List Char) : visible (s ++ t) = visible s ++ visible t :=
  List.filter_append s t

theorem visible_eq_nil_iff {text : List Char} : visible text = [] ↔ text.all isBlank = true := by
  simp [visible]

theorem visible_flatten (texts : List (List Char)) :
    visible texts.flatten = texts.flatMap visible := by
  induction texts with
  | nil => rfl
  | cons text texts ih => rw [List.flatten_cons, visible_append, ih, List.flatMap_cons]

theorem visible_of_allBlank {text : String} (h : allBlank text = true) :
    visible text.toList = [] :=
  visible_eq_nil_iff.2 h

/-- A joiner that is blank cannot be seen. -/
theorem visible_intercalate {joiner : List Char} (hj : joiner.all isBlank = true)
    (texts : List (List Char)) :
    visible (joiner.intercalate texts) = texts.flatMap visible := by
  induction texts with
  | nil => rfl
  | cons text texts ih =>
    cases texts with
    | nil => rw [List.intercalate_singleton, List.flatMap_cons, List.flatMap_nil, List.append_nil]
    | cons next texts =>
      rw [List.intercalate_cons_cons, visible_append, visible_append, visible_eq_nil_iff.2 hj,
        ih, List.append_nil, ← List.flatMap_cons]

end Corpus.Text
