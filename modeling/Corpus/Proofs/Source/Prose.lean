import Corpus.Proofs.Parse.Cut
import Corpus.Source.Material

/-!
# The tokens of natural language

`cutRuns` cuts a text into its runs without a cursor: blanks and all else by turns, each run as
long as it gets. The parser of runs does the same and always reaches the end (`run_runs`), so that
`Run.ofText` never falls back on having no runs at all (`Run.ofText_eq`).

Nothing is lost on the way from a text to the material for windows: the runs are the text in order,
a solid run comes apart into pieces that are the run again, and only pieces without any character
are dropped (`flatten_material`).
-/

set_option autoImplicit false

namespace Corpus

open Corpus.Parse Corpus.Parse.Parser Corpus.Text

/-! ## Runs -/

/-- The characters of a run. -/
def Run.chars : Run → List Char
  | .blank text => text
  | .solid text => text

/-- The run that a character begins, with so many characters behind it that belong to it. -/
def Run.begin (x : Char) (more : List Char) : Run :=
  if isBlank x then .blank (x :: more) else .solid (x :: more)

@[simp] theorem Run.chars_begin (x : Char) (more : List Char) :
    (Run.begin x more).chars = x :: more := by
  unfold Run.begin
  split <;> rfl

/-- The runs of a text: a run goes on while characters are of the class of its first. -/
def cutRuns : List Char → List Run
  | [] => []
  | x :: r =>
    .begin x (r.takeWhile (isBlank · == isBlank x)) :: cutRuns (r.dropWhile (isBlank · == isBlank x))
termination_by r => r.length
decreasing_by exact Nat.lt_succ_of_le (List.dropWhile_suffix _).length_le

/-- The runs of a text are the text in order. -/
theorem flatten_cutRuns (r : List Char) : ((cutRuns r).map Run.chars).flatten = r := by
  fun_induction cutRuns r with
  | case1 => rfl
  | case2 x r ih =>
    rw [List.map_cons, List.flatten_cons, ih, Run.chars_begin, List.cons_append,
      List.takeWhile_append_dropWhile]

theorem chars_ne_nil_of_mem_cutRuns {r : List Char} : ∀ run ∈ cutRuns r, run.chars ≠ [] := by
  fun_induction cutRuns r with
  | case1 =>
    intro run hrun
    cases hrun
  | case2 x r ih =>
    intro run hrun
    rcases List.mem_cons.1 hrun with rfl | hrun
    · rw [Run.chars_begin]
      exact List.cons_ne_nil _ _
    · exact ih run hrun

theorem run_parser_nil (o : Nat) : ∃ e, Run.parser.run (.place o []) = .fail e (.place o []) :=
  ⟨⟨.endOfInput, o⟩, rfl⟩

section

variable (wanted : Wanted) {accepts : Char → Bool} {x : Char}

/-- One or more characters of a class, at one that is in it. -/
theorem run_many1_satisfy (hx : accepts x = true) (o : Nat) (r : List Char) :
    (many1 (satisfy wanted accepts)).run (.place o (x :: r)) =
      .ok (x :: r.takeWhile accepts)
        (.place (o + byteCount (x :: r.takeWhile accepts)) (r.dropWhile accepts)) := by
  have cut : nonempty (takeUntil (headIs (!accepts ·)) (x :: r)) =
      some (x :: r.takeWhile accepts, r.dropWhile accepts) := by
    rw [takeUntil_headIs, List.takeWhile_cons_of_pos hx, List.dropWhile_cons_of_pos hx]
    rfl
  exact (satisfy_reads wanted accepts).cuts_many1.accepts cut

/-- At a character that is not in the class, nothing is read. -/
theorem run_many1_satisfy_of_not (hx : accepts x = false) (o : Nat) (r : List Char) :
    ∃ e, (many1 (satisfy wanted accepts)).run (.place o (x :: r)) = .fail e (.place o (x :: r)) := by
  apply (satisfy_reads wanted accepts).run_many1_of_nil
  rw [takeUntil_headIs]
  exact takeWhile_of_headIs hx

end

/-- At a character, the parser of runs reads the run that the character begins. -/
theorem run_parser_cons (o : Nat) (x : Char) (r : List Char) :
    Run.parser.run (.place o (x :: r)) =
      .ok (.begin x (r.takeWhile (isBlank · == isBlank x)))
        (.place (o + byteCount (x :: r.takeWhile (isBlank · == isBlank x)))
          (r.dropWhile (isBlank · == isBlank x))) := by
  unfold Run.parser Run.begin
  rw [run_choice]
  cases hx : isBlank x with
  | true =>
    have same : (isBlank · == true) = isBlank := funext fun _ => beq_true _
    have read : (.blank <$> many1 Parser.blank : Parser Run).run (.place o (x :: r)) =
        .ok (.blank (x :: r.takeWhile isBlank))
          (.place (o + byteCount (x :: r.takeWhile isBlank)) (r.dropWhile isBlank)) := by
      unfold Parser.blank
      rw [run_map, run_many1_satisfy _ hx, Reply.map_ok]
    rw [choiceOr_cons_of_ok read, same, if_pos rfl]
  | false =>
    have same : (isBlank · == false) = (!isBlank ·) := funext fun _ => beq_false _
    have hsolid : (!isBlank x) = true := by rw [hx]; rfl
    obtain ⟨e, he⟩ := run_many1_satisfy_of_not (.named "whitespace") hx o r
    have refused : (.blank <$> many1 Parser.blank : Parser Run).run (.place o (x :: r)) =
        .fail e (.place o (x :: r)) := by
      unfold Parser.blank
      rw [run_map, he, Reply.map_fail]
    have read : (.solid <$> many1 (satisfy (.named "non-whitespace") (!isBlank ·)) :
        Parser Run).run (.place o (x :: r)) =
        .ok (.solid (x :: r.takeWhile (!isBlank ·)))
          (.place (o + byteCount (x :: r.takeWhile (!isBlank ·))) (r.dropWhile (!isBlank ·))) := by
      rw [run_map, run_many1_satisfy _ hsolid, Reply.map_ok]
    rw [choiceOr_cons_of_fail refused, choiceOr_cons_of_ok read, same]
    rfl

/-- The parser of runs, repeated, reads a text to its end. -/
theorem run_runs (o : Nat) (r : List Char) :
    (many Run.parser).run (.place o r) = .ok (cutRuns r) (.place (o + byteCount r) []) := by
  fun_induction cutRuns r generalizing o with
  | case1 =>
    obtain ⟨e, he⟩ := run_parser_nil o
    rw [run_many, he]
    simp [Cursor.isPast_self]
  | case2 x r ih =>
    have hr := List.takeWhile_append_dropWhile (p := (isBlank · == isBlank x)) (l := r)
    have moved : ∀ o', (Cursor.place o' (r.dropWhile (isBlank · == isBlank x))).isPast
        (.place o (x :: r)) = true := by
      intro o'
      have past : (Cursor.place o' (r.dropWhile (isBlank · == isBlank x))).isPast
          (.place o (x :: r.takeWhile (isBlank · == isBlank x) ++
            r.dropWhile (isBlank · == isBlank x))) = true := Cursor.isPast_place
      rwa [List.cons_append, hr] at past
    have hbytes : byteCount (x :: r) = byteCount (x :: r.takeWhile (isBlank · == isBlank x)) +
        byteCount (r.dropWhile (isBlank · == isBlank x)) := by
      rw [← byteCount_append, List.cons_append, hr]
    rw [run_many, run_parser_cons]
    simp only [moved, if_true, ih, Reply.map_ok, hbytes, Nat.add_assoc]

theorem Run.ofText_eq (text : String) : Run.ofText text = cutRuns text.toList := by
  unfold Run.ofText runOn
  rw [Cursor.start_eq_place, run_runs]

/-! ## Tokens and material -/

variable {s : Segmenter}

/-- Pieces without any character can be dropped. -/
theorem flatten_filter_pieces (pieces : List String) :
    (pieces.filter (!·.isEmpty)).flatMap String.toList = (pieces.map String.toList).flatten := by
  induction pieces with
  | nil => rfl
  | cons piece pieces ih =>
    rw [List.map_cons, List.flatten_cons, ← ih]
    by_cases hp : piece = ""
    · subst hp
      rfl
    · rw [List.filter_cons_of_pos (by simpa using hp), List.flatMap_cons]

theorem flatMap_tokens (hs : s.Lossless) (run : Run) :
    (run.tokens s).flatMap (·.text.toList) = run.chars := by
  cases run with
  | blank text =>
    show String.toList (String.ofList text) ++ [] = text
    rw [List.append_nil, String.toList_ofList]
  | solid text =>
    show (((s.pieces (String.ofList text)).filter (!·.isEmpty)).map _).flatMap _ = text
    rw [List.flatMap_map]
    exact (flatten_filter_pieces _).trans ((hs _).trans String.toList_ofList)

/-- A token of natural language: free text, and not empty. -/
structure Token.IsProse (t : Token) : Prop where
  category : t.category = .text
  text : t.text ≠ ""

theorem isProse_of_mem_tokens {run : Run} (hrun : run.chars ≠ []) :
    ∀ t ∈ run.tokens s, t.IsProse := by
  intro t ht
  cases run with
  | blank text =>
    obtain rfl := List.mem_singleton.1 ht
    refine ⟨rfl, fun hempty => hrun ?_⟩
    have htext : (String.ofList text).toList = [] := congrArg String.toList hempty
    rwa [String.toList_ofList] at htext
  | solid text =>
    obtain ⟨piece, hpiece, rfl⟩ := List.mem_map.1 ht
    have hkept := (List.mem_filter.1 hpiece).2
    exact ⟨rfl, by simpa using hkept⟩

theorem isProse_of_mem_proseTokens {text : String} : ∀ t ∈ proseTokens s text, t.IsProse := by
  intro t ht
  obtain ⟨run, hrun, ht⟩ := List.mem_flatMap.1 ht
  rw [Run.ofText_eq] at hrun
  exact isProse_of_mem_tokens (chars_ne_nil_of_mem_cutRuns run hrun) t ht

/-- The tokens of a text are the text in order. -/
theorem flatMap_proseTokens (hs : s.Lossless) (text : String) :
    (proseTokens s text).flatMap (·.text.toList) = text.toList := by
  have hruns : (proseTokens s text).flatMap (·.text.toList) =
      (cutRuns text.toList).flatMap Run.chars := by
    unfold proseTokens
    rw [Run.ofText_eq, List.flatMap_assoc]
    simp only [flatMap_tokens hs]
  rw [hruns, List.flatMap_def, flatten_cutRuns]

/-- Free text is material as it is. -/
theorem material_of_isProse {tokens : List Token} (h : ∀ t ∈ tokens, t.IsProse) :
    FileKind.text.material s tokens = tokens.map (·.text) := by
  induction tokens with
  | nil => rfl
  | cons t tokens ih =>
    obtain ⟨ht, htokens⟩ := List.forall_mem_cons.1 h
    have texts : FileKind.text.texts s t = [t.text] := by
      unfold FileKind.texts
      rw [ht.category]
      rfl
    have rest := ih htokens
    unfold FileKind.material at rest ⊢
    rw [List.flatMap_cons, texts, rest]
    rfl

end Corpus
