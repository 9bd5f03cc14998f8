import Corpus.Proofs.Source.Conservation
import Corpus.Proofs.Token.Boundary
import Corpus.Proofs.Token.Locality

/-!
# The directive of a source

A grammar that has directives looks for one at the very beginning of a source and nowhere else.
**What is behind it is lexed as a source of its own**, by the table without directives: the tokens
are the same, and all that is told of places is moved by the bytes of the directive
(`lex_sets_directive_apart`). A source that only looks like it, with nothing behind the `#!` or no
line feed at the end, is not touched, and what begins like a directive further on is lexed like
anything else.

So the directive of a program is its one instruction, and leaves nothing in the material for
windows.
-/

set_option autoImplicit false

namespace Corpus

open Corpus.Parse Corpus.Text

variable {g : Grammar} {r rest text : List Char}

/-! ## What a directive looks like -/

/-- A `#!` line with something on it, and its line feed. -/
def IsDirective (text : String) : Prop :=
  ∃ line : String, line ≠ "" ∧ '\n' ∉ line.toList ∧ text = "#!" ++ line ++ "\n"

theorem toList_directive (line : String) :
    ("#!" ++ line ++ "\n").toList = '#' :: '!' :: (line.toList ++ ['\n']) := by
  rw [String.toList_append, String.toList_append]
  rfl

theorem cutDirective_line {line : List Char} (hne : line ≠ []) (hline : '\n' ∉ line)
    (rest : List Char) :
    cutDirective ('#' :: '!' :: (line ++ '\n' :: rest)) =
      some ('#' :: '!' :: (line ++ ['\n']), rest) := by
  obtain ⟨x, line, rfl⟩ := List.exists_cons_of_ne_nil hne
  have plain : ∀ y ∈ x :: line, (y != '\n') = true := by
    intro y hy
    exact bne_iff_ne.2 fun same => hline (same ▸ hy)
  have ends : headIs (· != '\n') ('\n' :: rest) = false := rfl
  simp only [cutDirective, List.takeWhile_append_of_pos plain, List.dropWhile_append_of_pos plain,
    takeWhile_of_headIs ends, dropWhile_of_headIs ends, List.append_nil]
  rfl

theorem exists_line_of_cutDirective (h : cutDirective r = some (text, rest)) :
    ∃ line, line ≠ [] ∧ '\n' ∉ line ∧ text = '#' :: '!' :: (line ++ ['\n']) := by
  unfold cutDirective at h
  split at h
  · rename_i r
    split at h
    · rename_i x line _ hline _
      cases h
      refine ⟨x :: line, List.cons_ne_nil x line, fun broken => ?_, rfl⟩
      rw [← hline] at broken
      exact absurd (List.mem_takeWhile_imp broken) (by decide)
    · cases h
  · cases h

/-- A directive is taken off the front of whatever is behind it. -/
theorem IsDirective.cutLeading (hg : g.hasDirective = true) {first : String}
    (h : IsDirective first) (rest : List Char) :
    g.cutLeading (first.toList ++ rest) = some (⟨.instruction, first⟩, rest) := by
  obtain ⟨line, hne, hline, rfl⟩ := h
  have hne' : line.toList ≠ [] := fun empty => hne (String.toList_eq_nil_iff.1 empty)
  unfold Grammar.cutLeading
  rw [if_pos hg, toList_directive, List.cons_append, List.cons_append, List.append_assoc,
    List.singleton_append, cutDirective_line hne' hline, ← toList_directive]
  simp only [Token.ofCut, Token.ofChars, Option.map_some, String.ofList_toList]

/-- What is taken off the front is a directive. -/
theorem isDirective_of_cutLeading {t : Token} (h : g.cutLeading r = some (t, rest)) :
    t.category = .instruction ∧ IsDirective t.text := by
  unfold Grammar.cutLeading at h
  split at h
  · obtain ⟨text, hcut, rfl⟩ := Token.ofCut_eq_some.1 h
    obtain ⟨line, hne, hline, rfl⟩ := exists_line_of_cutDirective hcut
    refine ⟨rfl, String.ofList line, ?_, ?_, ?_⟩
    · intro empty
      rw [← String.toList_inj, String.toList_ofList] at empty
      exact hne empty
    · rwa [String.toList_ofList]
    · rw [← String.toList_inj, Token.toList_ofChars, toList_directive, String.toList_ofList]
  · cases h

theorem eq_append_of_cutLeading {source : String} {t : Token}
    (h : g.cutLeading source.toList = some (t, rest)) : source = t.text ++ String.ofList rest := by
  rw [← String.toList_inj, String.toList_append, String.toList_ofList, cutLeading_append h]

/-! ## Lexing without directives -/

/-- Behind the beginning of a file, directives make no difference. -/
theorem rounds_withoutDirective (g : Grammar) (r : List Char) :
    g.withoutDirective.rounds r = g.rounds r := by
  have front (r : List Char) : g.withoutDirective.front r = g.front r := rfl
  fun_induction Grammar.rounds g r with
  | case1 r t rest hf less ih =>
    rw [Grammar.rounds, front, hf]
    simp only [less, if_true, ih]
  | case2 r t rest hf stuck =>
    rw [Grammar.rounds, front, hf]
    simp only [stuck, if_false]
  | case3 r hf => rw [Grammar.rounds, front, hf]
  | case4 r hf => rw [Grammar.rounds, front, hf]

theorem scanBody_withoutDirective (g : Grammar) (r : List Char) :
    g.withoutDirective.scanBody r = g.scanBody r := by
  have front (r : List Char) : g.withoutDirective.front r = g.front r := rfl
  unfold Grammar.scanBody
  simp only [front, rounds_withoutDirective]

theorem lex_withoutDirective (g : Grammar) (source : String) :
    g.withoutDirective.lex source =
      (g.scanBody source.toList).result (byteCount source.toList) := by
  have scan : g.withoutDirective.scan source.toList = g.scanBody source.toList :=
    scanBody_withoutDirective g source.toList
  rw [Grammar.lex_eq_scan, scan]

/-- Where no directive is at the front, none is looked for in effect. -/
theorem lex_of_cutLeading_eq_none {source : String} (h : g.cutLeading source.toList = none) :
    g.lex source = g.withoutDirective.lex source := by
  rw [lex_withoutDirective, Grammar.lex_eq_scan, Grammar.scan, h]

/-! ## Lexing behind a directive -/

/-- What was lexed, told behind a token: the token comes first, and it stopped so much further
on. -/
def Lexed.behind (t : Token) (l : Lexed) : Lexed :=
  ⟨t :: l.tokens, l.stop.further (byteCount t.text.toList)⟩

theorem Lexed.unmatched?_behind (t : Token) (l : Lexed) :
    (l.behind t).unmatched? =
      l.unmatched?.map fun (offset, left) => (offset + byteCount t.text.toList, left) := by
  unfold Lexed.unmatched? Lexed.behind
  rw [Cursor.atEnd_further]
  split <;> rfl

/-- A scan behind a token gives what the scan by itself gives, moved by the token. -/
theorem Scan.result_behind (s : Scan) (t : Token) (bytes : Nat) :
    (s.behind [] t).result (byteCount t.text.toList + bytes) =
      match s.result bytes with
      | .ok l => .ok (l.behind t)
      | .error e =>
        .error (e.further (Cause.further (byteCount t.text.toList)) (byteCount t.text.toList)) := by
  cases s with
  | stopped tokens read rest =>
    simp only [Scan.behind, Scan.result, Lexed.behind, Cursor.further_place, List.nil_append,
      byteCount_append, Nat.add_comm]
  | openString tokens read rest =>
    simp only [Scan.behind, Scan.result, Failure.further, Cause.further, List.nil_append,
      byteCount_append, Nat.add_comm]

theorem lex_behind_directive (hg : g.hasDirective = true) {first : String}
    (h : IsDirective first) (rest : String) :
    g.lex (first ++ rest) =
      match g.withoutDirective.lex rest with
      | .ok l => .ok (l.behind ⟨.instruction, first⟩)
      | .error e =>
        .error (e.further (Cause.further (byteCount first.toList)) (byteCount first.toList)) := by
  rw [lex_withoutDirective, Grammar.lex_eq_scan, Grammar.scan, String.toList_append,
    h.cutLeading hg, byteCount_append]
  exact Scan.result_behind _ ⟨.instruction, first⟩ _

/-- An unclosed string is all that can fail a source. -/
theorem cause_of_lex_eq_error {source : String} {e : Failure} (h : g.lex source = .error e) :
    ∃ opened, e.cause = .unterminatedString opened := by
  rw [Grammar.lex_eq_scan] at h
  cases hs : g.scan source.toList with
  | stopped tokens read rest =>
    rw [hs] at h
    cases h
  | openString tokens read rest =>
    rw [hs] at h
    cases h
    exact ⟨_, rfl⟩

/-! ## Programs -/

/-- Without directives no token of a program is an instruction. -/
theorem category_of_lex_withoutDirective (hg : g.Coded) {source : String} {l : Lexed}
    (h : g.withoutDirective.lex source = .ok l) : ∀ t ∈ l.tokens, t.category ≠ .instruction := by
  have shows := finds_scanBody g (shows_of_front hg) source.toList
  rw [lex_withoutDirective] at h
  cases hs : g.scanBody source.toList with
  | stopped tokens read rest =>
    rw [hs] at h shows
    cases h
    exact fun t ht => (shows t ht).category
  | openString tokens read rest =>
    rw [hs] at h
    cases h

theorem exists_behind_of_cutLeading (hg : g.hasDirective = true) {source : String} {t : Token}
    {l : Lexed} (hc : g.cutLeading source.toList = some (t, rest)) (h : g.lex source = .ok l) :
    ∃ l', IsDirective t.text ∧ source = t.text ++ String.ofList rest ∧
      g.withoutDirective.lex (String.ofList rest) = .ok l' ∧
      l = l'.behind ⟨.instruction, t.text⟩ := by
  obtain ⟨-, directive⟩ := isDirective_of_cutLeading hc
  have hsource := eq_append_of_cutLeading hc
  rw [hsource, lex_behind_directive hg directive] at h
  cases hl : g.withoutDirective.lex (String.ofList rest) with
  | error e =>
    rw [hl] at h
    cases h
  | ok l' =>
    rw [hl] at h
    exact ⟨l', directive, hsource, rfl, (Except.ok.inj h).symm⟩

/-- **A directive is set apart, and the rest is lexed as if it stood alone.** With a table that has
directives, what is behind one lexes as it does by itself with the table without them: its tokens
follow the directive, and what is told to be unmatched, or where a string was opened that is not
closed, is further on by the bytes of the directive. A source that begins with none lexes with
either table alike. In Python the directive is the only instruction, it is at the front, and the
material is that of the rest. -/
theorem lex_sets_directive_apart :
    (∀ g : Grammar, g.hasDirective = true →
      (∀ first rest : String, IsDirective first →
        (∀ l, g.withoutDirective.lex rest = .ok l →
          ∃ l', g.lex (first ++ rest) = .ok l' ∧
            l'.tokens = ⟨.instruction, first⟩ :: l.tokens ∧
            l'.unmatched? = l.unmatched?.map fun (offset, left) =>
              (offset + byteCount first.toList, left)) ∧
        (∀ e, g.withoutDirective.lex rest = .error e →
          ∃ opened, e.cause = .unterminatedString opened ∧
            g.lex (first ++ rest) =
              .error ⟨.unterminatedString (opened + byteCount first.toList),
                e.offset + byteCount first.toList⟩)) ∧
      (∀ source, (¬ ∃ first rest, IsDirective first ∧ source = first ++ rest) →
        g.lex source = g.withoutDirective.lex source)) ∧
    (∀ (s : Segmenter) (source : String) (found : Tokens),
      FileKind.python.tokens s source = .ok found →
        ∃ first rest l, source = first ++ rest ∧
          Grammar.pythonLike.withoutDirective.lex rest = .ok l ∧
          (IsDirective first ∧ found.tokens = ⟨.instruction, first⟩ :: l.tokens ∨
            first = "" ∧ found.tokens = l.tokens) ∧
          (∀ t ∈ l.tokens, t.category ≠ .instruction) ∧
          FileKind.python.material s found.tokens = FileKind.python.material s l.tokens) := by
  refine ⟨fun g hg => ⟨fun first rest directive => ⟨?tokens, ?failure⟩, ?other⟩, ?python⟩
  case tokens =>
    intro l hl
    refine ⟨l.behind ⟨.instruction, first⟩, ?_, rfl, Lexed.unmatched?_behind _ l⟩
    rw [lex_behind_directive hg directive, hl]
  case failure =>
    intro e he
    obtain ⟨opened, hcause⟩ := cause_of_lex_eq_error he
    refine ⟨opened, hcause, ?_⟩
    rw [lex_behind_directive hg directive, he]
    simp only [Failure.further, hcause, Cause.further]
  case other =>
    intro source hnone
    refine lex_of_cutLeading_eq_none (Option.eq_none_iff_forall_ne_some.2 ?_)
    rintro ⟨t, rest⟩ hc
    obtain ⟨-, directive⟩ := isDirective_of_cutLeading hc
    exact hnone ⟨t.text, String.ofList rest, directive, eq_append_of_cutLeading hc⟩
  case python =>
    intro s source found hfound
    obtain ⟨l, hl, htokens⟩ := exists_lex_of_tokens rfl hfound
    rw [htokens]
    cases hc : Grammar.pythonLike.cutLeading source.toList with
    | none =>
      rw [lex_of_cutLeading_eq_none hc] at hl
      exact ⟨"", source, l, String.empty_append.symm, hl, .inr ⟨rfl, rfl⟩,
        category_of_lex_withoutDirective coded_pythonLike hl, rfl⟩
    | some cut =>
      obtain ⟨t, rest⟩ := cut
      obtain ⟨l', directive, hsource, hrest, rfl⟩ := exists_behind_of_cutLeading rfl hc hl
      exact ⟨t.text, String.ofList rest, l', hsource, hrest, .inl ⟨directive, rfl⟩,
        category_of_lex_withoutDirective coded_pythonLike hrest, material_instruction rfl _⟩

/-- A table with directives whose dollar sign ends a run of symbols and begins nothing. -/
def Grammar.dollarDirective : Grammar :=
  { Grammar.cLike with symbolEnds := ["$", "\""], hasDirective := true }

/-- A directive of five bytes, before a text that is left unmatched and before a string that is not
closed; a line with nothing behind the `#!`; and a program with two such lines. -/
theorem lex_sets_directive_apart_twice :
    let first := "#!é\n"
    let g := Grammar.dollarDirective
    g.hasDirective = true ∧ IsDirective first ∧
    g.withoutDirective.lex "+$ 1" = .ok ⟨[⟨.symbol, "+"⟩], .place 1 ['$', ' ', '1']⟩ ∧
    (∃ l', g.lex (first ++ "+$ 1") = .ok l' ∧
      l'.tokens = [⟨.instruction, first⟩, ⟨.symbol, "+"⟩] ∧ l'.unmatched? = some (6, 3)) ∧
    g.withoutDirective.lex "x \"é" = .error ⟨.unterminatedString 2, 5⟩ ∧
    g.lex (first ++ "x \"é") = .error ⟨.unterminatedString 7, 10⟩ ∧
    g.lex "#!\nx" = g.withoutDirective.lex "#!\nx" ∧
    ∃ first rest l, "#!p\n#!q\nx" = first ++ rest ∧
      Grammar.pythonLike.withoutDirective.lex rest = .ok l ∧
      (IsDirective first ∧
          [⟨.instruction, "#!p\n"⟩, ⟨.text, "#!q\n"⟩, ⟨.symbol, "x"⟩] =
            ⟨.instruction, first⟩ :: l.tokens ∨
        first = "" ∧
          [⟨.instruction, "#!p\n"⟩, ⟨.text, "#!q\n"⟩, ⟨.symbol, "x"⟩] = l.tokens) ∧
      (∀ t ∈ l.tokens, t.category ≠ .instruction) ∧
      ["#", "!", "q", "x"] = FileKind.python.material .characters l.tokens := by
  intro first g
  have directive : IsDirective first := ⟨"é", by decide, by decide, rfl⟩
  have stopped : g.withoutDirective.lex "+$ 1" =
      .ok ⟨[⟨.symbol, "+"⟩], .place 1 ['$', ' ', '1']⟩ := by
    decide +kernel
  have unclosed : g.withoutDirective.lex "x \"é" = .error ⟨.unterminatedString 2, 5⟩ := by
    decide +kernel
  have bare : ¬ ∃ first rest, IsDirective first ∧ "#!\nx" = first ++ rest := by
    rintro ⟨first, rest, directive, hsource⟩
    have found := directive.cutLeading (g := g) rfl rest.toList
    rw [← String.toList_append, ← hsource] at found
    cases found
  have program : FileKind.python.tokens .characters "#!p\n#!q\nx" =
      .ok ⟨[⟨.instruction, "#!p\n"⟩, ⟨.text, "#!q\n"⟩, ⟨.symbol, "x"⟩], none⟩ := by
    decide +kernel
  have size : byteCount first.toList = 5 := by decide
  obtain ⟨apart, python⟩ := lex_sets_directive_apart
  obtain ⟨behind, other⟩ := apart g rfl
  obtain ⟨tokens, -⟩ := behind first "+$ 1" directive
  obtain ⟨-, failure⟩ := behind first "x \"é" directive
  obtain ⟨l', lexed, htokens, hunmatched⟩ := tokens _ stopped
  obtain ⟨opened, hopened, failed⟩ := failure _ unclosed
  cases hopened
  rw [size] at hunmatched failed
  exact ⟨rfl, directive, stopped, ⟨l', lexed, htokens, hunmatched⟩, unclosed, failed,
    other _ bare, python .characters _ _ program⟩

end Corpus
