import Corpus.Proofs.Token.Front

/-!
# Productions are cuts

Each parser of `Token/Production.lean` does what its function in `Proofs/Token/Front.lean` says, at
every place and for every table; `answers_token` says so of the choice among them. Cursors,
failures and going back are met here for the last time: what is said of tokens from here on is said
of `Grammar.front`.
-/

set_option autoImplicit false

namespace Corpus

open Corpus.Parse Corpus.Parse.Parser Corpus.Text

/-! ## Comments -/

theorem run_through (closer : Parser (List Char)) (c : Cursor) :
    (through closer).run c =
      match closer.run c with
      | .ok text d => .ok text d
      | .fail e _ =>
        if e.isEndOfInput then .ok [] c
        else
          match c.next? with
          | some (x, d) => ((through closer).run d).map (x :: ·)
          | none => .fail ⟨.endOfInput, c.offset⟩ c := by
  show throughFrom closer [] c = _
  rw [throughFrom]
  cases closer.run c with
  | ok text d => rfl
  | fail e f =>
    by_cases he : e.isEndOfInput = true
    · simp [he]
    · simp only [he, if_false, Bool.false_eq_true]
      cases hn : c.next? with
      | none => rfl
      | some step =>
        obtain ⟨x, d⟩ := step
        exact throughFrom_eq closer [x] d

theorem run_through_text (o : Nat) (closer : String) (r : List Char) :
    (through (text closer)).run (.place o r) =
      .ok (cutThrough closer.toList r).1
        (.place (o + byteCount (cutThrough closer.toList r).1) (cutThrough closer.toList r).2) := by
  induction r generalizing o with
  | nil =>
    rw [run_through]
    by_cases h : closer.toList <+: []
    · have hc : (text closer).run (.place o []) = .ok [] (.place o []) := by
        simpa [List.prefix_nil.1 h] using run_text_append o closer []
      simp [hc, cutThrough]
    · obtain ⟨e, he, heof⟩ := run_text_of_not_ahead (o := o) h
      simp [he, heof, cutThrough]
  | cons x r ih =>
    rw [run_through, cutThrough]
    by_cases h : closer.toList <+: x :: r
    · obtain ⟨s, hs⟩ := h
      rw [← hs, run_text_append]
      simp
    · obtain ⟨e, he, heof⟩ := run_text_of_not_ahead (o := o) h
      simp [he, heof, h, ih, Nat.add_assoc]

/-- Reading through a line end stops behind the first line feed. A carriage return before it is
read with it. -/
theorem run_through_newline (o : Nat) (r : List Char) :
    (through newline).run (.place o r) =
      .ok (cutThrough ['\n'] r).1
        (.place (o + byteCount (cutThrough ['\n'] r).1) (cutThrough ['\n'] r).2) := by
  induction r generalizing o with
  | nil => simp [run_through, newline, Cursor.skip?, cutThrough, Failure.isEndOfInput,
      Cause.isEndOfInput]
  | cons x r ih =>
    rw [run_through, cutThrough]
    by_cases hx : x = '\n'
    · subst hx
      simp [newline, Cursor.skip?]
    · by_cases hr : x = '\r' ∧ ['\n'] <+: r
      · obtain ⟨rfl, s, rfl⟩ := hr
        simp [newline, Cursor.skip?, cutThrough, Nat.add_assoc]
      · have hn : newline.run (.place o (x :: r)) = .fail ⟨.notNewline, o⟩ (.place o (x :: r)) := by
          have h2 : ¬ ['\r', '\n'] <+: x :: r := fun h =>
            hr ⟨(List.cons_prefix_cons.1 h).1.symm, (List.cons_prefix_cons.1 h).2⟩
          have h1 : ¬ ['\n'] <+: x :: r := fun h => hx (List.cons_prefix_cons.1 h).1.symm
          simp [newline, Cursor.skip?_place_eq_none h2, Cursor.skip?_place_eq_none h1]
        have hp : ¬ ['\n'] <+: x :: r := fun h => hx (List.cons_prefix_cons.1 h).1.symm
        have he : Failure.isEndOfInput ⟨.notNewline, o⟩ = false := rfl
        simp [hn, he, hp, ih, Nat.add_assoc]

theorem cuts_comment (opener : String) (closer : Parser (List Char)) (closing : List Char)
    (hc : ∀ o r, (through closer).run (.place o r) =
      .ok (cutThrough closing r).1
        (.place (o + byteCount (cutThrough closing r).1) (cutThrough closing r).2)) :
    Cuts (·.text.toList) (comment opener closer)
      fun r => Token.ofCut .text (cutComment opener.toList closing r) where
  accepts := by
    intro o r t rest hr
    obtain ⟨_, hcut, rfl⟩ := Token.ofCut_eq_some.1 hr
    obtain ⟨⟨_, body⟩, hb, he⟩ := Option.map_eq_some_iff.1 hcut
    obtain ⟨rfl, rfl⟩ := Parser.cutText_eq_some.1 hb
    obtain ⟨rfl, rfl⟩ := Prod.mk.inj he
    simp [comment, run_bind, run_text_append, hc, Nat.add_assoc]
  refuses := by
    intro o r hr
    have hb : ¬ opener.toList <+: r := by
      simpa [cutComment, Parser.cutText_eq_none] using hr
    obtain ⟨e, he, -⟩ := run_text_of_not_ahead (o := o) hb
    exact ⟨e, .place o r, by simp [comment, run_bind, he]⟩

/-! ## Character literals -/

theorem run_char_cons (o : Nat) (x y : Char) (r : List Char) :
    (char x).run (.place o (y :: r)) =
      if y = x then .ok y (.place (o + y.utf8Size) r)
      else .fail ⟨.mismatch (.char x) y, o⟩ (.place o (y :: r)) := by
  simp [char, satisfy]

theorem run_char_nil (o : Nat) (x : Char) :
    (char x).run (.place o []) = .fail ⟨.endOfInput, o⟩ (.place o []) := rfl

/-- What stands between the marks of a character literal. -/
def charBody : Parser (List Char) :=
  choice [escaped, (fun c => [c]) <$> charNotIn "\\"]

theorem run_charBody_nil (o : Nat) : ∃ e, charBody.run (.place o []) = .fail e (.place o []) :=
  ⟨⟨.endOfInput, o⟩, by
    simp [charBody, choice, choiceOr, escaped, run_bind, run_char_nil, charNotIn, satisfy,
      Cursor.isPast_self]⟩

theorem run_charBody_escaped (o : Nat) (x : Char) (r : List Char) :
    charBody.run (.place o ('\\' :: x :: r)) =
      .ok ['\\', x] (.place (o + '\\'.utf8Size + x.utf8Size) r) := by
  simp [charBody, choice, choiceOr, escaped, run_bind, run_char_cons, one]

theorem run_charBody_backslash (o : Nat) :
    charBody.run (.place o ['\\']) =
      .fail ⟨.endOfInput, o + '\\'.utf8Size⟩ (.place (o + '\\'.utf8Size) []) := by
  simp [charBody, choice, choiceOr, escaped, run_bind, run_char_cons, one,
    Cursor.isPast_place_cons]

theorem run_charBody_plain {o : Nat} {x : Char} {r : List Char} (hx : x ≠ '\\') :
    charBody.run (.place o (x :: r)) = .ok [x] (.place (o + x.utf8Size) r) := by
  simp [charBody, choice, choiceOr, escaped, run_bind, run_char_cons, hx, charNotIn, satisfy,
    Cursor.isPast_self]

theorem charLiteral_eq (g : Grammar) :
    g.charLiteral = (between (char '\'') (char '\'') charBody >>= fun body =>
      pure (.ofChars .literal ('\'' :: body ++ ['\'']))) :=
  rfl

theorem run_charLiteral_of_some {g : Grammar} {o : Nat} {r text rest : List Char}
    (h : cutCharLiteral r = some (text, rest)) :
    g.charLiteral.run (.place o r) =
      .ok (.ofChars .literal text) (.place (o + byteCount text) rest) := by
  rw [charLiteral_eq]
  unfold cutCharLiteral at h
  split at h
  · cases h
    simp [between, run_bind, run_char_cons, run_charBody_escaped, Nat.add_assoc]
  · split at h
    · cases h
    · rename_i hx
      cases h
      simp [between, run_bind, run_char_cons, run_charBody_plain hx, Nat.add_assoc]
  · cases h

theorem exists_fail {α : Type} {reply : Reply α} (h : ∀ v d, reply ≠ .ok v d) :
    ∃ e d, reply = .fail e d := by
  cases reply with
  | ok v d => exact absurd rfl (h v d)
  | fail e d => exact ⟨e, d, rfl⟩

theorem run_charLiteral_of_none {g : Grammar} {o : Nat} {r : List Char}
    (h : cutCharLiteral r = none) : ∃ e d, g.charLiteral.run (.place o r) = .fail e d := by
  refine exists_fail fun t d hok => ?_
  rw [charLiteral_eq] at hok
  unfold between at hok
  -- One case for each character at which the literal can break off.
  match r with
  | [] => simp [run_bind, run_char_nil] at hok
  | y :: r =>
    by_cases hy : y = '\''
    · subst hy
      match r with
      | [] =>
        obtain ⟨e, he⟩ := run_charBody_nil (o + '\''.utf8Size)
        simp [run_bind, run_char_cons, he] at hok
      | z :: r =>
        by_cases hz : z = '\\'
        · subst hz
          match r with
          | [] =>
            -- The backslash has been read when this is found out.
            simp [run_bind, run_char_cons, run_charBody_backslash] at hok
          | [w] => simp [run_bind, run_char_cons, run_charBody_escaped, run_char_nil] at hok
          | w :: v :: r =>
            have hv : v ≠ '\'' := by
              rintro rfl
              simp [cutCharLiteral] at h
            simp [run_bind, run_char_cons, run_charBody_escaped, hv] at hok
        · match r with
          | [] => simp [run_bind, run_char_cons, run_charBody_plain hz, run_char_nil] at hok
          | w :: r =>
            have hw : w ≠ '\'' := by
              rintro rfl
              simp [cutCharLiteral, hz] at h
            simp [run_bind, run_char_cons, run_charBody_plain hz, hw] at hok
    · simp [run_bind, run_char_cons, hy] at hok

theorem cuts_charLiteral (g : Grammar) :
    Cuts (·.text.toList) g.charLiteral fun r => Token.ofCut .literal (cutCharLiteral r) where
  accepts := by
    intro o r t rest hr
    obtain ⟨text, ht, rfl⟩ := Token.ofCut_eq_some.1 hr
    rw [Token.toList_ofChars]
    exact run_charLiteral_of_some ht
  refuses := fun hr => run_charLiteral_of_none (Token.ofCut_eq_none.1 hr)

/-! ## Numbers and names -/

theorem cuts_number (g : Grammar) : Cuts (·.text.toList) g.number g.cutNumber := by
  have digits := (satisfy_reads (.named "digit") Char.isDigit).cuts_many1
  simp only [takeUntil_headIs] at digits
  exact digits.map (Token.ofChars g.nameCategory) fun _ => Token.toList_ofChars _ _

theorem cuts_name (g : Grammar) : Cuts (·.text.toList) g.name g.cutName := by
  have chars := (satisfy_reads (.named "name character") g.isNameChar).cuts_many1
  simp only [takeUntil_headIs] at chars
  constructor
  · intro o r t rest hr
    unfold Grammar.cutName at hr
    split at hr
    · cases hr
    · rename_i refused
      obtain ⟨text, ht, rfl⟩ := Token.ofCut_eq_some.1 hr
      obtain ⟨rfl, rfl⟩ := Prod.mk.inj (nonempty_eq_some.1 ht).1
      simp [Grammar.name, run_bind, chars.accepts ht, Cursor.sees, refused]
  · intro o r hr
    refine exists_fail fun t d hok => ?_
    unfold Grammar.name at hok
    rw [run_bind] at hok
    cases hc : nonempty (r.takeWhile g.isNameChar, r.dropWhile g.isNameChar) with
    | none =>
      obtain ⟨e, d, he⟩ := chars.refuses (o := o) hc
      simp [he] at hok
    | some cut =>
      obtain ⟨text, rest⟩ := cut
      obtain ⟨rfl, rfl⟩ := Prod.mk.inj (nonempty_eq_some.1 hc).1
      simp only [Grammar.cutName, hc, Token.ofCut, Option.map_some, ite_eq_left_iff,
        reduceCtorEq, imp_false, Decidable.not_not] at hr
      simp [chars.accepts hc, Cursor.sees, hr] at hok

/-! ## Runs of symbols -/

theorem probes_symbolEnd (g : Grammar) : Probes g.symbolEnd g.endsSymbols := by
  have openers : List.Forall₂ Probes
      (g.symbolEnds.map fun opener => (fun _ => ()) <$> text opener)
      (g.symbolEnds.map fun opener => (opener.toList.isPrefixOf ·)) := by
    rw [List.forall₂_map_left_iff, List.forall₂_map_right_iff, List.forall₂_same]
    exact fun opener _ => (probes_text opener).map _
  have literal : Probes ((fun _ => ()) <$> attempt g.charLiteral)
      fun r => (cutCharLiteral r).isSome := by
    simpa [Token.ofCut] using (cuts_charLiteral g).probes_attempt.map fun _ => ()
  have blank : Probes ((fun _ => ()) <$> blank) (headIs isBlank) :=
    (satisfy_reads _ _).probes.map _
  have name : Probes
      ((fun _ => ()) <$> satisfy (.named "name character") g.isNameChar) (headIs g.isNameChar) :=
    (satisfy_reads _ _).probes.map _
  have tests : g.endsSymbols = fun r =>
      (g.symbolEnds.map (fun opener => (opener.toList.isPrefixOf ·)) ++
        [fun r => (cutCharLiteral r).isSome, headIs isBlank, headIs g.isNameChar]).any (· r) := by
    funext r
    simp [Grammar.endsSymbols, List.any_map, Function.comp_def, Bool.or_assoc]
  rw [tests]
  exact probes_choice (List.rel_append openers (.cons literal (.cons blank (.cons name .nil))))

theorem symbolChar_reads (g : Grammar) : ReadsUntil g.symbolChar g.endsSymbols where
  reads := by
    intro o x r hr
    obtain ⟨e, he⟩ := (probes_symbolEnd g).run_ahead_of_false (o := o) hr
    simp [Grammar.symbolChar, he, one]
  stops := by
    intro o x r hr
    obtain ⟨_, hv⟩ := (probes_symbolEnd g).run_ahead_of_true (o := o) hr
    exact ⟨⟨.symbolRunEnds, o⟩, by simp [Grammar.symbolChar, hv]⟩
  ends := by
    intro o
    cases hr : g.endsSymbols [] with
    | true =>
      obtain ⟨_, hv⟩ := (probes_symbolEnd g).run_ahead_of_true (o := o) hr
      exact ⟨⟨.symbolRunEnds, o⟩, by simp [Grammar.symbolChar, hv]⟩
    | false =>
      obtain ⟨e, he⟩ := (probes_symbolEnd g).run_ahead_of_false (o := o) hr
      exact ⟨⟨.endOfInput, o⟩, by simp [Grammar.symbolChar, he, one]⟩

theorem cuts_symbols (g : Grammar) : Cuts (·.text.toList) g.symbols g.cutSymbols :=
  (symbolChar_reads g).cuts_many1.map (Token.ofChars .symbol) fun _ => Token.toList_ofChars _ _

/-! ## String literals -/

theorem stringRestFrom_nil (delimiter : String) (opened : Nat) (c : Cursor) :
    stringRestFrom delimiter opened [] c =
      match (text delimiter).run c with
      | .ok closer d => .ok closer d
      | .fail _ _ =>
        match c.next? with
        | none => .fail ⟨.unterminatedString opened, c.offset⟩ c
        | some (x, d) =>
          if x = '\\' then
            match d.next? with
            | none => (stringRestFrom delimiter opened [] d).map (x :: ·)
            | some (y, f) => (stringRestFrom delimiter opened [] f).map (x :: y :: ·)
          else (stringRestFrom delimiter opened [] d).map (x :: ·) := by
  rw [stringRestFrom]
  cases (text delimiter).run c with
  | ok closer d => rfl
  | fail e f =>
    dsimp only
    split
    · rename_i hc
      rw [hc]
    · rename_i x d hc
      simp only [hc]
      split
      · split
        · rename_i hd
          simp only [hd]
          exact stringRestFrom_eq delimiter opened [x] d
        · rename_i y f hd
          simp only [hd]
          exact stringRestFrom_eq delimiter opened [y, x] f
      · exact stringRestFrom_eq delimiter opened [x] d

theorem run_stringRestFrom {delimiter : String} (hd : delimiter.toList ≠ []) (opened o : Nat)
    (r : List Char) :
    stringRestFrom delimiter opened [] (.place o r) =
      match cutBody delimiter.toList r with
      | some (body, rest) => .ok body (.place (o + byteCount body) rest)
      | none =>
        .fail ⟨.unterminatedString opened, o + byteCount r⟩ (.place (o + byteCount r) []) := by
  -- The end is met in two ways: at the start of a unit, or behind a backslash.
  have atEnd (o : Nat) : stringRestFrom delimiter opened [] (.place o []) =
      .fail ⟨.unterminatedString opened, o⟩ (.place o []) := by
    obtain ⟨e, he, -⟩ := run_text_of_not_ahead (o := o) (mt List.prefix_nil.1 hd)
    rw [stringRestFrom_nil, he]
    rfl
  fun_induction cutBody delimiter.toList r generalizing o with
  | case1 => exact atEnd o
  | case2 x r hp =>
    obtain ⟨s, hs⟩ := hp
    rw [stringRestFrom_nil, ← hs, run_text_append]
    simp
  | case3 hp =>
    obtain ⟨e, he, -⟩ := run_text_of_not_ahead (o := o) hp
    rw [stringRestFrom_nil, he]
    simp [atEnd]
  | case4 y s hp ih =>
    -- A unit of two characters. The delimiter is not looked for between them.
    obtain ⟨e, he, -⟩ := run_text_of_not_ahead (o := o) hp
    rw [stringRestFrom_nil, he]
    simp only [Cursor.next?_place_cons, if_true, ih]
    cases cutBody delimiter.toList s <;> simp [Nat.add_assoc]
  | case5 x r hp hx ih =>
    obtain ⟨e, he, -⟩ := run_text_of_not_ahead (o := o) hp
    rw [stringRestFrom_nil, he]
    simp only [Cursor.next?_place_cons, hx, if_false, ih]
    cases cutBody delimiter.toList r <;> simp [Nat.add_assoc]

/-- A reply, by what the text that was ahead begins with. -/
def Front.Answers (o : Nat) (r : List Char) (reply : Reply Token) : Front → Prop
  | .token t rest => reply = .ok t (.place (o + byteCount t.text.toList) rest)
  | .openString =>
    reply = .fail ⟨.unterminatedString o, o + byteCount r⟩ (.place (o + byteCount r) [])
  | .nothing => ∃ e, reply = .fail e (.place o r)

theorem run_marks (g : Grammar) (o : Nat) (r : List Char) :
    (many (charIn g.stringMarks)).run (.place o r) =
      .ok (r.takeWhile g.stringMarks.toList.contains)
        (.place (o + byteCount (r.takeWhile g.stringMarks.toList.contains))
          (r.dropWhile g.stringMarks.toList.contains)) := by
  have marks := (satisfy_reads (.oneOf g.stringMarks) g.stringMarks.toList.contains).run_many o r
  rwa [takeUntil_headIs] at marks

section

variable (g : Grammar) {delimiter : String} {o : Nat} {r : List Char}

theorem run_stringStart_of_ahead {body : List Char}
    (h : r.dropWhile g.stringMarks.toList.contains = delimiter.toList ++ body) :
    (g.stringStart delimiter).run (.place o r) =
      .ok (r.takeWhile g.stringMarks.toList.contains ++ delimiter.toList, delimiter)
        (.place (o + byteCount (r.takeWhile g.stringMarks.toList.contains ++ delimiter.toList))
          body) := by
  simp [Grammar.stringStart, attempt, run_bind, run_marks, h, run_text_append, Nat.add_assoc]

theorem run_stringStart_of_not_ahead
    (h : ¬ delimiter.toList <+: r.dropWhile g.stringMarks.toList.contains) :
    ∃ e, (g.stringStart delimiter).run (.place o r) = .fail e (.place o r) := by
  obtain ⟨e, he, -⟩ := run_text_of_not_ahead
    (o := o + byteCount (r.takeWhile g.stringMarks.toList.contains)) h
  exact ⟨e, by simp [Grammar.stringStart, attempt, run_bind, run_marks, he]⟩

theorem answers_of_opener (hd : delimiter.toList ≠ []) {opener body : List Char}
    (hr : opener ++ body = r)
    (h : (choice [g.stringStart tripleQuote, g.stringStart quote]).run (.place o r) =
      .ok (opener, delimiter) (.place (o + byteCount opener) body)) :
    (g.frontBody opener delimiter body).Answers o r (g.stringLiteral.run (.place o r)) := by
  have hopened : o + byteCount opener - byteCount opener = o := Nat.add_sub_cancel _ _
  have rest : (stringRest delimiter opener).run (.place (o + byteCount opener) body) =
      match cutBody delimiter.toList body with
      | some (text, rest) => .ok text (.place (o + byteCount opener + byteCount text) rest)
      | none => .fail ⟨.unterminatedString o, o + byteCount r⟩ (.place (o + byteCount r) []) := by
    simp only [stringRest, Cursor.offset_place, hopened, run_stringRestFrom hd, ← hr,
      byteCount_append, Nat.add_assoc]
  unfold Grammar.frontBody
  simp only [Grammar.stringLiteral, run_bind, h, rest]
  cases cutBody delimiter.toList body with
  | none => rfl
  | some cut => simp [Front.Answers, Nat.add_assoc]

theorem answers_stringLiteral (o : Nat) (r : List Char) :
    (g.frontString r).Answers o r (g.stringLiteral.run (.place o r)) := by
  have hr : r.takeWhile g.stringMarks.toList.contains ++ r.dropWhile g.stringMarks.toList.contains
      = r := List.takeWhile_append_dropWhile
  unfold Grammar.frontString Grammar.frontMarked
  split
  · rename_i _ body hc
    obtain ⟨rfl, hb⟩ := cutText_eq_some.1 hc
    refine answers_of_opener g (by decide) (by rw [List.append_assoc, ← hb, hr]) ?_
    rw [run_choice, choiceOr_cons_of_ok (run_stringStart_of_ahead g hb)]
  · rename_i triple
    obtain ⟨e, he⟩ := run_stringStart_of_not_ahead g (o := o) (cutText_eq_none.1 triple)
    split
    · rename_i _ body hc
      obtain ⟨rfl, hb⟩ := cutText_eq_some.1 hc
      refine answers_of_opener g (by decide) (by rw [List.append_assoc, ← hb, hr]) ?_
      rw [run_choice, choiceOr_cons_of_fail he,
        choiceOr_cons_of_ok (run_stringStart_of_ahead g hb)]
    · rename_i single
      obtain ⟨e', he'⟩ := run_stringStart_of_not_ahead g (o := o) (cutText_eq_none.1 single)
      have refused : (choice [g.stringStart tripleQuote, g.stringStart quote]).run (.place o r) =
          .fail e' (.place o r) := by
        rw [run_choice, choiceOr_cons_of_fail he, choiceOr_cons_of_fail he']
        rfl
      exact ⟨e', by simp [Grammar.stringLiteral, run_bind, refused]⟩

end

/-! ## The choice among productions -/

theorem cuts_lineComment (g : Grammar) :
    Cuts (·.text.toList) (comment g.lineComment newline) g.cutLineComment :=
  cuts_comment _ _ _ run_through_newline

/-- One alternative of the choice: its cut decides, or the choice goes on. -/
theorem Front.answers_attempt {p : Parser Token} {cut : List Char → Option (Token × List Char)}
    (h : Cuts (·.text.toList) p cut) {ps : List (Parser Token)} {otherwise : Front} {o : Nat}
    {r : List Char} {e : Failure}
    (next : ∀ e, otherwise.Answers o r (choiceOr e ps (.place o r))) :
    (Front.ofCut (cut r) otherwise).Answers o r (choiceOr e (attempt p :: ps) (.place o r)) := by
  cases hc : cut r with
  | some found => exact choiceOr_cons_of_ok (h.run_attempt_of_some hc)
  | none =>
    obtain ⟨e', he⟩ := h.run_attempt_of_none (o := o) hc
    rw [choiceOr_cons_of_fail he]
    exact next e'

theorem Front.answers_blockComments (g : Grammar) {ps : List (Parser Token)} {otherwise : Front}
    {o : Nat} {r : List Char} {e : Failure}
    (next : ∀ e, otherwise.Answers o r (choiceOr e ps (.place o r))) :
    (Front.ofCut (g.cutBlockComment r) otherwise).Answers o r
      (choiceOr e (g.blockComments ++ ps) (.place o r)) := by
  unfold Grammar.cutBlockComment Grammar.blockComments
  cases g.blockComment? with
  | none => exact next e
  | some delimiters =>
    obtain ⟨opener, closer⟩ := delimiters
    exact answers_attempt
      (cuts_comment opener (text closer) closer.toList fun o => run_through_text o closer) next

/-- The last alternative speaks for the choice. -/
theorem Front.answers_last {p : Parser Token} {last : Front} {o : Nat} {r : List Char}
    (h : last.Answers o r (p.run (.place o r))) (e : Failure) :
    last.Answers o r (choiceOr e [p] (.place o r)) := by
  cases last with
  | token t rest => exact choiceOr_cons_of_ok h
  | nothing =>
    obtain ⟨e', he⟩ := h
    exact ⟨e', choiceOr_cons_of_fail he⟩
  | openString =>
    have he : p.run (.place o r) =
        .fail ⟨.unterminatedString o, o + byteCount r⟩ (.place (o + byteCount r) []) := h
    cases r with
    | nil => exact choiceOr_cons_of_fail he
    | cons x r =>
      have moved : (Cursor.place (o + byteCount (x :: r)) []).isPast (.place o (x :: r)) = true :=
        decide_eq_true (byteCount_pos (List.cons_ne_nil x r))
      simp only [Front.Answers, choiceOr, he, moved, if_true]

/-- A token is read as `Grammar.front` says. -/
theorem answers_token (g : Grammar) (o : Nat) (r : List Char) :
    (g.front r).Answers o r (g.token.run (.place o r)) := by
  rw [Grammar.token, run_choice]
  refine Front.answers_attempt (cuts_number g) fun _ => ?_
  refine Front.answers_attempt (cuts_name g) fun _ => ?_
  refine Front.answers_attempt (cuts_symbols g) fun _ => ?_
  refine Front.answers_attempt (cuts_lineComment g) fun _ => ?_
  refine Front.answers_blockComments g fun _ => ?_
  refine Front.answers_attempt (cuts_charLiteral g) fun _ => ?_
  exact Front.answers_last (answers_stringLiteral g o r) _

end Corpus
