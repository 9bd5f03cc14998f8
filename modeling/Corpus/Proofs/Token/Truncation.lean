import Corpus.Proofs.Token.SinglePass

/-!
# Tokens of a text that is cut short

Many productions look beyond the token that they take: at what opens a comment, at the marks of a
character literal, at the quotation mark behind a name. If a text is cut short somewhere behind a
token, these see less than before. **The token stays the same** (`front_truncate`), as long as what
ended a run of symbols still ends it; and it does if it is what the next token begins with, and that
token was kept (`stops_truncate`).

Throughout, `s` is what is taken, `v` is what is kept behind it, and `w` is cut off.
-/

set_option autoImplicit false

namespace Corpus

open Corpus.Parse Corpus.Parse.Parser Corpus.Text

variable {s v w : List Char}

/-! ## Cuts -/

/-- What does not come next still does not if less is there. -/
theorem not_prefix_truncate {d : List Char} (h : ¬ d <+: s ++ (v ++ w)) : ¬ d <+: s ++ v := by
  rw [← List.append_assoc] at h
  exact fun hp => h (hp.trans (List.prefix_append (s ++ v) w))

theorem headIs_append {accepts : Char → Bool} (h : headIs accepts v = true) (w : List Char) :
    headIs accepts (v ++ w) = true := by
  cases v with
  | nil => cases h
  | cons x v => exact h

theorem takeWhile_truncate {accepts : Char → Bool} (h : (s ++ (v ++ w)).takeWhile accepts = s) :
    (s ++ v).takeWhile accepts = s ∧ (s ++ v).dropWhile accepts = v := by
  have all : ∀ x ∈ s, accepts x = true := by
    intro x hx
    rw [← h] at hx
    exact List.mem_takeWhile_imp hx
  have behind : (s ++ (v ++ w)).dropWhile accepts = v ++ w := by
    have whole := (s ++ (v ++ w)).takeWhile_append_dropWhile (p := accepts)
    rw [h] at whole
    exact List.append_cancel_left whole
  have stop : headIs accepts v = false := by
    have more := headIs_dropWhile accepts (s ++ (v ++ w))
    rw [behind] at more
    rw [← Bool.not_eq_true] at more ⊢
    exact fun hv => more (headIs_append hv w)
  rw [List.takeWhile_append_of_pos all, List.dropWhile_append_of_pos all, takeWhile_of_headIs stop,
    dropWhile_of_headIs stop, List.append_nil]
  exact ⟨rfl, rfl⟩

theorem takeUntil_truncate {stop : List Char → Bool}
    (mono : ∀ r w, stop r = true → stop (r ++ w) = true)
    (h : takeUntil stop (s ++ (v ++ w)) = (s, v ++ w)) (hv : v = [] ∨ stop v = true) :
    takeUntil stop (s ++ v) = (s, v) := by
  induction s with
  | nil =>
    cases v with
    | nil => rfl
    | cons x v =>
      have ends : stop (x :: v) = true := hv.resolve_left (List.cons_ne_nil x v)
      rw [List.nil_append, takeUntil, if_pos ends]
  | cons x s ih =>
    rw [List.cons_append, takeUntil] at h
    split at h
    · cases h
    · rename_i goesOn
      obtain ⟨hs, hrest⟩ := Prod.mk.inj h
      have same := ih (Prod.ext (List.cons.inj hs).2 hrest)
      have goesOn' : ¬ stop (x :: (s ++ v)) = true := by
        intro ends
        have ends' := mono _ w ends
        rw [List.cons_append, List.append_assoc] at ends'
        exact goesOn ends'
      rw [List.cons_append, takeUntil, if_neg goesOn', same]

/-- A run goes on to the end or to a place where it stops. -/
theorem stop_of_takeUntil {stop : List Char → Bool} {r rest : List Char}
    (h : takeUntil stop r = (s, rest)) : rest = [] ∨ stop rest = true := by
  induction r generalizing s with
  | nil =>
    cases h
    exact .inl rfl
  | cons x r ih =>
    rw [takeUntil] at h
    split at h
    · rename_i ends
      cases h
      exact .inr ends
    · obtain ⟨-, hrest⟩ := Prod.mk.inj h
      exact ih (Prod.ext rfl hrest)

theorem cutThrough_truncate {closer : List Char}
    (h : cutThrough closer (s ++ (v ++ w)) = (s, v ++ w)) : cutThrough closer (s ++ v) = (s, v) := by
  induction s with
  | nil =>
    cases v with
    | nil => rfl
    | cons x v =>
      rw [List.nil_append, List.cons_append, cutThrough] at h
      split at h
      · obtain rfl : closer = [] := (Prod.mk.inj h).1
        rfl
      · cases (Prod.mk.inj h).1
  | cons x s ih =>
    rw [List.cons_append, cutThrough] at h
    split at h
    · obtain rfl : closer = x :: s := (Prod.mk.inj h).1
      have closes : x :: s <+: x :: (s ++ v) := List.prefix_append (x :: s) v
      rw [List.cons_append, cutThrough, if_pos closes, ← List.cons_append, List.drop_left]
    · rename_i goesOn
      obtain ⟨hs, hrest⟩ := Prod.mk.inj h
      have same := ih (Prod.ext (List.cons.inj hs).2 hrest)
      have goesOn' : ¬ closer <+: x :: (s ++ v) := not_prefix_truncate (s := x :: s) goesOn
      rw [List.cons_append, cutThrough, if_neg goesOn', same]

theorem cutComment_truncate {opener closer : List Char}
    (h : cutComment opener closer (s ++ (v ++ w)) = some (s, v ++ w)) :
    cutComment opener closer (s ++ v) = some (s, v) := by
  obtain ⟨⟨_, body⟩, hbody, hcut⟩ := Option.map_eq_some_iff.1 h
  obtain ⟨rfl, hr⟩ := cutText_eq_some.1 hbody
  obtain ⟨hs, hrest⟩ := Prod.mk.inj hcut
  have through := cutThrough_append closer body
  generalize hread : (cutThrough closer body).1 = read at hs through
  subst hs
  rw [hrest] at through
  have cut : cutThrough closer (read ++ (v ++ w)) = (read, v ++ w) := by
    rw [through]
    exact Prod.ext hread hrest
  rw [cutComment, List.append_assoc, cutText_append, Option.map_some]
  dsimp only
  rw [cutThrough_truncate cut]

/-- A character literal is one whatever is behind it. -/
theorem cutCharLiteral_text {r rest : List Char} (h : cutCharLiteral r = some (s, rest))
    (other : List Char) : cutCharLiteral (s ++ other) = some (s, other) := by
  unfold cutCharLiteral at h
  split at h
  · cases h
    rfl
  · split at h
    · cases h
    · rename_i plain
      cases h
      simp [cutCharLiteral, plain]
  · cases h

theorem cutCharLiteral_append {r rest : List Char} (h : cutCharLiteral r = some (s, rest))
    (w : List Char) : cutCharLiteral (r ++ w) = some (s, rest ++ w) := by
  rw [← cutCharLiteral_eq_some h, List.append_assoc]
  exact cutCharLiteral_text h _

section

variable {delimiter : List Char}

theorem cutBody_truncate (hd : delimiter ≠ [])
    (h : cutBody delimiter (s ++ (v ++ w)) = some (s, v ++ w)) :
    cutBody delimiter (s ++ v) = some (s, v) := by
  generalize hr : s ++ (v ++ w) = r at h
  fun_induction cutBody delimiter r generalizing s with
  | case1 => cases h
  | case2 x r hp =>
    obtain rfl : delimiter = s := (Prod.mk.inj (Option.some.inj h)).1
    exact cutBody_delimiter hd v
  | case3 => cases h
  | case4 y r goesOn ih =>
    obtain ⟨⟨body, _⟩, hbody, he⟩ := Option.map_eq_some_iff.1 h
    obtain ⟨rfl, rfl⟩ := Prod.mk.inj he
    obtain rfl : body ++ (v ++ w) = r := cutBody_eq_some hbody
    have goesOn' : ¬ delimiter <+: '\\' :: y :: (body ++ v) :=
      not_prefix_truncate (s := '\\' :: y :: body) goesOn
    rw [List.cons_append, List.cons_append, cutBody_escape goesOn', ih rfl hbody]
    rfl
  | case5 x r goesOn hx ih =>
    obtain ⟨⟨body, _⟩, hbody, he⟩ := Option.map_eq_some_iff.1 h
    obtain ⟨rfl, rfl⟩ := Prod.mk.inj he
    obtain rfl : body ++ (v ++ w) = r := cutBody_eq_some hbody
    have goesOn' : ¬ delimiter <+: x :: (body ++ v) :=
      not_prefix_truncate (s := x :: body) goesOn
    rw [List.cons_append, cutBody_plain goesOn' hx, ih rfl hbody]
    rfl

end

/-! ## Lookahead -/

variable {g : Grammar} {x : Char} {t : Token}

theorem commentAhead_eq_some {r rest : List Char} (h : g.commentAhead r = some (s, rest)) :
    s ++ rest = r := by
  unfold Grammar.commentAhead at h
  split at h
  · exact cutComment_eq_some h
  · split at h
    · exact cutComment_eq_some h
    · cases h

theorem commentAhead_truncate (h : g.commentAhead (s ++ (v ++ w)) = some (s, v ++ w)) :
    g.commentAhead (s ++ v) = some (s, v) := by
  unfold Grammar.commentAhead at h ⊢
  split at h
  · -- The opener is part of what was taken.
    have line := cutComment_truncate h
    have ahead : g.lineComment.toList <+: s ++ v := by
      rw [← List.isPrefixOf_iff_prefix, ← isSome_cutComment, line]
      rfl
    rw [if_pos ahead, line]
  · rename_i other
    rw [if_neg (not_prefix_truncate other)]
    cases hblock : g.blockComment? with
    | none =>
      rw [hblock] at h
      cases h
    | some comment =>
      rw [hblock] at h
      exact cutComment_truncate h

theorem any_openers_append {r : List Char} (h : g.openers.any (·.toList.isPrefixOf r) = true)
    (w : List Char) : g.openers.any (·.toList.isPrefixOf (r ++ w)) = true := by
  rw [List.any_eq_true] at h ⊢
  obtain ⟨d, hd, hp⟩ := h
  rw [List.isPrefixOf_iff_prefix] at hp
  exact ⟨d, hd, List.isPrefixOf_iff_prefix.2 (hp.trans (List.prefix_append r w))⟩

theorem commentAhead_eq_none_truncate (h : g.commentAhead (s ++ (v ++ w)) = none) :
    g.commentAhead (s ++ v) = none := by
  rw [← List.append_assoc] at h
  rw [← Option.not_isSome_iff_eq_none, ← any_openers] at h ⊢
  exact fun hr => h (any_openers_append hr w)

theorem cutCharLiteral_eq_none_truncate (h : cutCharLiteral (s ++ (v ++ w)) = none) :
    cutCharLiteral (s ++ v) = none := by
  cases hr : cutCharLiteral (s ++ v) with
  | none => rfl
  | some cut =>
    rw [← List.append_assoc, cutCharLiteral_append hr w] at h
    cases h

/-- What stops a run of symbols stops it as well if more follows. -/
theorem stops_append (r w : List Char) (h : g.stops r = true) : g.stops (r ++ w) = true := by
  unfold Grammar.stops at h ⊢
  simp only [Bool.or_eq_true] at h ⊢
  rcases h with (((blank | name) | quoted) | comment) | char
  · exact .inl (.inl (.inl (.inl (headIs_append blank w))))
  · exact .inl (.inl (.inl (.inr (headIs_append name w))))
  · exact .inl (.inl (.inr (headIs_append quoted w)))
  · exact .inl (.inr (any_openers_append comment w))
  · obtain ⟨⟨text, rest⟩, hcut⟩ := Option.isSome_iff_exists.1 char
    rw [cutCharLiteral_append hcut]
    exact .inr rfl

/-- A run of symbols stays the same, if what stops it still does. -/
theorem takeUntil_stops_truncate (h : (takeUntil g.stops (s ++ (v ++ w))).1 = s)
    (hv : v = [] ∨ (g.stops (v ++ w) = true → g.stops v = true)) :
    (takeUntil g.stops (s ++ v)).1 = s := by
  have run := takeUntil_append g.stops (s ++ (v ++ w))
  rw [h, List.append_cancel_left_eq] at run
  have cut : takeUntil g.stops (s ++ (v ++ w)) = (s, v ++ w) := Prod.ext h run
  have ends : v = [] ∨ g.stops v = true := by
    rcases hv with none_left | stops
    · exact .inl none_left
    · rcases stop_of_takeUntil cut with none_left | ends
      · exact .inl (List.append_eq_nil_iff.1 none_left).1
      · exact .inr (stops ends)
  rw [takeUntil_truncate stops_append cut ends]

/-! ## Lexemes -/

/-- A string literal is its marks, a quotation mark and more. -/
theorem text_of_stringAhead {marks r : List Char} (h : g.stringAhead marks r = some t) :
    ∃ body, t.text.toList = marks ++ '"' :: body := by
  unfold Grammar.stringAhead at h
  split at h
  · obtain ⟨⟨body, rest⟩, -, rfl⟩ := Option.map_eq_some_iff.1 h
    exact ⟨_, Token.toList_ofChars _ _⟩
  · obtain ⟨⟨body, rest⟩, -, rfl⟩ := Option.map_eq_some_iff.1 h
    exact ⟨_, Token.toList_ofChars _ _⟩

theorem stringAhead_truncate {marks : List Char}
    (h : g.stringAhead marks (s ++ (v ++ w)) = some t) (ht : t.text.toList = marks ++ s) :
    g.stringAhead marks (s ++ v) = some t := by
  generalize hr : s ++ (v ++ w) = r at h
  unfold Grammar.stringAhead at h
  split at h
  · rename_i r
    obtain ⟨⟨body, rest⟩, hbody, rfl⟩ := Option.map_eq_some_iff.1 h
    rw [Token.toList_ofChars, List.append_cancel_left_eq] at ht
    subst ht
    obtain rfl : body ++ (v ++ w) = r := by simpa using hr
    have hrest : rest = v ++ w := List.append_cancel_left (cutBody_eq_some hbody)
    have same := cutBody_truncate (List.cons_ne_nil _ _) (hrest ▸ hbody)
    show (cutBody ['"', '"', '"'] (body ++ v)).map _ = _
    rw [same]
    rfl
  · rename_i single
    obtain ⟨⟨body, rest⟩, hbody, rfl⟩ := Option.map_eq_some_iff.1 h
    rw [Token.toList_ofChars, List.append_cancel_left_eq] at ht
    subst ht
    subst hr
    have hrest : rest = v ++ w := List.append_cancel_left (cutBody_eq_some hbody)
    have same := cutBody_truncate (List.cons_ne_nil _ _) (hrest ▸ hbody)
    unfold Grammar.stringAhead
    split
    · rename_i r triple
      refine absurd ?_ (single (r ++ w))
      rw [← List.append_assoc, triple]
      rfl
    · rw [List.cons_append, List.tail_cons, same]
      rfl

theorem lexeme_number (hd : x.isDigit = true) (r : List Char) :
    g.lexeme x r = some (.ofChars g.nameCategory (x :: r.takeWhile Char.isDigit)) := by
  unfold Grammar.lexeme
  rw [if_pos hd]

theorem lexeme_name (hd : x.isDigit = false) (hx : g.isNameChar x = true) (r : List Char) :
    g.lexeme x r =
      if g.marksString (x :: r.takeWhile g.isNameChar) &&
          headIs (· == '"') (r.dropWhile g.isNameChar) then
        g.stringAhead (x :: r.takeWhile g.isNameChar) (r.dropWhile g.isNameChar)
      else some (.ofChars g.nameCategory (x :: r.takeWhile g.isNameChar)) := by
  unfold Grammar.lexeme
  rw [if_neg (ne_true_of_eq_false hd), if_pos hx]

theorem lexeme_other (hd : x.isDigit = false) (hx : g.isNameChar x = false) (r : List Char) :
    g.lexeme x r =
      match g.commentAhead (x :: r), cutCharLiteral (x :: r) with
      | some (text, _), _ => some (.ofChars .text text)
      | none, some (text, _) => some (.ofChars .literal text)
      | none, none =>
        if x = '"' then g.stringAhead [] (x :: r)
        else some (.ofChars .symbol (x :: (takeUntil g.stops r).1)) := by
  unfold Grammar.lexeme
  exact (if_neg (ne_true_of_eq_false hd)).trans (if_neg (ne_true_of_eq_false hx))

/-- Where a comment comes next, it is the token. -/
theorem commentAhead_of_lexeme (hd : x.isDigit = false) (hx : g.isNameChar x = false)
    {r : List Char} (h : g.lexeme x (s ++ r) = some t) (ht : t.text.toList = x :: s)
    {cut : List Char × List Char} (hc : g.commentAhead (x :: s ++ r) = some cut) :
    t.category = .text ∧ g.commentAhead (x :: s ++ r) = some (x :: s, r) := by
  obtain ⟨text, rest⟩ := cut
  rw [lexeme_other hd hx, ← List.cons_append, hc] at h
  cases h
  rw [Token.toList_ofChars] at ht
  subst ht
  rw [List.append_cancel_left (commentAhead_eq_some hc)] at hc
  exact ⟨rfl, hc⟩

/-- Where a character literal comes next and no comment, it is the token. -/
theorem cutCharLiteral_of_lexeme (hd : x.isDigit = false) (hx : g.isNameChar x = false)
    {r : List Char} (h : g.lexeme x (s ++ r) = some t) (ht : t.text.toList = x :: s)
    (hn : g.commentAhead (x :: s ++ r) = none) {cut : List Char × List Char}
    (hc : cutCharLiteral (x :: s ++ r) = some cut) :
    t.category = .literal ∧ cutCharLiteral (x :: s ++ r) = some (x :: s, r) := by
  obtain ⟨text, rest⟩ := cut
  rw [lexeme_other hd hx, ← List.cons_append, hn, hc] at h
  cases h
  rw [Token.toList_ofChars] at ht
  subst ht
  rw [List.append_cancel_left (cutCharLiteral_eq_some hc)] at hc
  exact ⟨rfl, hc⟩

theorem lexeme_number_truncate (hd : x.isDigit = true)
    (h : g.lexeme x (s ++ (v ++ w)) = some t) (ht : t.text.toList = x :: s) :
    g.lexeme x (s ++ v) = some t := by
  rw [lexeme_number hd] at h ⊢
  cases h
  rw [Token.toList_ofChars] at ht
  obtain ⟨run, -⟩ := takeWhile_truncate (List.cons.inj ht).2
  rw [(List.cons.inj ht).2, run]

theorem lexeme_name_truncate (hd : x.isDigit = false) (hx : g.isNameChar x = true)
    (h : g.lexeme x (s ++ (v ++ w)) = some t) (ht : t.text.toList = x :: s) :
    g.lexeme x (s ++ v) = some t := by
  rw [lexeme_name hd hx] at h ⊢
  have whole := (s ++ (v ++ w)).takeWhile_append_dropWhile (p := g.isNameChar)
  generalize hrun : (s ++ (v ++ w)).takeWhile g.isNameChar = run at h whole
  generalize (s ++ (v ++ w)).dropWhile g.isNameChar = rest at h whole
  split at h
  · -- The marks of a string literal, from its quotation mark on.
    rename_i marked
    obtain ⟨body, hbody⟩ := text_of_stringAhead h
    rw [ht, List.cons_append, List.cons_inj_right] at hbody
    subst hbody
    rw [List.append_assoc, List.append_cancel_left_eq] at whole
    subst whole
    rw [List.append_assoc, ← List.append_assoc _ v w] at hrun
    obtain ⟨hrun', hrest'⟩ := takeWhile_truncate hrun
    rw [List.append_assoc, hrun', hrest']
    have marks := (Bool.and_eq_true_iff.1 marked).1
    have quoted : headIs (· == '"') ('"' :: body ++ v) = true := rfl
    rw [if_pos (Bool.and_eq_true_iff.2 ⟨marks, quoted⟩)]
    exact stringAhead_truncate h ht
  · rename_i plain
    cases h
    rw [Token.toList_ofChars, List.cons_inj_right] at ht
    subst ht
    rw [List.append_cancel_left_eq] at whole
    subst whole
    obtain ⟨hrun', hrest'⟩ := takeWhile_truncate hrun
    have plain' : ¬ (g.marksString (x :: run) && headIs (· == '"') v) = true := by
      intro marked
      obtain ⟨marks, quoted⟩ := Bool.and_eq_true_iff.1 marked
      exact plain (Bool.and_eq_true_iff.2 ⟨marks, headIs_append quoted w⟩)
    rw [hrun', hrest', if_neg plain']

theorem lexeme_other_truncate (hd : x.isDigit = false) (hx : g.isNameChar x = false)
    (h : g.lexeme x (s ++ (v ++ w)) = some t) (ht : t.text.toList = x :: s)
    (hv : v = [] ∨ (g.stops (v ++ w) = true → g.stops v = true)) :
    g.lexeme x (s ++ v) = some t := by
  have named : t = .ofChars t.category (x :: s) := by
    rw [← ht]
    exact (congrArg (Token.mk t.category) (String.ofList_toList)).symm
  rw [lexeme_other hd hx, ← List.cons_append]
  cases hcomment : g.commentAhead (x :: s ++ (v ++ w)) with
  | some cut =>
    obtain ⟨category, whole⟩ := commentAhead_of_lexeme hd hx h ht hcomment
    rw [commentAhead_truncate whole, named, category]
  | none =>
    rw [commentAhead_eq_none_truncate hcomment]
    cases hchar : cutCharLiteral (x :: s ++ (v ++ w)) with
    | some cut =>
      obtain ⟨category, whole⟩ := cutCharLiteral_of_lexeme hd hx h ht hcomment hchar
      rw [cutCharLiteral_text whole, named, category]
    | none =>
      rw [lexeme_other hd hx, ← List.cons_append, hcomment, hchar] at h
      rw [cutCharLiteral_eq_none_truncate hchar]
      dsimp only at h ⊢
      split at h
      · rename_i quoted
        rw [if_pos quoted]
        exact stringAhead_truncate h ht
      · rename_i other
        rw [if_neg other]
        cases h
        rw [Token.toList_ofChars, List.cons_inj_right] at ht
        rw [takeUntil_stops_truncate ht hv, ht]

/-! ## Tokens -/

theorem lexeme_of_front (hg : g.Plain) (hb : isBlank x = false) (ht : t.text.toList = x :: s)
    {r rest : List Char} (h : g.front (t.text.toList ++ r) = .token t rest) :
    g.lexeme x (s ++ r) = some t := by
  rw [← taken_front hg hb, ← List.cons_append, ← ht, h]
  rfl

/-- The token that was taken leaves what is behind it. -/
theorem front_of_taken {r : List Char} (h : (g.front (t.text.toList ++ r)).taken = some t) :
    g.front (t.text.toList ++ r) = .token t r := by
  cases hf : g.front (t.text.toList ++ r) with
  | token t' rest =>
    rw [hf] at h
    cases h
    rw [List.append_cancel_left (Grammar.front_eq_token hf)]
  | openString =>
    rw [hf] at h
    cases h
  | nothing =>
    rw [hf] at h
    cases h

/-- The token stays the same, if what stops a run of symbols behind it still does. -/
theorem front_truncate (hg : g.Plain)
    (h : g.front (t.text.toList ++ (v ++ w)) = .token t (v ++ w))
    (hb : headIs isBlank t.text.toList = false)
    (hv : v = [] ∨ (g.stops (v ++ w) = true → g.stops v = true)) :
    g.front (t.text.toList ++ v) = .token t v := by
  obtain ⟨x, s, ht⟩ := List.exists_cons_of_ne_nil (front_ne_nil hg.guarded h)
  rw [ht] at hb
  have hlexeme := lexeme_of_front hg hb ht h
  have same : g.lexeme x (s ++ v) = some t := by
    by_cases hd : x.isDigit = true
    · exact lexeme_number_truncate hd hlexeme ht
    · rw [Bool.not_eq_true] at hd
      by_cases hx : g.isNameChar x = true
      · exact lexeme_name_truncate hd hx hlexeme ht
      · rw [Bool.not_eq_true] at hx
        exact lexeme_other_truncate hd hx hlexeme ht hv
  refine front_of_taken ?_
  rw [ht, List.cons_append, taken_front hg hb, same]

/-! ## What stops a run of symbols -/

theorem isNameChar_of_isDigit (g : Grammar) (hd : x.isDigit = true) : g.isNameChar x = true := by
  have ascii : x.toNat < 0x80 := by
    have bounds : 48 ≤ x.toNat ∧ x.toNat ≤ 57 := by
      simpa [Char.isDigit, UInt32.le_iff_toNat_le] using hd
    omega
  simp [Grammar.isNameChar, isAlphanumeric, isNumeric, ascii, hd]

/-- What stops a run of symbols because a token begins with it still does where that token is
kept. -/
theorem stops_truncate (hg : g.Plain)
    (h : g.front (t.text.toList ++ (v ++ w)) = .token t (v ++ w))
    (hs : g.stops (t.text.toList ++ (v ++ w)) = true) : g.stops (t.text.toList ++ v) = true := by
  obtain ⟨x, s, ht⟩ := List.exists_cons_of_ne_nil (front_ne_nil hg.guarded h)
  by_cases hfirst : (isBlank x || g.isNameChar x || x == '"') = true
  · rw [ht]
    unfold Grammar.stops
    rw [List.cons_append, headIs_cons, headIs_cons, headIs_cons, hfirst]
    rfl
  · simp only [Bool.or_eq_true, not_or, Bool.not_eq_true] at hfirst
    obtain ⟨⟨hb, hx⟩, hq⟩ := hfirst
    have hd : x.isDigit = false := by
      rw [← Bool.not_eq_true] at hx ⊢
      exact fun digit => hx (isNameChar_of_isDigit g digit)
    have hlexeme := lexeme_of_front hg hb ht h
    rw [ht]
    rw [ht] at hs
    unfold Grammar.stops at hs ⊢
    rw [any_openers] at hs ⊢
    cases hcomment : g.commentAhead (x :: s ++ (v ++ w)) with
    | some cut =>
      obtain ⟨-, whole⟩ := commentAhead_of_lexeme hd hx hlexeme ht hcomment
      rw [commentAhead_truncate whole, Option.isSome_some, Bool.or_true, Bool.true_or]
    | none =>
      cases hchar : cutCharLiteral (x :: s ++ (v ++ w)) with
      | some cut =>
        obtain ⟨-, whole⟩ := cutCharLiteral_of_lexeme hd hx hlexeme ht hcomment hchar
        rw [cutCharLiteral_text whole, Option.isSome_some, Bool.or_true]
      | none =>
        rw [hcomment, hchar, List.cons_append, headIs_cons, headIs_cons, headIs_cons, hb, hx,
          hq] at hs
        cases hs

end Corpus
