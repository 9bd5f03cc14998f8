import Corpus.Proofs.Parse.Cut

/-!
# What a parser makes of a text

`p.Yields text v rest` says that `p`, before `text`, reads `v` and leaves `rest`. The offsets are
left out: where only the value counts, a statement about a parser is one about texts, and a sequence
of parsers is a chain of texts, each what the parser before it has left (`Yields.bind`).

**A loop goes on as long as less is left.** Its rules (`Yields.many_cons`, `Yields.sepBy_cons`) ask
that of each round, and its end asks that the next round be refused in place (`Parser.Refuses`).
-/

set_option autoImplicit false

namespace Corpus.Parse.Parser

variable {α β : Type}

/-- The parser reads the value from the beginning of the text, and leaves the rest of it. -/
def Yields (p : Parser α) (text : List Char) (v : α) (rest : List Char) : Prop :=
  ∀ o, ∃ o', p.run (.place o text) = .ok v (.place o' rest)

/-- The parser refuses the text without reading any of it. -/
def Refuses (p : Parser α) (text : List Char) : Prop :=
  ∀ o, ∃ e, p.run (.place o text) = .fail e (.place o text)

theorem isPast_place_of_lt {o o' : Nat} {text rest : List Char}
    (h : byteCount rest < byteCount text) :
    (Cursor.place o' rest).isPast (Cursor.place o text) = true :=
  decide_eq_true h

variable {p : Parser α} {text rest : List Char} {v : α}

/-! ## Sequences -/

theorem Yields.pure (v : α) (text : List Char) : (pure v : Parser α).Yields text v text :=
  fun o => ⟨o, rfl⟩

theorem Yields.bind {next : α → Parser β} {w : β} {between : List Char}
    (h : p.Yields text v between) (h' : (next v).Yields between w rest) :
    (p >>= next).Yields text w rest := by
  intro o
  obtain ⟨o₁, h₁⟩ := h o
  obtain ⟨o₂, h₂⟩ := h' o₁
  exact ⟨o₂, by simp only [run_bind, h₁, h₂]⟩

theorem Refuses.bind (h : p.Refuses text) (next : α → Parser β) : (p >>= next).Refuses text := by
  intro o
  obtain ⟨e, he⟩ := h o
  exact ⟨e, by simp only [run_bind, he]⟩

theorem Yields.map (f : α → β) (h : p.Yields text v rest) : (f <$> p).Yields text (f v) rest := by
  intro o
  obtain ⟨o', ho'⟩ := h o
  exact ⟨o', by simp only [run_map, ho', Reply.map_ok]⟩

/-! ## Characters -/

theorem yields_one (x : Char) (rest : List Char) : one.Yields (x :: rest) x rest := by
  intro o
  refine ⟨o + x.utf8Size, ?_⟩
  simp only [one, Cursor.next?_place_cons]

theorem yields_satisfy (wanted : Wanted) {accepts : Char → Bool} {x : Char} (h : accepts x = true)
    (rest : List Char) : (satisfy wanted accepts).Yields (x :: rest) x rest := by
  have unstopped : headIs (!accepts ·) (x :: rest) = false := by rw [headIs_cons, h]; rfl
  exact fun _ => ⟨_, (satisfy_reads wanted accepts).reads unstopped⟩

theorem refuses_satisfy (wanted : Wanted) {accepts : Char → Bool}
    (h : headIs accepts text = false) : (satisfy wanted accepts).Refuses text :=
  fun _ => (satisfy_reads wanted accepts).probes.refuses h

theorem yields_char (x : Char) (rest : List Char) : (char x).Yields (x :: rest) x rest :=
  yields_satisfy _ (beq_self_eq_true x) rest

theorem refuses_char {x : Char} (h : headIs (· == x) text = false) : (char x).Refuses text :=
  refuses_satisfy _ h

theorem yields_endOfInput : endOfInput.Yields [] () [] :=
  fun o => ⟨o, rfl⟩

/-! ## Choice -/

theorem Yields.choice_head (h : p.Yields text v rest) (ps : List (Parser α)) :
    (choice (p :: ps)).Yields text v rest := by
  intro o
  obtain ⟨o', ho'⟩ := h o
  refine ⟨o', ?_⟩
  rw [run_choice, choiceOr_cons_of_ok ho']

theorem Yields.choice_second {q : Parser α} (h : p.Refuses text) (h' : q.Yields text v rest)
    (ps : List (Parser α)) : (choice (p :: q :: ps)).Yields text v rest := by
  intro o
  obtain ⟨e, he⟩ := h o
  obtain ⟨o', ho'⟩ := h' o
  refine ⟨o', ?_⟩
  rw [run_choice, choiceOr_cons_of_fail he, choiceOr_cons_of_ok ho']

theorem Refuses.choice_pair {q : Parser α} (h : p.Refuses text) (h' : q.Refuses text) :
    (choice [p, q]).Refuses text := by
  intro o
  obtain ⟨e, he⟩ := h o
  obtain ⟨e', he'⟩ := h' o
  refine ⟨e', ?_⟩
  rw [run_choice, choiceOr_cons_of_fail he, choiceOr_cons_of_fail he', choiceOr]

/-! ## Repetition -/

variable {vs : List α} {separator : Parser β}

theorem Yields.many_nil (h : p.Refuses text) : (many p).Yields text [] text := by
  intro o
  obtain ⟨e, he⟩ := h o
  refine ⟨o, ?_⟩
  rw [run_many, he]
  simp only [Cursor.isPast_self, Bool.false_eq_true, if_false]

theorem Yields.many_cons {between : List Char} (h : p.Yields text v between)
    (less : byteCount between < byteCount text) (h' : (many p).Yields between vs rest) :
    (many p).Yields text (v :: vs) rest := by
  intro o
  obtain ⟨o₁, h₁⟩ := h o
  obtain ⟨o₂, h₂⟩ := h' o₁
  refine ⟨o₂, ?_⟩
  rw [run_many, h₁]
  simp only [isPast_place_of_lt less, if_true, h₂, Reply.map_ok]

theorem yields_many_satisfy (wanted : Wanted) (accepts : Char → Bool) (text : List Char) :
    (many (satisfy wanted accepts)).Yields text (text.takeWhile accepts)
      (text.dropWhile accepts) := by
  intro o
  have run := (satisfy_reads wanted accepts).run_many o text
  rw [takeUntil_headIs] at run
  exact ⟨_, run⟩

/-- The rounds of `sepBy` behind the first, each with its separator before it. -/
def rounds (p : Parser α) (separator : Parser β) : Parser (List α) :=
  ⟨sepByOnto p separator []⟩

theorem Yields.rounds_nil (h : separator.Refuses text) :
    (rounds p separator).Yields text [] text := by
  intro o
  obtain ⟨e, he⟩ := h o
  refine ⟨o, ?_⟩
  unfold rounds
  simp only [sepByOnto_nil, he, Cursor.isPast_self, Bool.false_eq_true, if_false]

theorem Yields.rounds_cons {behind between : List Char} {w : β}
    (hsep : separator.Yields text w behind) (h : p.Yields behind v between)
    (less : byteCount between < byteCount text) (h' : (rounds p separator).Yields between vs rest) :
    (rounds p separator).Yields text (v :: vs) rest := by
  intro o
  obtain ⟨o₁, h₁⟩ := hsep o
  obtain ⟨o₂, h₂⟩ := h o₁
  obtain ⟨o₃, h₃⟩ := h' o₂
  refine ⟨o₃, ?_⟩
  have more : sepByOnto p separator [] (.place o₂ between) = .ok vs (.place o₃ rest) := h₃
  unfold rounds
  simp only [sepByOnto_nil, h₁, h₂, isPast_place_of_lt less, if_true, more, Reply.map_ok]

theorem Yields.sepBy_nil (h : p.Refuses text) : (sepBy p separator).Yields text [] text := by
  intro o
  obtain ⟨e, he⟩ := h o
  refine ⟨o, ?_⟩
  unfold sepBy
  simp only [he, Cursor.isPast_self, Bool.false_eq_true, if_false]

theorem Yields.sepBy_cons {between : List Char} (h : p.Yields text v between)
    (h' : (rounds p separator).Yields between vs rest) :
    (sepBy p separator).Yields text (v :: vs) rest := by
  intro o
  obtain ⟨o₁, h₁⟩ := h o
  obtain ⟨o₂, h₂⟩ := h' o₁
  refine ⟨o₂, ?_⟩
  have more : sepByOnto p separator [] (.place o₁ between) = .ok vs (.place o₂ rest) := h₂
  unfold sepBy
  simp only [h₁, sepByOnto_eq p separator [v], more, Reply.map_ok, List.reverse_singleton,
    List.singleton_append]

end Corpus.Parse.Parser
