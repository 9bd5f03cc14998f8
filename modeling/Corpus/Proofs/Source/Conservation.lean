import Corpus.Batch.Run
import Corpus.Proofs.Text.Visible
import Corpus.Proofs.Token.Complete
import Corpus.Proofs.Window.Records
import Corpus.Random.Cycle

/-!
# Records of code keep its text

What can be seen of the records of a program is what can be seen of the program: no character is
lost on the way, none comes twice and none changes its place. Blanks are layout and are not
counted, and a leading directive is left out on purpose.

Each layer does its part. The tokens of a source are laid over all of it, because the tables are
guarded; a token and the texts that it contributes show the same, because the segmenter is lossless
and only blank pieces are dropped; the windows tile the texts; and the joiner cannot be seen.
-/

set_option autoImplicit false

namespace Corpus

open Corpus.Parse Corpus.Text

/-! ## The tokens of a program -/

/-- A token that shows something, and is to be put into windows. -/
structure Token.Shows (t : Token) : Prop where
  notBlank : allBlank t.text = false
  category : t.category ≠ .instruction

/-- The text of the instruction that tokens begin with, if they do. -/
def leadingInstruction : List Token → List Char
  | t :: _ => if t.category = .instruction then t.text.toList else []
  | [] => []

theorem leadingInstruction_of_shows {tokens : List Token} (shows : ∀ t ∈ tokens, t.Shows) :
    leadingInstruction tokens = [] := by
  cases tokens with
  | nil => rfl
  | cons t tokens => exact if_neg (shows t List.mem_cons_self).category

/-- A table that is fit for programs: it reads them to the end, and no name or string is an
instruction. -/
structure Grammar.Coded (g : Grammar) : Prop where
  guarded : g.Guarded
  nameCategory : g.nameCategory ≠ .instruction
  stringCategory : g.stringCategory ≠ .instruction

theorem coded_cLike : Grammar.cLike.Coded := ⟨guarded_cLike, by decide, by decide⟩

theorem coded_pythonLike : Grammar.pythonLike.Coded := ⟨guarded_pythonLike, by decide, by decide⟩

variable {g : Grammar}

theorem shows_of_front (hg : g.Coded) {r rest : List Char} {t : Token}
    (h : g.front (r.dropWhile isBlank) = .token t rest) : t.Shows where
  notBlank := allBlank_of_front hg.guarded h
  category := by
    have listed := Grammar.category_of_front h
    intro hi
    rw [hi] at listed
    simp [hg.nameCategory.symm, hg.stringCategory.symm] at listed

/-- The tokens of a source: its directive, if there is one, and tokens laid over all the rest. -/
theorem exists_body_of_lex (hg : g.Coded) {source : String} {l : Lexed}
    (h : g.lex source = .ok l) :
    ∃ tokens body, source.toList = leadingInstruction l.tokens ++ body ∧ LaidOver tokens body ∧
      (∀ t ∈ tokens, t.Shows) ∧
      (l.tokens = tokens ∨
        g.hasDirective = true ∧ ∃ t, t.category = .instruction ∧ l.tokens = t :: tokens) := by
  obtain ⟨read, rest, hs, -⟩ := exists_scan_of_lex h
  obtain ⟨rfl, rfl⟩ := scan_eq_stopped hg.guarded hs
  unfold Grammar.scan at hs
  cases hc : g.cutLeading source.toList with
  | none =>
    have lays := lays_scanBody g source.toList
    have shows := finds_scanBody g (shows_of_front hg) source.toList
    simp only [hc] at hs
    rw [hs] at lays shows
    obtain ⟨-, laid⟩ := lays
    refine ⟨l.tokens, source.toList, ?_, laid, shows, .inl rfl⟩
    rw [leadingInstruction_of_shows shows]
    rfl
  | some cut =>
    obtain ⟨t, behind⟩ := cut
    have lays := lays_scanBody g behind
    have shows := finds_scanBody g (shows_of_front hg) behind
    have hsource := cutLeading_append hc
    obtain ⟨directive, ht⟩ := category_of_cutLeading hc
    simp only [hc] at hs
    cases hb : g.scanBody behind with
    | openString =>
      rw [hb] at hs
      cases hs
    | stopped tokens body rest =>
      rw [hb] at hs lays shows
      obtain ⟨htokens, -, rfl⟩ := Scan.stopped.inj hs
      obtain ⟨hbody, laid⟩ := lays
      rw [List.append_nil] at hbody
      subst hbody
      refine ⟨tokens, body, ?_, laid, shows, .inr ⟨directive, t, ht, htokens.symm⟩⟩
      rw [← hsource, ← htokens, leadingInstruction, if_pos ht]

/-! ## The texts of tokens -/

variable {kind : FileKind} {s : Segmenter}

/-- The pieces that are dropped show nothing. -/
theorem visible_pieces (hs : s.Lossless) (text : String) :
    ((s.pieces text).filter (!allBlank ·)).flatMap (visible ·.toList) = visible text.toList := by
  have kept (pieces : List String) :
      (pieces.filter (!allBlank ·)).flatMap (visible ·.toList) =
        visible (pieces.map String.toList).flatten := by
    induction pieces with
    | nil => rfl
    | cons piece pieces ih =>
      rw [List.map_cons, List.flatten_cons, visible_append, ← ih]
      by_cases hp : allBlank piece = true
      · rw [List.filter_cons_of_neg (by simp [hp]), visible_of_allBlank hp, List.nil_append]
      · rw [List.filter_cons_of_pos (by simp [hp]), List.flatMap_cons]
  rw [kept, hs text]

theorem texts_of_text (hk : kind ≠ .text) {t : Token} (ht : t.category = .text) :
    kind.texts s t = (s.pieces t.text).filter (!allBlank ·) := by
  unfold FileKind.texts
  rw [ht]
  exact if_neg hk

theorem texts_of_other {t : Token} (hi : t.category ≠ .instruction) (ht : t.category ≠ .text) :
    kind.texts s t = [t.text] := by
  unfold FileKind.texts
  split
  · rename_i h
    exact absurd h hi
  · rename_i h
    exact absurd h ht
  · rfl

theorem visible_texts (hk : kind ≠ .text) (hs : s.Lossless) {t : Token}
    (hi : t.category ≠ .instruction) :
    (kind.texts s t).flatMap (visible ·.toList) = visible t.text.toList := by
  by_cases ht : t.category = .text
  · rw [texts_of_text hk ht, visible_pieces hs]
  · rw [texts_of_other hi ht, List.flatMap_singleton]

theorem allBlank_texts (hk : kind ≠ .text) {t : Token} (shows : t.Shows) :
    ∀ text ∈ kind.texts s t, allBlank text = false := by
  intro text hmem
  by_cases ht : t.category = .text
  · rw [texts_of_text hk ht] at hmem
    simpa using (List.mem_filter.1 hmem).2
  · rw [texts_of_other shows.category ht] at hmem
    rw [List.mem_singleton.1 hmem]
    exact shows.notBlank

theorem material_instruction {t : Token} (ht : t.category = .instruction) (tokens : List Token) :
    kind.material s (t :: tokens) = kind.material s tokens := by
  unfold FileKind.material FileKind.texts
  rw [List.flatMap_cons, ht]
  rfl

/-- Tokens laid over a text give material that shows what the text shows. -/
theorem visible_material (hk : kind ≠ .text) (hs : s.Lossless) {tokens : List Token}
    {text : List Char} (laid : LaidOver tokens text) (shows : ∀ t ∈ tokens, t.Shows) :
    (kind.material s tokens).flatMap (visible ·.toList) = visible text := by
  induction laid with
  | blanks hgap => exact (visible_eq_nil_iff.2 hgap).symm
  | @token gap t tokens text hgap _ ih =>
    obtain ⟨ht, htokens⟩ := List.forall_mem_cons.1 shows
    have rest := ih htokens
    unfold FileKind.material at rest ⊢
    rw [List.flatMap_cons, List.flatMap_append, visible_texts hk hs ht.category, rest,
      visible_append, visible_append, visible_eq_nil_iff.2 hgap, List.nil_append]

theorem allBlank_material (hk : kind ≠ .text) {tokens : List Token}
    (shows : ∀ t ∈ tokens, t.Shows) : ∀ text ∈ kind.material s tokens, allBlank text = false := by
  intro text hmem
  obtain ⟨t, ht, htext⟩ := List.mem_flatMap.1 hmem
  exact allBlank_texts hk (shows t ht) text htext

/-! ## The outputs of records -/

theorem joiner_of_code (hk : kind ≠ .text) : kind.joiner.toList.all isBlank = true := by
  cases kind with
  | text => exact absurd rfl hk
  | c | java | scala | python => decide

theorem visible_join {r : Rendering} (hr : r.joiner.toList.all isBlank = true)
    (texts : List String) :
    visible (r.join texts).toList = texts.flatMap (visible ·.toList) := by
  unfold Rendering.join
  rw [String.toList_intercalate, visible_intercalate hr, List.flatMap_map]

theorem visible_flatMap {α : Type} (xs : List α) (f : α → List Char) :
    visible (xs.flatMap f) = xs.flatMap fun x => visible (f x) := by
  rw [List.flatMap_def, visible_flatten, List.flatMap_map]

theorem visible_outputs {r : Rendering} (hr : r.joiner.toList.all isBlank = true)
    {texts : List String} {windows : List Window} (tiles : Window.Tiles texts.length 0 windows) :
    visible ((windows.map (r.record texts.toArray)).flatMap (·.output.toList)) =
      texts.flatMap (visible ·.toList) := by
  rw [visible_flatMap]
  exact flatMap_output (f := fun text => visible text.toList) (visible_join hr) tiles

/-! ## From a source to its records -/

theorem exists_grammar (hk : kind ≠ .text) :
    ∃ g, kind.grammar? = some g ∧ g.Coded ∧ (g.hasDirective = true → kind = .python) := by
  cases kind with
  | text => exact absurd rfl hk
  | python => exact ⟨_, rfl, coded_pythonLike, fun _ => rfl⟩
  | c | java | scala => exact ⟨_, rfl, coded_cLike, fun h => absurd h (by decide)⟩

theorem exists_lex_of_tokens {source : String} {found : Tokens} (hg : kind.grammar? = some g)
    (h : kind.tokens s source = .ok found) :
    ∃ l, g.lex source = .ok l ∧ found.tokens = l.tokens := by
  unfold FileKind.tokens at h
  simp only [hg] at h
  cases hl : g.lex source with
  | error e =>
    rw [hl] at h
    cases h
  | ok l =>
    rw [hl] at h
    cases h
    exact ⟨l, rfl, rfl⟩

/-- **The records of a program show what the program shows**, in order, with any lossless
segmenter, any valid sizes and any random words. What is left out is the leading instruction, and
only a program in Python has one. No text that is put into windows is blank. -/
theorem records_conserve {σ : Type} [RandomSource σ] (hk : kind ≠ .text) (hs : s.Lossless)
    {sizes : WindowSizes} (hsizes : sizes.check = .ok ()) {source : String} {found : Tokens}
    (h : kind.tokens s source = .ok found) (random : σ) :
    (∀ text ∈ kind.material s found.tokens, allBlank text = false) ∧
    ∃ records body,
      kind.rendering.records sizes (kind.material s found.tokens) random = .ok records ∧
      source.toList = leadingInstruction found.tokens ++ body ∧
      (kind ≠ .python → body = source.toList) ∧
      visible (records.flatMap (·.output.toList)) = visible body := by
  obtain ⟨g, hg, coded, python⟩ := exists_grammar hk
  obtain ⟨l, hl, hfound⟩ := exists_lex_of_tokens hg h
  obtain ⟨tokens, body, hsource, laid, shows, leading⟩ := exists_body_of_lex coded hl
  have material : kind.material s l.tokens = kind.material s tokens := by
    rcases leading with same | ⟨-, t, ht, directed⟩
    · rw [same]
    · rw [directed, material_instruction ht]
  have whole : kind ≠ .python → body = source.toList := by
    intro other
    rcases leading with same | ⟨directive, -⟩
    · rw [hsource, same, leadingInstruction_of_shows shows, List.nil_append]
    · exact absurd (python directive) other
  obtain ⟨windows, hrecords, tiles⟩ :=
    exists_records (WindowSizes.check_eq_ok.1 hsizes) kind.rendering (kind.material s tokens) random
  have outputs := visible_outputs (r := kind.rendering) (joiner_of_code hk) tiles
  rw [visible_material hk hs laid shows] at outputs
  rw [hfound, material]
  exact ⟨allBlank_material hk shows, _, body, hrecords, hsource, whole, outputs⟩

/-- Cuts a text into its characters. -/
def Text.Segmenter.characters : Segmenter :=
  ⟨fun text => text.toList.map fun c => String.ofList [c]⟩

theorem lossless_characters : Segmenter.characters.Lossless := by
  intro text
  show ((text.toList.map fun c => String.ofList [c]).map String.toList).flatten = text.toList
  induction text.toList with
  | nil => rfl
  | cons c text ih =>
    rw [List.map_cons, List.map_cons, List.flatten_cons, ih, String.toList_ofList]
    rfl

/-- A directive, a string that counts as text, and a comment. -/
theorem records_conserve_python :
    FileKind.python.tokens .characters "#!p\nx = \"é \" # a" =
        .ok ⟨[⟨.instruction, "#!p\n"⟩, ⟨.symbol, "x"⟩, ⟨.symbol, "="⟩, ⟨.text, "\"é \""⟩,
          ⟨.text, "# a"⟩], none⟩ ∧
      ∃ records body,
        FileKind.python.rendering.records ⟨⟨2, 4⟩, ⟨0, 2⟩⟩ ["x", "=", "\"", "é", "\"", "#", "a"]
          (⟨7, [0xFFFFFFFF], []⟩ : Random.Cycle) = .ok records ∧
        "#!p\nx = \"é \" # a".toList = "#!p\n".toList ++ body ∧
        visible (records.flatMap (·.output.toList)) = visible body := by
  have tokens : FileKind.python.tokens .characters "#!p\nx = \"é \" # a" =
      .ok ⟨[⟨.instruction, "#!p\n"⟩, ⟨.symbol, "x"⟩, ⟨.symbol, "="⟩, ⟨.text, "\"é \""⟩,
        ⟨.text, "# a"⟩], none⟩ := by
    decide +kernel
  have material : FileKind.python.material .characters
      [⟨.instruction, "#!p\n"⟩, ⟨.symbol, "x"⟩, ⟨.symbol, "="⟩, ⟨.text, "\"é \""⟩,
        ⟨.text, "# a"⟩] = ["x", "=", "\"", "é", "\"", "#", "a"] := by
    decide +kernel
  have valid : WindowSizes.check ⟨⟨2, 4⟩, ⟨0, 2⟩⟩ = .ok () := rfl
  obtain ⟨-, records, body, hrecords, hsource, -, hvisible⟩ :=
    records_conserve (by decide) lossless_characters valid tokens
      (⟨7, [0xFFFFFFFF], []⟩ : Random.Cycle)
  rw [material] at hrecords
  exact ⟨tokens, records, body, hrecords, hsource, hvisible⟩

end Corpus
