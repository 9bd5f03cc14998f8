import Corpus.Proofs.Parse.Advance
import Corpus.Parse.Session

/-!
# Staying inside the text

Offsets are numbers of bytes, and most numbers are no place in a text: they are beyond its end or
inside a character. `IsBoundary source n` says that `n` is a place, and `c.StandsIn source` that
the cursor's offset and its rest are those of one place of the text. **A place that is reached from
a place is a place** (`StandsIn.of_reaches`), so all that goes forward stays inside.

Sessions also go back. The place they go back to is found by walking the text again from its start,
which cannot end inside a character (`forward?_reaches`) and finds every place there is
(`forward?_append`). So the cursor of a session is at a place after every action.
-/

set_option autoImplicit false

namespace Corpus.Parse

/-! ## Places in a text -/

/-- A character of the text begins or ends at the offset. -/
def IsBoundary (source : List Char) (offset : Nat) : Prop :=
  ∃ behind ahead, behind ++ ahead = source ∧ offset = byteCount behind

/-- The text is what is behind the cursor, as many bytes as its offset says, and what is ahead. -/
def Cursor.StandsIn (c : Cursor) (source : List Char) : Prop :=
  ∃ behind, behind ++ c.rest = source ∧ c.offset = byteCount behind

theorem IsBoundary.le {source : List Char} {offset : Nat} (h : IsBoundary source offset) :
    offset ≤ byteCount source := by
  obtain ⟨behind, ahead, rfl, rfl⟩ := h
  rw [byteCount_append]
  exact Nat.le_add_right _ _

/-- The places of a text are those where a cursor stands. -/
theorem isBoundary_iff {source : List Char} {offset : Nat} :
    IsBoundary source offset ↔ ∃ c : Cursor, c.StandsIn source ∧ c.offset = offset := by
  constructor
  · rintro ⟨behind, ahead, hsource, hoffset⟩
    exact ⟨.place offset ahead, ⟨behind, hsource, hoffset⟩, rfl⟩
  · rintro ⟨c, ⟨behind, hsource, hoffset⟩, rfl⟩
    exact ⟨behind, c.rest, hsource, hoffset⟩

namespace Cursor.StandsIn

variable {c d : Cursor} {source : List Char}

theorem start (source : List Char) : (Cursor.start source).StandsIn source :=
  ⟨[], rfl, rfl⟩

theorem isBoundary (h : c.StandsIn source) : IsBoundary source c.offset :=
  isBoundary_iff.2 ⟨c, h, rfl⟩

theorem of_reaches (h : c.StandsIn source) (hcd : c.Reaches d) : d.StandsIn source := by
  obtain ⟨behind, hsource, hoffset⟩ := h
  obtain ⟨text, hrest, hoffset'⟩ := hcd
  refine ⟨behind ++ text, ?_, ?_⟩
  · rw [List.append_assoc, ← hrest, hsource]
  · rw [hoffset', hoffset, byteCount_append]

/-- In one text, a cursor is known by its offset. -/
theorem ext (hc : c.StandsIn source) (hd : d.StandsIn source) (h : c.offset = d.offset) :
    c = d := by
  obtain ⟨behind, hsource, hoffset⟩ := hc
  obtain ⟨behind', hsource', hoffset'⟩ := hd
  have hsize : byteCount behind = byteCount behind' := by rw [← hoffset, ← hoffset', h]
  obtain ⟨-, hrest⟩ := append_inj_of_byteCount (hsource.trans hsource'.symm) hsize
  exact Cursor.ext h hrest

/-- With nothing ahead, everything is behind. -/
theorem offset_of_rest (h : c.StandsIn source) (hrest : c.rest = []) :
    c.offset = byteCount source := by
  obtain ⟨behind, hsource, hoffset⟩ := h
  rw [hoffset, ← hsource, hrest, List.append_nil]

end Cursor.StandsIn

/-- The failure points at a place of the text, no earlier than the cursor, and at the end of the
text if its reason is the end of the input. -/
structure Failure.PointsInto (source : List Char) (c : Cursor) (e : Failure) : Prop where
  isBoundary : IsBoundary source e.offset
  onward : c.offset ≤ e.offset
  within : e.offset ≤ byteCount source
  atEnd : e.isEndOfInput = true → e.offset = byteCount source

/-- The reply stands at a place of the text, no earlier than the cursor, and its failure points
no earlier than it stands. -/
structure Reply.StaysInside {α : Type} (source : List Char) (c : Cursor) (reply : Reply α) :
    Prop where
  standsIn : reply.cursor.StandsIn source
  onward : c.offset ≤ reply.cursor.offset
  within : reply.cursor.offset ≤ byteCount source
  failure : ∀ e d, reply = .fail e d → e.PointsInto source d

theorem Failure.LiesAhead.pointsInto {e : Failure} {c : Cursor} {source : List Char}
    (h : e.LiesAhead c) (hc : c.StandsIn source) : e.PointsInto source c := by
  obtain ⟨point, hreaches, hoffset, hend⟩ := h
  have hpoint := hc.of_reaches hreaches
  have hboundary : IsBoundary source e.offset := hoffset ▸ hpoint.isBoundary
  exact {
    isBoundary := hboundary
    onward := hoffset ▸ hreaches.offset_le
    within := hboundary.le
    atEnd := fun he => hoffset ▸ hpoint.offset_of_rest (hend he) }

/-- What goes forward stays inside the text. -/
theorem Reply.Advances.staysInside {α : Type} {reply : Reply α} {c : Cursor} {source : List Char}
    (h : reply.Advances c) (hc : c.StandsIn source) : reply.StaysInside source c := by
  have hreaches : c.Reaches reply.cursor := by
    cases reply with
    | ok v d => exact h
    | fail e d => exact h.1
  have hstands := hc.of_reaches hreaches
  refine ⟨hstands, hreaches.offset_le, hstands.isBoundary.le, ?_⟩
  rintro e d rfl
  exact h.2.pointsInto hstands

/-! ## Going to an offset -/

namespace Cursor

theorem forward?_zero (c : Cursor) : c.forward? 0 = some c := by
  rw [forward?, if_pos rfl]

theorem forward?_place_nil (o : Nat) {bytes : Nat} (h : bytes ≠ 0) :
    (place o []).forward? bytes = none := by
  rw [forward?, if_neg h]
  rfl

theorem forward?_place_cons (o : Nat) (x : Char) (r : List Char) {bytes : Nat} (h : bytes ≠ 0) :
    (place o (x :: r)).forward? bytes =
      if x.utf8Size ≤ bytes then (place (o + x.utf8Size) r).forward? (bytes - x.utf8Size)
      else none := by
  rw [forward?, if_neg h]
  split
  · rename_i hnext
    rw [next?_place_cons] at hnext
    cases hnext
  · rename_i y d hnext
    rw [next?_place_cons, Option.some.injEq, Prod.mk.injEq] at hnext
    obtain ⟨rfl, rfl⟩ := hnext
    rfl

theorem forward?_place_zero_eq_some {o : Nat} {r : List Char} {d : Cursor} :
    (place o r).forward? 0 = some d ↔
      ∃ text rest, text ++ rest = r ∧ 0 = byteCount text ∧ d = place (o + 0) rest := by
  rw [forward?_zero, Option.some.injEq]
  constructor
  · rintro rfl
    exact ⟨[], r, rfl, rfl, rfl⟩
  · rintro ⟨text, rest, rfl, hcount, rfl⟩
    cases text with
    | nil => rfl
    | cons x text =>
      have := byteCount_pos (List.cons_ne_nil x text)
      omega

/-- The cursor that many bytes further on is the one behind a text of that size. -/
theorem forward?_place_eq_some {o bytes : Nat} {r : List Char} {d : Cursor} :
    (place o r).forward? bytes = some d ↔
      ∃ text rest, text ++ rest = r ∧ bytes = byteCount text ∧ d = place (o + bytes) rest := by
  induction r generalizing o bytes with
  | nil =>
    by_cases hbytes : bytes = 0
    · subst hbytes
      exact forward?_place_zero_eq_some
    · rw [forward?_place_nil o hbytes]
      constructor
      · intro h
        cases h
      · rintro ⟨text, rest, htext, hcount, -⟩
        obtain ⟨rfl, -⟩ := List.append_eq_nil_iff.1 htext
        exact absurd hcount hbytes
  | cons x r ih =>
    by_cases hbytes : bytes = 0
    · subst hbytes
      exact forward?_place_zero_eq_some
    · rw [forward?_place_cons o x r hbytes]
      constructor
      · intro h
        split at h
        · obtain ⟨text, rest, rfl, hcount, rfl⟩ := ih.1 h
          refine ⟨x :: text, rest, rfl, ?_, ?_⟩
          · rw [byteCount_cons]
            omega
          · congr 1
            omega
        · cases h
      · rintro ⟨text, rest, htext, hcount, rfl⟩
        cases text with
        | nil => exact absurd hcount hbytes
        | cons y text =>
          obtain ⟨rfl, rfl⟩ := List.cons_eq_cons.1 htext
          rw [byteCount_cons] at hcount
          rw [if_pos (by omega), ih]
          refine ⟨text, rest, rfl, by omega, ?_⟩
          congr 1
          omega

end Cursor

/-! ## Sessions -/

namespace Session

/-- The session's cursor is at a place of its text. -/
def Sound (s : Session) : Prop :=
  s.cursor.StandsIn s.source

/-- A place that is not ahead is found again. -/
theorem earlier?_eq_some {s : Session} {offset : Nat} {c : Cursor} :
    s.earlier? offset = some c ↔
      offset ≤ s.cursor.offset ∧ c.StandsIn s.source ∧ c.offset = offset := by
  unfold earlier?
  split
  · rename_i hle
    rw [Cursor.start_eq_place, Cursor.forward?_place_eq_some, Nat.zero_add]
    constructor
    · rintro ⟨text, rest, hsource, hoffset, rfl⟩
      exact ⟨hle, ⟨text, hsource, hoffset⟩, rfl⟩
    · rintro ⟨-, ⟨behind, hsource, hoffset⟩, rfl⟩
      exact ⟨behind, c.rest, hsource, hoffset, c.eq_place⟩
  · rename_i hlt
    constructor
    · intro h
      cases h
    · rintro ⟨hle, -⟩
      exact absurd hle hlt

/-- To go back to a place is to stand there. -/
theorem perform_rewind {s : Session} {offset : Nat} (hplace : IsBoundary s.source offset)
    (hle : offset ≤ s.cursor.offset) : (s.perform (.rewind offset)).2.cursor.offset = offset := by
  obtain ⟨c, hc, hoffset⟩ := isBoundary_iff.1 hplace
  have h : s.earlier? offset = some c := earlier?_eq_some.2 ⟨hle, hc, hoffset⟩
  show ((s.earlier? offset).getD s.cursor).offset = offset
  rw [h]
  exact hoffset

/-- An action moves the cursor to a place of the same text, or leaves it where it is. -/
theorem Sound.exists_perform {s : Session} (h : s.Sound) (a : Action) :
    ∃ c : Cursor, (s.perform a).2 = { s with cursor := c } ∧ c.StandsIn s.source := by
  cases a with
  | next =>
    have hone := (Parser.Advances.one s.cursor).staysInside h
    simp only [perform]
    cases hr : Parser.one.run s.cursor with
    | ok x d =>
      rw [hr] at hone
      exact ⟨d, rfl, hone.standsIn⟩
    | fail e d =>
      rw [hr] at hone
      exact ⟨d, rfl, hone.standsIn⟩
  | rewind offset =>
    refine ⟨(s.earlier? offset).getD s.cursor, rfl, ?_⟩
    cases he : s.earlier? offset with
    | none => exact h
    | some c => exact (earlier?_eq_some.1 he).2.1
  | parse term =>
    exact ⟨_, rfl, ((compositional_advances.term term s.cursor).staysInside h).standsIn⟩
  | peek => exact ⟨s.cursor, rfl, h⟩
  | offset => exact ⟨s.cursor, rfl, h⟩
  | rest => exact ⟨s.cursor, rfl, h⟩
  | atEnd => exact ⟨s.cursor, rfl, h⟩
  | complain message => exact ⟨s.cursor, rfl, h⟩
  | complainAtEnd => exact ⟨s.cursor, rfl, h⟩
  | parseOther term source => exact ⟨s.cursor, rfl, h⟩

/-- Nor does any sequence of actions, at any of its steps. -/
theorem Sound.performAll {s : Session} (h : s.Sound) (actions : List Action) :
    ∀ step ∈ s.performAll actions, step.2.source = s.source ∧ step.2.cursor.StandsIn s.source := by
  induction actions generalizing s with
  | nil =>
    intro step hstep
    cases hstep
  | cons a actions ih =>
    obtain ⟨c, hperform, hc⟩ := h.exists_perform a
    intro step hstep
    rcases List.mem_cons.1 hstep with rfl | hstep
    · rw [hperform]
      exact ⟨rfl, hc⟩
    · have hnext : (s.perform a).2.Sound := by
        rw [hperform]
        exact hc
      have hsource : (s.perform a).2.source = s.source := by rw [hperform]
      have htail := ih hnext step hstep
      rwa [hsource] at htail

end Session

end Corpus.Parse
