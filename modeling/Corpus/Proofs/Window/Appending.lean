import Corpus.Proofs.Window.Records
import Corpus.Proofs.Window.Termination

/-!
# A sequence that goes on

Two sequences of which one goes on where the other ends are cut alike from equal words, as far as
they are alike. **How many words a cut uses has nothing to do with the sequence**
(`Window.exists_cut`), so the two runs draw the same sizes until the shorter sequence ends, and
until then nothing is cut off in either of them. Only the last window of the shorter one can be cut
off, and in the longer one it goes on (`Window.GoesOnAs`).

So appending to a source leaves all its records as they were, except the last (`records_append`).
-/

set_option autoImplicit false

namespace Corpus

namespace Window

/-- The second window begins where the first one does and has at least as much of everything. -/
structure GoesOnAs (w v : Window) : Prop where
  start_eq : v.start = w.start
  stop_le : w.stop ≤ v.stop
  header_le : w.header ≤ v.header

variable {σ : Type} [RandomSource σ] {sizes : WindowSizes} {len len' : Nat}

/-- The last cut of the shorter sequence takes all there is; the longer one may have more. -/
theorem goesOnAs_cut (hlen : len ≤ len') (start size header : Nat) :
    GoesOnAs ⟨start, min (start + size) len, min header (min (start + size) len - start)⟩
      ⟨start, min (start + size) len', min header (min (start + size) len' - start)⟩ where
  start_eq := rfl
  stop_le := by
    dsimp only
    omega
  header_le := by
    dsimp only
    omega

/-- What is left of two sequences, of which the second may be longer, cut from equal words: equal
windows, up to the last one of the first sequence. -/
theorem exists_partitionWithin_both (h : sizes.Valid) (hlen : len ≤ len')
    {rounds rounds' start : Nat} (more : start < len) (hrounds : len - start ≤ rounds)
    (hrounds' : len' - start ≤ rounds') (s : σ) :
    ∃ windows last next behind,
      partitionWithin sizes len rounds start s = .ok (windows ++ [last]) ∧
      partitionWithin sizes len' rounds' start s = .ok (windows ++ next :: behind) ∧
      last.GoesOnAs next := by
  induction rounds generalizing rounds' start s with
  | zero => omega
  | succ rounds ih =>
    obtain ⟨rounds', rfl⟩ : ∃ n, rounds' = n + 1 := Nat.exists_eq_add_one.2 (by omega)
    have more' : start < len' := Nat.lt_of_lt_of_le more hlen
    obtain ⟨size, header, t, hsize, hheader, hcut⟩ := exists_cut h s
    have pos := h.pos
    have least := hsize.least
    rw [partitionWithin_succ more, partitionWithin_succ more', hcut len start, hcut len' start]
    by_cases hfits : start + size < len
    · -- Nothing is cut off in either sequence, and both go on from the same place.
      have whole : min (start + size) len = start + size := by omega
      have whole' : min (start + size) len' = start + size := by omega
      have enough : len - (start + size) ≤ rounds := by omega
      have enough' : len' - (start + size) ≤ rounds' := by omega
      obtain ⟨windows, last, next, behind, hwindows, hwindows', goesOn⟩ :=
        ih hfits enough enough' t
      let w : Window := ⟨start, start + size, min header (start + size - start)⟩
      refine ⟨w :: windows, last, next, behind, ?_, ?_, goesOn⟩
      · simp only [whole, bind, Except.bind, hwindows]
        rfl
      · simp only [whole', bind, Except.bind, hwindows']
        rfl
    · -- The first sequence ends here. There are rounds enough for what the second has more.
      have ended : min (start + size) len = len := by omega
      have hnext : min (start + size) len' ≤ len' := Nat.min_le_right _ _
      have enough : len' - min (start + size) len' ≤ rounds' := by omega
      obtain ⟨behind, hbehind, -⟩ := exists_partitionWithin h len' hnext enough t
      refine ⟨[], _, _, behind, ?_, ?_, goesOnAs_cut hlen start size header⟩
      · simp only [bind, Except.bind, ended, partitionWithin_of_not_lt (Nat.lt_irrefl len)]
        rfl
      · simp only [bind, Except.bind, hbehind]
        rfl

theorem exists_partition_both (h : sizes.Valid) (hpos : 0 < len) (hlen : len ≤ len') (s : σ) :
    ∃ windows last next behind,
      partition sizes len s = .ok (windows ++ [last]) ∧
      partition sizes len' s = .ok (windows ++ next :: behind) ∧
      last.GoesOnAs next := by
  unfold partition roundLimit
  rw [if_neg (Nat.ne_of_gt h.pos), if_neg (Nat.ne_of_gt h.pos)]
  exact exists_partitionWithin_both h hlen hpos (Nat.sub_le len 0) (Nat.sub_le len' 0) s

/-- A window that ends within a sequence has the same texts in whatever begins with it. -/
theorem stretch_append {α : Type} {w : Window} {texts : List α} (h : w.stop ≤ texts.length)
    (extra : List α) : w.stretch (texts ++ extra).toArray = w.stretch texts.toArray := by
  have beyond : w.stop - texts.toArray.size = 0 := Nat.sub_eq_zero_of_le h
  unfold Window.stretch
  rw [← List.append_toArray, Array.extract_append, beyond,
    Array.extract_eq_empty_of_le (by omega : min 0 _ ≤ _), Array.append_empty]

/-- No window ends behind the sequence that it is cut from. -/
theorem Tiles.stop_le {start stop : Nat} {windows : List Window} (h : Tiles stop start windows) :
    ∀ w ∈ windows, w.stop ≤ stop :=
  fun w hw => (h.of_mem w hw).2.1

end Window

theorem record_append {r : Rendering} {w : Window} {texts : List String}
    (h : w.stop ≤ texts.length) (extra : List String) :
    r.record (texts ++ extra).toArray w = r.record texts.toArray w := by
  have same := Window.stretch_append h extra
  unfold Window.stretch at same
  unfold Rendering.record
  rw [same]

/-- **Appending to a sequence changes its records from the last one on, and nothing before.** With
the same words, the records but the last are the first ones of the longer sequence. Its next record
is that of a window that begins where the last one of the shorter sequence does, ends no earlier,
and has at least as many texts in its header. -/
theorem records_append {σ : Type} [RandomSource σ] {sizes : WindowSizes} (h : sizes.check = .ok ())
    (r : Rendering) {texts : List String} (hne : texts ≠ []) (extra : List String) (s : σ) :
    ∃ (windows behind : List Window) (last next : Window),
      Window.partition sizes texts.length s = .ok (windows ++ [last]) ∧
      Window.partition sizes (texts ++ extra).length s = .ok (windows ++ next :: behind) ∧
      r.records sizes texts s =
        .ok (windows.map (r.record texts.toArray) ++ [r.record texts.toArray last]) ∧
      r.records sizes (texts ++ extra) s =
        .ok (windows.map (r.record texts.toArray) ++
          (next :: behind).map (r.record (texts ++ extra).toArray)) ∧
      next.start = last.start ∧ last.stop ≤ next.stop ∧ last.header ≤ next.header := by
  have valid := WindowSizes.check_eq_ok.1 h
  have hlen : texts.length ≤ (texts ++ extra).length := by
    rw [List.length_append]
    exact Nat.le_add_right _ _
  obtain ⟨windows, last, next, behind, hshort, hlong, goesOn⟩ :=
    Window.exists_partition_both valid (List.length_pos_iff.2 hne) hlen s
  obtain ⟨_, hwindows, tiles⟩ := Window.exists_partition valid texts.length s
  obtain rfl := Except.ok.inj (hshort.symm.trans hwindows)
  have same : windows.map (r.record (texts ++ extra).toArray) =
      windows.map (r.record texts.toArray) := by
    refine List.map_congr_left fun w hw => record_append ?_ extra
    exact tiles.stop_le w (List.mem_append_left [last] hw)
  refine ⟨windows, behind, last, next, hshort, hlong, ?_, ?_, goesOn.start_eq, goesOn.stop_le,
    goesOn.header_le⟩
  · unfold Rendering.records
    rw [hshort]
    simp only [bind, Except.bind, pure, Except.pure, List.map_append, List.map_cons, List.map_nil]
  · unfold Rendering.records
    rw [hlong]
    simp only [bind, Except.bind, pure, Except.pure, List.map_append, same]

open Corpus.Random in
/-- The first size takes a second word, which carries. Of the two windows of the short sequence the
last one was to have three texts and had one; in the long sequence it has them. -/
theorem records_append_carried :
    let sizes : WindowSizes := ⟨⟨2, 5⟩, ⟨1, 3⟩⟩
    let s : Cycle := ⟨0x55555555, [0xFFFFFFFF, 0xC0000000], [0x55555555, 0xFFFFFFFF, 0xC0000000]⟩
    let r : Rendering := ⟨"c", " "⟩
    let short := ["a", "b", "c", "d"]
    let long := short ++ ["e", "f", "g", "h"]
    sizes.check = .ok () ∧ short ≠ [] ∧
    r.records sizes short s =
      .ok ([r.record short.toArray ⟨0, 3, 2⟩] ++ [r.record short.toArray ⟨3, 4, 1⟩]) ∧
    r.records sizes long s =
      .ok ([r.record short.toArray ⟨0, 3, 2⟩] ++
        [⟨3, 6, 2⟩, ⟨6, 8, 2⟩].map (r.record long.toArray)) := by
  intro sizes s r short long
  have valid : sizes.check = .ok () := rfl
  have some_texts : short ≠ [] := List.cons_ne_nil _ _
  have cut_short : Window.partition ⟨⟨2, 5⟩, ⟨1, 3⟩⟩ 4
      (⟨0x55555555, [0xFFFFFFFF, 0xC0000000], [0x55555555, 0xFFFFFFFF, 0xC0000000]⟩ : Cycle) =
      .ok ([⟨0, 3, 2⟩] ++ [⟨3, 4, 1⟩]) := by
    decide +kernel
  have cut_long : Window.partition ⟨⟨2, 5⟩, ⟨1, 3⟩⟩ 8
      (⟨0x55555555, [0xFFFFFFFF, 0xC0000000], [0x55555555, 0xFFFFFFFF, 0xC0000000]⟩ : Cycle) =
      .ok [⟨0, 3, 2⟩, ⟨3, 6, 2⟩, ⟨6, 8, 2⟩] := by
    decide +kernel
  obtain ⟨windows, behind, last, next, hshort, hlong, records_short, records_long, -⟩ :=
    records_append valid r some_texts ["e", "f", "g", "h"] s
  obtain ⟨rfl, hlast⟩ := List.append_inj' (Except.ok.inj (hshort.symm.trans cut_short)) rfl
  cases hlast
  cases Except.ok.inj (hlong.symm.trans cut_long)
  exact ⟨valid, some_texts, records_short, records_long⟩

end Corpus
