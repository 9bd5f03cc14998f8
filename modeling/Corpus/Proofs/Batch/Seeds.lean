import Corpus.Proofs.Batch.Outcomes
import Mathlib.Data.List.Nodup

/-!
# Seeds of files

Each file of a batch draws from random words of its own, and where those begin is its seed: the seed
of the batch with a multiple of `seedStep` mixed in, another multiple for every place in the list.

> **two files never share a seed**, and none has the seed of the batch itself.

Mixing in can be undone, so all hangs on the multiples. They are taken among 64-bit words, where
numbers wrap around, and there an even step would come back to a multiple that it has given before.
`seedStep` is odd and so has an inverse (`seedStep_mul_inverse`): what was multiplied by it is known
from the product, and the multiples repeat only where the words themselves do, after all 2^64 of
them. One of them is zero and mixes in nothing, and the places are counted so that it comes last.
-/

set_option autoImplicit false

namespace Corpus

open Corpus.Text

/-! ## Multiples of the step -/

/-- What the seeds of neighbours differ by, before it is mixed in. -/
def seedStep : UInt64 := 0x9E3779B97F4A7C15

/-- The word that undoes a multiplication by the step. -/
def seedStepInverse : UInt64 := 0xF1DE83E19937733D

theorem seedStep_mul_inverse : seedStep * seedStepInverse = 1 := rfl

/-- A word is known from its product with the step. -/
theorem mul_seedStep_injective {x y : UInt64} (h : x * seedStep = y * seedStep) : x = y := by
  have undone : ∀ z : UInt64, z * seedStep * seedStepInverse = z := by
    intro z
    rw [UInt64.mul_assoc, seedStep_mul_inverse, UInt64.mul_one]
  rw [← undone x, h, undone y]

/-- Numbers that fit into a word are known from the word. -/
theorem ofNat_injective {m n : Nat} (hm : m < UInt64.size) (hn : n < UInt64.size)
    (h : UInt64.ofNat m = UInt64.ofNat n) : m = n := by
  have same := congrArg UInt64.toNat h
  rwa [UInt64.toNat_ofNat_of_lt' hm, UInt64.toNat_ofNat_of_lt' hn] at same

/-! ## Seeds -/

variable {base base' seed : UInt64} {i j n : Nat}

theorem seedAt_eq (base : UInt64) (i : Nat) :
    seedAt base i = base ^^^ (UInt64.ofNat (i + 1) * seedStep) :=
  rfl

/-- Two places have the same seed only if they are the same. -/
theorem eq_of_seedAt_eq (hi : i < UInt64.size - 1) (hj : j < UInt64.size - 1)
    (h : seedAt base i = seedAt base j) : i = j := by
  have products : UInt64.ofNat (i + 1) * seedStep = UInt64.ofNat (j + 1) * seedStep :=
    (UInt64.xor_right_inj base).1 h
  have places := ofNat_injective (by omega) (by omega) (mul_seedStep_injective products)
  omega

/-- The seed of a batch is that of none of its files. -/
theorem seedAt_ne_base (base : UInt64) (hi : i < UInt64.size - 1) : seedAt base i ≠ base := by
  intro h
  have nothing : UInt64.ofNat (i + 1) * seedStep = 0 * seedStep := by
    apply (UInt64.xor_right_inj base).1
    rw [← seedAt_eq, h, UInt64.zero_mul, UInt64.xor_zero]
  have place := ofNat_injective (n := 0) (by omega) (by decide) (mul_seedStep_injective nothing)
  omega

/-- Different batches have different seeds at the same place. -/
theorem seedAt_injective (i : Nat) : Function.Injective fun base => seedAt base i := by
  intro base base' h
  exact (UInt64.xor_left_inj _).1 h

/-- The seeds of the first so many files of a batch. -/
def seedsOf (seed : UInt64) (n : Nat) : List UInt64 :=
  (List.range n).map (seedAt seed)

theorem nodup_seedsOf (seed : UInt64) (hn : n < UInt64.size) : (seedsOf seed n).Nodup := by
  apply List.Nodup.map_on _ List.nodup_range
  intro i hi j hj same
  rw [List.mem_range] at hi hj
  exact eq_of_seedAt_eq (by omega) (by omega) same

theorem not_mem_seedsOf (seed : UInt64) (hn : n < UInt64.size) : seed ∉ seedsOf seed n := by
  intro h
  obtain ⟨i, hi, same⟩ := List.mem_map.1 h
  rw [List.mem_range] at hi
  exact seedAt_ne_base seed (by omega) same

/-! ## Files with their seeds -/

/-- What a file comes to with the random words that a seed gives. -/
def SourceFile.seeded (d : Disk) (s : Segmenter) (sizes : WindowSizes) :
    SourceFile × UInt64 → Except Fault (SourceFile × FileOutcome)
  | (file, own) => (file.outcome d s sizes (Random.ChaCha.ofSeed own)).map fun o => (file, o)

/-- The files of a list are worked on with one seed each. -/
theorem outcomesFrom_eq (d : Disk) (s : Segmenter) (sizes : WindowSizes) (seed : UInt64)
    (files : List SourceFile) :
    outcomesFrom d s sizes seed 0 files =
      (files.zip (seedsOf seed files.length)).mapM (SourceFile.seeded d s sizes) := by
  have behind : ∀ index, outcomesFrom d s sizes seed index files =
      (files.zip ((List.range' index files.length).map (seedAt seed))).mapM
        (SourceFile.seeded d s sizes) := by
    induction files with
    | nil => intro index; rfl
    | cons file files ih =>
      intro index
      rw [List.length_cons, List.range'_succ, List.map_cons, List.zip_cons_cons, List.mapM_cons,
        ← ih, outcomesFrom, SourceFile.seeded]
      cases file.outcome d s sizes (Random.ChaCha.ofSeed (seedAt seed index)) <;> rfl
  rw [behind, seedsOf, List.range_eq_range']

/-- **No two files of a batch share a seed, and none has that of the batch.** A seed tells the place
that it is for, as long as places fit into words, and at each place it tells the seed of the batch.
So the files of a batch that succeeds are worked on with as many seeds, all different. -/
theorem runBatch_seeds_apart :
    (∀ (base : UInt64) (i j : Nat), i < UInt64.size - 1 → j < UInt64.size - 1 →
      seedAt base i = seedAt base j → i = j) ∧
    (∀ (base : UInt64) (i : Nat), i < UInt64.size - 1 → seedAt base i ≠ base) ∧
    (∀ i : Nat, Function.Injective fun base => seedAt base i) ∧
    ∀ (d : Disk) (roots : List Path) (s : Segmenter) (sizes : WindowSizes) (seed : UInt64)
      (b : BatchResult) (log : List LogEntry),
      runBatch d roots s sizes seed = .ok (.ok b, log) →
      (d.sources roots).length < UInt64.size →
      ∃ seeds outcomes, seeds.length = (d.sources roots).length ∧ seeds.Nodup ∧ seed ∉ seeds ∧
        ((d.sources roots).zip seeds).mapM (SourceFile.seeded d s sizes) = .ok outcomes ∧
        b = ⟨recordsOf outcomes, failuresOf outcomes, outcomes.length, seed⟩ := by
  refine ⟨fun base i j => eq_of_seedAt_eq, fun base i => seedAt_ne_base base, seedAt_injective, ?_⟩
  intro d roots s sizes seed b log ran few
  obtain ⟨outcomes, houtcomes, result⟩ := exists_outcomes_of_runBatch ran
  rw [outcomesFrom_eq] at houtcomes
  refine ⟨seedsOf seed (d.sources roots).length, outcomes, ?_, nodup_seedsOf seed few,
    not_mem_seedsOf seed few, houtcomes, result⟩
  rw [seedsOf, List.length_map, List.length_range]

/-- The first place and the last, which is next to the one that would give the seed of the batch
back; and a batch of two files that hold the same. -/
theorem runBatch_seeds_apart_twins :
    let last := UInt64.size - 2
    let d : Disk := ⟨.directory [("a.txt", .file [0x78]), ("b.txt", .file [0x78])], []⟩
    let sizes : WindowSizes := ⟨⟨1, 3⟩, ⟨0, 2⟩⟩
    seedAt 7 0 ≠ seedAt 7 last ∧ seedAt 7 last ≠ 7 ∧ seedAt 7 (last + 1) = 7 ∧
      seedAt 7 last ≠ seedAt 8 last ∧ (d.sources [⟨"/"⟩]).length = 2 ∧
      ∃ b log seeds outcomes, runBatch d [⟨"/"⟩] .words sizes 7 = .ok (.ok b, log) ∧
        seeds.length = 2 ∧ seeds.Nodup ∧ 7 ∉ seeds ∧
        ((d.sources [⟨"/"⟩]).zip seeds).mapM (SourceFile.seeded d .words sizes) = .ok outcomes ∧
        b.records = recordsOf outcomes := by
  intro last d sizes
  obtain ⟨places, apart, bases, batches⟩ := runBatch_seeds_apart
  have two : (d.sources [⟨"/"⟩]).length = 2 := by
    have found : d.find ⟨"/"⟩ = .ok d.tree := by rfl
    have short : Disk.isTooLong ⟨"/"⟩ = false := by rfl
    have kind : SourceFile.ofPath? (Path.entry ⟨"/"⟩ "a.txt") = some ⟨⟨"/a.txt"⟩, .text⟩ := by rfl
    have kind' : SourceFile.ofPath? (Path.entry ⟨"/"⟩ "b.txt") = some ⟨⟨"/b.txt"⟩, .text⟩ := by rfl
    simp [Disk.sources, Disk.sourcesAt, found, d, Node.files, Node.filesOfEntries, short, kind,
      kind']
  have some_files : d.sources [⟨"/"⟩] ≠ [] := by
    intro none
    rw [none] at two
    cases two
  have accepted : sizes.check = .ok () := rfl
  obtain ⟨outcomes, houtcomes, -⟩ :=
    exists_outcomesFrom (WindowSizes.check_eq_ok.1 accepted) d .words 7 0 (d.sources [⟨"/"⟩])
  have ran := runBatch_of_outcomes accepted some_files houtcomes
  obtain ⟨seeds, outcomes', length, different, not_base, worked, result⟩ :=
    batches d [⟨"/"⟩] .words sizes 7 _ _ ran (by rw [two]; decide)
  refine ⟨fun same => ?_, apart 7 last (by decide), by decide, fun same => ?_, two, _, _, seeds,
    outcomes', ran, length.trans two, different, not_base, worked,
    congrArg BatchResult.records result⟩
  · exact absurd (places 7 0 last (by decide) (by decide) same) (by decide)
  · exact absurd (bases last same) (by decide)

end Corpus
