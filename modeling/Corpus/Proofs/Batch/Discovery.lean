import Corpus.Batch.Discovery
import Corpus.Proofs.Disk.Tree
import Mathlib.Data.List.Sort

/-!
# Which files are found

What is found below a root is said by the tree alone: a file is found if it is at a place below the
root whose way can be listed (`Path.Listed`), and its path is the root's with the names of the place
behind it (`Path.below`). Such a path has the components of the root and then those names, so
different places give different paths, and **the list is the files in strictly rising order**
(`Disk.sourcesAt_pairwise`).

A list in strictly rising order is known by what is in it. That the order of directory entries has
no say needs no argument about sorting then: it is enough that the same files are there.
-/

set_option autoImplicit false

namespace Corpus

namespace Path

/-- The path of what is at a place below the path. -/
def below (p : Path) : Place → Path
  | [] => p
  | name :: place => (p.entry name).below place

/-- Every directory on the way to the place can be asked for its entries. -/
def Listed (p : Path) : Place → Prop
  | [] => True
  | name :: place => Disk.isTooLong p = false ∧ (p.entry name).Listed place

theorem components_below {place : Place} (h : ∀ name ∈ place, IsName name) (p : Path) :
    (p.below place).components = p.components ++ place.map .name := by
  induction place generalizing p with
  | nil => exact (List.append_nil _).symm
  | cons name place ih =>
    obtain ⟨first, rest⟩ := List.forall_mem_cons.1 h
    rw [below, ih rest, components_entry first, List.append_assoc]
    rfl

/-- Places of names have different paths. -/
theorem eq_of_below_eq {p : Path} {place place' : Place} (h : ∀ name ∈ place, IsName name)
    (h' : ∀ name ∈ place', IsName name) (same : p.below place = p.below place') :
    place = place' := by
  have components := congrArg Path.components same
  rw [components_below h, components_below h', List.append_cancel_left_eq] at components
  exact List.map_injective_iff.2 (fun _ _ => Component.name.inj) components

end Path

/-! ## Files -/

namespace Node

variable {n : Node} {p q : Path} {entries : List (String × Node)}

theorem files_directory (p : Path) (entries : List (String × Node)) :
    (directory entries).files p =
      if Disk.isTooLong p then []
      else entries.flatMap fun entry => entry.2.files (p.entry entry.1) := by
  have all : filesOfEntries p entries =
      entries.flatMap fun entry => entry.2.files (p.entry entry.1) := by
    induction entries with
    | nil => rfl
    | cons entry entries ih => rw [filesOfEntries, List.flatMap_cons, ih]
  rw [files, all]

/-- A file is listed if it is there and the way to it can be listed. -/
theorem mem_files (proper : n.Proper) :
    q ∈ n.files p ↔
      ∃ place bytes, n.at? place = some (.file bytes) ∧ p.Listed place ∧ q = p.below place := by
  induction n using Node.induction generalizing p with
  | file bytes =>
    rw [files, List.mem_singleton]
    constructor
    · rintro rfl
      exact ⟨[], bytes, rfl, trivial, rfl⟩
    · rintro ⟨place, bytes', there, -, rfl⟩
      cases place with
      | nil => rfl
      | cons name place => cases there
  | directory entries ih =>
    obtain ⟨unique, proper⟩ := proper_directory.1 proper
    rw [files_directory]
    constructor
    · intro h
      split at h
      · cases h
      · rename_i short
        obtain ⟨⟨name, child⟩, hentry, h⟩ := List.mem_flatMap.1 h
        obtain ⟨place, bytes, there, listed, rfl⟩ := (ih _ hentry (proper _ hentry)).1 h
        exact ⟨name :: place, bytes, (at?_directory unique).2 ⟨child, hentry, there⟩,
          ⟨eq_false_of_ne_true short, listed⟩, rfl⟩
    · rintro ⟨place, bytes, there, listed, rfl⟩
      cases place with
      | nil => cases there
      | cons name place =>
        obtain ⟨child, hentry, there⟩ := (at?_directory unique).1 there
        rw [if_neg (ne_true_of_eq_false listed.1)]
        exact List.mem_flatMap.2 ⟨_, hentry,
          (ih _ hentry (proper _ hentry)).2 ⟨place, bytes, there, listed.2, rfl⟩⟩

/-- No two files listed have the same components: where their places part, there are two names. -/
theorem pairwise_files (proper : n.Proper) (spelled : n.Spelled) (p : Path) :
    (n.files p).Pairwise fun a b => a.components ≠ b.components := by
  induction n using Node.induction generalizing p with
  | file bytes => exact List.pairwise_singleton _ _
  | directory entries ih =>
    obtain ⟨unique, proper⟩ := proper_directory.1 proper
    have spelled := spelled_directory.1 spelled
    rw [files_directory]
    split
    · exact .nil
    have begins : ∀ entry ∈ entries, ∀ q ∈ entry.2.files (p.entry entry.1),
        ∃ more, q.components = p.components ++ .name entry.1 :: more := by
      intro entry hentry q hq
      obtain ⟨isName, spelled⟩ := spelled entry hentry
      obtain ⟨place, bytes, there, -, rfl⟩ := (mem_files (proper entry hentry)).1 hq
      refine ⟨place.map .name, ?_⟩
      rw [Path.components_below (spelled.at? there).1, Path.components_entry isName,
        List.append_assoc, List.singleton_append]
    -- Within an entry it is the induction; of two entries the names differ, at the same component.
    refine List.pairwise_flatMap.2 ⟨fun entry hentry =>
      ih entry hentry (proper entry hentry) (spelled entry hentry).2 _, ?_⟩
    refine (List.pairwise_map.1 unique).imp_of_mem ?_
    intro entry entry' hentry hentry' different q hq q' hq' same
    obtain ⟨more, hmore⟩ := begins entry hentry q hq
    obtain ⟨more', hmore'⟩ := begins entry' hentry' q' hq'
    rw [hmore, hmore', List.append_cancel_left_eq, List.cons.injEq] at same
    exact different (Path.Component.name.inj same.1)

end Node

/-! ## Sources -/

namespace SourceFile

/-- The first file has its path before that of the second. -/
def IsBefore (a b : SourceFile) : Prop :=
  compare a.path b.path = .lt

instance : DecidableRel IsBefore :=
  fun a b => inferInstanceAs (Decidable (compare a.path b.path = .lt))

instance : Std.Asymm IsBefore where
  asymm _ _ h h' := Ordering.noConfusion (h.symm.trans (Std.OrientedCmp.gt_of_lt h'))

theorem pairwise_mergeSort (found : List SourceFile) :
    (found.mergeSort fun a b => a.path.comesBefore b.path).Pairwise
      fun a b => a.path.comesBefore b.path := by
  refine @List.pairwise_mergeSort SourceFile (fun a b => a.path.comesBefore b.path) ?_ ?_ found
  · exact fun a b c h h' => Path.comesBefore_trans a.path b.path c.path h h'
  · exact fun a b => Path.comesBefore_total a.path b.path

theorem ofPath?_eq_some {p : Path} {f : SourceFile} :
    ofPath? p = some f ↔ p = f.path ∧ FileKind.ofPath? p = some f.kind := by
  obtain ⟨path, kind⟩ := f
  simp [ofPath?, and_comm]

end SourceFile

namespace Disk

variable {d d' : Disk} {root : Path} {n : Node} {f : SourceFile}

theorem sourcesAt_perm (h : d.find root = .ok n) :
    (d.sourcesAt root).Perm ((n.files root).filterMap SourceFile.ofPath?) := by
  unfold sourcesAt
  rw [h]
  exact List.mergeSort_perm _ _

/-- The source files at a root, as the tree has them. -/
theorem mem_sourcesAt (proper : d.tree.Proper) :
    f ∈ d.sourcesAt root ↔
      ∃ n place bytes, d.find root = .ok n ∧ n.at? place = some (.file bytes) ∧
        root.Listed place ∧ f.path = root.below place ∧ FileKind.ofPath? f.path = some f.kind := by
  cases h : d.find root with
  | error e => simp [sourcesAt, h]
  | ok n =>
    have proper := proper_of_find proper h
    rw [(sourcesAt_perm h).mem_iff]
    constructor
    · intro hf
      obtain ⟨p, hp, hf⟩ := List.mem_filterMap.1 hf
      obtain ⟨rfl, hkind⟩ := SourceFile.ofPath?_eq_some.1 hf
      obtain ⟨place, bytes, there, listed, hpath⟩ := (Node.mem_files proper).1 hp
      exact ⟨n, place, bytes, rfl, there, listed, hpath, hkind⟩
    · rintro ⟨n', place, bytes, hn', there, listed, hpath, hkind⟩
      obtain rfl := Except.ok.inj hn'
      have hp := (Node.mem_files proper).2 ⟨place, bytes, there, listed, hpath⟩
      exact List.mem_filterMap.2 ⟨f.path, hp, SourceFile.ofPath?_eq_some.2 ⟨rfl, hkind⟩⟩

/-- The source files are in strictly rising order, so none is listed twice. -/
theorem sourcesAt_pairwise (proper : d.tree.Proper) (spelled : d.tree.Spelled) (root : Path) :
    (d.sourcesAt root).Pairwise SourceFile.IsBefore := by
  cases h : d.find root with
  | error e =>
    rw [sourcesAt, h]
    exact .nil
  | ok n =>
    have parted := Node.pairwise_files (proper_of_find proper h) (spelled_of_find spelled h) root
    have listed : ((n.files root).filterMap SourceFile.ofPath?).Pairwise
        fun a b => a.path.components ≠ b.path.components := by
      refine parted.filterMap _ fun p q different a ha b hb => ?_
      rwa [← (SourceFile.ofPath?_eq_some.1 ha).1, ← (SourceFile.ofPath?_eq_some.1 hb).1]
    have different := (sourcesAt_perm h).symm.pairwise listed Ne.symm
    have sorted : (d.sourcesAt root).Pairwise fun a b => a.path.comesBefore b.path := by
      rw [sourcesAt, h]
      exact SourceFile.pairwise_mergeSort _
    exact (sorted.and different).imp fun ⟨rises, different⟩ =>
      Path.compare_eq_lt_of_comesBefore rises different

/-- Where the same files are, the same source files are found. -/
theorem sourcesAt_subset (home : d'.home = d.home) (same : d.tree.Same d'.tree)
    (proper : d.tree.Proper) (proper' : d'.tree.Proper) : d.sourcesAt root ⊆ d'.sourcesAt root := by
  intro f hf
  obtain ⟨n, place, bytes, hfind, there, rest⟩ := (mem_sourcesAt proper).1 hf
  obtain ⟨n', hfind', same⟩ := find_of_same home same hfind
  exact (mem_sourcesAt proper').2 ⟨n', place, bytes, hfind', same.file there, rest⟩

/-- **Discovery is complete and exact, and the order of directory entries has no say in it.** The
source files at a root are the files at or below it whose last name is something, a dot and one of
the known extensions; each is listed once, as what its extension says, and they come in the strict
order of their paths, of which no two files have the same. Only what is below a directory that
cannot be asked for its entries is left out. -/
theorem sourcesAt_exact (proper : d.tree.Proper) (spelled : d.tree.Spelled) (root : Path) :
    (∀ f, f ∈ d.sourcesAt root ↔
      ∃ n place bytes, d.find root = .ok n ∧ n.at? place = some (.file bytes) ∧
        root.Listed place ∧ f.path = root.below place ∧
        ∃ stem, stem ≠ "" ∧
          f.path.components.getLast? = some (.name (stem ++ "." ++ f.kind.extension))) ∧
    (d.sourcesAt root).Pairwise SourceFile.IsBefore ∧
    (∀ n place place' file file', d.find root = .ok n → n.at? place = some file →
      n.at? place' = some file' → root.below place = root.below place' → place = place') ∧
    ∀ d' : Disk, d'.home = d.home → d.tree.Relisted d'.tree →
      d'.sourcesAt root = d.sourcesAt root := by
  refine ⟨fun f => ?exact, sourcesAt_pairwise proper spelled root, ?apart, ?relisted⟩
  case exact => simp only [mem_sourcesAt proper, FileKind.ofPath?_eq_some]
  case apart =>
    intro n place place' file file' hfind there there' same
    have spelled := spelled_of_find spelled hfind
    exact Path.eq_of_below_eq (spelled.at? there).1 (spelled.at? there').1 same
  case relisted =>
    intro d' home relisted
    have proper' := relisted.proper proper
    have same := relisted.same proper
    exact List.Subset.antisymm_of_pairwise
      (sourcesAt_pairwise proper' (relisted.spelled spelled) root)
      (sourcesAt_pairwise proper spelled root)
      (sourcesAt_subset home.symm same.symm proper' proper)
      (sourcesAt_subset home same proper proper')

/-- A file of the name of an extension alone is hidden and has none, and a directory of such a name
is no file. What is in a directory comes before a file whose name goes on from the directory's. -/
theorem sourcesAt_exact_mixed :
    let inner := [(".c", Node.file []), ("b.c", Node.file [1])]
    let entries := [("a.c", Node.file []), ("a", .directory inner),
      ("x.txt", .directory [("..py", Node.file [])]), ("m.C", .file []), ("n.tar.java", .file [2])]
    let d : Disk := ⟨.directory entries, []⟩
    let d' : Disk := ⟨.directory (("a", .directory inner.reverse) :: entries.eraseIdx 1), []⟩
    let found : List SourceFile := [⟨⟨"./a/b.c"⟩, .c⟩, ⟨⟨"./a.c"⟩, .c⟩, ⟨⟨"./n.tar.java"⟩, .java⟩,
      ⟨⟨"./x.txt/..py"⟩, .python⟩]
    d.tree.Proper ∧ d.tree.Spelled ∧ d.tree.Relisted d'.tree ∧ found.Pairwise SourceFile.IsBefore ∧
      d.sourcesAt ⟨"."⟩ = found ∧ d'.sourcesAt ⟨"."⟩ = found := by
  intro inner entries d d' found
  have proper : d.tree.Proper := by
    simp [d, entries, inner, Node.Proper, Node.ProperEntries]
  have spelled : d.tree.Spelled := by
    refine ⟨?_, trivial, ?_, ⟨?_, trivial, ?_, trivial, trivial⟩, ?_, ⟨?_, trivial, trivial⟩, ?_,
      trivial, ?_, trivial, trivial⟩ <;> decide
  have relisted : d.tree.Relisted d'.tree :=
    .trans (.inside [("a.c", .file [])] "a" (.reordered inner.reverse_perm.symm) _)
      (.reordered (.swap _ _ _))
  obtain ⟨-, rising, -, any⟩ := sourcesAt_exact proper spelled ⟨"."⟩
  have rises : found.Pairwise SourceFile.IsBefore := by decide +kernel
  have same : ((d.tree.files ⟨"."⟩).filterMap SourceFile.ofPath?).Perm found := by decide +kernel
  have seen := ((sourcesAt_perm rfl).trans same).eq_of_pairwise' rising rises
  exact ⟨proper, spelled, relisted, rises, seen, (any d' rfl relisted).trans seen⟩

end Disk

end Corpus
