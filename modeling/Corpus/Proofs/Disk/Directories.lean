import Corpus.Proofs.Disk.Elsewhere

/-!
# Directories that are made

Before a text is written, directories are made around its place, and some may have been made where
it then turns out that the text cannot be written. What can have been made is little:

> **whatever was there is still there, and what is new is a directory to which one of the paths
> leads** (`Disk.MakesOnly`).

Each directory is made by itself and the next one on the disk that it leaves, so this is shown for
one of them and then for one after the other (`Disk.MakesOnly.trans`). That a path led to a new
directory when it was made is not enough for the second; it must still lead there afterwards, which
it does, since directories are kept.
-/

set_option autoImplicit false

namespace Corpus

open Corpus.Text

namespace Disk

/-- From the first disk to the second, nothing but directories is made, and those by the paths. -/
structure MakesOnly (paths : List Path) (d d' : Disk) : Prop where
  home : d'.home = d.home
  kept : ∀ place n, d.tree.at? place = some n →
    (d'.tree.at? place).map Node.content = some n.content
  made : ∀ place, d.tree.at? place = none → ∀ n, d'.tree.at? place = some n →
    n.isDirectory = true ∧ ∃ p ∈ paths, d'.LeadsTo p place

variable {d d' d'' : Disk} {p : Path} {paths paths' : List Path} {place : Place}

namespace MakesOnly

theorem refl (paths : List Path) (d : Disk) : MakesOnly paths d d where
  home := rfl
  kept := by
    intro place n there
    rw [there, Option.map_some]
  made := by
    intro place nothing n there
    rw [nothing] at there
    cases there

theorem mono (h : MakesOnly paths d d') (more : paths ⊆ paths') : MakesOnly paths' d d' where
  home := h.home
  kept := h.kept
  made := by
    intro place nothing n there
    obtain ⟨directory, p, hp, way⟩ := h.made place nothing n there
    exact ⟨directory, p, more hp, way⟩

theorem keepsDirectories (h : MakesOnly paths d d') : Node.KeepsDirectories d.tree d'.tree := by
  intro place entries there
  obtain ⟨n, there', held⟩ := Option.map_eq_some_iff.1 (h.kept place _ there)
  obtain ⟨entries', rfl⟩ := Node.content_eq_none.1 held
  exact ⟨entries', there'⟩

/-- A path to a directory leads there still. -/
theorem leadsTo (h : MakesOnly paths d d') {entries : List (String × Node)}
    (way : d.LeadsTo p place) (there : d.tree.at? place = some (.directory entries)) :
    d'.LeadsTo p place := by
  obtain ⟨r, t, hroute, hwalk, rfl⟩ := leadsTo_iff.1 way
  rw [Trail.at?_place (Trail.isIn_walk hwalk), Option.some.injEq] at there
  obtain ⟨t', hwalk', beside⟩ := Trail.exists_walk h.keepsDirectories hwalk there
  exact leadsTo_iff.2 ⟨r, t', (route_of_home h.home p).trans hroute, hwalk', beside.place_eq⟩

theorem trans (h : MakesOnly paths d d') (h' : MakesOnly paths d' d'') : MakesOnly paths d d'' where
  home := h'.home.trans h.home
  kept := by
    intro place n there
    obtain ⟨n', there', held⟩ := Option.map_eq_some_iff.1 (h.kept place n there)
    rw [h'.kept place n' there', held]
  made := by
    intro place nothing n there
    cases between : d'.tree.at? place with
    | none => exact h'.made place between n there
    | some n' =>
      -- It was made in the first half, and is a directory; so it is still one, and reached.
      obtain ⟨directory, p, hp, way⟩ := h.made place nothing n' between
      cases n' with
      | file bytes => cases directory
      | directory entries =>
        obtain ⟨entries', there'⟩ := h'.keepsDirectories place entries between
        obtain rfl := Option.some.inj (there.symm.trans there')
        exact ⟨rfl, p, hp, h'.leadsTo way between⟩

end MakesOnly

/-! ## How directories are made -/

end Disk

end Corpus
