import Corpus.Proofs.CommandLine.Arguments
import Corpus.Proofs.CommandLine.Harmless
import Mathlib.Data.List.Flatten

/-!
# What asking for detail does

Two runs whose command lines differ only in how often they ask for more detail do the same and end
the same. They differ in which entries of the log are shown, and the entries are shown by level, so

> **what is shown at one level is shown at every higher one** (`run_verbosity`).

The level is the number of requests, where there are any, and that of informational entries where
there are none. So the first request does not raise the level but lowers it, to that of errors. No
entry is an error, and with one request none is shown at all (`Options.shownLog_once`): entries that
are shown when no detail is asked for come back with the third request.
-/

set_option autoImplicit false

namespace Corpus.CommandLine

open Corpus.Text

/-! ## Lines -/

/-- The lines of a text. What is behind the last line feed is one, too. -/
def linesOf (text : String) : List String :=
  (text.toList.splitOn '\n').map String.ofList

theorem linesOf_append_newline (before behind : String) :
    linesOf (before ++ "\n" ++ behind) = linesOf before ++ linesOf behind := by
  have spelled : (before ++ "\n" ++ behind).toList = before.toList ++ '\n' :: behind.toList := by
    rw [String.toList_append, String.toList_append, List.append_assoc]
    rfl
  rw [linesOf, spelled, List.splitOn_append_cons_self, List.map_append]
  rfl

/-- What was put together line by line comes apart again, into more lines where one of them was
several. -/
theorem linesOf_lines (ls : List String) : linesOf (lines ls) = ls.flatMap linesOf ++ [""] := by
  induction ls with
  | nil => rfl
  | cons l ls ih =>
    have join : lines (l :: ls) = l ++ "\n" ++ lines ls := by
      rw [lines, List.map_cons, String.join_cons]
      rfl
    rw [join, linesOf_append_newline, ih, List.flatMap_cons, List.append_assoc]

/-! ## Levels -/

variable {o o' : Options} {log : List LogEntry}

/-- The level down to which the log is shown where more detail was asked for so often. -/
def levelAt (times : Nat) : Nat :=
  if times = 0 then LogLevel.info.verbosity else times

/-- Requests are counted up to a number above all levels. -/
theorem Options.verbosity_eq {n : Nat} (h : o.verbose = min n 255) :
    o.verbosity = min (levelAt n) 255 := by
  unfold verbosity levelAt
  by_cases never : n = 0
  · rw [if_pos never, if_pos (by rw [h, never]; rfl)]
    rfl
  · rw [if_neg never, if_neg (by omega), h]

/-- A higher level shows more. -/
theorem Options.shownLog_sublist (loud : o'.quiet = false) (h : o.verbosity ≤ o'.verbosity)
    (log : List LogEntry) : (o.shownLog log).Sublist (o'.shownLog log) := by
  apply List.Sublist.map
  apply List.monotone_filter_right
  intro e shown
  simp only [shows, Bool.and_eq_true, decide_eq_true_eq] at shown ⊢
  refine ⟨?_, Nat.le_trans shown.2 h⟩
  rw [loud]
  rfl

/-- Nothing is shown where detail is asked for once. -/
theorem Options.shownLog_once (h : o.verbose = 1) (log : List LogEntry) : o.shownLog log = [] := by
  have level : o.verbosity = 1 := by
    simp [verbosity, h]
  rw [shownLog, List.map_eq_nil_iff, List.filter_eq_nil_iff]
  intro e _ shown
  have no_error : 2 ≤ e.level.verbosity := by
    cases e <;> simp [LogEntry.level, LogLevel.verbosity]
  simp only [shows, level, Bool.and_eq_true, decide_eq_true_eq] at shown
  omega

/-! ## Runs -/

/-- How a run ends has nothing to do with the detail that was asked for, but for the entries that
are shown. -/
theorem exists_exit (d : Disk) (o : Options) (entropy : UInt64) :
    ∃ code out log ending disk, ∀ k, runOptions d { o with verbose := k } entropy =
      ⟨code, out, lines (Options.shownLog { o with verbose := k } log ++ ending), disk⟩ := by
  unfold runOptions
  dsimp only
  cases runBatch d o.sources .words o.sizes (o.seed?.getD entropy) with
  | error fault => exact ⟨101, lines [beginning o], [], [fault.message], d, fun k => rfl⟩
  | ok answer =>
    obtain ⟨e | b, log⟩ := answer
    · exact ⟨1, lines [beginning o], log, [errorLine e], d, fun k => rfl⟩
    · dsimp only
      rcases writeRecords d o.target b.records with ⟨e | _, made⟩
      · exact ⟨1, lines [beginning o, writing o], log, [errorLine e], made, fun k => rfl⟩
      · refine ⟨0, lines ([beginning o, writing o] ++ summary o b), log, [], made, fun k => ?_⟩
        rw [List.append_nil]
        rfl

/-- With a seed, a run needs no entropy. -/
theorem runOptions_of_seed (h : o.seed?.isSome = true) (d : Disk) (entropy entropy' : UInt64) :
    runOptions d o entropy' = runOptions d o entropy := by
  obtain ⟨seed, given⟩ := Option.isSome_iff_exists.1 h
  simp only [runOptions, given, Option.getD_some]

/-- **Detail changes what is shown of the log and nothing else.** Two accepted command lines with a
seed that do not ask for silence and differ in nothing but their requests for detail have the same
exit code, the same output and the same disk afterwards. Where the first is not shown at a higher
level than the second, every line that the first run shows the second shows as well. -/
theorem run_verbosity {a b : List String} {o o' : Options} (accepted : request a = .run o)
    (accepted' : request b = .run o') (loud : o.quiet = false) (loud' : o'.quiet = false)
    (seeded : o.seed?.isSome = true) (same : otherArguments b = otherArguments a) (d : Disk)
    (entropy entropy' : UInt64) :
    let exit := run d a entropy
    let exit' := run d b entropy'
    exit'.code = exit.code ∧ exit'.stdout = exit.stdout ∧ exit'.disk = exit.disk ∧
      (levelAt (detail a) ≤ levelAt (detail b) →
        (linesOf exit.stderr).Sublist (linesOf exit'.stderr)) := by
  intro exit exit'
  -- Without their requests for detail, the two command lines ask for the same.
  obtain ⟨others, verbose⟩ := request_otherArguments accepted loud
  obtain ⟨others', verbose'⟩ := request_otherArguments accepted' loud'
  rw [same, others] at others'
  have options_eq : { o with verbose := o'.verbose } = o' :=
    congrArg (fun x : Options => { x with verbose := o'.verbose }) (Request.run.inj others')
  obtain ⟨code, out, log, ending, disk, ends⟩ := exists_exit d o entropy
  have exit_eq : exit = ⟨code, out, lines (o.shownLog log ++ ending), disk⟩ :=
    (run_of_request accepted d entropy).trans (ends o.verbose)
  have exit_eq' : exit' = ⟨code, out, lines (o'.shownLog log ++ ending), disk⟩ := by
    have seeded' : o'.seed?.isSome = true := options_eq ▸ seeded
    have at_level := ends o'.verbose
    rw [options_eq, ← runOptions_of_seed seeded' d entropy entropy'] at at_level
    exact (run_of_request accepted' d entropy').trans at_level
  rw [exit_eq, exit_eq']
  refine ⟨rfl, rfl, rfl, fun levels => ?_⟩
  have higher : o.verbosity ≤ o'.verbosity := by
    rw [Options.verbosity_eq verbose, Options.verbosity_eq verbose']
    exact min_le_min_right 255 levels
  have shown := Options.shownLog_sublist loud' higher log
  rw [linesOf_lines, linesOf_lines]
  apply List.Sublist.append_right
  exact (shown.append_right ending).flatMap linesOf

/-- Two requests in one argument, and three in as many that stand elsewhere. -/
theorem run_verbosity_third :
    let a := ["-vv", "--source", "a.txt", "--target", "o.json", "--seed", "7"]
    let b := ["--source", "a.txt", "-v", "--target", "o.json", "--verbose", "--seed", "7", "-v"]
    otherArguments b = otherArguments a ∧ detail a = 2 ∧ detail b = 3 ∧
      (run oneText b 1).code = (run oneText a 0).code ∧
      (run oneText b 1).stdout = (run oneText a 0).stdout ∧
      (run oneText b 1).disk = (run oneText a 0).disk ∧
      (linesOf (run oneText a 0).stderr).Sublist (linesOf (run oneText b 1).stderr) := by
  intro a b
  have accepted : request a =
      .run ⟨[⟨"a.txt"⟩], ⟨"o.json"⟩, some 7, .usual, false, 2, false⟩ := by
    rfl
  have accepted' : request b =
      .run ⟨[⟨"a.txt"⟩], ⟨"o.json"⟩, some 7, .usual, false, 3, false⟩ := by
    rfl
  have same : otherArguments b = otherArguments a := by rfl
  have two : detail a = 2 := by rfl
  have three : detail b = 3 := by rfl
  obtain ⟨code, out, disk, shown⟩ := run_verbosity accepted accepted' rfl rfl rfl same oneText 0 1
  refine ⟨same, two, three, code, out, disk, shown ?_⟩
  rw [two, three]
  decide

/-- The first request takes away what is shown without it. -/
theorem run_hides_log_when_asked_once :
    let arguments := ["--source", "a.txt", "--target", "o.json", "--seed", "7"]
    let silent := run oneText (arguments ++ ["-v"]) 0
    let told := run oneText arguments 0
    "INFO Processing 1 files with seed 7" ∈ linesOf told.stderr ∧ silent.stderr = "" ∧
      ¬ (linesOf told.stderr).Subperm (linesOf silent.stderr) := by
  intro arguments silent told
  have options : request arguments =
      .run ⟨[⟨"a.txt"⟩], ⟨"o.json"⟩, some 7, .usual, false, 0, false⟩ := by
    rfl
  have options' : request (arguments ++ ["-v"]) =
      .run ⟨[⟨"a.txt"⟩], ⟨"o.json"⟩, some 7, .usual, false, 1, false⟩ := by
    rfl
  obtain ⟨outcomes, ran⟩ := exists_run_oneText
  have wrote : writeRecords oneText ⟨"o.json"⟩ (recordsOf outcomes) =
      (.ok (), (writeRecords oneText ⟨"o.json"⟩ (recordsOf outcomes)).2) := by
    rfl
  have told_eq : told = _ :=
    (run_of_request options oneText 0).trans (runOptions_of_written ran wrote)
  have silent_eq : silent = _ :=
    (run_of_request options' oneText 0).trans (runOptions_of_written ran wrote)
  have told_line : "INFO Processing 1 files with seed 7" ∈ linesOf told.stderr := by
    rw [told_eq, linesOf_lines]
    apply List.mem_append_left
    exact List.mem_flatMap.2 ⟨_, List.mem_cons_self, by decide⟩
  have silence : silent.stderr = "" := by
    rw [silent_eq, Options.shownLog_once rfl]
    rfl
  refine ⟨told_line, silence, ?_⟩
  rintro ⟨shown, perm, sub⟩
  have nowhere := sub.subset (perm.mem_iff.2 told_line)
  rw [silence] at nowhere
  exact absurd nowhere (by decide)

end Corpus.CommandLine
