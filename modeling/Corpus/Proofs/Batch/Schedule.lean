import Corpus.Proofs.Batch.Outcomes
import Mathlib.Data.List.Perm.Basic
import Mathlib.Logic.Relation

/-!
# Batches worked on in any order

`runBatch` goes through its files one after the other. They may as well be worked on all at once,
with as many workers as one likes: a worker shares nothing with the others but two counters and the
log. This module has the pool of work as a step relation. A step is one indivisible thing that some
worker does for one file (`Batch.Step`), and any of the files can be the next to come further.

**The order does not matter** (`Batch.result_any_order`). Whatever the order was, a pool that is
done gives the result of `runBatch`, and has told the same up to order. What is true of every pool
on the way is `Batch.Sound`: the counters and the log hold just what the jobs have put there, so
that no number is given out twice or left out.
-/

set_option autoImplicit false

namespace Corpus

open Relation (ReflTransGen)

/-! ## The pool -/

/-- What a batch is asked to do. -/
structure Batch where
  files : List SourceFile
  disk : Disk
  segmenter : Text.Segmenter
  sizes : WindowSizes
  seed : UInt64

/-- How far the work on one file has come. -/
inductive Job where
  | waiting
  /-- It has come to something. So many entries of its log are told. -/
  | computed (o : FileOutcome) (told : Nat)
  /-- It is counted with the processed files, and got its number there. -/
  | counted (o : FileOutcome) (number : Nat)
  /-- It is counted with the errors as well, if it is one. -/
  | noted (o : FileOutcome) (number : Nat)
  /-- It has told of progress, if its number calls for it. -/
  | finished (o : FileOutcome) (number : Nat)

/-- The jobs of a batch, in the order of its files, and what they share. -/
structure Pool where
  jobs : List Job
  processed : Nat
  errors : Nat
  log : List LogEntry

/-- Why a file gave no records, if it gave none. -/
def FileOutcome.errors (o : FileOutcome) : List CorpusError :=
  match o.result with
  | .ok _ => []
  | .error e => [e]

/-- The pool after one job has come further, with what that adds to the counters and to the log. -/
def Pool.advance (p : Pool) (i : Nat) (job : Job) (processed errors : Nat)
    (entries : List LogEntry) : Pool :=
  ⟨p.jobs.set i job, p.processed + processed, p.errors + errors, p.log ++ entries⟩

namespace Batch

/-- The file at a place comes to that. -/
def Gives (b : Batch) (i : Nat) (o : FileOutcome) : Prop :=
  ∃ file, b.files[i]? = some file ∧
    file.outcomeAt b.disk b.segmenter b.sizes b.seed i = .ok o

/-- The pool before any work. -/
def start (b : Batch) : Pool :=
  ⟨List.replicate b.files.length .waiting, 0, 0, []⟩

/-- One job comes further by one step. Between two steps of a job there may be any steps of others,
so the number that a job gets says nothing of its place, and progress need not be told in order. -/
inductive Step (b : Batch) (p : Pool) : Pool → Prop where
  /-- The file is read, lexed and windowed. -/
  | compute {i : Nat} {o : FileOutcome} (here : p.jobs[i]? = some .waiting) (gives : b.Gives i o) :
    Step b p (p.advance i (.computed o 0) 0 0 [])
  /-- The next entry of its log is told. -/
  | tell {i told : Nat} {o : FileOutcome} {entry : LogEntry}
    (here : p.jobs[i]? = some (.computed o told)) (next : o.log[told]? = some entry) :
    Step b p (p.advance i (.computed o (told + 1)) 0 0 [entry])
  /-- It gets the next number of the processed files. -/
  | count {i told : Nat} {o : FileOutcome} (here : p.jobs[i]? = some (.computed o told))
    (all : o.log.length ≤ told) :
    Step b p (p.advance i (.counted o (p.processed + 1)) 1 0 [])
  /-- It is added to the errors. That is nothing if it gave records. -/
  | note {i number : Nat} {o : FileOutcome} (here : p.jobs[i]? = some (.counted o number)) :
    Step b p (p.advance i (.noted o number) 0 o.errors.length [])
  /-- Progress is told, by the number that it got before. -/
  | finish {i number : Nat} {o : FileOutcome} (here : p.jobs[i]? = some (.noted o number)) :
    Step b p (p.advance i (.finished o number) 0 0 (progress number b.files.length))

end Batch

/-! ## What a job has done so far -/

namespace Job

def outcome? : Job → Option FileOutcome
  | waiting => none
  | computed o _ | counted o _ | noted o _ | finished o _ => some o

/-- The number that it got from the counter of processed files. -/
def numbers : Job → List Nat
  | waiting | computed _ _ => []
  | counted _ number | noted _ number | finished _ number => [number]

/-- What it has added to the counter of errors. -/
def errors : Job → List CorpusError
  | waiting | computed _ _ | counted _ _ => []
  | noted o _ | finished o _ => o.errors

/-- What it has told, in a batch of so many files. -/
def told (files : Nat) : Job → List LogEntry
  | waiting => []
  | computed o told => o.log.take told
  | counted o _ | noted o _ => o.log
  | finished o number => o.log ++ progress number files

def IsFinished (job : Job) : Prop :=
  ∃ o number, job = finished o number

end Job

/-- All jobs are done. -/
def Pool.IsComplete (p : Pool) : Prop :=
  ∀ job ∈ p.jobs, job.IsFinished

/-- Where one item of a list is replaced by another that stands for more, the list does too. -/
theorem perm_flatMap_set {α β : Type} {f : α → List β} {l : List α} {i : Nat} {old new : α}
    {more : List β} (here : l[i]? = some old) (hnew : f new = f old ++ more) :
    ((l.set i new).flatMap f).Perm (l.flatMap f ++ more) := by
  induction l generalizing i with
  | nil => cases here
  | cons a l ih =>
    cases i with
    | zero =>
      cases here
      rw [List.set_cons_zero, List.flatMap_cons, List.flatMap_cons, hnew, List.append_assoc,
        List.append_assoc]
      exact List.perm_append_comm.append_left _
    | succ i =>
      rw [List.set_cons_succ, List.flatMap_cons, List.flatMap_cons, List.append_assoc]
      exact (ih here).append_left _

namespace Batch

variable {b : Batch} {p q : Pool} {i : Nat}

/-- What the jobs of a pool that is done have come to, with their files. -/
def outcomes (b : Batch) (p : Pool) : List (SourceFile × FileOutcome) :=
  b.files.zip (p.jobs.filterMap Job.outcome?)

/-- The result that is put together from a pool in the end. -/
def result (b : Batch) (p : Pool) : BatchResult :=
  ⟨recordsOf (b.outcomes p), failuresOf (b.outcomes p), (b.outcomes p).length, b.seed⟩

/-- All that is told, the entries before and after the work included. -/
def told (b : Batch) (p : Pool) : List LogEntry :=
  .batch b.files.length b.seed :: p.log ++
    ((if 0 < p.errors then [.failed p.errors] else []) ++
      (failuresOf (b.outcomes p)).map fun (_, e) => .failure e)

/-! ## What is true of every pool -/

/-- The jobs are those of the files, and all that is shared is what they have put there. -/
structure Sound (b : Batch) (p : Pool) : Prop where
  length_jobs : p.jobs.length = b.files.length
  gives : ∀ i job o, p.jobs[i]? = some job → job.outcome? = some o → b.Gives i o
  numbers : (p.jobs.flatMap Job.numbers).Perm (List.range' 1 p.processed)
  errors : (p.jobs.flatMap Job.errors).length = p.errors
  log : p.log.Perm (p.jobs.flatMap (Job.told b.files.length))

theorem sound_start (b : Batch) : b.Sound b.start where
  length_jobs := List.length_replicate
  gives := by
    intro i job o here comes
    rw [List.eq_of_mem_replicate (List.mem_of_getElem? here)] at comes
    cases comes
  numbers := by simp [start, List.flatMap_replicate, Job.numbers]
  errors := by simp [start, List.flatMap_replicate, Job.errors]
  log := by simp [start, List.flatMap_replicate, Job.told]

/-- A pool stays sound if one job comes further, and what that adds to the counters and to the log
is what the job itself has done. -/
theorem Sound.advance (h : b.Sound p) {old : Job} (here : p.jobs[i]? = some old) (new : Job)
    (processed : Nat) (added : List CorpusError) (entries : List LogEntry)
    (gives : new.outcome? = old.outcome? ∨ ∃ o, new.outcome? = some o ∧ b.Gives i o)
    (numbers : new.numbers = old.numbers ++ List.range' (1 + p.processed) processed)
    (errors : new.errors = old.errors ++ added)
    (told : new.told b.files.length = old.told b.files.length ++ entries) :
    b.Sound (p.advance i new processed added.length entries) where
  length_jobs := by rw [Pool.advance, List.length_set, h.length_jobs]
  gives := by
    intro j job o hjob comes
    have hjob : (p.jobs.set i new)[j]? = some job := hjob
    by_cases same : i = j
    · subst same
      rw [List.getElem?_set_self (List.getElem?_eq_some_iff.1 here).1] at hjob
      cases hjob
      rcases gives with kept | ⟨o', made, gives⟩
      · exact h.gives i old o here (kept ▸ comes)
      · rw [made] at comes
        cases comes
        exact gives
    · rw [List.getElem?_set_ne same] at hjob
      exact h.gives j job o hjob comes
  numbers := by
    rw [Pool.advance, ← List.range'_append_1]
    exact (perm_flatMap_set here numbers).trans (h.numbers.append_right _)
  errors := by
    rw [Pool.advance, (perm_flatMap_set here errors).length_eq, List.length_append, h.errors]
  log := (h.log.append_right _).trans (perm_flatMap_set here told).symm

theorem Sound.step (h : b.Sound p) (hstep : b.Step p q) : b.Sound q := by
  cases hstep with
  | @compute i o here gives =>
    exact h.advance here (.computed o 0) 0 [] [] (.inr ⟨o, rfl, gives⟩) rfl rfl rfl
  | @tell i told o entry here next =>
    refine h.advance here (.computed o (told + 1)) 0 [] [entry] (.inl rfl) rfl rfl ?_
    simp only [Job.told, List.take_add_one, next, Option.toList_some]
  | @count i told o here all =>
    refine h.advance here (.counted o (p.processed + 1)) 1 [] [] (.inl rfl) ?_ rfl ?_
    · rw [Nat.add_comm]
      rfl
    · simp only [Job.told, List.take_of_length_le all, List.append_nil]
  | @note i number o here =>
    refine h.advance here (.noted o number) 0 o.errors [] (.inl rfl) rfl rfl ?_
    simp only [Job.told, List.append_nil]
  | @finish i number o here =>
    exact h.advance here (.finished o number) 0 [] (progress number b.files.length) (.inl rfl) rfl
      (List.append_nil _).symm rfl

theorem Sound.reachable (h : b.Sound p) (run : ReflTransGen b.Step p q) : b.Sound q := by
  induction run with
  | refl => exact h
  | tail _ hstep ih => exact ih.step hstep

/-! ## Every batch can be brought to an end -/

/-- A job is done, and the others are where they were. -/
def CanFinish (b : Batch) (p : Pool) (i : Nat) : Prop :=
  ∃ q, ReflTransGen b.Step p q ∧ (∃ job, q.jobs[i]? = some job ∧ job.IsFinished) ∧
    ∀ j, j ≠ i → q.jobs[j]? = p.jobs[j]?

theorem getElem?_advance {old : Job} (here : p.jobs[i]? = some old) (new : Job)
    (processed errors : Nat) (entries : List LogEntry) :
    (p.advance i new processed errors entries).jobs[i]? = some new :=
  List.getElem?_set_self (List.getElem?_eq_some_iff.1 here).1

theorem CanFinish.of_advance {new : Job} {processed errors : Nat} {entries : List LogEntry}
    (hstep : b.Step p (p.advance i new processed errors entries))
    (h : b.CanFinish (p.advance i new processed errors entries) i) : b.CanFinish p i := by
  obtain ⟨q, run, finished, others⟩ := h
  refine ⟨q, .head hstep run, finished, fun j hj => ?_⟩
  rw [others j hj]
  exact List.getElem?_set_ne hj.symm

theorem canFinish_of_noted {o : FileOutcome} {number : Nat}
    (here : p.jobs[i]? = some (.noted o number)) : b.CanFinish p i :=
  .of_advance (.finish here)
    ⟨_, .refl, ⟨_, getElem?_advance here _ _ _ _, o, number, rfl⟩, fun _ _ => rfl⟩

theorem canFinish_of_computed {o : FileOutcome} {told : Nat}
    (here : p.jobs[i]? = some (.computed o told)) : b.CanFinish p i := by
  induction left : o.log.length - told generalizing p told with
  | zero =>
    refine .of_advance (.count here (Nat.le_of_sub_eq_zero left)) ?_
    have counted := getElem?_advance here (.counted o (p.processed + 1)) 1 0 []
    exact .of_advance (.note counted) (canFinish_of_noted (getElem?_advance counted _ _ _ _))
  | succ left' ih =>
    have more : told < o.log.length := by omega
    exact .of_advance (.tell here (List.getElem?_eq_getElem more))
      (ih (getElem?_advance here _ _ _ _) (by omega))

theorem canFinish (hsizes : b.sizes.Valid) (h : b.Sound p) (hi : i < b.files.length) :
    b.CanFinish p i := by
  have hi' : i < p.jobs.length := h.length_jobs.symm ▸ hi
  have here : p.jobs[i]? = some p.jobs[i] := List.getElem?_eq_getElem hi'
  cases hjob : p.jobs[i] with
  | waiting =>
    rw [hjob] at here
    obtain ⟨o, ho⟩ := SourceFile.exists_outcome hsizes b.files[i] b.disk b.segmenter
      (Random.ChaCha.ofSeed (seedAt b.seed i))
    exact .of_advance (.compute here ⟨_, List.getElem?_eq_getElem hi, ho⟩)
      (canFinish_of_computed (getElem?_advance here _ _ _ _))
  | computed o told => exact canFinish_of_computed (hjob ▸ here)
  | counted o number =>
    rw [hjob] at here
    exact .of_advance (.note here) (canFinish_of_noted (getElem?_advance here _ _ _ _))
  | noted o number => exact canFinish_of_noted (hjob ▸ here)
  | finished o number =>
    exact ⟨p, .refl, ⟨_, here, o, number, hjob⟩, fun _ _ => rfl⟩

/-- The jobs up to a place can be done one after the other. -/
theorem exists_finished_upTo (hsizes : b.sizes.Valid) (h : b.Sound p) {n : Nat}
    (hn : n ≤ b.files.length) :
    ∃ q, ReflTransGen b.Step p q ∧ ∀ i < n, ∃ job, q.jobs[i]? = some job ∧ job.IsFinished := by
  induction n with
  | zero => exact ⟨p, .refl, fun i hi => absurd hi (Nat.not_lt_zero i)⟩
  | succ n ih =>
    obtain ⟨q, run, finished⟩ := ih (Nat.le_of_succ_le hn)
    obtain ⟨r, further, last, others⟩ := canFinish hsizes (h.reachable run) hn
    refine ⟨r, run.trans further, fun i hi => ?_⟩
    by_cases same : i = n
    · exact same ▸ last
    · rw [others i same]
      exact finished i (by omega)

/-- Whatever the order was so far, there is a way on to the end. -/
theorem exists_complete (hsizes : b.sizes.Valid) (h : b.Sound p) :
    ∃ q, ReflTransGen b.Step p q ∧ q.IsComplete := by
  obtain ⟨q, run, finished⟩ := exists_finished_upTo hsizes h (Nat.le_refl _)
  refine ⟨q, run, fun job hjob => ?_⟩
  obtain ⟨i, hi, rfl⟩ := List.mem_iff_getElem.1 hjob
  obtain ⟨job, here, done⟩ := finished i ((h.reachable run).length_jobs ▸ hi)
  rw [List.getElem?_eq_getElem hi] at here
  cases here
  exact done

/-! ## Pools that are done -/

/-- What finished jobs have from their outcomes alone. -/
theorem flatMap_of_finished {β : Type} {jobs : List Job} (done : ∀ job ∈ jobs, job.IsFinished)
    {f : Job → List β} {g : FileOutcome → List β}
    (hf : ∀ o number, f (.finished o number) = g o) :
    jobs.flatMap f = (jobs.filterMap Job.outcome?).flatMap g := by
  induction jobs with
  | nil => rfl
  | cons job jobs ih =>
    obtain ⟨⟨o, number, rfl⟩, others⟩ := List.forall_mem_cons.1 done
    rw [List.flatMap_cons, hf, ih others]
    rfl

/-- Finished jobs have told their logs, and the progress that goes with their numbers. -/
theorem perm_told_of_finished {jobs : List Job} (done : ∀ job ∈ jobs, job.IsFinished)
    (files : Nat) :
    (jobs.flatMap (Job.told files)).Perm
      ((jobs.filterMap Job.outcome?).flatMap FileOutcome.log ++
        (jobs.flatMap Job.numbers).flatMap (progress · files)) := by
  have logs := flatMap_of_finished done
    (f := fun job => job.outcome?.toList.flatMap FileOutcome.log) fun o _ =>
      List.flatMap_singleton FileOutcome.log o
  have parts : jobs.flatMap (Job.told files) =
      jobs.flatMap fun job => job.outcome?.toList.flatMap FileOutcome.log ++
        job.numbers.flatMap (progress · files) := by
    refine List.flatMap_congr fun job hjob => ?_
    obtain ⟨o, number, rfl⟩ := done job hjob
    simp only [Job.told, Job.outcome?, Job.numbers, Option.toList_some, List.flatMap_singleton]
  rw [parts, List.flatMap_assoc, ← logs]
  exact (List.flatMap_append_perm _ _ _).symm

/-- The finished jobs have come to what their files give, in the order of the files. -/
theorem Sound.filterMap_outcome? (h : b.Sound p) (done : p.IsComplete)
    {outcomes : List (SourceFile × FileOutcome)} (hfiles : outcomes.map Prod.fst = b.files)
    (hat : b.files.mapIdx (fun i file =>
        file.outcomeAt b.disk b.segmenter b.sizes b.seed (0 + i)) =
      outcomes.map fun x => .ok x.2) :
    p.jobs.filterMap Job.outcome? = outcomes.map Prod.snd := by
  have same : p.jobs.map Job.outcome? = outcomes.map (some ∘ Prod.snd) := by
    refine List.ext_getElem (by simp [h.length_jobs, ← hfiles]) fun i hi hi' => ?_
    rw [List.length_map] at hi hi'
    obtain ⟨o, number, finished⟩ := done p.jobs[i] (List.getElem_mem hi)
    have comes : p.jobs[i].outcome? = some o := congrArg Job.outcome? finished
    obtain ⟨file, hfile, gives⟩ := h.gives i p.jobs[i] o (List.getElem?_eq_getElem hi) comes
    have outcome := getElem?_outcomes hat hfile (by rwa [Nat.zero_add])
    rw [List.getElem?_eq_getElem hi', Option.map_some] at outcome
    rw [List.getElem_map, List.getElem_map, comes, Function.comp_apply, outcome]
  have all := congrArg (List.filterMap id) same
  simpa only [List.filterMap_map, Function.id_comp, ← Function.comp_def, List.filterMap_eq_map]
    using all

theorem Sound.outcomes_eq (h : b.Sound p) (done : p.IsComplete)
    {outcomes : List (SourceFile × FileOutcome)} (hfiles : outcomes.map Prod.fst = b.files)
    (hat : b.files.mapIdx (fun i file =>
        file.outcomeAt b.disk b.segmenter b.sizes b.seed (0 + i)) =
      outcomes.map fun x => .ok x.2) :
    b.outcomes p = outcomes := by
  rw [Batch.outcomes, h.filterMap_outcome? done hfiles hat]
  exact (List.zip_of_prod hfiles rfl).symm

theorem Sound.processed_eq (h : b.Sound p) (done : p.IsComplete) :
    p.processed = b.files.length := by
  have one : (p.jobs.flatMap Job.numbers).length = p.jobs.length := by
    rw [List.length_flatMap]
    calc (p.jobs.map fun job => job.numbers.length).sum
        = (p.jobs.map fun _ => 1).sum := by
          refine congrArg List.sum (List.map_congr_left fun job hjob => ?_)
          obtain ⟨o, number, rfl⟩ := done job hjob
          rfl
      _ = p.jobs.length := by simp
  rw [← h.length_jobs, ← one, h.numbers.length_eq, List.length_range']

theorem length_failuresOf (outcomes : List (SourceFile × FileOutcome)) :
    (failuresOf outcomes).length = ((outcomes.map Prod.snd).flatMap FileOutcome.errors).length := by
  induction outcomes with
  | nil => rfl
  | cons x outcomes ih =>
    obtain ⟨file, ⟨result, log⟩⟩ := x
    cases result with
    | ok records => simpa [failuresOf, FileOutcome.errors] using ih
    | error e => simpa [failuresOf, FileOutcome.errors] using ih

end Batch

/-! ## What is told -/

def LogEntry.isProgress : LogEntry → Bool
  | .progress .. => true
  | _ => false

/-- A file by itself knows nothing of progress. -/
theorem SourceFile.filter_log {σ : Type} [RandomSource σ] {file : SourceFile} {d : Disk}
    {s : Text.Segmenter} {sizes : WindowSizes} {random : σ} {o : FileOutcome}
    (h : file.outcome d s sizes random = .ok o) : o.log.filter LogEntry.isProgress = [] := by
  unfold SourceFile.outcome at h
  dsimp only at h
  cases hread : d.readText file.path with
  | error e =>
    rw [hread] at h
    cases h
    rfl
  | ok source =>
    rw [hread] at h
    cases htokens : file.kind.tokens s source with
    | error e =>
      simp only [htokens] at h
      cases h
      rfl
    | ok found =>
      simp only [htokens] at h
      cases hrecords : file.kind.rendering.records sizes (file.kind.material s found.tokens)
          random with
      | error e =>
        rw [hrecords] at h
        cases h
      | ok records =>
        rw [hrecords] at h
        cases h
        cases found.unmatched? <;> rfl

/-- What is told of progress is told of every hundredth file and of the last. -/
theorem flatMap_progress (numbers : List Nat) (files : Nat) :
    numbers.flatMap (progress · files) =
      (numbers.filter fun k => k % 100 = 0 || k = files).map (LogEntry.progress · files) := by
  induction numbers with
  | nil => rfl
  | cons k numbers ih =>
    rw [List.flatMap_cons, ih, List.filter_cons]
    unfold progress
    split <;> rfl

/-- One file after the other tells what any order tells. -/
theorem perm_logOfFiles (files done : Nat) (outcomes : List (SourceFile × FileOutcome)) :
    (logOfFiles files done outcomes).Perm
      ((outcomes.map Prod.snd).flatMap FileOutcome.log ++
        (List.range' (done + 1) outcomes.length).flatMap (progress · files)) := by
  induction outcomes generalizing done with
  | nil => exact .refl _
  | cons x outcomes ih =>
    obtain ⟨file, o⟩ := x
    simp only [logOfFiles, List.map_cons, List.flatMap_cons, List.length_cons, List.range'_succ,
      List.append_assoc]
    refine List.Perm.append_left _ (((ih (done + 1)).append_left _).trans ?_)
    rw [← List.append_assoc, ← List.append_assoc]
    exact List.perm_append_comm.append_right _

namespace Batch

variable {b : Batch} {p : Pool}

/-- A pool that is done has told the logs of the files and the progress of all numbers. -/
theorem Sound.perm_log (h : b.Sound p) (done : p.IsComplete) :
    p.log.Perm ((p.jobs.filterMap Job.outcome?).flatMap FileOutcome.log ++
      (List.range' 1 b.files.length).flatMap (progress · b.files.length)) := by
  have numbers := h.numbers
  rw [h.processed_eq done] at numbers
  exact (h.log.trans (perm_told_of_finished done _)).trans
    ((numbers.flatMap_right _).append_left _)

theorem Sound.perm_progress (h : b.Sound p) (done : p.IsComplete) :
    (p.log.filter LogEntry.isProgress).Perm
      (((List.range' 1 b.files.length).filter fun k => k % 100 = 0 || k = b.files.length).map
        (LogEntry.progress · b.files.length)) := by
  have logs : ((p.jobs.filterMap Job.outcome?).flatMap FileOutcome.log).filter
      LogEntry.isProgress = [] := by
    rw [List.filter_flatMap, List.flatMap_eq_nil_iff]
    intro o ho
    obtain ⟨job, hjob, comes⟩ := List.mem_filterMap.1 ho
    obtain ⟨i, hi⟩ := List.mem_iff_getElem?.1 hjob
    obtain ⟨file, -, gives⟩ := h.gives i job o hi comes
    exact SourceFile.filter_log gives
  have all := (h.perm_log done).filter LogEntry.isProgress
  rw [List.filter_append, logs, List.nil_append, flatMap_progress] at all
  exact all.trans (.of_eq (List.filter_eq_self.2 (List.forall_mem_map.2 fun _ _ => rfl)))

theorem logOfFailures_eq (failures : List (Path × CorpusError)) :
    logOfFailures failures =
      (if 0 < failures.length then [.failed failures.length] else []) ++
        failures.map fun (_, e) => .failure e := by
  cases failures <;> rfl

/-! ## The order does not matter -/

/-- **A batch comes to the same in any order.** With valid sizes every pool on the way can be
brought to an end. One that is done has the records and the failures that going through the files
one by one gives, in the order of the files. Its counters hold the number of files and the number
of failures, it has told of every hundredth file and of the last exactly once, and all that it has
told is what `runBatch` tells, up to order. -/
theorem result_any_order (b : Batch) (hsizes : b.sizes.check = .ok ()) :
    ∃ outcomes, outcomesFrom b.disk b.segmenter b.sizes b.seed 0 b.files = .ok outcomes ∧
      ∀ p, ReflTransGen b.Step b.start p →
        (∃ q, ReflTransGen b.Step p q ∧ q.IsComplete) ∧
        (p.IsComplete →
          b.result p =
            ⟨recordsOf outcomes, failuresOf outcomes, b.files.length, b.seed⟩ ∧
          p.processed = b.files.length ∧ p.errors = (failuresOf outcomes).length ∧
          ((p.log.filter LogEntry.isProgress).map LogEntry.message).Perm
            (((List.range' 1 b.files.length).filter fun k =>
                k % 100 = 0 || k = b.files.length).map fun k =>
              s!"Processed {k}/{b.files.length} files...") ∧
          ∀ roots, b.disk.sources roots = b.files → b.files ≠ [] →
            ∃ log, runBatch b.disk roots b.segmenter b.sizes b.seed =
                .ok (.ok (b.result p), log) ∧
              (b.told p).Perm log) := by
  have valid := WindowSizes.check_eq_ok.1 hsizes
  obtain ⟨outcomes, houtcomes, hfiles, hat⟩ :=
    exists_outcomesFrom valid b.disk b.segmenter b.seed 0 b.files
  refine ⟨outcomes, houtcomes, fun p run => ?_⟩
  have sound := b.sound_start.reachable run
  refine ⟨exists_complete valid sound, fun done => ?_⟩
  have same := sound.outcomes_eq done hfiles hat
  have length := length_outcomes hfiles
  have result : b.result p =
      ⟨recordsOf outcomes, failuresOf outcomes, b.files.length, b.seed⟩ := by
    rw [Batch.result, same, length]
  have errors : p.errors = (failuresOf outcomes).length := by
    rw [← sound.errors, length_failuresOf, ← sound.filterMap_outcome? done hfiles hat]
    exact congrArg List.length (flatMap_of_finished done fun _ _ => rfl)
  refine ⟨result, sound.processed_eq done, errors, ?_, ?_⟩
  · have lines := (sound.perm_progress done).map LogEntry.message
    rwa [List.map_map] at lines
  · intro roots hroots some_files
    rw [← hroots] at houtcomes some_files
    have ran := runBatch_of_outcomes hsizes some_files houtcomes
    rw [length, ← result, hroots] at ran
    have log : p.log.Perm (logOfFiles b.files.length 0 outcomes) := by
      refine (sound.perm_log done).trans (.trans ?_ (perm_logOfFiles _ 0 outcomes).symm)
      rw [sound.filterMap_outcome? done hfiles hat, length]
    refine ⟨_, ran, ?_⟩
    rw [Batch.told, same, errors, ← logOfFailures_eq]
    exact (log.append_right _).cons _

/-- Two files, of which the first is not there and the second is empty. -/
def missingAndEmpty : Batch :=
  ⟨[⟨⟨"b.c"⟩, .c⟩, ⟨⟨"a.txt"⟩, .text⟩], ⟨.directory [("a.txt", .file [])], []⟩, .words,
    ⟨⟨1, 2⟩, ⟨0, 1⟩⟩, 7⟩

/-- The second file is counted before the first is even read, and the first is done before it. -/
theorem result_any_order_missingAndEmpty :
    let b := missingAndEmpty
    let missing : FileOutcome :=
      ⟨.error (.read ⟨"b.c"⟩ .notFound), [.file ⟨⟨"b.c"⟩, .c⟩]⟩
    let empty : FileOutcome := ⟨.ok [], [.file ⟨⟨"a.txt"⟩, .text⟩]⟩
    let p : Pool := ⟨[.finished missing 2, .finished empty 1], 2, 1,
      [.file ⟨⟨"a.txt"⟩, .text⟩, .file ⟨⟨"b.c"⟩, .c⟩, .progress 2 2]⟩
    b.sizes.check = .ok () ∧ ReflTransGen b.Step b.start p ∧ p.IsComplete ∧
      b.result p = ⟨[], [(⟨"b.c"⟩, .read ⟨"b.c"⟩ .notFound)], 2, 7⟩ ∧ p.errors = 1 := by
  intro b missing empty p
  have atFirst : SourceFile.outcomeAt ⟨⟨"b.c"⟩, .c⟩ b.disk b.segmenter b.sizes b.seed 0 =
      .ok missing := rfl
  have atSecond : SourceFile.outcomeAt ⟨⟨"a.txt"⟩, .text⟩ b.disk b.segmenter b.sizes b.seed 1 =
      .ok empty := by
    have read : b.disk.readText ⟨"a.txt"⟩ = .ok "" := by decide +kernel
    have found : FileKind.text.tokens b.segmenter "" = .ok ⟨[], none⟩ := by decide +kernel
    simp only [SourceFile.outcomeAt, SourceFile.outcome, read, found]
    rfl
  have first : b.Gives 0 missing := ⟨_, rfl, atFirst⟩
  have second : b.Gives 1 empty := ⟨_, rfl, atSecond⟩
  have run : ReflTransGen b.Step b.start p :=
    .head (.compute (i := 1) rfl second) <| .head (.tell (i := 1) rfl rfl) <|
    .head (.count (i := 1) rfl (Nat.le_refl 1)) <| .head (.compute (i := 0) rfl first) <|
    .head (.tell (i := 0) rfl rfl) <| .head (.count (i := 0) rfl (Nat.le_refl 1)) <|
    .head (.note (i := 0) rfl) <| .head (.finish (i := 0) rfl) <|
    .head (.note (i := 1) rfl) <| .head (.finish (i := 1) rfl) .refl
  have done : p.IsComplete :=
    List.forall_mem_cons.2 ⟨⟨_, _, rfl⟩, List.forall_mem_singleton.2 ⟨_, _, rfl⟩⟩
  obtain ⟨outcomes, houtcomes, any⟩ := result_any_order b rfl
  have same : outcomesFrom b.disk b.segmenter b.sizes b.seed 0 b.files =
      .ok [(⟨⟨"b.c"⟩, .c⟩, missing), (⟨⟨"a.txt"⟩, .text⟩, empty)] :=
    outcomesFrom_cons atFirst (outcomesFrom_cons atSecond rfl)
  rw [same] at houtcomes
  cases houtcomes
  exact ⟨rfl, run, done, ((any p run).2 done).1, ((any p run).2 done).2.2.1⟩

end Batch

end Corpus
