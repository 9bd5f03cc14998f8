import Corpus.CommandLine.Options
import Mathlib.Logic.Function.Iterate

/-!
# Accepted command lines

A command line is accepted in six ways of going on, by the sort of its next argument
(`Given.Reads`). Everything that holds of accepted command lines is shown along these, and what is
turned away need not be looked at again.

Asking for more detail is counted and has no other effect, so

> **the requests for detail can be taken out of a command line**, wherever they stand in it and
> however they are spelled, and what it asks for is otherwise the same
> (`request_otherArguments`).

This needs that the command line does not ask for silence, because the letter that asks for it may
stand in one argument with those that ask for detail.
-/

set_option autoImplicit false

namespace Corpus.CommandLine

variable {g g' : Given} {o : Options} {argument : String} {arguments : List String}
variable {setting : Setting} {value : String} {cs : List Char} {flag : Flag} {answer : Request}

/-! ## Reading to the end -/

/-- A flag that is not taken in ends the reading with another answer than a run. -/
theorem Given.raise_ne_run (h : g.raise flag = .error answer) : answer ≠ .run o := by
  rintro rfl
  cases flag <;> simp only [raise] at h
  case quiet => split at h <;> cases h
  case verbose => cases h
  case timestamps => split at h <;> cases h
  case help => cases h
  case version => cases h

theorem Given.raiseLetters_ne_run (h : g.raiseLetters cs = .error answer) : answer ≠ .run o := by
  induction cs generalizing g with
  | nil => cases h
  | cons c cs ih =>
    unfold raiseLetters at h
    split at h
    · cases h
      exact Request.noConfusion
    · rename_i flag _
      cases hraise : g.raise flag with
      | error refusal =>
        rw [hraise] at h
        cases h
        exact raise_ne_run hraise
      | ok raised =>
        rw [hraise] at h
        exact ih h

/-- How arguments are read to the end, behind what has been read so far. -/
inductive Given.Reads : Given → List String → Options → Prop
  | done {g : Given} {o : Options} (asked : g.request = .run o) : Reads g [] o
  | ends {g : Given} {o : Options} {argument : String}
      (sort : Argument.ofString argument = .endOfOptions) (asked : g.request = .run o) :
      Reads g [argument] o
  | letters {g g' : Given} {o : Options} {argument : String} {arguments : List String}
      {cs : List Char} (sort : Argument.ofString argument = .letters cs)
      (raised : g.raiseLetters cs = .ok g') (rest : Reads g' arguments o) :
      Reads g (argument :: arguments) o
  | flag {g g' : Given} {o : Options} {argument name : String} {arguments : List String}
      {flag : Flag} (sort : Argument.ofString argument = .long name none)
      (known : Flag.ofName? name = some flag) (raised : g.raise flag = .ok g')
      (rest : Reads g' arguments o) : Reads g (argument :: arguments) o
  | joined {g g' : Given} {o : Options} {argument name value : String} {arguments : List String}
      {setting : Setting} (sort : Argument.ofString argument = .long name (some value))
      (noFlag : Flag.ofName? name = none) (known : Setting.ofName? name = some setting)
      (taken : g.set setting value = some g') (rest : Reads g' arguments o) :
      Reads g (argument :: arguments) o
  | apart {g g' : Given} {o : Options} {argument name next value : String}
      {arguments : List String} {setting : Setting}
      (sort : Argument.ofString argument = .long name none) (noFlag : Flag.ofName? name = none)
      (known : Setting.ofName? name = some setting) (behind : Argument.ofString next = .plain value)
      (taken : g.set setting value = some g') (rest : Reads g' arguments o) :
      Reads g (argument :: next :: arguments) o

theorem Given.reads_of_readFrom : ∀ {arguments : List String} {g : Given},
    g.readFrom arguments = .run o → g.Reads arguments o
  | [], g, h => .done h
  | argument :: arguments, g, h => by
    unfold readFrom at h
    cases sort : Argument.ofString argument with
    | endOfOptions =>
      simp only [sort] at h
      split at h
      · rename_i last
        rw [List.isEmpty_iff.1 last]
        exact .ends sort h
      · cases h
    | plain value =>
      simp only [sort] at h
      cases h
    | letters cs =>
      simp only [sort] at h
      cases raised : g.raiseLetters cs with
      | ok g' =>
        simp only [raised] at h
        exact .letters sort raised (reads_of_readFrom h)
      | error answer =>
        simp only [raised] at h
        exact absurd h (raiseLetters_ne_run raised)
    | long name value? =>
      simp only [sort] at h
      split at h
      · rename_i flag _ known
        split at h
        · rename_i g' raised
          exact .flag sort known raised (reads_of_readFrom h)
        · rename_i answer refused
          exact absurd h (raise_ne_run refused)
      · rename_i setting value noFlag known
        split at h
        · rename_i g' taken
          exact .joined sort noFlag known taken (reads_of_readFrom h)
        · cases h
      · rename_i setting next arguments noFlag known
        split at h
        · rename_i value behind
          split at h
          · rename_i g' taken
            exact .apart sort noFlag known behind taken (reads_of_readFrom h)
          · cases h
        · cases h
      · cases h

theorem Given.Reads.readFrom_eq (h : g.Reads arguments o) : g.readFrom arguments = .run o := by
  induction h with
  | done asked => exact asked
  | ends sort asked => simp only [readFrom, sort, asked, List.isEmpty_nil, if_true]
  | letters sort raised _ ih => simp only [readFrom, sort, raised, ih]
  | flag sort known raised _ ih => simp only [readFrom, sort, known, raised, ih]
  | joined sort noFlag known taken _ ih => simp only [readFrom, sort, noFlag, known, taken, ih]
  | apart sort noFlag known behind taken _ ih =>
    simp only [readFrom, sort, noFlag, known, behind, taken, ih]

/-- A command line is accepted if it can be read to the end. -/
theorem request_eq_run : request arguments = .run o ↔ Given.nothing.Reads arguments o :=
  ⟨Given.reads_of_readFrom, Given.Reads.readFrom_eq⟩

/-! ## Requests for detail -/

/-- How often an argument asks for more detail. -/
def Argument.detail : Argument → Nat
  | .letters cs => cs.countP fun c => Flag.ofLetter? c = some .verbose
  | .long name none => if Flag.ofName? name = some .verbose then 1 else 0
  | .long _ (some _) | .endOfOptions | .plain _ => 0

/-- How often a command line asks for more detail. -/
def detail : List String → Nat
  | [] => 0
  | argument :: arguments => (Argument.ofString argument).detail + detail arguments

/-- The arguments that ask for something else. -/
def otherArguments (arguments : List String) : List String :=
  arguments.filter fun argument => (Argument.ofString argument).detail = 0

theorem detail_cons (argument : String) (arguments : List String) :
    detail (argument :: arguments) = (Argument.ofString argument).detail + detail arguments :=
  rfl

theorem otherArguments_cons_of_eq_zero (h : (Argument.ofString argument).detail = 0) :
    otherArguments (argument :: arguments) = argument :: otherArguments arguments :=
  List.filter_cons_of_pos (decide_eq_true h)

theorem otherArguments_cons_of_ne_zero (h : (Argument.ofString argument).detail ≠ 0) :
    otherArguments (argument :: arguments) = otherArguments arguments :=
  List.filter_cons_of_neg (ne_true_of_eq_false (decide_eq_false h))

namespace Given

/-- The options are those that were given, and silence and detail are asked for as they were. -/
theorem request_atDetail (h : g.request = .run o) (k : Nat) :
    { g with verbose := k }.request = .run { o with verbose := k } ∧ o.quiet = g.quiet ∧
      o.verbose = g.verbose := by
  obtain ⟨sources, target?, _, _, _, _, _, _, _, _⟩ := g
  cases sources with
  | nil => cases h
  | cons source sources =>
    cases target? with
    | none => cases h
    | some target =>
      cases h
      exact ⟨rfl, rfl, rfl⟩

theorem set_atDetail (h : g.set setting value = some g') (k : Nat) :
    { g with verbose := k }.set setting value = some { g' with verbose := k } ∧
      g'.quiet = g.quiet ∧ g'.verbose = g.verbose := by
  cases setting <;> simp only [set, Option.map_eq_some_iff] at h ⊢ <;>
    obtain ⟨v, hv, rfl⟩ := h <;> exact ⟨⟨v, hv, rfl⟩, rfl, rfl⟩

/-- What one more request for detail makes of their number. -/
def more (verbose : Nat) : Nat :=
  min (verbose + 1) 255

theorem iterate_more (n : Nat) : more^[n] 0 = min n 255 := by
  induction n with
  | zero => rfl
  | succ n ih =>
    rw [Function.iterate_succ_apply', ih, more]
    omega

/-- The flags that can be taken in. -/
theorem raise_cases (h : g.raise flag = .ok g') :
    flag = .quiet ∧ g' = { g with quiet := true } ∨
      flag = .verbose ∧ g' = { g with verbose := more g.verbose } ∨
      flag = .timestamps ∧ g.timestamps = false ∧ g' = { g with timestamps := true } := by
  cases flag <;> simp only [raise] at h
  case quiet =>
    split at h <;> cases h
    exact .inl ⟨rfl, rfl⟩
  case verbose =>
    cases h
    exact .inr (.inl ⟨rfl, rfl⟩)
  case timestamps =>
    split at h <;> cases h
    rename_i fresh
    exact .inr (.inr ⟨rfl, eq_false_of_ne_true fresh, rfl⟩)
  case help => cases h
  case version => cases h

/-- Flags by their letters that do not silence all ask for detail. -/
theorem raiseLetters_detail (h : g.raiseLetters cs = .ok g') (loud : g'.quiet = false) :
    (Argument.letters cs).detail = cs.length ∧
      g' = { g with verbose := more^[cs.length] g.verbose } := by
  have all : (∀ c ∈ cs, Flag.ofLetter? c = some .verbose) ∧
      g' = { g with verbose := more^[cs.length] g.verbose } := by
    induction cs generalizing g with
    | nil =>
      cases h
      exact ⟨fun _ h => absurd h List.not_mem_nil, rfl⟩
    | cons c cs ih =>
      unfold raiseLetters at h
      split at h
      · cases h
      · rename_i flag letter
        cases hraise : g.raise flag with
        | error answer =>
          rw [hraise] at h
          cases h
        | ok raised =>
          rw [hraise] at h
          obtain ⟨others, rfl⟩ := ih h
          rcases raise_cases hraise with ⟨-, rfl⟩ | ⟨rfl, rfl⟩ | ⟨rfl, -⟩
          · cases loud
          · exact ⟨List.forall_mem_cons.2 ⟨letter, others⟩, rfl⟩
          · -- No letter asks for the time.
            unfold Flag.ofLetter? at letter
            split at letter <;> cases letter
  refine ⟨List.countP_eq_length.2 fun c hc => ?_, all.2⟩
  rw [all.1 c hc]
  rfl

/-- **The requests for detail can be taken out**, and all that they do is to be counted. -/
theorem Reads.otherArguments (h : g.Reads arguments o) (loud : o.quiet = false) (k : Nat) :
    { g with verbose := k }.Reads (otherArguments arguments) { o with verbose := k } ∧
      o.verbose = more^[detail arguments] g.verbose ∧ g.quiet = false := by
  induction h with
  | done asked =>
    obtain ⟨asked, quiet, verbose⟩ := request_atDetail asked k
    exact ⟨.done asked, verbose, quiet.symm.trans loud⟩
  | ends sort asked =>
    obtain ⟨asked, quiet, verbose⟩ := request_atDetail asked k
    have none : (Argument.ofString _).detail = 0 := congrArg Argument.detail sort
    rw [otherArguments_cons_of_eq_zero none, detail_cons, none]
    exact ⟨.ends sort asked, verbose, quiet.symm.trans loud⟩
  | @letters g g' o argument arguments cs sort raised rest ih =>
    -- The letters ask for detail only, since the rest is read without silence.
    obtain ⟨reads, verbose, quiet⟩ := ih loud
    obtain ⟨count, rfl⟩ := raiseLetters_detail raised quiet
    rw [← sort] at count
    rw [detail_cons, count, Nat.add_comm, Function.iterate_add_apply]
    refine ⟨?_, verbose, quiet⟩
    by_cases empty : cs = []
    · subst empty
      rw [otherArguments_cons_of_eq_zero count]
      exact .letters sort rfl reads
    · rw [otherArguments_cons_of_ne_zero (count ▸ mt List.length_eq_zero_iff.1 empty)]
      exact reads
  | @flag g g' o argument name arguments flag sort known raised rest ih =>
    obtain ⟨reads, verbose, quiet⟩ := ih loud
    have asks : (Argument.ofString argument).detail = if flag = .verbose then 1 else 0 := by
      rw [sort, Argument.detail, known]
      simp only [Option.some.injEq]
    rcases raise_cases raised with ⟨-, rfl⟩ | ⟨rfl, rfl⟩ | ⟨rfl, untimed, rfl⟩
    · cases quiet
    · rw [if_pos rfl] at asks
      rw [otherArguments_cons_of_ne_zero (asks ▸ Nat.one_ne_zero), detail_cons, asks, Nat.add_comm]
      exact ⟨reads, verbose, quiet⟩
    · rw [if_neg (by decide)] at asks
      rw [otherArguments_cons_of_eq_zero asks, detail_cons, asks, Nat.zero_add]
      refine ⟨.flag sort known ?_ reads, verbose, quiet⟩
      rw [raise]
      simp only [untimed, Bool.false_eq_true, if_false]
  | @joined g g' o argument name value arguments setting sort noFlag known taken rest ih =>
    obtain ⟨reads, verbose, quiet⟩ := ih loud
    obtain ⟨taken', same_quiet, same_verbose⟩ := set_atDetail taken k
    have none : (Argument.ofString argument).detail = 0 := by
      rw [sort]
      rfl
    rw [otherArguments_cons_of_eq_zero none, detail_cons, none, Nat.zero_add, ← same_verbose]
    exact ⟨.joined sort noFlag known taken' reads, verbose, same_quiet.symm.trans quiet⟩
  | @apart g g' o argument name next value arguments setting sort noFlag known behind taken rest
      ih =>
    obtain ⟨reads, verbose, quiet⟩ := ih loud
    obtain ⟨taken', same_quiet, same_verbose⟩ := set_atDetail taken k
    have none : (Argument.ofString argument).detail = 0 := by
      rw [sort, Argument.detail, noFlag]
      rfl
    have none' : (Argument.ofString next).detail = 0 := by
      rw [behind]
      rfl
    rw [otherArguments_cons_of_eq_zero none, otherArguments_cons_of_eq_zero none', detail_cons,
      detail_cons, none, none', Nat.zero_add, Nat.zero_add, ← same_verbose]
    exact ⟨.apart sort noFlag known behind taken' reads, verbose, same_quiet.symm.trans quiet⟩

end Given

/-- A command line that is accepted and does not ask for silence asks for the same without its
requests for detail, of which as many are counted as there are. -/
theorem request_otherArguments (h : request arguments = .run o) (loud : o.quiet = false) :
    request (otherArguments arguments) = .run { o with verbose := 0 } ∧
      o.verbose = min (detail arguments) 255 := by
  obtain ⟨reads, verbose, -⟩ := (request_eq_run.1 h).otherArguments loud 0
  exact ⟨request_eq_run.2 reads, verbose.trans (Given.iterate_more _)⟩

end Corpus.CommandLine
