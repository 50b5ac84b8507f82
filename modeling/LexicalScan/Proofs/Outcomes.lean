import LexicalScan.CommandLine
import LexicalScan.Proofs.LineLookup
import LexicalScan.Proofs.Refusal

/-!
The outcomes of a run. Of its arguments only the paths count and whether the flag is among them. A run
with two paths fails for its usage, a run whose path cannot be read fails for that, and any other run
scans a source. No run that fails writes a token.
-/

namespace LexicalScan

namespace Invocation

def paths (arguments : List Text) : List Text := arguments.filter (· ≠ strictFlag)

theorem paths_flag (arguments : List Text) : paths (strictFlag :: arguments) = paths arguments :=
  List.filter_cons_of_neg (by simp)

theorem paths_cons (argument : Text) (arguments : List Text) (path : argument ≠ strictFlag) :
    paths (argument :: arguments) = argument :: paths arguments :=
  List.filter_cons_of_pos (by simpa using path)

theorem paths_paths (arguments : List Text) : paths (paths arguments) = paths arguments := by
  simp [paths]

theorem flag_notMem_paths (arguments : List Text) : strictFlag ∉ paths arguments := by
  simp [paths]

theorem extend?_eq (arguments : List Text) (invocation : Invocation) :
    invocation.extend? arguments =
      if (invocation.path?.toList ++ paths arguments).length ≤ 1 then
        some ⟨invocation.strict || decide (strictFlag ∈ arguments),
          (invocation.path?.toList ++ paths arguments).head?⟩
      else none := by
  -- The invocation is generalised, since each argument changes what the rest is added to.
  induction arguments generalizing invocation with
  | nil =>
      obtain ⟨strict, path?⟩ := invocation
      cases path? <;> simp [extend?, paths]
  | cons argument rest ih =>
      by_cases flag : argument = strictFlag
      · subst flag
        rw [extend?, if_pos rfl, ih, paths_flag]
        simp
      · have mem : strictFlag ∈ argument :: rest ↔ strictFlag ∈ rest := by
          simp [Ne.symm flag]
        rw [extend?, if_neg flag, paths_cons argument rest flag]
        obtain ⟨strict, path?⟩ := invocation
        cases path? with
        | some path => simp
        | none => simp [ih, mem]

theorem ofArguments?_eq (arguments : List Text) :
    ofArguments? arguments =
      if (paths arguments).length ≤ 1 then
        some ⟨decide (strictFlag ∈ arguments), (paths arguments).head?⟩
      else none := by
  have extended := extend?_eq arguments ⟨false, none⟩
  rwa [Bool.false_or, Option.toList_none, List.nil_append] at extended

end Invocation

structure LastName (path name : Text) : Prop where
  atEnd : path = name ∨ ∃ front, path = front ++ '/' :: name
  noSlash : '/' ∉ name

theorem fileName_eq (path name : Text) (last : LastName path name) :
    Input.fileName path = name := by
  rcases last.atEnd with rfl | ⟨front, rfl⟩
  · rw [Input.fileName, List.splitOn_eq_singleton last.noSlash]
    rfl
  · rw [Input.fileName, List.splitOn_append_cons_self, List.splitOn_eq_singleton last.noSlash,
      List.getLast?_concat, Option.getD_some]

theorem lastName_fileName (path : Text) : LastName path (Input.fileName path) := by
  have named : ∃ name, LastName path name := by
    by_cases slash : '/' ∈ path
    · obtain ⟨front, name, split, noSlash⟩ := Text.split_last '/' path slash
      exact ⟨name, Or.inr ⟨front, split⟩, noSlash⟩
    · exact ⟨path, Or.inl rfl, slash⟩
  obtain ⟨name, last⟩ := named
  rwa [fileName_eq path name last]

namespace Outcome

structure Exclusive (outcome : Outcome) : Prop where
  silent : outcome.exitCode ≠ 0 → outcome.output = []
  complains : outcome.complaint = [] ↔ outcome.exitCode = 0

end Outcome

namespace CommandLine

open Invocation

theorem exclusive_success (output : Text) : (success output).Exclusive where
  silent failed := absurd rfl failed
  complains := iff_of_true rfl rfl

theorem exclusive_failure (exitCode : Nat) (complaint : Text) (failed : exitCode ≠ 0)
    (nonempty : complaint ≠ []) : (failure exitCode complaint).Exclusive where
  silent _ := rfl
  complains := iff_of_false nonempty failed

theorem draw_ne_nil (diagnostic : Diagnostic) (source drawn : Text)
    (draws : diagnostic.draw source = .ok drawn) : drawn ≠ [] := by
  rw [Diagnostic.draw] at draws
  split at draws
  · cases draws
  · cases draws
    simp [Drawing.rows]

theorem scan_accepted (strict : Bool) (source name : Text)
    (known : strict = true → ¬ ∃ token ∈ tokens source, token.kind = .unknown) :
    scan strict ⟨source, name⟩ = .ok (success (listing (tokens source))) := by
  cases strict with
  | false => rfl
  | true =>
      have accepts := strictTokens_known source (some name)
        fun token member unknown => known rfl ⟨token, member, unknown⟩
      simp only [scan, if_true]
      rw [accepts]

theorem scan_refused (source name : Text) (diagnostic : Diagnostic)
    (refused : strictTokens source (some name) = .error diagnostic) :
    scan true ⟨source, name⟩ = (diagnostic.draw source).map (failure 1) := by
  simp only [scan, if_true]
  rw [refused]

theorem scan_cases (strict : Bool) (source name : Text) (outcome : Outcome)
    (scanned : scan strict ⟨source, name⟩ = .ok outcome) :
    outcome = success (listing (tokens source)) ∨
      ∃ complaint, complaint ≠ [] ∧ outcome = failure 1 complaint := by
  by_cases known : strict = true → ¬ ∃ token ∈ tokens source, token.kind = .unknown
  · rw [scan_accepted strict source name known] at scanned
    cases scanned
    exact Or.inl rfl
  · obtain ⟨rfl, unknown⟩ := Classical.not_imp.mp known
    obtain ⟨diagnostic, refused, _⟩ :=
      strictTokens_refused source (some name) (Classical.not_not.mp unknown)
    rw [scan_refused source name diagnostic refused] at scanned
    cases draws : diagnostic.draw source with
    | error fault =>
        rw [draws] at scanned
        cases scanned
    | ok drawn =>
        rw [draws] at scanned
        cases scanned
        exact Or.inr ⟨drawn, draw_ne_nil diagnostic source drawn draws, rfl⟩

variable (read : Text → Except ReadFailure Text)

/-- What a run scans when it is given some paths: the source, and the name under which it is
reported. -/
inductive Reads : List Text → Text → Text → Prop where
  | demo : Reads [] Input.demo.source Input.demo.name
  | file {path source name : Text} :
      read path = .ok source → LastName path name → Reads [path] source name

theorem run_misused (arguments : List Text) (tooMany : 2 ≤ (paths arguments).length) :
    run read arguments = .ok (failure 2 usage) := by
  rw [run, ofArguments?_eq, if_neg (Nat.not_le_of_lt tooMany)]

theorem run_path (arguments : List Text) (path : Text) (given : paths arguments = [path]) :
    run read arguments =
      match Input.ofPath read path with
      | .error complaint => .ok (failure 1 complaint)
      | .ok input => scan (decide (strictFlag ∈ arguments)) input := by
  rw [run, ofArguments?_eq, given]
  rfl

theorem run_unread (arguments : List Text) (path : Text) (failed : ReadFailure)
    (given : paths arguments = [path]) (unread : read path = .error failed) :
    ∃ complaint, complaint ≠ [] ∧ run read arguments = .ok (failure 1 complaint) := by
  refine ⟨"Failed to read ".toList ++ path ++ ": ".toList ++ failed.message ++ ['\n'], by simp, ?_⟩
  rw [run_path read arguments path given, Input.ofPath, unread]

theorem run_reads (arguments : List Text) (source name : Text)
    (reads : Reads read (paths arguments) source name) :
    run read arguments = scan (decide (strictFlag ∈ arguments)) ⟨source, name⟩ := by
  generalize given : paths arguments = found at reads
  cases reads with
  | demo =>
      rw [run, ofArguments?_eq, given]
      rfl
  | @file path source name readable last =>
      rw [run_path read arguments path given, Input.ofPath, readable, fileName_eq path name last]

theorem given_cases (given : List Text) :
    2 ≤ given.length ∨ (∃ path failed, given = [path] ∧ read path = .error failed) ∨
      ∃ source name, Reads read given source name := by
  match given with
  | [] => exact Or.inr (Or.inr ⟨_, _, .demo⟩)
  | [path] =>
      cases readable : read path with
      | error failed => exact Or.inr (Or.inl ⟨path, failed, rfl, readable⟩)
      | ok source => exact Or.inr (Or.inr ⟨source, _, .file readable (lastName_fileName path)⟩)
  | first :: second :: rest => exact Or.inl (Nat.le_add_left 2 rest.length)

theorem run_congr (arguments others : List Text)
    (flag : strictFlag ∈ others ↔ strictFlag ∈ arguments)
    (same : paths others = paths arguments) : run read others = run read arguments := by
  have invocation : ofArguments? others = ofArguments? arguments := by
    rw [ofArguments?_eq, ofArguments?_eq, same, decide_eq_decide.mpr flag]
  rw [run, run, invocation]

theorem run_plain (arguments : List Text) (source name : Text)
    (reads : Reads read (paths arguments) source name) :
    run read (paths arguments) = .ok (success (listing (tokens source))) := by
  rw [← paths_paths] at reads
  rw [run_reads read (paths arguments) source name reads]
  apply scan_accepted
  intro flagged
  exact absurd (of_decide_eq_true flagged) (flag_notMem_paths arguments)

theorem run_cases (arguments : List Text) (outcome : Outcome)
    (ran : run read arguments = .ok outcome) :
    (2 ≤ (paths arguments).length ∧ outcome = failure 2 usage) ∨
      (∃ complaint, complaint ≠ [] ∧ outcome = failure 1 complaint) ∨
      ∃ source name, Reads read (paths arguments) source name ∧
        outcome = success (listing (tokens source)) := by
  rcases given_cases read (paths arguments) with
    tooMany | ⟨path, failed, given, unread⟩ | ⟨source, name, reads⟩
  · rw [run_misused read arguments tooMany] at ran
    cases ran
    exact Or.inl ⟨tooMany, rfl⟩
  · obtain ⟨complaint, nonempty, complains⟩ := run_unread read arguments path failed given unread
    rw [complains] at ran
    cases ran
    exact Or.inr (Or.inl ⟨complaint, nonempty, rfl⟩)
  · rw [run_reads read arguments source name reads] at ran
    rcases scan_cases _ source name outcome ran with rfl | failed
    · exact Or.inr (Or.inr ⟨source, name, reads, rfl⟩)
    · exact Or.inr (Or.inl failed)

theorem run_exclusive (arguments : List Text) (outcome : Outcome)
    (ran : run read arguments = .ok outcome) : outcome.Exclusive := by
  rcases run_cases read arguments outcome ran with
    ⟨_, rfl⟩ | ⟨complaint, nonempty, rfl⟩ | ⟨source, _, _, rfl⟩
  · exact exclusive_failure 2 usage (by decide) (by decide)
  · exact exclusive_failure 1 complaint (by decide) nonempty
  · exact exclusive_success (listing (tokens source))

theorem run_accepted (arguments : List Text) (outcome : Outcome)
    (ran : run read arguments = .ok outcome) (succeeded : outcome.exitCode = 0) :
    ∃ source name, Reads read (paths arguments) source name ∧
      outcome = success (listing (tokens source)) := by
  rcases run_cases read arguments outcome ran with ⟨_, rfl⟩ | ⟨_, _, rfl⟩ | scanned
  · cases succeeded
  · cases succeeded
  · exact scanned

/-- A run fails for its usage exactly if two arguments or more are not the flag. Otherwise it depends
only on whether the flag is given and on the one path, and its exit code tells what it writes: all
tokens of the source and no complaint, or a complaint and no token. The flag makes a run fail exactly
if some token is unknown, and the complaint is then the drawing of what strict reading reports. -/
theorem run_by_arguments (arguments : List Text) :
    ((∃ outcome, run read arguments = .ok outcome ∧ outcome.exitCode = 2) ↔
      2 ≤ (paths arguments).length) ∧
    (2 ≤ (paths arguments).length → run read arguments = .ok ⟨2, [], usage⟩) ∧
    (∀ others, (strictFlag ∈ others ↔ strictFlag ∈ arguments) → paths others = paths arguments →
      run read others = run read arguments) ∧
    (∀ outcome, run read arguments = .ok outcome →
      (outcome.exitCode ≠ 0 → outcome.output = []) ∧
      (outcome.complaint = [] ↔ outcome.exitCode = 0) ∧
      (outcome.exitCode = 0 →
        run read (paths arguments) = .ok outcome ∧
        ∃ source name, Reads read (paths arguments) source name ∧
          outcome.output = (tokens source).flatMap fun token => token.text ++ ['\n'])) ∧
    ∀ source name, Reads read (paths arguments) source name →
      (∃ output, run read (paths arguments) = .ok ⟨0, output, []⟩) ∧
      (strictFlag ∈ arguments →
        ((¬ ∃ token ∈ tokens source, token.kind = .unknown) →
          run read arguments = run read (paths arguments)) ∧
        ((∃ token ∈ tokens source, token.kind = .unknown) →
          ∃ diagnostic, strictTokens source (some name) = .error diagnostic ∧
            diagnostic.file = name ∧
            run read arguments = (diagnostic.draw source).map fun drawn => ⟨1, [], drawn⟩)) := by
  refine ⟨⟨?_, ?_⟩, run_misused read arguments, run_congr read arguments, ?_, ?_⟩
  · rintro ⟨outcome, ran, misused⟩
    rcases run_cases read arguments outcome ran with
      ⟨tooMany, _⟩ | ⟨_, _, rfl⟩ | ⟨_, _, _, rfl⟩
    · exact tooMany
    · cases misused
    · cases misused
  · intro tooMany
    exact ⟨_, run_misused read arguments tooMany, rfl⟩
  · intro outcome ran
    have exclusive := run_exclusive read arguments outcome ran
    refine ⟨exclusive.silent, exclusive.complains, ?_⟩
    intro succeeded
    obtain ⟨source, name, reads, rfl⟩ := run_accepted read arguments outcome ran succeeded
    exact ⟨run_plain read arguments source name reads, source, name, reads, rfl⟩
  · intro source name reads
    have plain := run_plain read arguments source name reads
    refine ⟨⟨_, plain⟩, ?_⟩
    intro flag
    have ran := run_reads read arguments source name reads
    rw [decide_eq_true flag] at ran
    constructor
    · intro absent
      rw [plain, ran]
      exact scan_accepted true source name fun _ => absent
    · intro unknown
      obtain ⟨diagnostic, refused, file⟩ := strictTokens_refused source (some name) unknown
      refine ⟨diagnostic, refused, file, ?_⟩
      rw [ran, scan_refused source name diagnostic refused]
      rfl

theorem run_by_arguments_unknown :
    let path := "d/é.txt".toList
    let source := "x\n ('@".toList
    let name := "é.txt".toList
    let read : Text → Except ReadFailure Text := fun given =>
      if given = path then .ok source else .error .notFound
    let arguments := [strictFlag, path, strictFlag]
    strictFlag ∈ arguments ∧ Reads read (paths arguments) source name ∧
      (∃ token ∈ tokens source, token.kind = .unknown) ∧
      (∃ output, run read [path] = .ok ⟨0, output, []⟩) ∧
      (∃ diagnostic, strictTokens source (some name) = .error diagnostic ∧
        diagnostic.file = name ∧
        run read arguments = (diagnostic.draw source).map fun drawn => ⟨1, [], drawn⟩) ∧
      2 ≤ (paths [path, strictFlag, path]).length ∧
      run read [path, strictFlag, path] = .ok ⟨2, [], usage⟩ := by
  intro path source name read arguments
  have flag : strictFlag ∈ arguments := List.mem_cons_self
  have given : paths arguments = [path] := by decide
  have readable : read path = .ok source := if_pos rfl
  have last : LastName path name := ⟨Or.inr ⟨['d'], rfl⟩, by decide⟩
  have reads : Reads read (paths arguments) source name := by
    rw [given]
    exact .file readable last
  have unknown : ∃ token ∈ tokens source, token.kind = .unknown := by decide +kernel
  have tooMany : 2 ≤ (paths [path, strictFlag, path]).length := by decide
  obtain ⟨_, _, _, _, scanned⟩ := run_by_arguments read arguments
  obtain ⟨plain, strict⟩ := scanned source name reads
  obtain ⟨_, misused, _⟩ := run_by_arguments read [path, strictFlag, path]
  rw [given] at plain
  exact ⟨flag, reads, unknown, plain, (strict flag).2 unknown, tooMany, misused tooMany⟩

end CommandLine

end LexicalScan
