import LittleMan.Proofs.InputElements
import LittleMan.Proofs.MemoryTables
import LittleMan.Proofs.MinimalRuns

/-! Programs that are checked and programs that are run. Both load the same way: what keeps a program
from being loaded is reported alike and before anything of it is executed, and of a program that
loads every line of code has mapped a cell. -/

namespace LittleMan

namespace Program

open Text

/-- Something before the comment of a line is neither white space nor a colon. -/
def holdsToken (line : List Char) : Bool :=
  (line.takeWhile fun c => c ≠ ';' ∧ c ≠ '#').any fun c => !(isBlank c || c = ':')

theorem HasTokens.holdsToken {line : List Char} {found : List (List Char)}
    (cut : HasTokens line found) : holdsToken line = !found.isEmpty := by
  unfold HasTokens at cut
  unfold Program.holdsToken
  generalize line.takeWhile _ = code at cut
  induction cut with
  | nil => rfl
  | @separator c rest found apart others ih =>
    have passed : (!(isBlank c || c = ':')) = false := by
      simp only [Bool.not_eq_false', Bool.or_eq_true, decide_eq_true_eq]
      exact apart
    rw [List.any_cons, passed, Bool.false_or, ih]
  | @run run rest found present solid ended others ih =>
    obtain ⟨c, run, rfl⟩ := List.exists_cons_of_ne_nil present
    have held : (!(isBlank c || c = ':')) = true := by simpa using solid c List.mem_cons_self
    rw [List.cons_append, List.any_cons, held, Bool.true_or]
    rfl

theorem Entry.ne_nil {next address word : Nat} {found : List (List Char)}
    (gives : Entry next found address word) : found ≠ [] := by
  cases gives with
  | bare | placed => exact List.cons_ne_nil _ _

theorem Listing.length {next : Nat} {lines : List (List Char)} {entries : List (Nat × Nat)}
    (listing : Listing next lines entries) : entries.length = lines.countP holdsToken := by
  induction listing with
  | nil => rfl
  | blank empty others ih => rw [List.countP_cons, empty.holdsToken, ih]; rfl
  | entry cut gives others ih =>
    rw [List.length_cons, List.countP_cons, cut.holdsToken, ih]
    simp [gives.ne_nil]

private theorem size_of_load {text : String} {memory : Memory}
    (loaded : load text Memory.empty = (none, memory)) :
    memory.size = (textLines text.toList).countP holdsToken := by
  obtain ⟨entries, listing, fits, rfl⟩ := load_eq_none_iff.mp loaded
  rw [Memory.size_eq_length, ← fits.perm_toList.length_eq, listing.length]

private theorem exists_text_of_loadFile {path : String} {found : Except FileFault (List UInt8)}
    {memory : Memory} (loaded : loadFile path found = .ok memory) :
    ∃ text : String, found = .ok (encode text.toList) ∧ load text Memory.empty = (none, memory) := by
  cases found with
  | error fault => cases loaded
  | ok bytes =>
    rw [loadFile, loadBytes] at loaded
    split at loaded
    · cases loaded
    next text valid =>
      have decoded : decodeText bytes = some text.toList := by rw [decodeText, valid, Option.map_some]
      split at loaded
      · cases loaded
      next result =>
        cases loaded
        exact ⟨text, congrArg Except.ok (encode_of_decodeText decoded).symm, result⟩

end Program

namespace Command

open Program Text

section

variable {desk surroundings : Surroundings} {arguments checks runs : List String} {path : String}
  {options : RunOptions} {found : Except FileFault (List UInt8)} {fuel : Nat} {report : Report}
  {memory : Memory}

/-- The file at a path gives its bytes or a fault, whatever is left of the input. -/
def Surroundings.Finds (surroundings : Surroundings) (path : String)
    (found : Except FileFault (List UInt8)) : Prop :=
  ∃ input, surroundings.read path = some (found, input)

def Surroundings.checking (surroundings : Surroundings) (path : String) : Console :=
  announce surroundings.console .green "Checking" ("target " ++ path)

def statusLine (coloured : Bool) (word text : String) : String :=
  (if coloured then "\x1b[32m" ++ word ++ "\x1b[0m" else word) ++ " " ++ text ++ "\n"

/-- A run is over before there is a machine. It has announced its program unless it is minimal, and
ends with a report. -/
structure GivenUp (surroundings : Surroundings) (path : String) (options : RunOptions)
    (report : Report) (left : Transcript) : Prop where
  unstarted : surroundings.launch path options = .error left
  exit : left.exit = some 1
  report : left.report = some report
  output : left.console.output = if options.minimal then "" else
    statusLine (surroundings.environment.usesColour surroundings.outputTerminal) "     Loading"
      ("target " ++ path)
  untraced : left.console.trace = ""

/-- A check has succeeded and has counted the lines of code. A run starts, and fails with faults of
the machine only. -/
structure Accepted (desk surroundings : Surroundings) (path : String) (options : RunOptions)
    (runs : List String) (found : Except FileFault (List UInt8)) (checked : Transcript) :
    Prop where
  exit : checked.exit = some 0
  counted : ∃ text : String, found = .ok (encode text.toList) ∧ checked.console.output =
    statusLine (desk.environment.usesColour desk.outputTerminal) "    Checking"
        ("target " ++ path) ++
      statusLine (desk.environment.usesColour desk.outputTerminal) "     Success"
        (toString ((textLines text.toList).countP holdsToken) ++ " cells loaded")
  untraced : checked.console.trace = ""
  started : ∃ launch, surroundings.launch path options = .ok launch
  faults (fuel : Nat) (transcript : Transcript) (report : Report)
    (finished : perform surroundings fuel runs = .finished transcript)
    (reported : transcript.report = some report) :
    ∃ fault pc, report = Fault.report fault pc ∧ fault.Explains pc report

/-- A check gives a report exactly where a run is given up with it, whatever input there is. -/
structure Agrees (desk surroundings : Surroundings) (path : String) (options : RunOptions)
    (runs : List String) (found : Except FileFault (List UInt8)) (checked : Transcript) :
    Prop where
  reported (report : Report) : checked.report = some report ↔
    ∃ left, GivenUp surroundings path options report left
  refused (report : Report) (reported : checked.report = some report) : checked.exit = some 1 ∧
    ∃ left, GivenUp surroundings path options report left ∧
      ∀ input, Surroundings.Finds { surroundings with input := input } path found →
        ∀ fuel, perform { surroundings with input := input } fuel runs = .finished left
  accepted (silent : checked.report = none) :
    Accepted desk surroundings path options runs found checked

theorem Surroundings.Finds.program (finds : surroundings.Finds path found) :
    ∃ input, surroundings.program path = some (loadFile path found, input) := by
  obtain ⟨input, read⟩ := finds
  refine ⟨input, ?_⟩
  rw [Surroundings.program, read, Option.map_some]

theorem Surroundings.check_eq (surroundings : Surroundings) (path : String) :
    surroundings.check path =
      match surroundings.program path with
      | none => .stopped (surroundings.checking path)
      | some (.error report, _) => .failure (surroundings.checking path) report
      | some (.ok memory, _) =>
        .success (announce (surroundings.checking path) .green "Success"
          (numeral memory.size ++ " cells loaded")) := by
  unfold check load program
  cases surroundings.read path with
  | none => rfl
  | some found =>
    obtain ⟨bytes, input⟩ := found
    simp only [Option.map_some]
    cases Program.loadFile path bytes <;> rfl

private theorem perform_check
    (checking : Request.ofArguments surroundings.environment arguments = some (.check path)) :
    perform surroundings fuel arguments = .finished (surroundings.check path) := by
  rw [perform, checking]

private theorem check_of_refused (finds : surroundings.Finds path found)
    (refused : loadFile path found = .error report) :
    surroundings.check path = .failure (surroundings.checking path) report := by
  obtain ⟨input, loaded⟩ := finds.program
  rw [surroundings.check_eq, loaded, refused]

private theorem check_of_loaded (finds : surroundings.Finds path found)
    (accepted : loadFile path found = .ok memory) :
    surroundings.check path =
      .success (announce (surroundings.checking path) .green "Success"
        (numeral memory.size ++ " cells loaded")) := by
  obtain ⟨input, loaded⟩ := finds.program
  rw [surroundings.check_eq, loaded, accepted]

private theorem check_report_iff (finds : surroundings.Finds path found) :
    (surroundings.check path).report = some report ↔ loadFile path found = .error report := by
  cases result : loadFile path found with
  | error other =>
    rw [check_of_refused finds result, Except.error.injEq]
    exact Option.some_inj
  | ok memory =>
    rw [check_of_loaded finds result]
    exact iff_of_false (Option.some_ne_none report).symm nofun

private theorem announce_output {word aligned : String} (width : rightAligned 12 word = aligned)
    (painted : Style.green.paint aligned = "\x1b[32m" ++ aligned ++ "\x1b[0m")
    (console : Console) (text : String) :
    (announce console .green word text).output = console.output ++
      if console.minimal then "" else statusLine console.coloured aligned text := by
  unfold announce
  split
  · exact String.append_empty.symm
  · dsimp only [Console.append]
    rw [width, painted]
    rfl

private theorem output_of_success (desk : Surroundings) (path text : String) :
    (announce (desk.checking path) .green "Success" text).output =
      statusLine (desk.environment.usesColour desk.outputTerminal) "    Checking"
          ("target " ++ path) ++
        statusLine (desk.environment.usesColour desk.outputTerminal) "     Success" text := by
  have frame := announce_frame desk.console .green "Checking" ("target " ++ path)
  have minimal : (desk.checking path).minimal = desk.console.minimal :=
    (congrArg Console.minimal frame :)
  have coloured : (desk.checking path).coloured = desk.console.coloured :=
    (congrArg Console.coloured frame :)
  have checking := announce_output (by decide +kernel : rightAligned 12 "Checking" = "    Checking")
    (by decide +kernel) desk.console ("target " ++ path)
  have success := announce_output (by decide +kernel : rightAligned 12 "Success" = "     Success")
    (by decide +kernel) (desk.checking path) text
  rw [success, minimal, coloured, Surroundings.checking, checking]
  exact congrArg (· ++ _) String.empty_append

private theorem givenUp_of_refused (finds : surroundings.Finds path found)
    (refused : loadFile path found = .error report) (options : RunOptions) :
    GivenUp surroundings path options report
      (.failure (surroundings.opening path options) report) := by
  obtain ⟨input, loaded⟩ := finds.program
  refine ⟨?_, rfl, rfl, ?_, congrArg Console.trace (announce_frame _ _ _ _)⟩
  · rw [surroundings.launch_eq, loaded, refused]
  · have loading := announce_output (by decide +kernel : rightAligned 12 "Loading" = "     Loading")
      (by decide +kernel) { surroundings.console with minimal := options.minimal }
      ("target " ++ path)
    exact loading.trans String.empty_append

private theorem launch_of_loaded (finds : surroundings.Finds path found)
    (accepted : loadFile path found = .ok memory) (options : RunOptions) :
    ∃ launch, surroundings.launch path options = .ok launch := by
  obtain ⟨input, loaded⟩ := finds.program
  rw [surroundings.launch_eq, loaded, accepted]
  exact ⟨_, rfl⟩

private theorem givenUp_iff (finds : surroundings.Finds path found) :
    (∃ left, GivenUp surroundings path options report left) ↔
      loadFile path found = .error report := by
  constructor
  · intro givenUp
    obtain ⟨left, givenUp⟩ := givenUp
    cases result : loadFile path found with
    | error other =>
      have also := givenUp_of_refused finds result options
      cases givenUp.unstarted.symm.trans also.unstarted
      exact congrArg Except.error (Option.some.inj givenUp.report)
    | ok memory =>
      obtain ⟨launch, started⟩ := launch_of_loaded finds result options
      cases givenUp.unstarted.symm.trans started
  · exact fun refused => ⟨_, givenUp_of_refused finds refused options⟩

private theorem perform_of_refused (finds : surroundings.Finds path found)
    (running : Request.ofArguments surroundings.environment arguments = some (.run path options))
    (refused : loadFile path found = .error report) :
    perform surroundings fuel arguments =
      .finished (.failure (surroundings.opening path options) report) := by
  obtain ⟨input, loaded⟩ := finds.program
  rw [surroundings.perform_run running, loaded, refused]

private theorem exists_fault_of_finish {launch : Launch} {transcript : Transcript}
    (finished : launch.finish fuel = .finished transcript)
    (reported : transcript.report = some report) : ∃ fault pc, report = Fault.report fault pc := by
  unfold Launch.finish at finished
  split at finished
  · cases finished
  next answer machine streams _ =>
    cases finished
    unfold Launch.conclude at reported
    split at reported
    · cases reported
    · cases answer with
      | error fault =>
        cases reported
        exact ⟨fault, machine.pc, rfl⟩
      | ok => cases reported

/-- Where checking a program ends with a report, running it is given up with the same report before
it starts, and no input is read. Otherwise the run starts, and the check counts the lines of code. -/
theorem check_agrees_with_run
    (checking : Request.ofArguments desk.environment checks = some (.check path))
    (running : Request.ofArguments surroundings.environment runs = some (.run path options))
    (here : desk.Finds path found) (there : surroundings.Finds path found) (fuel : Nat) :
    ∃ checked, perform desk fuel checks = .finished checked ∧
      Agrees desk surroundings path options runs found checked := by
  refine ⟨desk.check path, perform_check checking,
    fun report => (check_report_iff here).trans (givenUp_iff there).symm, ?_, ?_⟩
  · intro report reported
    have refused := (check_report_iff here).mp reported
    rw [check_of_refused here refused]
    refine ⟨rfl, _, givenUp_of_refused there refused options, ?_⟩
    intro input finds fuel
    exact perform_of_refused finds running refused
  · intro silent
    cases result : loadFile path found with
    | error report =>
      rw [check_of_refused here result] at silent
      cases silent
    | ok memory =>
      obtain ⟨text, bytes, load⟩ := exists_text_of_loadFile result
      rw [check_of_loaded here result, size_of_load load]
      refine ⟨rfl, ⟨text, bytes, ?_⟩, ?_, launch_of_loaded there result options, ?_⟩
      · rw [← numeral_natCast]
        exact output_of_success desk path _
      · have checking := announce_frame desk.console .green "Checking" ("target " ++ path)
        have success := announce_frame (desk.checking path) .green "Success"
          (numeral ((textLines text.toList).countP holdsToken) ++ " cells loaded")
        exact (congrArg Console.trace success).trans (congrArg Console.trace checking)
      · intro fuel transcript report finished reported
        obtain ⟨input, loaded⟩ := there.program
        rw [surroundings.perform_run running, loaded, result] at finished
        obtain ⟨fault, pc, rfl⟩ := exists_fault_of_finish finished reported
        exact ⟨fault, pc, rfl, fault.explains_report pc⟩

/-- A program that defines a cell twice, and one with a comment and a lone colon between its two cells.
They are checked at a terminal, and run with the trace on where nobody types. -/
theorem check_agrees_with_run_on_cell_defined_twice :
    let desk (text : String) : Surroundings :=
      { contents := fun _ => .ok (.own (encode text.toList)), outputTerminal := true }
    let surroundings (text : String) : Surroundings :=
      { contents := fun _ => .ok (.own (encode text.toList))
        environment := { bindings := [("LMC_TRACE", "1")] }
        input := .typed [] }
    let twice := "5: 7\n\n5 8"
    let once := "5: 7\n; one\n : \n8"
    (∃ checked, perform (desk twice) 0 ["check", "p"] = .finished checked ∧
      checked.exit = some 1 ∧ checked.report.bind Report.place = some "p:3:1" ∧
      ∃ left, perform (surroundings twice) 9 ["run", "p", "-m"] = .finished left ∧
        left.report = checked.report ∧ left.console.output = "" ∧ left.console.trace = "") ∧
    ∃ checked, perform (desk once) 0 ["check", "p"] = .finished checked ∧ checked.exit = some 0 ∧
      checked.console.output = "\x1b[32m    Checking\x1b[0m target p\n" ++
        "\x1b[32m     Success\x1b[0m 2 cells loaded\n" := by
  intro desk surroundings twice once
  have checking (text : String) : Request.ofArguments (desk text).environment ["check", "p"] =
      some (.check "p") := by
    show Request.ofArguments {} _ = _
    decide +kernel
  have running (text : String) :
      Request.ofArguments (surroundings text).environment ["run", "p", "-m"] =
        some (.run "p" { minimal := true, trace := true }) := by
    show Request.ofArguments { bindings := [("LMC_TRACE", "1")] } _ = _
    decide +kernel
  have agrees (text : String) := check_agrees_with_run (checking text) (running text)
    ⟨(desk text).input, rfl⟩ ⟨(surroundings text).input, rfl⟩ 0
  constructor
  · obtain ⟨checked, finished, agree⟩ := agrees twice
    have placed : (perform (desk twice) 0 ["check", "p"]).transcript?.map
        (fun checked => checked.report.bind Report.place) = some (some "p:3:1") := by
      decide +kernel
    rw [finished] at placed
    have place := Option.some.inj placed
    obtain ⟨report, reported, -⟩ := Option.bind_eq_some_iff.mp place
    obtain ⟨exit, left, givenUp, done⟩ := agree.refused report reported
    exact ⟨checked, finished, exit, place, left, done (.typed []) ⟨.typed [], rfl⟩ 9,
      givenUp.report.trans reported.symm, givenUp.output, givenUp.untraced⟩
  · obtain ⟨checked, finished, agree⟩ := agrees once
    have silent : (perform (desk once) 0 ["check", "p"]).transcript?.map
        (fun checked => checked.report.isNone) = some true := by decide +kernel
    rw [finished] at silent
    have accepted := agree.accepted (Option.isNone_iff_eq_none.mp (Option.some.inj silent))
    obtain ⟨text, bytes, shown⟩ := accepted.counted
    have same : encode once.toList = encode text.toList := Except.ok.inj bytes
    have read : once.toList = text.toList := by
      rw [← Option.some_inj, ← decodeText_encode, same, decodeText_encode]
    have counted : (textLines once.toList).countP holdsToken = 2 := by decide +kernel
    rw [← read, counted] at shown
    refine ⟨checked, finished, accepted.exit, shown.trans ?_⟩
    decide +kernel

end

end Command

end LittleMan
