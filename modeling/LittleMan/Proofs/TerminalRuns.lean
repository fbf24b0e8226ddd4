import LittleMan.Proofs.RunRequests
import LittleMan.Proofs.TypedLines

/-! Runs on lines that are typed. At a terminal that shows what is typed, a run reads one line after
another. Where its output goes elsewhere nothing is read at all, so the run goes the same way up to
its first input instruction, and fails there. -/

namespace LittleMan

namespace Streams

/-- Lines that are still to be typed, at a terminal that shows them. -/
structure Awaits (lines : List NumberLine) (streams : Streams) : Prop where
  input : streams.input = .typed (Key.ofBytes (lines.flatMap NumberLine.bytes))
  terminal : streams.outputTerminal = true
  running : streams.stopped = false

/-- Keys that are typed while the output goes elsewhere. -/
structure Deaf (streams : Streams) : Prop where
  typed : ∃ keys, streams.input = .typed keys
  redirected : streams.outputTerminal = false
  running : streams.stopped = false

def Stopped (streams : Streams) : Prop := streams.stopped = true

section

variable {lines : List NumberLine} {line : NumberLine} {streams first second : Streams}

theorem Awaits.ask (awaits : Awaits (line :: lines) streams) :
    (channel.ask streams).1 = line.parse ∧ Awaits lines (channel.ask streams).2 := by
  obtain ⟨input, outputTerminal, console, stopped⟩ := streams
  obtain ⟨rfl, rfl, running⟩ := awaits
  obtain ⟨echo, typed⟩ := line.afterKeys_bytes (lines.flatMap NumberLine.bytes)
  have asked : channel.ask
      ⟨.typed (Key.ofBytes ((line :: lines).flatMap NumberLine.bytes)), true, console, stopped⟩ =
        (line.parse,
          ⟨.typed (Key.ofBytes (lines.flatMap NumberLine.bytes)), true,
            (console.print .output "in? ").append .output (String.ofList echo), stopped⟩) := by
    simp [Channel.ask, channel, print, read, typed, line.trim_kept, line.readValue_token]
  rw [asked]
  exact ⟨rfl, rfl, rfl, running⟩

theorem Awaits.ask_nil (awaits : Awaits [] streams) : Stopped (channel.ask streams).2 := by
  obtain ⟨input, outputTerminal, console, stopped⟩ := streams
  obtain ⟨rfl, rfl, -⟩ := awaits
  simp [Stopped, Channel.ask, channel, print, read, Key.ofBytes_nil, TypedLine.afterKeys]

theorem Deaf.ask (deaf : Deaf streams) :
    (channel.ask streams).1 = .error (.inputNotNumber "") ∧ Deaf (channel.ask streams).2 := by
  obtain ⟨input, outputTerminal, console, stopped⟩ := streams
  obtain ⟨⟨keys, rfl⟩, rfl, running⟩ := deaf
  exact ⟨rfl, ⟨keys, rfl⟩, rfl, running⟩

private theorem tell_eq (word : Nat) (streams : Streams) : ∃ console,
    channel.tell word streams = (.ok (), { streams with console := console }) := by
  obtain ⟨input, outputTerminal, console, stopped⟩ := streams
  cases outputTerminal <;> exact ⟨_, rfl⟩

theorem Awaits.withConsole (awaits : Awaits lines streams) (console : Console) :
    Awaits lines { streams with console := console } :=
  ⟨awaits.input, awaits.terminal, awaits.running⟩

theorem Deaf.withConsole (deaf : Deaf streams) (console : Console) :
    Deaf { streams with console := console } :=
  ⟨deaf.typed, deaf.redirected, deaf.running⟩

theorem Stopped.ask (stopped : Stopped streams) : Stopped (channel.ask streams).2 := by
  obtain ⟨input, outputTerminal, console, _⟩ := streams
  cases stopped
  cases input with
  | redirected => rfl
  | typed keys =>
    cases outputTerminal with
    | false => rfl
    | true =>
      simp only [Stopped, Channel.ask, channel, print, read, if_true]
      split <;> rfl

structure Beside (lines : List NumberLine) (first second : Streams) : Prop where
  awaits : Awaits lines first
  deaf : Deaf second

theorem Beside.tell (beside : Beside lines first second) (word : Nat) :
    Alike (Beside lines) (channel.tell word first) (channel.tell word second) := by
  obtain ⟨console, one⟩ := tell_eq word first
  obtain ⟨screen, two⟩ := tell_eq word second
  rw [one, two]
  exact ⟨rfl, beside.awaits.withConsole console, beside.deaf.withConsole screen⟩

theorem Beside.answerAlike (beside : Beside lines first second) {instruction : Instruction}
    (silent : instruction ≠ .input) (working : Nat) :
    AnswerAlike channel channel (Beside lines) instruction working first second := by
  cases instruction with
  | input => exact absurd rfl silent
  | output => exact beside.tell working
  | device => exact ⟨rfl, beside⟩
  | _ => exact beside

theorem Beside.cycle (beside : Beside lines first second) {machine : Machine}
    (silent : machine.fetched? ≠ some .input) :
    (machine.cycle channel first).Alike (Beside lines) (machine.cycle channel second) := by
  apply Machine.cycle_alike
  · intro entry one two beside
    exact ⟨beside.awaits.withConsole _, beside.deaf.withConsole _⟩
  · exact beside
  · intro word fetched
    apply beside.answerAlike
    intro asks
    exact silent ((Machine.fetched?_of_read fetched).trans (congrArg some asks))

end

end Streams

namespace Machine

open Streams

section

variable {lines : List NumberLine} {first second last : Streams} {machine final : Machine}
  {count before : Nat} {outcome : Except Fault Unit}

private theorem silent_succ (silent : machine.heard channel (count + 1) first = []) :
    machine.heard channel count first = [] ∧
      (machine.cycleEach channel count first).machine.fetched? ≠ some .input := by
  rw [heard, gather_succ, List.append_eq_nil_iff, Option.toList_eq_nil_iff] at silent
  refine ⟨silent.1, ?_⟩
  intro asks
  have answered := silent.2
  rw [heard?, if_pos asks] at answered
  cases answered

private theorem cycleEach_beside (beside : Beside lines first second)
    (silent : machine.heard channel count first = []) :
    (machine.cycleEach channel count first).Alike (Beside lines)
      (machine.cycleEach channel count second) := by
  induction count with
  | zero => exact ⟨rfl, rfl, beside⟩
  | succ count ih =>
    obtain ⟨earlier, asksNot⟩ := silent_succ silent
    have reached := ih earlier
    have last := reached.world.cycle asksNot
    simp only [cycleEach, ← reached.answer, ← reached.machine]
    exact ⟨by rw [last.answer], last.machine, last.world⟩

private theorem cycleTimes_beside (beside : Beside lines first second)
    (silent : machine.heard channel count first = []) :
    (machine.cycleTimes channel count first).Alike (Beside lines)
      (machine.cycleTimes channel count second) := by
  induction count with
  | zero => exact ⟨rfl, rfl, beside⟩
  | succ count ih =>
    obtain ⟨earlier, asksNot⟩ := silent_succ silent
    obtain ⟨answer, reached, told, heard, one, two, matched⟩ := (ih earlier).exists_eq
    cases answer with
    | error fault =>
      rw [cycleTimes, cycleTimes, one, two]
      exact ⟨rfl, rfl, matched⟩
    | ok =>
      rw [(cycleEach_of_cycleTimes one).1] at asksNot
      rw [cycleTimes_succ one, cycleTimes_succ two]
      exact matched.cycle asksNot

private theorem silent_of_le (silent : machine.heard channel count first = [])
    (small : before ≤ count) :
    machine.heard channel before first = [] :=
  List.prefix_nil.mp (silent ▸ gather_prefix small)

theorem Proceeds.beside (beside : Beside lines first second)
    (silent : machine.heard channel count first = [])
    (proceeds : machine.Proceeds channel first count) :
    machine.Proceeds channel second count := by
  intro index small
  obtain ⟨middle, current, completed, active⟩ := proceeds index small
  obtain ⟨_, _, _, heard, one, two, -⟩ :=
    (cycleTimes_beside beside (silent_of_le silent small)).exists_eq
  cases completed.symm.trans one
  exact ⟨middle, heard, two, active⟩

private theorem written_beside (beside : Beside lines first second)
    (silent : machine.heard channel count first = []) :
    machine.written channel count second = machine.written channel count first := by
  apply Eq.symm
  apply gather_congr
  intro index small
  obtain ⟨earlier, asksNot⟩ := silent_succ (silent_of_le silent small)
  obtain ⟨_, _, _, _, one, two, matched⟩ := (cycleEach_beside beside earlier).exists_eq
  rw [one] at asksNot
  rw [one, two]
  exact written?_alike (matched.cycle asksNot)

theorem Ends.beside (beside : Beside lines first second)
    (silent : machine.heard channel count first = [])
    (ends : machine.Ends channel first count outcome final last) :
    ∃ also, machine.Ends channel second count outcome final also ∧ Beside lines last also := by
  obtain ⟨answer, _, _, also, one, two, matched⟩ := (cycleTimes_beside beside silent).exists_eq
  cases ends with
  | settled ends paid =>
    cases ends.reached.symm.trans one
    have proceeds := ends.proceeds.beside beside (silent_of_le silent (Nat.sub_le count 1))
    exact ⟨also, .settled ⟨ends.pos, proceeds, two, ends.halted⟩ paid, matched⟩
  | spent budget proceeds reached =>
    cases reached.symm.trans one
    exact ⟨also, .spent budget (proceeds.beside beside silent) two, matched⟩

private theorem cycle_deaf (deaf : Deaf first) (asks : machine.fetched? = some .input) :
    ∃ after, Deaf after ∧
      machine.cycle channel first = ⟨.error (.inputNotNumber ""), machine.advance, after⟩ := by
  obtain ⟨refused, kept⟩ := deaf.ask
  obtain ⟨word, fetched, decoded⟩ := Option.map_eq_some_iff.mp asks
  refine ⟨(channel.ask first).2, kept, cycle_of_failed (Memory.read_eq_ok_iff.mpr fetched) ?_⟩
  rcases asked : channel.ask first with ⟨answer, after⟩
  rw [asked] at refused
  cases refused
  simp only [decoded, execute, asked]

/-- Where the output goes elsewhere, a run that comes to an input instruction fails there. -/
theorem Ends.beside_input (beside : Beside lines first second)
    (silent : machine.heard channel before first = [])
    (asks : (machine.cycleEach channel before first).machine.fetched? = some .input)
    (ends : machine.Ends channel first count outcome final last) (earlier : before < count) :
    ∃ also, also.stopped = false ∧
      machine.Ends channel second (before + 1) (.error (.inputNotNumber ""))
        (machine.cycleEach channel before first).machine.advance also := by
  obtain ⟨proceeds, paid⟩ := ends.proceeds_before earlier
  obtain ⟨middle, current, completed, active⟩ := proceeds before (Nat.le_refl before)
  obtain ⟨_, _, _, heard, one, two, matched⟩ := (cycleTimes_beside beside silent).exists_eq
  cases completed.symm.trans one
  rw [(cycleEach_of_cycleTimes completed).1] at asks ⊢
  obtain ⟨after, deaf, failed⟩ := cycle_deaf matched.deaf asks
  have goes := proceeds.beside beside silent
  refine ⟨after, deaf.running, .settled ⟨Nat.succ_pos before, goes, ?_, ?_⟩ paid⟩
  · rw [cycleTimes_succ two, failed]
  · intro none
    cases none

private theorem written_beside_input (beside : Beside lines first second)
    (silent : machine.heard channel before first = [])
    (asks : (machine.cycleEach channel before first).machine.fetched? = some .input) :
    machine.written channel (before + 1) second = machine.written channel before first := by
  rw [(cycleEach_beside beside silent).machine] at asks
  rw [← written_beside beside silent, written, gather_succ, written?, asks, if_neg (by simp)]
  exact List.append_nil _

private theorem input_of_heard? (answered : machine.heard? channel first ≠ none) :
    machine.fetched? = some .input := by
  by_contra other
  exact answered (if_neg other)

private theorem awaits_cycle_of_input {line : NumberLine} (awaits : Awaits (line :: lines) first)
    (asks : machine.fetched? = some .input) : Awaits lines (machine.cycle channel first).world := by
  apply cycle_world
  · exact fun _ _ awaits => awaits.withConsole _
  · intro none
    cases none.symm.trans asks
  · intro instruction fetched
    cases fetched.symm.trans asks
    rw [execute_world]
    exact awaits.ask.2

private theorem awaits_cycle_of_other (awaits : Awaits lines first)
    (asksNot : machine.fetched? ≠ some .input) :
    Awaits lines (machine.cycle channel first).world := by
  -- A cycle that asks for nothing goes as it would with the output elsewhere.
  have deaf : Deaf { first with outputTerminal := false } :=
    ⟨⟨_, awaits.input⟩, rfl, awaits.running⟩
  exact (Beside.cycle ⟨awaits, deaf⟩ asksNot).world.awaits

private theorem stopped_cycle (stopped : Stopped first) :
    Stopped (machine.cycle channel first).world := by
  apply cycle_world
  · exact fun _ _ stopped => stopped
  · exact fun _ => stopped
  · intro instruction fetched
    rw [execute_world]
    cases instruction with
    | input => exact stopped.ask
    | output =>
      obtain ⟨console, told⟩ := tell_eq machine.working first
      dsimp only
      rw [told]
      exact stopped
    | device => exact stopped
    | _ => exact stopped

private theorem stopped_cycle_of_input (awaits : Awaits [] first)
    (asks : machine.fetched? = some .input) :
    Stopped (machine.cycle channel first).world := by
  apply cycle_world
  · exact fun _ _ stopped => stopped
  · intro none
    cases none.symm.trans asks
  · intro instruction fetched
    cases fetched.symm.trans asks
    rw [execute_world]
    exact awaits.ask_nil

/-- The values that a run at a terminal obtains are those of the lines, in their order, and when
there are no more lines the program is stopped. -/
theorem heard_at_terminal (awaits : Awaits lines first) (machine : Machine) (count : Nat) :
    let heard := machine.heard channel count first
    let reached := (machine.cycleEach channel count first).world
    (∃ used rest, lines = used ++ rest ∧ heard = used.map NumberLine.parse ∧
        Awaits rest reached) ∨
      (lines.map NumberLine.parse <+: heard ∧ Stopped reached) := by
  induction count with
  | zero => exact .inl ⟨[], lines, rfl, rfl, awaits⟩
  | succ count ih =>
    have more : machine.heard channel (count + 1) first = _ :=
      gather_succ (heard? channel) channel count machine first
    rcases ih with ⟨used, rest, rfl, told, waits⟩ | ⟨told, stopped⟩
    · by_cases asks : (machine.cycleEach channel count first).machine.fetched? = some .input
      · cases rest with
        | nil =>
          refine .inr ⟨?_, stopped_cycle_of_input waits asks⟩
          rw [List.append_nil, more]
          exact told ▸ List.prefix_append _ _
        | cons line rest =>
          refine .inl ⟨used ++ [line], rest, by simp, ?_, awaits_cycle_of_input waits asks⟩
          rw [more, heard?, if_pos asks, waits.ask.1, List.map_append]
          exact congrArg (· ++ [line.parse]) told
      · refine .inl ⟨used, rest, rfl, ?_, awaits_cycle_of_other waits asks⟩
        rw [more, heard?, if_neg asks]
        exact (List.append_nil _).trans told
    · refine .inr ⟨?_, stopped_cycle stopped⟩
      rw [more]
      exact told.trans (List.prefix_append _ _)

end

end Machine

namespace Command

open Streams

def Surroundings.withTerminal (surroundings : Surroundings) (terminal : Bool) : Surroundings :=
  { surroundings with outputTerminal := terminal }

section

variable {surroundings : Surroundings} {arguments : List String} {path : String}
  {options : RunOptions} {memory : Memory} {input : Input} {lines : List NumberLine}

private theorem program_typed {keys : List Key} {found : Except Report Memory}
    (typed : surroundings.input = .typed keys)
    (loaded : surroundings.program path = some (found, input)) : input = .typed keys := by
  unfold Surroundings.program Surroundings.read at loaded
  rw [typed] at loaded
  rcases held : surroundings.contents path with fault | bytes | _
  all_goals
    rw [held] at loaded
    cases loaded
  · rfl
  · rfl

private theorem conclude_running {last : Streams} (running : last.stopped = false) (path : String)
    (final : Machine) (outcome : Except Fault Unit) :
    let transcript := Launch.conclude ⟨path, final, last⟩ outcome
    (transcript.exit, transcript.report) =
      match outcome with
      | .ok () => (some 0, none)
      | .error fault => (some 1, some (fault.report final.pc)) := by
  unfold Launch.conclude
  rw [running]
  cases outcome <;> rfl

private theorem conclude_stopped {last : Streams} (stopped : Stopped last) (path : String)
    (final : Machine) (outcome : Except Fault Unit) :
    (Launch.conclude ⟨path, final, last⟩ outcome).exit = none := by
  unfold Launch.conclude
  rw [show last.stopped = true from stopped]
  rfl

/-- Numbers typed line by line reach a run at a terminal, in their order. Where the output goes
elsewhere the run ends the same way if it asks for no value, and otherwise it fails where it asks for
the first one. -/
theorem typed_numbers_reach_terminal_runs
    (typed : surroundings.input = .ofKeys (lines.flatMap NumberLine.bytes))
    (requested : Request.ofArguments surroundings.environment arguments =
      some (.run path options))
    (loaded : surroundings.program path = some (.ok memory, input)) {fuel : Nat}
    {transcript : Transcript}
    (finished : perform (surroundings.withTerminal true) fuel arguments = .finished transcript) :
    let machine := options.machine memory
    let shown := (surroundings.withTerminal true).streams path options input
    let unshown := (surroundings.withTerminal false).streams path options input
    ∃ count outcome final last also,
      machine.Ends channel shown count outcome final last ∧
      (machine.heard channel count shown <+: lines.map NumberLine.parse ∨
        lines.map NumberLine.parse <+: machine.heard channel count shown ∧
          transcript.exit = none) ∧
      perform (surroundings.withTerminal false) fuel arguments = .finished also ∧
      (machine.heard channel count shown = [] →
        also.exit = transcript.exit ∧ also.report = transcript.report ∧
          (∃ after, machine.Ends channel unshown count outcome final after) ∧
          machine.written channel count unshown = machine.written channel count shown) ∧
      (machine.heard channel count shown ≠ [] → ∃ before < count,
        let reached := (machine.cycleEach channel before shown).machine
        machine.heard channel before shown = [] ∧ reached.fetched? = some .input ∧
          also.exit = some 1 ∧
          also.report = some ((Fault.inputNotNumber "").report reached.advance.pc) ∧
          (∃ after, machine.Ends channel unshown (before + 1) (.error (.inputNotNumber ""))
            reached.advance after) ∧
          machine.written channel (before + 1) unshown =
            machine.written channel before shown) := by
  intro machine shown unshown
  have kept := program_typed typed loaded
  have inside := Request.start_le_of_ofArguments requested
  have awaits : Awaits lines shown := ⟨kept, rfl, rfl⟩
  have beside : Beside lines shown unshown := ⟨awaits, ⟨_, kept⟩, rfl, rfl⟩
  rcases resumed : machine.resume channel fuel shown with ⟨answer, final, last⟩
  have left : (perform (surroundings.withTerminal true) fuel arguments).transcript? = _ :=
    transcript?_run requested loaded resumed
  rw [finished] at left
  obtain ⟨outcome, rfl, rfl⟩ := Option.map_eq_some_iff.mp left.symm
  obtain ⟨count, small, ends⟩ := Machine.exists_ends_of_resume rfl inside resumed
  have told := Machine.heard_at_terminal awaits machine count
  rw [ends.cycleEach.2] at told
  have hearing : machine.heard channel count shown <+: lines.map NumberLine.parse ∨
      lines.map NumberLine.parse <+: machine.heard channel count shown ∧
        (Launch.conclude ⟨path, final, last⟩ outcome).exit = none := by
    rcases told with ⟨used, rest, rfl, same, -⟩ | ⟨all, stopped⟩
    · rw [same, List.map_append]
      exact .inl (List.prefix_append _ _)
    · exact .inr ⟨all, conclude_stopped stopped path final outcome⟩
  -- A run that obtains values has a first one, and that is as far as the other run goes with it.
  by_cases silent : machine.heard channel count shown = []
  · obtain ⟨after, also, matched⟩ := ends.beside beside silent
    have ended : (perform (surroundings.withTerminal false) fuel arguments).transcript? = _ :=
      transcript?_run requested loaded (also.resume inside small)
    have here := conclude_running matched.awaits.running path final outcome
    have there := conclude_running matched.deaf.running path final outcome
    have same := there.trans here.symm
    refine ⟨count, outcome, final, last, _, ends, hearing,
      Conclusion.transcript?_eq_some_iff.mp ended, ?_, fun loud => absurd silent loud⟩
    intro _
    exact ⟨congrArg Prod.fst same, congrArg Prod.snd same, ⟨after, also⟩,
      Machine.written_beside beside silent⟩
  · obtain ⟨before, earlier, quiet, answered⟩ := Machine.exists_first_of_gather silent
    have asks := Machine.input_of_heard? answered
    obtain ⟨after, running, also⟩ := ends.beside_input beside quiet asks earlier
    have ended : (perform (surroundings.withTerminal false) fuel arguments).transcript? = _ :=
      transcript?_run requested loaded (also.resume inside (Nat.le_trans earlier small))
    have there := conclude_running running path
      (machine.cycleEach channel before shown).machine.advance (.error (.inputNotNumber ""))
    refine ⟨count, outcome, final, last, _, ends, hearing,
      Conclusion.transcript?_eq_some_iff.mp ended, fun quiet => absurd quiet silent, ?_⟩
    intro _
    exact ⟨before, earlier, quiet, asks, congrArg Prod.fst there, congrArg Prod.snd there,
      ⟨after, also⟩, Machine.written_beside_input beside quiet asks⟩

end

/-- One number is typed, and the program asks for one. -/
theorem typed_numbers_reach_terminal_runs_of_one :
    let lines := [NumberLine.ofInt 5]
    let surroundings : Surroundings :=
      { contents := fun _ => .ok (.own (Text.encode "901\n902\n0\n".toList))
        input := .ofKeys (lines.flatMap NumberLine.bytes) }
    let arguments := ["run", "p", "--minimal"]
    let options : RunOptions := { minimal := true }
    ∃ memory input transcript count also,
      surroundings.program "p" = some (.ok memory, input) ∧
      perform (surroundings.withTerminal true) 9 arguments = .finished transcript ∧
      transcript.exit = some 0 ∧
      (options.machine memory).heard channel count
          ((surroundings.withTerminal true).streams "p" options input) <+: [.ok 5] ∧
      perform (surroundings.withTerminal false) 9 arguments = .finished also := by
  intro lines surroundings arguments options
  have requested : Request.ofArguments surroundings.environment arguments =
      some (.run "p" options) := by decide +kernel
  have found : (Program.loadFile "p" (.ok (Text.encode "901\n902\n0\n".toList))).isOk = true := by
    decide +kernel
  have left : (perform (surroundings.withTerminal true) 9 arguments).transcript?.map
      (fun transcript => transcript.exit) = some (some 0) := by decide +kernel
  obtain ⟨transcript, ended, exit⟩ := Option.map_eq_some_iff.mp left
  have finished := Conclusion.transcript?_eq_some_iff.mp ended
  cases program : Program.loadFile "p" (.ok (Text.encode "901\n902\n0\n".toList)) with
  | error =>
    rw [program] at found
    cases found
  | ok memory =>
    have loaded : surroundings.program "p" = some (.ok memory, surroundings.input) :=
      congrArg (fun found => some (found, surroundings.input)) program
    obtain ⟨count, _, _, _, also, -, hearing, again, -⟩ :=
      typed_numbers_reach_terminal_runs rfl requested loaded finished
    refine ⟨memory, _, transcript, count, also, loaded, finished, exit, ?_, again⟩
    rcases hearing with heard | ⟨-, none⟩
    · exact heard
    · cases exit.symm.trans none

/-- The number that is typed reaches the run only where it is shown. -/
theorem typed_number_lost_without_terminal :
    let surroundings : Surroundings :=
      { contents := fun _ => .ok (.own (Text.encode "901\n902\n0\n".toList))
        input := .ofKeys ([NumberLine.ofInt 5].flatMap NumberLine.bytes) }
    let exit (terminal : Bool) :=
      (perform (surroundings.withTerminal terminal) 9 ["run", "p", "--minimal"]).transcript?.map
        fun transcript => transcript.exit
    exit true = some (some 0) ∧ exit false = some (some 1) := by
  intro surroundings exit
  exact ⟨by decide +kernel, by decide +kernel⟩

end Command

end LittleMan
