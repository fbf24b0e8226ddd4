import LittleMan.Channel.Queue
import LittleMan.Proofs.CallLog
import LittleMan.Proofs.Invariant
import LittleMan.Proofs.TraceLines

/-! The trace of a run is a journal of its completed cycles. On a minimal console that nothing else
prints on, it is one line for each of them and can be read back. -/

namespace LittleMan

variable {World : Type}

namespace Machine

/-- What the next cycle shows if it completes: the word as it is fetched, and the registers as they
are left. -/
def shown? (channel : Channel World) (machine : Machine) (world : World) : Option TraceEntry :=
  (machine.memory.get machine.pc).bind fun word =>
    match machine.cycle channel world with
    | ⟨.ok _, final, _⟩ =>
      some ⟨machine.pc, word, .decode word, final.acc, final.b, final.flags, final.useB⟩
    | ⟨.error _, _, _⟩ => none

def journal (channel : Channel World) (count : Nat) (machine : Machine) (world : World) :
    List TraceEntry :=
  (List.range count).filterMap fun index =>
    let reached := machine.cycleEach channel index world
    reached.machine.shown? channel reached.world

/-- A tracing machine that holds words, and a minimal console at the start of a line. -/
structure Watched (machine : Machine) (console : Console) : Prop where
  words : machine.HoldsWords
  trace : machine.trace = true
  minimal : console.minimal = true
  lineStart : console.lineStart = true

section

variable (channel : Channel World) (machine : Machine) (world : World) (console : Console)

private theorem journal_succ (count : Nat) :
    machine.journal channel (count + 1) world =
      machine.journal channel count world ++
        ((machine.cycleEach channel count world).machine.shown? channel
          (machine.cycleEach channel count world).world).toList := by
  rw [journal, List.range_succ, List.filterMap_append, List.filterMap_eq_flatMap_toList _ [count],
    List.flatMap_singleton]
  rfl

private theorem execute_traced (instruction : Instruction) (working : Nat) :
    (machine.execute channel.traced instruction working (world, console)).2.2 = console := by
  rw [execute_world]
  cases instruction with
  | input =>
    cases typed : channel.inputInteractive world <;> simp [Channel.ask, Channel.traced, typed]
  | output =>
    cases watched : channel.outputInteractive world <;> simp [Channel.tell, Channel.traced, watched]
  | _ => rfl

variable {machine console}

theorem HoldsWords.cycle_trace (words : machine.HoldsWords) :
    (machine.cycle channel world).machine.trace = machine.trace := by
  have shown (word : Nat) (effect : Effect) :
      (machine.after word effect).trace = machine.trace := by
    unfold Machine.after
    dsimp only
    split <;> rfl
  exact words.cycle_preserves (fun state => state.trace = machine.trace) id
    (fun _ word effect _ _ => shown word effect) rfl

theorem Watched.cycle_cases (watched : machine.Watched console) :
    (∃ fault final after,
      machine.cycle channel.traced (world, console) = ⟨.error fault, final, after, console⟩ ∧
      final.cycles = machine.cycles ∧ machine.shown? channel.traced (world, console) = none) ∨
    ∃ entry final after,
      machine.cycle channel.traced (world, console) =
        ⟨.ok (), final, after, { console with trace := console.trace ++ entry.line }⟩ ∧
      final.cycles = machine.cycles + 1 ∧
      machine.shown? channel.traced (world, console) = some entry ∧ entry.Legible := by
  have words : (machine.cycle channel.traced (world, console)).machine.HoldsWords :=
    watched.words.cycle
  have traced := watched.words.cycle_trace channel.traced (world, console)
  have silent (word : Nat) :=
    execute_traced channel machine.advance world console (.decode word) machine.working
  obtain ⟨fault, unread, failed⟩ | ⟨word, fault, after, fetched, refused, failed⟩ |
    ⟨word, executed, result, after, fetched, performed, done⟩ :=
      Machine.cycle_cases channel.traced machine (world, console)
  · refine .inl ⟨fault, machine, world, failed, rfl, ?_⟩
    rw [shown?, Memory.get_of_read_error unread]
    rfl
  · obtain ⟨after, printed⟩ := after
    have unseen : printed = console := (congrArg (·.2.2) refused).symm.trans (silent word)
    subst unseen
    refine .inl ⟨fault, machine.advance, after, failed, rfl, ?_⟩
    rw [shown?, Memory.read_eq_ok_iff.mp fetched, Option.bind_some, failed]
  · obtain ⟨after, printed⟩ := after
    have unseen : printed = console := (congrArg (·.2.2) performed).symm.trans (silent word)
    subst unseen
    have found := Memory.read_eq_ok_iff.mp fetched
    have counted := (cycle_completed done).1
    rw [done] at words traced
    dsimp only at words traced done counted
    -- All that matters of the completed machine is that it still holds words and traces.
    generalize executed.complete (.decode word) machine.useB result = final
      at words traced done counted
    have legible : (TraceEntry.of machine.pc word (.decode word) final).Legible := by
      refine ⟨?_, watched.words.memory _ _ found, rfl, words.acc, words.b⟩
      by_contra beyond
      have missing := machine.memory.get_eq_none_of_le (Nat.lt_of_not_le beyond)
      exact absurd (missing.symm.trans found) (by simp)
    refine .inr ⟨_, final, after, ?_, counted, ?_, legible⟩
    · rw [done, showCycle, if_pos (traced.trans watched.trace)]
      exact congrArg (fun printed => Turn.mk (Except.ok ()) final (after, printed))
        (Console.printTrace_of_minimal watched.minimal watched.lineStart _)
    · rw [shown?, found, Option.bind_some, done]
      rfl

/-- A number of cycles of a watched machine, with the journal of those that have completed. -/
structure Recorded (machine : Machine) (console : Console) (journal : List TraceEntry)
    (turn : Turn (List (Except Fault Unit)) (World × Console)) : Prop where
  watched : turn.machine.Watched turn.world.2
  text : turn.world.2.trace = console.trace ++ String.join (journal.map TraceEntry.line)
  completed : turn.answer.countP Except.isOk = journal.length
  cycles : turn.machine.cycles = machine.cycles + journal.length
  legible : ∀ entry ∈ journal, entry.Legible

theorem Watched.cycleEach (watched : machine.Watched console) (count : Nat) :
    machine.Recorded console (machine.journal channel.traced count (world, console))
      (machine.cycleEach channel.traced count (world, console)) := by
  induction count with
  | zero => exact ⟨watched, by simp [journal, Machine.cycleEach], rfl, rfl, by simp [journal]⟩
  | succ count ih =>
    rw [journal_succ, Machine.cycleEach]
    generalize machine.cycleEach channel.traced count (world, console) = reached at ih ⊢
    generalize machine.journal channel.traced count (world, console) = earlier at ih ⊢
    obtain ⟨answers, middle, current, shown⟩ := reached
    have words : (middle.cycle channel.traced (current, shown)).machine.HoldsWords :=
      ih.watched.words.cycle
    have traced := ih.watched.words.cycle_trace channel.traced (current, shown)
    obtain ⟨fault, final, after, failed, counted, silent⟩ |
      ⟨entry, final, after, done, counted, printed, legible⟩ :=
        ih.watched.cycle_cases channel current
    · rw [failed] at words traced
      rw [failed, silent, Option.toList_none, List.append_nil]
      refine ⟨⟨words, traced.trans ih.watched.trace, ih.watched.minimal, ih.watched.lineStart⟩,
        ih.text, ?_, counted.trans ih.cycles, ih.legible⟩
      rw [List.countP_append, ih.completed]
      rfl
    · rw [done] at words traced
      rw [done, printed, Option.toList_some]
      refine ⟨⟨words, traced.trans ih.watched.trace, ih.watched.minimal, ih.watched.lineStart⟩,
        ?_, ?_, ?_, ?_⟩
      · have text : shown.trace = _ := ih.text
        dsimp only
        rw [text, List.map_append, String.join_append, String.append_assoc]
        simp
      · rw [List.countP_append, ih.completed, List.length_append]
        rfl
      · rw [counted, ih.cycles, List.length_append]
        rfl
      · intro shown member
        rcases List.mem_append.mp member with before | last
        · exact ih.legible shown before
        · rwa [List.mem_singleton.mp last]

end

end Machine

end LittleMan
