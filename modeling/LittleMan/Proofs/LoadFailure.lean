import LittleMan.Proofs.ProgramListing
import LittleMan.Proofs.ProgramPrefix
import LittleMan.Proofs.ReportTexts

/-! Where loading stops and why. The first line that breaks a rule stops it; the lines
before it stay loaded, and of the rules it breaks the one checked first is reported. -/

namespace LittleMan.Program

open Text

inductive Rule where
  | addressIsNumber
  | addressInRange
  | roomLeft
  | nothingTrails
  | valueIsNumber
  | valueInRange
  | cellFree

namespace Rule

/-- The order in which a line is checked. -/
def rank : Rule → Nat
  | addressIsNumber => 0
  | addressInRange => 1
  | roomLeft => 2
  | nothingTrails => 3
  | valueIsNumber => 4
  | valueInRange => 5
  | cellFree => 6

/-- The code that is reported for a broken rule. -/
def code : Rule → String
  | addressIsNumber | valueIsNumber => "load::bad_number"
  | addressInRange | valueInRange => "load::out_of_range"
  | roomLeft => "load::overflow"
  | nothingTrails => "load::trailing"
  | cellFree => "load::duplicate_address"

end Rule

def valueToken : List (List Char) → Option (List Char)
  | [] => none
  | [value] => some value
  | _ :: value :: _ => some value

inductive Target (next : Nat) : List (List Char) → Nat → Prop where
  | running {value : List Char} (room : next ≤ 999) : Target next [value] next
  | given {place value : List Char} {extra : List (List Char)} {address : Nat}
      (isAddress : IsWord place address) : Target next (place :: value :: extra) address

/-- The tokens of a line break a rule, with the cause that is reported for it. -/
inductive Breach (next : Nat) (memory : Memory) :
    Rule → List (List Char) → LoadCause → Prop where
  | addressIsNumber {place value : List Char} {extra : List (List Char)} {reason : NumeralFault}
      (other : ∀ number, ¬IsLiteral place number) :
      Breach next memory .addressIsNumber (place :: value :: extra) (.badNumber reason)
  | addressInRange {place value : List Char} {extra : List (List Char)} {number : Int}
      (literal : IsLiteral place number) (outside : number < 0 ∨ 999 < number) :
      Breach next memory .addressInRange (place :: value :: extra) (.outOfRange .address)
  | roomLeft {value : List Char} (full : next = 1000) :
      Breach next memory .roomLeft [value] .overflow
  | nothingTrails {place value third : List Char} {extra : List (List Char)} :
      Breach next memory .nothingTrails (place :: value :: third :: extra) .trailing
  | valueIsNumber {found : List (List Char)} {value : List Char} {reason : NumeralFault}
      (holds : valueToken found = some value) (other : ∀ number, ¬IsLiteral value number) :
      Breach next memory .valueIsNumber found (.badNumber reason)
  | valueInRange {found : List (List Char)} {value : List Char} {number : Int}
      (holds : valueToken found = some value) (literal : IsLiteral value number)
      (outside : number < 0 ∨ 999 < number) :
      Breach next memory .valueInRange found (.outOfRange .value)
  | cellFree {found : List (List Char)} {address word : Nat} (target : Target next found address)
      (mapped : memory.get address = some word) :
      Breach next memory .cellFree found (.duplicateAddress address)

theorem IsLiteral.eq {token : List Char} {first second : Int} (one : IsLiteral token first)
    (other : IsLiteral token second) : first = second := by
  have read {value : Int} (literal : IsLiteral token value) :
      (NumeralRange.signed 64).read token = .ok value :=
    (NumeralRange.signed_read_eq_ok_iff 64).mpr literal
  exact Except.ok.inj ((read one).symm.trans (read other))

theorem readWord_error {part : Part} {token : Token} {fault : LoadFault}
    (refused : readWord part token = .error fault) :
    (∃ reason, fault.cause = .badNumber reason ∧ ∀ number, ¬IsLiteral token.text number) ∨
      ∃ number, fault.cause = .outOfRange part ∧ IsLiteral token.text number ∧
        (number < 0 ∨ 999 < number) := by
  unfold readWord at refused
  split at refused
  next reason read =>
    cases refused
    refine .inl ⟨reason, rfl, fun number literal => ?_⟩
    rw [(NumeralRange.signed_read_eq_ok_iff 64).mpr literal] at read
    cases read
  next number read =>
    split at refused
    · cases refused
    next outside =>
      cases refused
      exact .inr ⟨number, rfl, (NumeralRange.signed_read_eq_ok_iff 64).mp read, by omega⟩

structure FirstBreach (next : Nat) (memory : Memory) (rule : Rule) (found : List (List Char))
    (cause : LoadCause) : Prop where
  breach : Breach next memory rule found cause
  first : ∀ other reason, Breach next memory other found reason → rule.rank ≤ other.rank

section

variable {next address word : Nat} {memory : Memory} {found : List (List Char)} {rule : Rule}
  {value : List Char} {number : Int} {cause : LoadCause}

theorem Breach.code (breach : Breach next memory rule found cause) : cause.code = rule.code := by
  cases breach <;> rfl

theorem Breach.ne_nil (breach : Breach next memory rule found cause) : found ≠ [] := by
  rintro rfl
  cases breach with
  | valueIsNumber holds | valueInRange holds => cases holds
  | cellFree target => cases target

-- Each check that a line passes leaves the rules from the next one on.
theorem Breach.of_number {place : List Char} {extra : List (List Char)}
    (literal : IsLiteral place number)
    (breach : Breach next memory rule (place :: value :: extra) cause) : 1 ≤ rule.rank := by
  cases breach with
  | addressIsNumber other => exact absurd literal (other _)
  | addressInRange | nothingTrails | valueIsNumber | valueInRange | cellFree => decide

theorem Breach.of_target (target : Target next found address)
    (breach : Breach next memory rule found cause) : 3 ≤ rule.rank := by
  cases breach with
  | addressIsNumber other =>
    cases target with
    | given isAddress => exact absurd isAddress.1 (other _)
  | addressInRange literal outside =>
    cases target with
    | given isAddress =>
      have same := literal.eq isAddress.1
      have small := isAddress.2
      omega
  | roomLeft full =>
    cases target with
    | running room => omega
  | nothingTrails | valueIsNumber | valueInRange | cellFree => decide

theorem Breach.of_short (target : Target next found address) (short : found.length ≤ 2)
    (breach : Breach next memory rule found cause) : 4 ≤ rule.rank := by
  have passed := breach.of_target target
  cases breach with
  | addressIsNumber | addressInRange | roomLeft => exact absurd passed (by decide)
  | nothingTrails => simp at short
  | valueIsNumber | valueInRange | cellFree => decide

theorem Breach.of_literal (target : Target next found address) (short : found.length ≤ 2)
    (holds : valueToken found = some value) (literal : IsLiteral value number)
    (breach : Breach next memory rule found cause) : 5 ≤ rule.rank := by
  have passed := breach.of_short target short
  cases breach with
  | addressIsNumber | addressInRange | roomLeft | nothingTrails =>
    exact absurd passed (by decide)
  | valueIsNumber same other =>
    cases holds.symm.trans same
    exact absurd literal (other _)
  | valueInRange | cellFree => decide

theorem Breach.of_word (target : Target next found address) (short : found.length ≤ 2)
    (holds : valueToken found = some value) (isWord : IsWord value word)
    (breach : Breach next memory rule found cause) : 6 ≤ rule.rank := by
  have passed := breach.of_literal target short holds isWord.1
  cases breach with
  | addressIsNumber | addressInRange | roomLeft | nothingTrails | valueIsNumber =>
    exact absurd passed (by decide)
  | valueInRange same literal outside =>
    cases holds.symm.trans same
    have equal := literal.eq isWord.1
    have small := isWord.2
    omega
  | cellFree => decide

end

namespace Loading

variable {loading final : Loading} {piece : List Located} {fault : LoadFault}

private theorem define_error {address : Nat} {value : Token} {found : List (List Char)}
    (target : Target loading.next found address) (short : found.length ≤ 2)
    (holds : valueToken found = some value.text)
    (refused : loading.define piece address value [] = .error fault) :
    ∃ rule, FirstBreach loading.next loading.memory rule found fault.cause := by
  unfold define at refused
  dsimp only at refused
  split at refused
  next read =>
    cases refused
    rcases readWord_error read with ⟨reason, same, other⟩ | ⟨number, same, literal, outside⟩
    · rw [same]
      exact ⟨_, .valueIsNumber holds other, fun _ _ => Breach.of_short target short⟩
    · rw [same]
      exact ⟨_, .valueInRange holds literal outside,
        fun _ _ => Breach.of_literal target short holds literal⟩
  next word read =>
    have isWord := readWord_eq_ok_iff.mp read
    split at refused
    next mapped =>
      cases refused
      obtain ⟨old, mapped⟩ := Option.isSome_iff_exists.mp mapped
      exact ⟨_, .cellFree target mapped, fun _ _ => Breach.of_word target short holds isWord⟩
    next => cases refused

private theorem loadLine_error (room : loading.next ≤ 1000)
    (refused : loading.loadLine piece = .error fault) :
    ∃ rule, FirstBreach loading.next loading.memory rule ((tokens piece).map Token.text)
      fault.cause := by
  unfold loadLine at refused
  split at refused
  · cases refused
  next value single =>
    rw [single]
    split at refused
    next room => exact define_error (.running (Nat.le_of_lt_succ room)) (by simp) rfl refused
    next full =>
      cases refused
      refine ⟨_, .roomLeft (by omega), fun other reason breach => ?_⟩
      cases breach <;> decide
  next place value extra several =>
    rw [several]
    split at refused
    next read =>
      cases refused
      rcases readWord_error read with ⟨reason, same, other⟩ | ⟨number, same, literal, outside⟩
      · rw [same]
        exact ⟨_, .addressIsNumber other, fun _ _ _ => Nat.zero_le _⟩
      · rw [same]
        exact ⟨_, .addressInRange literal outside, fun _ _ => Breach.of_number literal⟩
    next address read =>
      have target : Target loading.next ((place :: value :: extra).map Token.text) address :=
        .given (readWord_eq_ok_iff.mp read)
      cases extra with
      | nil => exact define_error target (by simp) rfl refused
      | cons third extra =>
        cases refused
        exact ⟨_, .nothingTrails, fun _ _ => Breach.of_target target⟩

/-- A load that fails does so at a line before which it has succeeded. -/
theorem exists_of_loadLines_eq_some {pieces : List (List Located)}
    (failed : loading.loadLines pieces = (some fault, final)) :
    ∃ earlier piece later, pieces = earlier ++ piece :: later ∧
      loading.loadLines earlier = (none, final) ∧ final.loadLine piece = .error fault := by
  induction pieces generalizing loading with
  | nil => cases failed
  | cons piece rest ih =>
    rw [loadLines] at failed
    split at failed
    next refused =>
      cases failed
      exact ⟨[], piece, rest, rfl, rfl, refused⟩
    next after loaded =>
      obtain ⟨earlier, refusing, later, rfl, succeeded, refused⟩ := ih failed
      refine ⟨piece :: earlier, refusing, later, rfl, ?_, refused⟩
      rw [loadLines, loaded]
      exact succeeded

end Loading

private theorem nextAddress_le {memory : Memory} {entries : List (Nat × Nat)}
    (fits : Fits memory entries) : nextAddress 0 entries ≤ 1000 := by
  unfold nextAddress
  cases last : entries.getLast? with
  | none => simp
  | some entry =>
    have small := fits.inside entry (List.mem_of_getLast? last)
    simp only [Option.map_some, Option.getD_some]
    omega

/-- Loading a text stops at a line. What stands before the line loads as a text of its own, into
the memory that is left. -/
structure StopsAt (memory : Memory) (text earlier : String) (line : List Char)
    (found : List (List Char)) (entries : List (Nat × Nat)) (rule : Rule) (fault : LoadFault) :
    Prop where
  starts : earlier.toList <+: text.toList
  splits : textLines earlier.toList ++ [line] <+: textLines text.toList
  loaded : load earlier memory = (none, (load text memory).2)
  listing : Listing 0 (textLines earlier.toList) entries
  cut : HasTokens line found
  present : found ≠ []
  first : FirstBreach (nextAddress 0 entries) (load text memory).2 rule found fault.cause
  code : ∀ source, (fault.report source).code = some rule.code
  explained : ∀ source, fault.Explains (fault.report source)

/-- A load that fails has loaded the lines before the first one that breaks a rule, and reports
the rule that is checked first of those it breaks. -/
theorem load_stops_at_first_breach {text : String} {memory : Memory} {fault : LoadFault}
    (failed : (load text memory).1 = some fault) :
    ∃ earlier line found entries rule,
      StopsAt memory text earlier line found entries rule fault := by
  obtain ⟨final, stopped, left⟩ : ∃ final : Loading,
      Loading.loadLines ⟨memory, 0⟩ (lines text) = (some fault, final) ∧
        (load text memory).2 = final.memory := ⟨_, Prod.ext failed rfl, rfl⟩
  obtain ⟨pieces, piece, rest, cut, loaded, refused⟩ :=
    Loading.exists_of_loadLines_eq_some stopped
  obtain ⟨earlier, line, later, starts, splits, rfl, shows⟩ := lines_split cut
  obtain ⟨entries, listing, fits, filled⟩ :=
    (Loading.loadLines_eq_none_iff (lines_show earlier)).mp loaded
  -- The line at fault is checked against what its predecessors have left.
  have running : final.next = nextAddress 0 entries := congrArg Loading.next filled
  obtain ⟨rule, first⟩ := Loading.loadLine_error (running ▸ nextAddress_le fits) refused
  rw [running] at first
  exact ⟨earlier, line, _, entries, rule, {
    starts := starts
    splits := ⟨later, by rw [splits, List.append_assoc]; rfl⟩
    loaded := by rw [load, loaded, left]
    listing := listing
    cut := shows
    present := first.breach.ne_nil
    first := by rwa [left]
    code := fun _ => congrArg some first.breach.code
    explained := fault.explains_report }⟩

/-- An address out of range on the second line, which has a token too many as well. -/
theorem load_stops_at_far_address :
    let text := "901\n1000 x 3\n5"
    let fault : LoadFault := ⟨.outOfRange .address, ⟨4, 4⟩⟩
    (load text Memory.empty).1 = some fault ∧
      (∃ earlier line found entries,
        StopsAt Memory.empty text earlier line found entries .addressInRange fault) ∧
      ∀ source, (fault.report source).message = "Encountered an out of range address" ∧
        (fault.report source).labels.map Label.text = ["address out of range"] := by
  intro text fault
  have failed : (load text Memory.empty).1 = some fault := by decide +kernel
  obtain ⟨earlier, line, found, entries, rule, stops⟩ := load_stops_at_first_breach failed
  have range : rule = .addressInRange := by
    have breach := stops.first.breach
    cases breach
    rfl
  refine ⟨failed, ⟨earlier, line, found, entries, range ▸ stops⟩, fun source => ?_⟩
  obtain ⟨_, _, _, worded, -, message, labels⟩ := stops.explained source
  cases worded
  exact ⟨message, labels⟩

end LittleMan.Program
