import Interconnect.Constraint.Basic
import Mathlib.Control.Monad.Basic
/-!
# Constraint files line by line

The lines of a constraint file are applied one after the other, and none depends on how an earlier one
was read. Whole lines with more text behind them are applied as the one and then the other, where the
second text counts its lines on from those of the first. A file that fails leaves what the lines before
the failing one leave.
-/
namespace Interconnect

namespace ConstraintError

def line? : ConstraintError → Option Nat
  | unreadable _ _ => none
  | arity line => some line
  | badTarget line _ => some line
  | unsupportedTarget line => some line
  | unbalanced line => some line

/-- The same error a number of lines further down. -/
def later (k : Nat) : ConstraintError → ConstraintError
  | unreadable path reason => unreadable path reason
  | arity line => arity (line + k)
  | badTarget line target => badTarget (line + k) target
  | unsupportedTarget line => unsupportedTarget (line + k)
  | unbalanced line => unbalanced (line + k)

end ConstraintError

def Diagnostic.later (k : Nat) (d : Diagnostic) : Diagnostic :=
  { d with location := d.location.map fun l => { l with line := l.line + k } }

namespace Log

def append (log later : Log) : Log where
  held := log.held ++ later.held
  errorCount := log.errorCount + later.errorCount

def later (k : Nat) (log : Log) : Log := { log with held := log.held.map (·.later k) }

theorem append_emit (log more : Log) (d : Diagnostic) :
    (log.append more).emit d = log.append (more.emit d) := by
  simp only [append, emit, List.append_assoc, Nat.add_assoc]

theorem later_emit (k : Nat) (log : Log) (d : Diagnostic) :
    (log.later k).emit (d.later k) = (log.emit d).later k := by
  simp only [later, emit, List.map_append, List.map_cons, List.map_nil]
  rfl

@[simp] theorem append_later_empty (k : Nat) (log : Log) : log.append (later k {}) = log := by
  simp [append, later]

end Log

/-- What a text leaves behind where some lines stand before it that set `count` properties and left
a log. -/
def ConstraintOutcome.behind (lines count : Nat) (log : Log) (o : ConstraintOutcome) :
    ConstraintOutcome where
  result := (o.result.map (count + ·)).mapError (·.later lines)
  netlist := o.netlist
  log := log.append (o.log.later lines)

namespace Constraint

variable {line k : Nat} {cs : List Char} {e : ConstraintError}

theorem targetPort_later (line k : Nat) (target : List Char) :
    targetPort (line + k) target = (targetPort line target).mapError (·.later k) := by
  unfold targetPort
  split
  · next rest =>
    simp only
    split
    · next command port _ _ =>
      by_cases hcommand : command ≠ "get_ports".toList
      · rw [if_pos hcommand, if_pos hcommand]
        rfl
      · rw [if_neg hcommand, if_neg hcommand]
        cases unquote? port <;> rfl
    · rfl
  · rfl

theorem ofArguments_later (line k : Nat) (arguments : List (List Char)) :
    ofArguments (line + k) arguments = (ofArguments line arguments).mapError (·.later k) := by
  unfold ofArguments
  split
  · next key value target =>
    rw [targetPort_later]
    by_cases hinert : inertProperties.contains (String.ofList key) = true
    · simp only [hinert, if_true]
      rfl
    · simp only [hinert]
      cases targetPort line target <;> rfl
  · rfl

theorem ofLine_later (line k : Nat) (cs : List Char) :
    ofLine (line + k) cs = (ofLine line cs).mapError (·.later k) := by
  unfold ofLine
  by_cases hblank : (uncomment cs).all Text.isBlank = true
  · simp only [hblank, if_true]
    rfl
  · simp only [hblank, Bool.false_eq_true, if_false]
    split
    · rfl
    · rfl
    · next command arguments _ =>
      by_cases hcommand : command = "set_property".toList
      · rw [if_pos hcommand, if_pos hcommand]
        exact ofArguments_later line k arguments
      · rw [if_neg hcommand, if_neg hcommand]
        rfl

theorem targetPort_error {target : List Char} (h : targetPort line target = .error e) :
    e = .badTarget line (String.ofList target) ∨ e = .unsupportedTarget line := by
  unfold targetPort at h
  split at h
  · simp only at h
    split at h
    · split at h
      · exact .inr (Except.error.inj h).symm
      · split at h
        · cases h
        · exact .inl (Except.error.inj h).symm
    · exact .inl (Except.error.inj h).symm
  · exact .inl (Except.error.inj h).symm

theorem ofArguments_error {arguments : List (List Char)} (h : ofArguments line arguments = .error e) :
    e = .arity line ∨ e = .unsupportedTarget line ∨ ∃ target, e = .badTarget line target := by
  unfold ofArguments at h
  split at h
  · next key value target =>
    simp only at h
    split at h
    · cases h
    · cases htarget : targetPort line target with
      | error e' =>
        rw [htarget] at h
        obtain rfl : e' = e := Except.error.inj h
        rcases targetPort_error htarget with rfl | rfl
        · exact .inr (.inr ⟨_, rfl⟩)
        · exact .inr (.inl rfl)
      | ok port =>
        rw [htarget] at h
        cases h
  · exact .inl (Except.error.inj h).symm

/-- What can be wrong with a line: its brackets, or the words behind a property command. -/
theorem ofLine_error (h : ofLine line cs = .error e) :
    e = .unbalanced line ∨ e = .arity line ∨ e = .unsupportedTarget line ∨
      ∃ target, e = .badTarget line target := by
  unfold ofLine at h
  simp only at h
  split at h
  · cases h
  · split at h
    · exact .inl (Except.error.inj h).symm
    · cases h
    · split at h
      · exact .inr (ofArguments_error h)
      · cases h

theorem line?_of_ofLine (h : ofLine line cs = .error e) : e.line? = some line := by
  rcases ofLine_error h with rfl | rfl | rfl | ⟨target, rfl⟩ <;> rfl

end Constraint

namespace Netlist

variable {n : Netlist} {log : Log} {file : String} {line applied : Nat} {e : ConstraintError}

theorem constrain_later (n : Netlist) (log more : Log) (file : String) (line k : Nat)
    (c : Constraint) :
    n.constrain (log.append (more.later k)) ⟨file, line + k⟩ c =
      ((n.constrain more ⟨file, line⟩ c).1,
        log.append ((n.constrain more ⟨file, line⟩ c).2.1.later k),
        (n.constrain more ⟨file, line⟩ c).2.2) := by
  cases c with
  | nothing => rfl
  | unknown command =>
    simp only [constrain, Log.append_emit, ← Log.later_emit]
    rfl
  | property port key value =>
    simp only [constrain]
    cases n.cellByName port with
    | some c => rfl
    | none =>
      simp only [Log.append_emit, ← Log.later_emit]
      rfl

theorem constrainLines_later (n : Netlist) (log more : Log) (file : String)
    (line applied k count : Nat) (ls : List (List Char)) :
    n.constrainLines (log.append (more.later k)) file (line + k) (count + applied) ls =
      (n.constrainLines more file line applied ls).behind k count log := by
  induction ls generalizing n more line applied with
  | nil => rfl
  | cons cs ls ih =>
    simp only [constrainLines, Constraint.ofLine_later]
    cases hline : Constraint.ofLine line cs with
    | error e => rfl
    | ok c =>
      simp only [Except.mapError, constrain_later]
      rw [Nat.add_right_comm, Nat.add_assoc count]
      exact ih ..

theorem constrainLines_append (n : Netlist) (log : Log) (file : String) (line applied : Nat)
    (as bs : List (List Char)) :
    n.constrainLines log file line applied (as ++ bs) =
      match (n.constrainLines log file line applied as).result with
      | .error _ => n.constrainLines log file line applied as
      | .ok applied' =>
        (n.constrainLines log file line applied as).netlist.constrainLines
          (n.constrainLines log file line applied as).log file (line + as.length) applied' bs := by
  induction as generalizing n log line applied with
  | nil => rfl
  | cons cs as ih =>
    simp only [List.cons_append, constrainLines]
    cases Constraint.ofLine line cs with
    | error e => rfl
    | ok c =>
      simp only [ih, List.length_cons]
      rw [Nat.add_right_comm, Nat.add_assoc]

theorem constrainText_ofLines {text : String} {before after : List (List Char)}
    (h : Text.lines text.toList = before ++ after) :
    n.constrainText log file (String.ofList (Text.ofLines before)) =
      n.constrainLines log file 1 0 before := by
  rw [constrainText, String.toList_ofList, Text.lines_ofLines]
  intro l hl
  exact Text.newline_not_mem_of_mem_lines (h ▸ List.mem_append_left _ hl)

/-- Lines that are not applied to their end have a first malformed one, and what they leave is left by
those before it. -/
theorem exists_of_constrainLines_error {ls : List (List Char)}
    (h : (n.constrainLines log file line applied ls).result = .error e) :
    ∃ before cs after count, ls = before ++ cs :: after ∧
      Constraint.ofLine (line + before.length) cs = .error e ∧
      n.constrainLines log file line applied before =
        ⟨.ok count, (n.constrainLines log file line applied ls).netlist,
          (n.constrainLines log file line applied ls).log⟩ := by
  induction ls generalizing n log line applied with
  | nil => cases h
  | cons cs ls ih =>
    simp only [constrainLines] at h ⊢
    cases hline : Constraint.ofLine line cs with
    | error e' =>
      rw [hline] at h
      obtain rfl : e' = e := Except.error.inj h
      exact ⟨[], cs, ls, applied, rfl, hline, rfl⟩
    | ok c =>
      rw [hline] at h
      obtain ⟨before, cs', after, count, rfl, herror, hbefore⟩ := ih h
      refine ⟨cs :: before, cs', after, count, rfl, ?_, ?_⟩
      · rwa [List.length_cons, Nat.add_comm before.length, ← Nat.add_assoc]
      · simp only [constrainLines, hline]
        exact hbefore

end Netlist

/-- A text of whole lines and then another are applied as the one text that they make together. If
the first fails, that is all; else what the second does to the netlist stands, the properties are
added up, and messages and an error of the second count their lines from the start of the first. A text
that fails at a line leaves what the lines before it leave. -/
theorem constraints_compose (n : Netlist) (log : Log) (file : String) {a : String}
    (ha : a = "" ∨ a.toList.getLast? = some '\n') (b : String) :
    (n.constrainText log file (a ++ b) =
      match n.constrainText log file a with
      | ⟨.error e, n, log⟩ => ⟨.error e, n, log⟩
      | ⟨.ok count, n, log⟩ =>
        (n.constrainText {} file b).behind (Text.lines a.toList).length count log) ∧
    ∀ text e, (n.constrainText log file text).result = .error e →
      let out := n.constrainText log file text
      let lines := Text.lines text.toList
      ∃ line count, line < lines.length ∧ e.line? = some (line + 1) ∧
        n.constrainText log file (String.ofList (Text.ofLines (lines.take line))) =
          ⟨.ok count, out.netlist, out.log⟩ := by
  constructor
  · have hlines : Text.lines (a ++ b).toList = Text.lines a.toList ++ Text.lines b.toList := by
      rw [String.toList_append]
      rcases ha with rfl | ha
      · rfl
      · obtain ⟨before, hbefore⟩ := List.getLast?_eq_some_iff.1 ha
        rw [hbefore, List.append_assoc, List.singleton_append, Text.lines_append_newline]
    have happend := n.constrainLines_append log file 1 0 (Text.lines a.toList) (Text.lines b.toList)
    simp only [Netlist.constrainText, hlines, happend]
    cases n.constrainLines log file 1 0 (Text.lines a.toList) with
    | mk result n' log' =>
      cases result with
      | error e => rfl
      | ok count =>
        have hlater := n'.constrainLines_later log' {} file 1 0 (Text.lines a.toList).length count
          (Text.lines b.toList)
        rw [Log.append_later_empty, Nat.add_zero] at hlater
        exact hlater
  · intro text e h
    obtain ⟨before, cs, after, count, hlines, herror, hbefore⟩ :=
      Netlist.exists_of_constrainLines_error h
    refine ⟨before.length, count, by simp [hlines], ?_, ?_⟩
    · rw [Constraint.line?_of_ofLine herror, Nat.add_comm]
    · rw [hlines, List.take_left, Netlist.constrainText_ofLines hlines]
      exact hbefore

def clockPortNetlist : Netlist where
  cells := #[{ name := "clk", cellType := 0 }]
  cellIndex := (∅ : Std.ExtTreeMap String CellId).insert "clk" 0

/-- Two lines of which the second sets a property, and a blank and a malformed one behind them. -/
theorem constraints_compose_clock :
    ("create_clock\r\nset_property K V [get_ports clk]\n" = "" ∨
      "create_clock\r\nset_property K V [get_ports clk]\n".toList.getLast? = some '\n') ∧
    let out := clockPortNetlist.constrainText {} "top.xdc"
      ("create_clock\r\nset_property K V [get_ports clk]\n" ++ " \nset_property K")
    out.result = .error (.arity 4) ∧ out.log.held.length = 1 ∧
      (out.netlist.cells[0]?).bind (·.attrs["K"]?) = some "V" := by
  have hwhole : "create_clock\r\nset_property K V [get_ports clk]\n" = "" ∨
      "create_clock\r\nset_property K V [get_ports clk]\n".toList.getLast? = some '\n' := by decide
  refine ⟨hwhole, ?_⟩
  simp only
  rw [(constraints_compose clockPortNetlist {} "top.xdc" hwhole " \nset_property K").1]
  decide +kernel

end Interconnect
