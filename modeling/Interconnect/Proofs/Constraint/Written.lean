import Interconnect.Proofs.Constraint.Words
/-!
# Written properties

A property of a port can be written in many ways: with any gaps, with or without quotes, with a comment
behind it. Each is read as the same port, key and value, so a file of such lines sets for each cell and
key the last value written, and nothing else.
-/
namespace Interconnect

open Constraint

/-- Whether a text has none of some characters. -/
def Avoids (bad cs : List Char) : Prop := ∀ c ∈ cs, c ∉ bad

instance (bad cs : List Char) : Decidable (Avoids bad cs) := List.decidableBAll _ cs

/-- Whether a text can be a word of a line with nothing around it. -/
def IsToken (cs : List Char) : Prop :=
  cs ≠ [] ∧ Avoids [' ', '\t', '[', ']', '#', '\r', '\n'] cs

/-- Whether a text can name a port, with indices in brackets if it has any. -/
def IsPortName (cs : List Char) : Prop :=
  cs ≠ [] ∧ WellBracketed cs ∧ Avoids [' ', '\t', '#', '\r', '\n'] cs

instance (cs : List Char) : Decidable (IsToken cs) := inferInstanceAs (Decidable (_ ∧ _))

instance (cs : List Char) : Decidable (IsPortName cs) := inferInstanceAs (Decidable (_ ∧ _ ∧ _))

structure Gap where
  chars : List Char := [' ']
  isGap : IsGap chars := by decide
  nonempty : chars ≠ [] := by decide

/-- A property of a port, and how it is written on a line. -/
structure PropertyLine where
  port : String
  key : String
  value : String
  portWrapping : Wrapping := .bare
  valueWrapping : Wrapping := .bare
  toKey : Gap := {}
  toValue : Gap := {}
  toTarget : Gap := {}
  toPort : Gap := {}
  trailing : List Char := []
  comment : Option (List Char) := none
  /-- Whether a carriage return stands before the line's end. -/
  returns : Bool := false
  port_name : IsPortName port.toList := by decide
  key_token : IsToken key.toList := by decide
  key_effective : key ≠ "INTERNAL_VREF" := by decide
  value_token : IsToken value.toList := by decide
  port_bare : portWrapping = .bare → BeginsBare port.toList := by decide
  value_bare : valueWrapping = .bare → BeginsBare value.toList := by decide
  trailing_gap : IsGap trailing := by decide
  comment_line : ∀ cs ∈ comment, '\n' ∉ cs := by decide

namespace PropertyLine

variable (l : PropertyLine)

def portWord : List Char := l.portWrapping.wrap l.port.toList

def valueWord : List Char := l.valueWrapping.wrap l.value.toList

/-- What stands in the brackets of the target. -/
def inside : List Char := "get_ports".toList ++ (l.toPort.chars ++ l.portWord)

def command : List Char :=
  "set_property".toList ++ (l.toKey.chars ++ (l.key.toList ++ (l.toValue.chars ++
    (l.valueWord ++ (l.toTarget.chars ++ ('[' :: (l.inside ++ ']' :: l.trailing)))))))

def chars : List Char :=
  l.command ++ (l.comment.elim [] ('#' :: ·) ++ if l.returns then ['\r'] else [])

def text (ls : List PropertyLine) : String := String.ofList (Text.ofLines (ls.map chars))

/-! ### Reading a written line -/

variable {l}

theorem isSolid_of_isToken {cs : List Char} (h : IsToken cs) (group : Bool) : IsSolid group cs := by
  intro c hc
  have := h.2 c hc
  simp only [List.mem_cons, not_or] at this
  simp [this]

theorem isSolid_valueWord (group : Bool) : IsSolid group l.valueWord :=
  forall_mem_wrap (isSolid_of_isToken l.value_token group) (by simp) (by simp) (by simp)

theorem isSolid_portWord : IsSolid false l.portWord := by
  refine forall_mem_wrap (fun c hc => ?_) (by simp) (by simp) (by simp)
  have := l.port_name.2.2 c hc
  simp only [List.mem_cons, not_or] at this
  simp [this]

theorem wellBracketed_inside : WellBracketed l.inside := by
  have hgap : WellBracketed l.toPort.chars := by
    apply wellBracketed_of_not_mem <;> intro h <;> have := l.toPort.isGap _ h <;> simp at this
  have hword : WellBracketed "get_ports".toList := wellBracketed_of_not_mem (by decide) (by decide)
  exact hword.append (hgap.append (l.port_name.2.1.wrap _))

theorem words?_inside : words? false l.inside = some ["get_ports".toList, l.portWord] := by
  have hsolid : IsSolid false "get_ports".toList := by decide
  have hne : "get_ports".toList ≠ [] := by decide
  unfold inside
  rw [words?_word_gap hsolid hne l.toPort.isGap l.toPort.nonempty,
    words?_word isSolid_portWord (wrap_ne_nil l.port_name.1), Option.map_some]

theorem targetPort_inside (line : Nat) :
    targetPort line ('[' :: (l.inside ++ [']'])) = .ok l.port := by
  have hstrip : stripLast? ']' (l.inside ++ [']']) = some l.inside := by simp [stripLast?]
  have hport : unquote? l.portWord = some l.port.toList := unquote?_wrap l.port_bare
  simp only [targetPort, hstrip, Option.bind_some, words?_inside, hport, ne_eq, not_true, if_false,
    String.ofList_toList]

theorem words?_command : words? true l.command =
    some ["set_property".toList, l.key.toList, l.valueWord, '[' :: (l.inside ++ [']'])] := by
  have hend : words? true l.trailing = some [] := by
    have h : words? true (l.trailing ++ []) = words? true [] := words?_gap l.trailing_gap
    rw [List.append_nil] at h
    exact h
  have hsolid : IsSolid true "set_property".toList := by decide
  have hne : "set_property".toList ≠ [] := by decide
  unfold command
  rw [words?_word_gap hsolid hne l.toKey.isGap l.toKey.nonempty,
    words?_word_gap (isSolid_of_isToken l.key_token true) l.key_token.1 l.toValue.isGap
      l.toValue.nonempty,
    words?_word_gap (isSolid_valueWord true) (wrap_ne_nil l.value_token.1) l.toTarget.isGap
      l.toTarget.nonempty,
    words?_group wellBracketed_inside, hend]
  simp only [Option.map_some]

theorem avoids_append {bad as bs : List Char} (ha : Avoids bad as) (hb : Avoids bad bs) :
    Avoids bad (as ++ bs) :=
  List.forall_mem_append.2 ⟨ha, hb⟩

theorem Avoids.mono {bad worse cs : List Char} (h : Avoids worse cs) (hsub : bad ⊆ worse) :
    Avoids bad cs := fun c hc hbad => h c hc (hsub hbad)

theorem avoids_of_isGap {gap : List Char} (h : IsGap gap) : Avoids ['#', '\r', '\n'] gap := by
  intro c hc
  rcases h c hc with rfl | rfl <;> decide

theorem plain_command : Avoids ['#', '\r', '\n'] l.command := by
  have hkey : Avoids ['#', '\r', '\n'] l.key.toList := Avoids.mono l.key_token.2 (by decide)
  have hvalue : Avoids ['#', '\r', '\n'] l.valueWord :=
    forall_mem_wrap (Avoids.mono l.value_token.2 (by decide)) (by decide) (by decide) (by decide)
  have hport : Avoids ['#', '\r', '\n'] l.portWord :=
    forall_mem_wrap (Avoids.mono l.port_name.2.2 (by decide)) (by decide) (by decide) (by decide)
  have hinside : Avoids ['#', '\r', '\n'] l.inside :=
    avoids_append (by decide) (avoids_append (avoids_of_isGap l.toPort.isGap) hport)
  have htarget : Avoids ['#', '\r', '\n'] (['['] ++ (l.inside ++ ([']'] ++ l.trailing))) :=
    avoids_append (by decide) (avoids_append hinside
      (avoids_append (by decide) (avoids_of_isGap l.trailing_gap)))
  exact avoids_append (by decide) (avoids_append (avoids_of_isGap l.toKey.isGap)
    (avoids_append hkey (avoids_append (avoids_of_isGap l.toValue.isGap)
      (avoids_append hvalue (avoids_append (avoids_of_isGap l.toTarget.isGap) htarget)))))

theorem newline_not_mem_chars : '\n' ∉ l.chars := by
  have hcommand : '\n' ∉ l.command := fun h => plain_command _ h (by simp)
  have hreturn : '\n' ∉ if l.returns then ['\r'] else [] := by split <;> decide
  simp only [chars, List.mem_append, not_or]
  refine ⟨hcommand, ?_, hreturn⟩
  cases hcomment : l.comment with
  | none => simp
  | some cs => simpa using l.comment_line cs hcomment

theorem uncomment_chars :
    ∃ rest, uncomment l.chars = l.command ++ rest ∧ (rest = [] ∨ rest = ['\r']) := by
  have hplain : ∀ c ∈ l.command, decide (c ≠ '#') = true := fun c hc => by
    have := plain_command c hc
    simp only [List.mem_cons, not_or] at this
    simp [this]
  rw [uncomment, chars, List.takeWhile_append_of_pos hplain]
  refine ⟨_, rfl, ?_⟩
  cases l.comment with
  | none => cases l.returns <;> simp
  | some cs => simp

theorem trimReturns_append {cs rest : List Char} (h : '\r' ∉ cs)
    (hrest : rest = [] ∨ rest = ['\r']) :
    ((cs ++ rest).reverse.dropWhile (· = '\r')).reverse = cs := by
  have hkeep : cs.reverse.dropWhile (· = '\r') = cs.reverse := by
    cases hrev : cs.reverse with
    | nil => rfl
    | cons c rev =>
      have hc : c ≠ '\r' := by
        rintro rfl
        exact h (List.mem_reverse.1 (by simp [hrev]))
      simp [hc]
  rcases hrest with rfl | rfl <;> simp [hkeep]

/-- Each way to write a property is read as the property. -/
theorem ofLine_chars (line : Nat) : ofLine line l.chars = .ok (.property l.port l.key l.value) := by
  obtain ⟨rest, huncomment, hrest⟩ := uncomment_chars (l := l)
  have hblank : (l.command ++ rest).all Text.isBlank = false := by
    rw [List.all_eq_false]
    exact ⟨'s', List.mem_append_left _ (List.mem_append_left _ (by decide)), by decide⟩
  have hreturn : '\r' ∉ l.command := fun h => plain_command _ h (by simp)
  have hkey : inertProperties.contains l.key = false := by simp [inertProperties, l.key_effective]
  have hvalue : unquote? l.valueWord = some l.value.toList := unquote?_wrap l.value_bare
  simp only [ofLine, huncomment, hblank, trimReturns_append hreturn hrest, words?_command,
    Bool.false_eq_true, if_false, if_true]
  simp only [ofArguments, String.ofList_toList, hkey, hvalue, targetPort_inside, Bool.false_eq_true,
    if_false, Option.getD_some]
  rfl

theorem lines_text (ls : List PropertyLine) : Text.lines (text ls).toList = ls.map chars := by
  rw [text, String.toList_ofList, Text.lines_ofLines]
  intro cs hcs
  obtain ⟨l, -, rfl⟩ := List.mem_map.1 hcs
  exact newline_not_mem_chars

end PropertyLine

/-! ### Applying written lines -/

namespace Netlist

def assign (n : Netlist) (l : PropertyLine) : Netlist :=
  match n.cellByName l.port with
  | some c => n.setAttr c l.key l.value
  | none => n

theorem assign_cells (n : Netlist) (l : PropertyLine) :
    n.assign l = { n with cells := (n.assign l).cells } := by
  unfold assign
  split <;> rfl

theorem cellByName_assign (n : Netlist) (l : PropertyLine) (name : String) :
    (n.assign l).cellByName name = n.cellByName name := by
  rw [assign_cells]
  rfl

theorem foldl_assign_cells (n : Netlist) (ls : List PropertyLine) :
    ls.foldl assign n = { n with cells := (ls.foldl assign n).cells } := by
  induction ls generalizing n with
  | nil => rfl
  | cons l ls ih =>
    rw [List.foldl_cons, ih, assign_cells]

theorem size_foldl_assign (n : Netlist) (ls : List PropertyLine) :
    (ls.foldl assign n).cells.size = n.cells.size := by
  induction ls generalizing n with
  | nil => rfl
  | cons l ls ih =>
    have hsize : (n.assign l).cells.size = n.cells.size := by
      unfold assign
      split
      · exact Array.size_modify
      · rfl
    rw [List.foldl_cons, ih, hsize]

theorem constrain_written (n : Netlist) (log : Log) (location : SourceLine) (l : PropertyLine) :
    ∃ log', n.constrain log location (.property l.port l.key l.value) =
      (n.assign l, log', if (n.cellByName l.port).isSome then 1 else 0) := by
  cases hport : n.cellByName l.port with
  | some c => exact ⟨log, by simp [constrain, assign, hport]⟩
  | none => exact ⟨_, by simp only [constrain, assign, hport]; rfl⟩

theorem constrainLines_written (n : Netlist) (log : Log) (file : String) (line applied : Nat)
    (ls : List PropertyLine) :
    let out := n.constrainLines log file line applied (ls.map PropertyLine.chars)
    out.result = .ok (applied + ls.countP fun l => (n.cellByName l.port).isSome) ∧
      out.netlist = ls.foldl assign n := by
  induction ls generalizing n log line applied with
  | nil => exact ⟨rfl, rfl⟩
  | cons l ls ih =>
    obtain ⟨log', hconstrain⟩ := n.constrain_written log ⟨file, line⟩ l
    obtain ⟨hresult, hnetlist⟩ := ih (n.assign l) log' (line + 1)
      (applied + if (n.cellByName l.port).isSome then 1 else 0)
    simp only [List.map_cons, constrainLines, PropertyLine.ofLine_chars, hconstrain, List.foldl_cons,
      List.countP_cons]
    refine ⟨?_, hnetlist⟩
    rw [hresult]
    simp only [cellByName_assign]
    congr 1
    omega

/-- What written properties make of the attributes of a cell. -/
def attrsAfter (n : Netlist) (c : CellId) (ls : List PropertyLine)
    (attrs : Std.ExtTreeMap String String) : Std.ExtTreeMap String String :=
  ls.foldl (fun attrs l =>
    if n.cellByName l.port = some c then attrs.insert l.key l.value else attrs) attrs

theorem getElem?_assign (n : Netlist) (l : PropertyLine) (c : CellId) :
    (n.assign l).cells[c]? =
      (n.cells[c]?).map fun cell => { cell with attrs := n.attrsAfter c [l] cell.attrs } := by
  simp only [attrsAfter, List.foldl_cons, List.foldl_nil, assign]
  cases n.cellByName l.port with
  | none => simp
  | some d =>
    simp only [setAttr, modifyCell, Array.getElem?_modify]
    by_cases hd : d = c <;> simp [hd]

theorem getElem?_foldl_assign (n : Netlist) (ls : List PropertyLine) (c : CellId) :
    (ls.foldl assign n).cells[c]? =
      (n.cells[c]?).map fun cell => { cell with attrs := n.attrsAfter c ls cell.attrs } := by
  induction ls generalizing n with
  | nil => simp [attrsAfter]
  | cons l ls ih =>
    have hnames : (n.assign l).attrsAfter c ls = n.attrsAfter c ls := by
      funext attrs
      simp only [attrsAfter, cellByName_assign]
    rw [List.foldl_cons, ih, getElem?_assign, hnames, Option.map_map]
    rfl

/-- Of several properties with one key, the last one stays. -/
theorem getElem?_attrsAfter (n : Netlist) (c : CellId) (ls : List PropertyLine)
    (attrs : Std.ExtTreeMap String String) (key : String) :
    (n.attrsAfter c ls attrs)[key]? =
      ((ls.reverse.find? fun l => n.cellByName l.port = some c ∧ l.key = key).map (·.value)).or
        attrs[key]? := by
  induction ls generalizing attrs with
  | nil => simp [attrsAfter]
  | cons l ls ih =>
    rw [attrsAfter, List.foldl_cons, ← attrsAfter, ih, List.reverse_cons, List.find?_append,
      Option.map_or, Option.or_assoc]
    congr 1
    by_cases hport : n.cellByName l.port = some c
    · by_cases hkey : l.key = key <;>
        simp [hport, hkey, Std.ExtTreeMap.getElem?_insert]
    · simp [hport]

end Netlist

/-- A file of written properties is applied to its end. It sets as many properties as name a port that
is a cell, gives each cell for each key the last value written, and leaves all else as it was. -/
theorem written_properties_applied (n : Netlist) (log : Log) (file : String)
    (ls : List PropertyLine) :
    let out := n.constrainText log file (PropertyLine.text ls)
    out.result = .ok (ls.countP fun l => (n.cellByName l.port).isSome) ∧
    out.netlist = { n with cells := out.netlist.cells } ∧
    out.netlist.cells.size = n.cells.size ∧
    ∀ c cell, n.cells[c]? = some cell →
      ∃ attrs, out.netlist.cells[c]? = some { cell with attrs := attrs } ∧
        ∀ key, attrs[key]? =
          ((ls.reverse.find? fun l => n.cellByName l.port = some c ∧ l.key = key).map (·.value)).or
            cell.attrs[key]? := by
  obtain ⟨hresult, hnetlist⟩ := n.constrainLines_written log file 1 0 ls
  rw [← PropertyLine.lines_text] at hresult hnetlist
  simp only [Netlist.constrainText, hresult, hnetlist, Nat.zero_add]
  refine ⟨trivial, n.foldl_assign_cells ls, n.size_foldl_assign ls, ?_⟩
  intro c cell hcell
  refine ⟨n.attrsAfter c ls cell.attrs, ?_, n.getElem?_attrsAfter c ls cell.attrs⟩
  rw [n.getElem?_foldl_assign, hcell, Option.map_some]

def ledNetlist : Netlist where
  cells := #[{ name := "led[0]", cellType := 0 }]
  cellIndex := (∅ : Std.ExtTreeMap String CellId).insert "led[0]" 0

/-- A bare line, one in braces and quotes with a comment and a carriage return, and one for no cell. -/
def ledLines : List PropertyLine :=
  [{ port := "led[0]", key := "IOSTANDARD", value := "LVCMOS18" },
   { port := "led[0]", key := "IOSTANDARD", value := "LVCMOS33"
     portWrapping := .braced, valueWrapping := .quoted
     trailing := ['\t'], comment := some "bank 1".toList, returns := true },
   { port := "led[1]", key := "IOSTANDARD", value := "LVCMOS18" }]

theorem written_properties_applied_led :
    PropertyLine.text ledLines =
      "set_property IOSTANDARD LVCMOS18 [get_ports led[0]]\n" ++
      "set_property IOSTANDARD \"LVCMOS33\" [get_ports \x7bled[0]\x7d]\t#bank 1\r\n" ++
      "set_property IOSTANDARD LVCMOS18 [get_ports led[1]]\n" ∧
    let out := ledNetlist.constrainText {} "top.xdc" (PropertyLine.text ledLines)
    out.result = .ok 2 ∧ ∃ attrs,
      out.netlist.cells[0]? = some { name := "led[0]", cellType := 0, attrs := attrs } ∧
      attrs["IOSTANDARD"]? = some "LVCMOS33" := by
  obtain ⟨hresult, -, -, hcells⟩ := written_properties_applied ledNetlist {} "top.xdc" ledLines
  obtain ⟨attrs, hcell, hattrs⟩ := hcells 0 { name := "led[0]", cellType := 0 } rfl
  refine ⟨by decide +kernel, ?_, attrs, hcell, ?_⟩
  · rw [hresult]
    decide +kernel
  · rw [hattrs]
    decide +kernel

end Interconnect
