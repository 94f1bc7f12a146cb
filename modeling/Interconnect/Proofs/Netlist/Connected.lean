import Interconnect.Proofs.Netlist.Edited
/-!
# Connections stored at both ends

A connection stands in the port, which records its net, and in the net, which lists the port. Each step
writes both ends, but for one: a port that is declared again forgets its net, and the net lists it
still. So how often nets list a port is always whether it is connected and how often it was declared
again while it was. Both ends agree exactly if that never happened.
-/
namespace Interconnect

/-- The ports of a net, once for each time that it lists them. -/
def Net.portRefs (net : Net) : List PortRef := net.driver.toList ++ net.users

/-- Whether a net lists a port where ports of its direction stand. -/
def Net.Lists (net : Net) (r : PortRef) (dir : PinDir) : Prop :=
  if dir = .output then net.driver = some r else r ∈ net.users

theorem Net.lists_attach_self (net : Net) (r : PortRef) (dir : PinDir) :
    (net.attach r dir).Lists r dir := by
  by_cases hdir : dir = .output <;> simp [Lists, attach, hdir]

theorem Net.Lists.attach {net : Net} {r : PortRef} {dir : PinDir} (h : net.Lists r dir) (s : PortRef)
    {dir' : PinDir} (hfree : dir' = .output → net.driver = none) :
    (net.attach s dir').Lists r dir := by
  by_cases hdir' : dir' = .output
  · by_cases hdir : dir = .output
    · -- a net that takes a driver has none, so it lists no output
      simp [Lists, hdir, hfree hdir'] at h
    · simpa [Lists, Net.attach, hdir, hdir'] using h
  · by_cases hdir : dir = .output
    · simpa [Lists, Net.attach, hdir, hdir'] using h
    · simpa [Lists, Net.attach, hdir, hdir'] using Or.inl h

theorem count_flatMap_modify {α β : Type} [BEq β] {xs : List α} {i : Nat} {x : α}
    (hx : xs[i]? = some x) (f : α → α) (g : α → List β) (b : β) :
    ((xs.modify i f).flatMap g).count b + (g x).count b =
      (xs.flatMap g).count b + (g (f x)).count b := by
  obtain ⟨hi, rfl⟩ := List.getElem?_eq_some_iff.1 hx
  have hsplit : xs.take i ++ xs[i] :: xs.drop (i + 1) = xs := by
    rw [← List.drop_eq_getElem_cons hi, List.take_append_drop]
  have hcount : (xs.flatMap g).count b = ((xs.take i).flatMap g).count b +
      ((g xs[i]).count b + ((xs.drop (i + 1)).flatMap g).count b) := by
    rw [← List.count_append, ← List.count_append, ← List.flatMap_cons, ← List.flatMap_append, hsplit]
  rw [List.modify_eq_take_cons_drop hi, hcount]
  simp only [List.flatMap_append, List.flatMap_cons, List.count_append]
  omega

namespace Netlist

variable {n n' : Netlist} {e : NetlistEdit} {r s : PortRef} {port : Port}

def portRefs (n : Netlist) : List PortRef := n.nets.toList.flatMap Net.portRefs

/-- How often nets list a port. -/
def listed (n : Netlist) (r : PortRef) : Nat := n.portRefs.count r

def isConnected (n : Netlist) (r : PortRef) : Bool := ((n.port? r).bind (·.net)).isSome

/-- Whether a step declares a port that is connected. -/
def severs (n : Netlist) : NetlistEdit → Bool
  | .port c p _ => n.isConnected ⟨c, p⟩
  | _ => false

/-- Whether one of several steps, made in turn, declares a port that is connected. -/
def redeclares (n : Netlist) : List NetlistEdit → Bool
  | [] => false
  | e :: es => n.severs e || match n.edit e with
    | .ok n => n.redeclares es
    | .error _ => false

/-- Both ends of each connection are there, once. -/
structure Connected (n : Netlist) : Prop where
  exists_net : ∀ r dir (i : NetId), n.port? r = some ⟨dir, some i⟩ → i < n.nets.size
  driver_iff : ∀ (i : NetId) net r, n.nets[i]? = some net →
    (net.driver = some r ↔ n.port? r = some ⟨.output, some i⟩)
  user_iff : ∀ (i : NetId) net r, n.nets[i]? = some net →
    (net.users.count r = 1 ↔ ∃ dir, dir ≠ .output ∧ n.port? r = some ⟨dir, some i⟩)
  once : n.portRefs.Nodup

/-! ### What a step does to both ends -/

theorem isConnected_congr (h : n'.port? r = n.port? r) : n'.isConnected r = n.isConnected r := by
  rw [isConnected, isConnected, h]

theorem isConnected_setPort (hcell : r.cell < n.cells.size) :
    (n.setPort r port).isConnected s = if s = r then port.net.isSome else n.isConnected s := by
  rw [isConnected, port?_setPort hcell]
  split <;> rfl

theorem port?_cell {name : String} {ty : Ident} {index : Std.ExtTreeMap String CellId} :
    port? { n with cells := n.cells.push { name, cellType := ty }, cellIndex := index } r =
      n.port? r := by
  simp only [port?, Array.getElem?_push]
  split
  · next hcell => simp [hcell]
  · rfl

theorem count_attach (net : Net) (dir : PinDir) (hfree : dir = .output → net.driver = none) :
    (net.attach r dir).portRefs.count s = net.portRefs.count s + if s = r then 1 else 0 := by
  by_cases hdir : dir = .output
  · simp only [Net.attach, hdir, if_true, Net.portRefs, hfree hdir, Option.toList_some,
      Option.toList_none, List.nil_append, List.singleton_append, List.count_cons, beq_iff_eq,
      eq_comm (a := s)]
  · simp only [Net.attach, hdir, if_false, Net.portRefs, List.count_append, List.count_singleton,
      beq_iff_eq, eq_comm (a := s), Nat.add_assoc]

theorem listed_tie {i : NetId} {net : Net} {dir : PinDir} (hnet : n.nets[i]? = some net)
    (hfree : dir = .output → net.driver = none) :
    (n.tie r dir i).listed s = n.listed s + if s = r then 1 else 0 := by
  rw [← Array.getElem?_toList] at hnet
  have hmodify := count_flatMap_modify hnet (·.attach r dir) Net.portRefs s
  rw [count_attach net dir hfree] at hmodify
  simp only [listed, portRefs, tie, modifyNet, setPort, modifyCell, Array.toList_modify]
  omega

theorem isConnected_tie {i : NetId} {dir : PinDir} (hcell : r.cell < n.cells.size) :
    (n.tie r dir i).isConnected s = if s = r then true else n.isConnected s :=
  isConnected_setPort hcell

/-- One for a port that is connected when a step declares it. -/
def severed (n : Netlist) (r : PortRef) : NetlistEdit → Nat
  | .port c p _ => if r = ⟨c, p⟩ then (n.isConnected r).toNat else 0
  | _ => 0

/-- A step changes how often nets list a port as it changes whether the port is connected, but for the
connection that it severs. -/
theorem Edited.listed_eq (h : n.Edited e n') (s : PortRef) :
    n'.listed s + (n.isConnected s).toNat =
      n.listed s + (n'.isConnected s).toNat + n.severed s e := by
  cases h with
  | refused h =>
    cases e with
    | port c p dir => exact h.elim
    | net name => exact h.elim
    | cell name ty => simp [severed]
    | connect c p i => simp [severed]
  | cell hnew =>
    rw [isConnected_congr port?_cell]
    rfl
  | @net name =>
    have hlisted : (n.addNet name).2.listed s = n.listed s := by
      simp [listed, portRefs, addNet, Net.portRefs]
    rw [hlisted]
    rfl
  | @port c p dir hcell =>
    have hlisted : (n.setPort ⟨c, p⟩ ⟨dir, none⟩).listed s = n.listed s := rfl
    rw [hlisted, isConnected_setPort hcell, severed]
    split <;> simp
  | @connect c p i dir net hport hnet hfree =>
    have hloose : n.isConnected ⟨c, p⟩ = false := by simp [isConnected, hport]
    have hsevered : n.severed s (.connect c p i) = 0 := rfl
    rw [listed_tie hnet hfree, isConnected_tie (lt_size_of_port? hport), hsevered]
    by_cases hs : s = ⟨c, p⟩
    · simp [hs, hloose]
    · simp [hs]

/-- A port that records a net is listed by it, on the port's own side. -/
def Ties (n : Netlist) : Prop :=
  ∀ (r : PortRef) (dir : PinDir) (i : NetId), n.port? r = some ⟨dir, some i⟩ → ∃ net,
    n.nets[i]? = some net ∧ net.Lists r dir

theorem Edited.ties (h : n.Edited e n') (hn : n.Ties) : n'.Ties := by
  cases h with
  | refused h => exact hn
  | cell hnew =>
    intro r dir i hr
    rw [port?_cell] at hr
    exact hn r dir i hr
  | net =>
    intro r dir i hr
    obtain ⟨net, hnet, hside⟩ := hn r dir i hr
    refine ⟨net, ?_, hside⟩
    have hlt := (Array.getElem?_eq_some_iff.1 hnet).1
    rw [addNet, Array.getElem?_push, if_neg (Nat.ne_of_lt hlt)]
    exact hnet
  | @port c p dir' hcell =>
    intro r dir i hr
    rw [port?_setPort hcell] at hr
    split at hr
    · cases hr
    · exact hn r dir i hr
  | @connect c p j dir' net hport hnet hfree =>
    intro r dir i hr
    rw [port?_tie (lt_size_of_port? hport)] at hr
    simp only [getElem?_nets_tie]
    by_cases hself : r = ⟨c, p⟩
    · rw [if_pos hself] at hr
      obtain ⟨rfl, rfl⟩ : dir' = dir ∧ j = i := by simpa using hr
      exact ⟨net.attach ⟨c, p⟩ dir', by simp [hnet], hself ▸ net.lists_attach_self r dir'⟩
    · rw [if_neg hself] at hr
      obtain ⟨old, hold, hside⟩ := hn r dir i hr
      by_cases hij : j = i
      · subst hij
        obtain rfl : net = old := Option.some.inj (hnet.symm.trans hold)
        exact ⟨net.attach ⟨c, p⟩ dir', by simp [hnet], hside.attach _ hfree⟩
      · exact ⟨old, by rw [if_neg hij]; exact hold, hside⟩

/-! ### Agreement of both ends -/

/-- Nets list a port as often as it is connected. -/
def Tidy (n : Netlist) : Prop := ∀ r, n.listed r = (n.isConnected r).toNat

theorem isConnected_iff : n.isConnected r = true ↔ ∃ dir i, n.port? r = some ⟨dir, some i⟩ := by
  rw [isConnected]
  constructor
  · intro h
    obtain ⟨i, hi⟩ := Option.isSome_iff_exists.1 h
    obtain ⟨⟨dir, net⟩, hport, rfl⟩ := Option.bind_eq_some_iff.1 hi
    exact ⟨dir, i, hport⟩
  · intro ⟨dir, i, hport⟩
    simp [hport]

theorem mem_portRefs_iff :
    r ∈ n.portRefs ↔ ∃ (i : NetId) (net : Net), n.nets[i]? = some net ∧ r ∈ net.portRefs := by
  simp only [portRefs, List.mem_flatMap, Array.mem_toList_iff, Array.mem_iff_getElem?]
  constructor
  · intro ⟨net, ⟨i, hnet⟩, hr⟩
    exact ⟨i, net, hnet, hr⟩
  · intro ⟨i, net, hnet, hr⟩
    exact ⟨net, ⟨i, hnet⟩, hr⟩

theorem net_nodup {i : NetId} {net : Net} (h : n.portRefs.Nodup) (hnet : n.nets[i]? = some net) :
    net.portRefs.Nodup :=
  (List.nodup_flatMap.1 h).1 net (Array.mem_toList_iff.2 (Array.mem_of_getElem? hnet))

theorem eq_of_mem_portRefs {i j : NetId} {x y : Net} (h : n.portRefs.Nodup)
    (hx : n.nets[i]? = some x) (hy : n.nets[j]? = some y) (hrx : r ∈ x.portRefs)
    (hry : r ∈ y.portRefs) : i = j := by
  have hapart := List.pairwise_iff_getElem.1 (List.nodup_flatMap.1 h).2
  rw [← Array.getElem?_toList] at hx hy
  obtain ⟨hi, rfl⟩ := List.getElem?_eq_some_iff.1 hx
  obtain ⟨hj, rfl⟩ := List.getElem?_eq_some_iff.1 hy
  rcases Nat.lt_trichotomy i j with hlt | heq | hgt
  · exact (hapart i j hi hj hlt hrx hry).elim
  · exact heq
  · exact (hapart j i hj hi hgt hry hrx).elim

end Netlist

theorem Net.Lists.mem {net : Net} {r : PortRef} {dir : PinDir} (h : net.Lists r dir) :
    r ∈ net.portRefs := by
  unfold Lists at h
  split at h <;> simp [portRefs, h]

theorem Net.not_mem_users {net : Net} {r : PortRef} (h : net.portRefs.Nodup)
    (hdriver : net.driver = some r) : r ∉ net.users := by
  rw [portRefs, hdriver] at h
  exact (List.nodup_cons.1 h).1

namespace Netlist

variable {n n' m : Netlist} {e : NetlistEdit} {r : PortRef} {edits : List NetlistEdit}

theorem Tidy.nodup (h : n.Tidy) : n.portRefs.Nodup := by
  rw [List.nodup_iff_count_le_one]
  intro r
  have hr := h r
  rw [listed] at hr
  rw [hr]
  exact Bool.toNat_le _

theorem Tidy.lists {i : NetId} {net : Net} (h : n.Tidy) (ht : n.Ties) (hnet : n.nets[i]? = some net)
    (hr : r ∈ net.portRefs) : ∃ dir, n.port? r = some ⟨dir, some i⟩ ∧ net.Lists r dir := by
  have hlisted : 0 < n.listed r := List.count_pos_iff.2 (mem_portRefs_iff.2 ⟨i, net, hnet, hr⟩)
  have hconnected : n.isConnected r = true := by
    rw [h r] at hlisted
    cases hc : n.isConnected r
    · simp [hc] at hlisted
    · rfl
  obtain ⟨dir, j, hport⟩ := isConnected_iff.1 hconnected
  obtain ⟨other, hother, hlists⟩ := ht r dir j hport
  obtain rfl : i = j := eq_of_mem_portRefs h.nodup hnet hother hr hlists.mem
  obtain rfl : net = other := Option.some.inj (hnet.symm.trans hother)
  exact ⟨dir, hport, hlists⟩

theorem Tidy.connected (h : n.Tidy) (ht : n.Ties) : n.Connected where
  exists_net r dir i hport := by
    obtain ⟨net, hnet, -⟩ := ht r dir i hport
    exact (Array.getElem?_eq_some_iff.1 hnet).1
  driver_iff i net r hnet := by
    constructor
    · intro hdriver
      obtain ⟨dir, hport, hlists⟩ := h.lists (r := r) ht hnet (by simp [Net.portRefs, hdriver])
      by_cases hdir : dir = .output
      · rw [hport, hdir]
      · rw [Net.Lists, if_neg hdir] at hlists
        exact absurd hlists (Net.not_mem_users (net_nodup h.nodup hnet) hdriver)
    · intro hport
      obtain ⟨other, hother, hlists⟩ := ht r _ i hport
      obtain rfl : net = other := Option.some.inj (hnet.symm.trans hother)
      simpa [Net.Lists] using hlists
  user_iff i net r hnet := by
    have hnodup := net_nodup h.nodup hnet
    constructor
    · intro hcount
      have hr : r ∈ net.users := List.count_pos_iff.1 (by omega)
      obtain ⟨dir, hport, hlists⟩ := h.lists (r := r) ht hnet (by simp [Net.portRefs, hr])
      refine ⟨dir, fun hdir => ?_, hport⟩
      rw [Net.Lists, if_pos hdir] at hlists
      exact Net.not_mem_users hnodup hlists hr
    · intro ⟨dir, hdir, hport⟩
      obtain ⟨other, hother, hlists⟩ := ht r dir i hport
      obtain rfl : net = other := Option.some.inj (hnet.symm.trans hother)
      rw [Net.Lists, if_neg hdir] at hlists
      exact List.count_eq_one_of_mem (List.nodup_append.1 hnodup).2.1 hlists
  once := h.nodup

theorem Connected.tidy (h : n.Connected) : n.Tidy := by
  intro r
  have hone : n.listed r ≤ 1 := List.nodup_iff_count_le_one.1 h.once r
  cases hc : n.isConnected r with
  | true =>
    obtain ⟨dir, i, hport⟩ := isConnected_iff.1 hc
    obtain ⟨net, hnet⟩ : ∃ net, n.nets[i]? = some net :=
      ⟨_, Array.getElem?_eq_getElem (h.exists_net r dir i hport)⟩
    have hr : r ∈ net.portRefs := by
      by_cases hdir : dir = .output
      · have hdriver := (h.driver_iff i net r hnet).2 (hdir ▸ hport)
        simp [Net.portRefs, hdriver]
      · have hcount := (h.user_iff i net r hnet).2 ⟨dir, hdir, hport⟩
        have huser : r ∈ net.users := List.count_pos_iff.1 (by omega)
        simp [Net.portRefs, huser]
    have hpos : 0 < n.listed r := List.count_pos_iff.2 (mem_portRefs_iff.2 ⟨i, net, hnet, hr⟩)
    simp only [Bool.toNat_true]
    omega
  | false =>
    have hloose (dir : PinDir) (i : NetId) : n.port? r ≠ some ⟨dir, some i⟩ := fun hport => by
      rw [isConnected_iff.2 ⟨dir, i, hport⟩] at hc
      cases hc
    refine List.count_eq_zero_of_not_mem fun hr => ?_
    obtain ⟨i, net, hnet, hr⟩ := mem_portRefs_iff.1 hr
    rcases List.mem_append.1 hr with hdriver | huser
    · exact hloose _ i ((h.driver_iff i net r hnet).1 (Option.mem_toList.1 hdriver))
    · have hnodup := (List.nodup_append.1 (net_nodup h.once hnet)).2.1
      have hcount := List.count_eq_one_of_mem hnodup huser
      obtain ⟨dir, -, hport⟩ := (h.user_iff i net r hnet).1 hcount
      exact hloose dir i hport

/-! ### Runs -/

theorem severed_eq_zero (h : n.severs e = false) (r : PortRef) : n.severed r e = 0 := by
  cases e with
  | port c p dir =>
    rw [severed]
    split
    · next hr => rw [hr, show n.isConnected ⟨c, p⟩ = false from h, Bool.toNat_false]
    · rfl
  | cell name ty => rfl
  | net name => rfl
  | connect c p i => rfl

theorem exists_severed (h : n.severs e = true) :
    ∃ r, n.isConnected r = true ∧ n.severed r e = 1 := by
  cases e with
  | port c p dir =>
    refine ⟨⟨c, p⟩, h, ?_⟩
    rw [severed, if_pos rfl, show n.isConnected ⟨c, p⟩ = true from h, Bool.toNat_true]
  | cell name ty => cases h
  | net name => cases h
  | connect c p i => cases h

/-- A port that nets list too often stays so. -/
theorem overlisted_run (hm : (m.isConnected r).toNat < m.listed r)
    (h : edits.foldlM Netlist.edit m = .ok n) : (n.isConnected r).toNat < n.listed r := by
  refine foldlM_keeps (I := fun m => (m.isConnected r).toNat < m.listed r) ?_ hm h
  intro m e m' _ hm hedit
  have hstep := (edited_of_edit hedit).listed_eq r
  omega

theorem tidy_run_iff (hm : m.Tidy) (h : edits.foldlM Netlist.edit m = .ok n) :
    n.Tidy ↔ m.redeclares edits = false := by
  induction edits generalizing m with
  | nil =>
    obtain rfl : m = n := Except.ok.inj h
    exact iff_of_true hm rfl
  | cons e es ih =>
    rw [List.foldlM_cons] at h
    obtain ⟨m', hedit, h⟩ := bind_eq_ok_iff.1 h
    have hstep := (edited_of_edit hedit).listed_eq
    rw [redeclares, hedit]
    cases hsevers : m.severs e with
    | false =>
      refine ih (fun r => ?_) h
      have hr := hstep r
      rw [hm r, severed_eq_zero hsevers] at hr
      omega
    | true =>
      obtain ⟨r, hconnected, hsevered⟩ := exists_severed hsevers
      have hr := hstep r
      rw [hm r, hconnected, hsevered] at hr
      have hover := overlisted_run (r := r) (by omega) h
      refine iff_of_false (fun htidy => ?_) (by simp)
      rw [htidy r] at hover
      exact Nat.lt_irrefl _ hover

theorem netNames_run (h : edits.foldlM Netlist.edit m = .ok n) :
    n.netNames = m.netNames ++ edits.filterMap NetlistEdit.netName? := by
  induction edits generalizing m with
  | nil =>
    obtain rfl : m = n := Except.ok.inj h
    simp
  | cons e es ih =>
    rw [List.foldlM_cons] at h
    obtain ⟨m', hedit, h⟩ := bind_eq_ok_iff.1 h
    rw [ih h, (edited_of_edit hedit).netNames_eq, List.append_assoc, List.filterMap_cons]
    cases e.netName? <;> rfl

end Netlist

/-- A netlist that grew from nothing finds every cell by its name, and every net exactly if no net got
the name of another. Both ends of all its connections agree exactly if no port was declared again while
it was connected. A step that fails leaves the netlist as it was. -/
theorem grown_netlist_consistent {edits : List NetlistEdit} {n : Netlist}
    (h : edits.foldlM Netlist.edit {} = .ok n) :
    (∀ (i : CellId) cell, n.cells[i]? = some cell → n.cellByName cell.name = some i) ∧
    ((∀ (i : NetId) net, n.nets[i]? = some net → n.netByName net.name = some i) ↔
      (edits.filterMap NetlistEdit.netName?).Nodup) ∧
    (n.Connected ↔ Netlist.redeclares {} edits = false) ∧
    ∀ e, n.Refuses e → n.edit e = .ok n := by
  have hcells : n.CellsNamed := by
    refine foldlM_keeps (fun m e m' _ hm hedit => (Netlist.edited_of_edit hedit).cellsNamed hm) ?_ h
    intro i cell hcell
    simp at hcell
  have hnets : n.NetsNamed := by
    refine foldlM_keeps (fun m e m' _ hm hedit => (Netlist.edited_of_edit hedit).netsNamed hm) ?_ h
    intro i name hname
    simp [Netlist.netNames] at hname
  have hties : n.Ties := by
    refine foldlM_keeps (fun m e m' _ hm hedit => (Netlist.edited_of_edit hedit).ties hm) ?_ h
    intro r dir i hport
    simp [Netlist.port?] at hport
  have hempty : Netlist.Tidy {} := fun r => by
    simp [Netlist.listed, Netlist.portRefs, Netlist.isConnected, Netlist.port?]
  have hnames : n.netNames = edits.filterMap NetlistEdit.netName? := Netlist.netNames_run h
  refine ⟨hcells, ?_, ?_, fun e => Netlist.edit_of_refuses⟩
  · rw [hnets.found_iff, hnames]
  · rw [← Netlist.tidy_run_iff hempty h]
    exact ⟨Netlist.Connected.tidy, fun htidy => htidy.connected hties⟩

/-- Two cells and two nets. A name of a cell is used again and a connected port is connected again, and
both is refused; a port is declared again before it is connected. -/
def pairEdits : List NetlistEdit :=
  [.cell "a" 0, .cell "a" 1, .cell "b" 0, .net "n", .net "m", .port 0 1 .output, .port 1 2 .inout,
    .port 1 2 .input, .connect 0 1 0, .connect 1 2 0, .connect 1 2 1]

theorem grown_netlist_consistent_pair : ∃ n, pairEdits.foldlM Netlist.edit {} = .ok n ∧
    n.Connected ∧ (∀ (i : NetId) net, n.nets[i]? = some net → n.netByName net.name = some i) ∧
    n.edit (.connect 1 2 1) = .ok n ∧
    (n.nets[0]?).map (fun net => (net.driver, net.users)) = some (some ⟨0, 1⟩, [⟨1, 2⟩]) := by
  obtain ⟨n, hn⟩ : ∃ n, pairEdits.foldlM Netlist.edit {} = .ok n := ⟨_, rfl⟩
  obtain ⟨-, hnets, hconnected, hrefused⟩ := grown_netlist_consistent hn
  have hedits : Netlist.redeclares {} pairEdits = false := by decide +kernel
  have hnames : (pairEdits.filterMap NetlistEdit.netName?).Nodup := by decide +kernel
  have hagain : n.Refuses (.connect 1 2 1) := by
    obtain rfl := Except.ok.inj hn
    exact ⟨.portConnected "b", rfl⟩
  refine ⟨n, hn, hconnected.2 hedits, hnets.2 hnames, hrefused _ hagain, ?_⟩
  obtain rfl := Except.ok.inj hn
  rfl

/-- A connected port is declared again: it forgets its net, which lists it still. A name of a net is used
again: it stands for the later net alone. -/
theorem port_declared_again :
    (∃ n, [.cell "a" 0, .port 0 1 .input, .net "n", .connect 0 1 0, .port 0 1 .input].foldlM
        Netlist.edit {} = .ok n ∧
      n.port? ⟨0, 1⟩ = some ⟨.input, none⟩ ∧ (n.nets[0]?).map (·.users.count ⟨0, 1⟩) = some 1) ∧
    ∃ n, [.net "n", .net "n"].foldlM Netlist.edit {} = .ok n ∧
      (n.nets[0]?).map (·.name) = some "n" ∧ n.netByName "n" = some 1 :=
  ⟨⟨_, rfl, rfl, rfl⟩, _, rfl, rfl, rfl⟩

end Interconnect
