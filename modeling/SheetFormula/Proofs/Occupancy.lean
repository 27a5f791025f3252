import Mathlib
import SheetFormula.Proofs.Sharing

/-!
# How many cells a sheet counts

A sheet counts the cells in which something is stored, and the empty value is stored like any other.
So besides the cells that references give a value other than the empty one for (`Sheet.filled`), it
counts those whose last change set them to the empty value (`emptied`).

* `Host.Agrees.mem_filled`: the filled cells of a sheet are those in which its history left a value
  other than the empty one.
* `Host.cellCount_edits`: what a sheet counts after any edits.
-/

namespace SheetFormula

/-- The cells that some reference gives a value other than the empty one for. -/
def Sheet.filled (sheet : Sheet) : Set Position :=
  {place | ∃ ref v, Reference.slot? ref = some (.cell place) ∧ sheet.value? ref = some v ∧
    v.isEmpty = false}

/-- The cells of a sheet that the last change of a history set to the empty value. -/
def emptied (edits : List Edit) (sheet : Nat) : Set Position :=
  {place | (contents edits sheet (.cell place)).getLast? = some (some .empty)}

theorem Sheet.cellCount_eq_ncard (sheet : Sheet) :
    sheet.cellCount = {place | place ∈ sheet.cells}.ncard := by
  have cells : {place | place ∈ sheet.cells} = ↑sheet.cells.keys.toFinset := by
    ext place
    rw [List.coe_toFinset, Set.mem_ofPred_eq, Set.mem_ofPred_eq, Std.HashMap.mem_keys]
  rw [cells, Set.ncard_coe_finset, List.toFinset_card_of_nodup Std.HashMap.nodup_keys,
    Std.HashMap.length_keys, cellCount]

theorem Sheet.finite_cells (sheet : Sheet) : {place | place ∈ sheet.cells}.Finite := by
  refine (List.finite_toSet sheet.cells.keys).subset fun place mem => ?_
  exact Std.HashMap.mem_keys.2 mem

/-! ## Cells of a history -/

/-- What a history left in a slot was left by one of its changes. -/
theorem exists_change {edits : List Edit} {sheet : Nat} {slot : Slot} {content : Option Value}
    (h : content ∈ contents edits sheet slot) :
    ∃ handle c, Edit.change handle c ∈ edits ∧ c.slot? = some slot ∧ c.content = content := by
  obtain ⟨e, mem, leaves⟩ := List.mem_filterMap.1 h
  cases e with
  | create | clone handle => cases leaves
  | change handle c =>
    obtain ⟨⟨-, slot⟩, left⟩ := Option.ite_none_right_eq_some.1 leaves
    exact ⟨handle, c, mem, slot, Option.some.inj left⟩

/-- A value was left in a cell by a change that set it there, through some spelling of its
address. -/
theorem exists_setCell {edits : List Edit} {sheet : Nat} {place : Position} {v : Value}
    (h : some v ∈ contents edits sheet (.cell place)) :
    ∃ handle address, Edit.change handle (.setCell address v) ∈ edits ∧
      Address.position? address = some place := by
  obtain ⟨handle, c, mem, slot, content⟩ := exists_change h
  cases c with
  | setCell address w =>
    cases content
    obtain ⟨other, position, same⟩ := Option.map_eq_some_iff.1 slot
    cases same
    exact ⟨handle, address, mem, position⟩
  | clearCell address => cases content
  | setNamed name w => cases slot

namespace Host

namespace Agrees

variable {edits : List Edit} {host : Host} (h : Agrees edits host) {sheet : Nat}
  {place : Position}

include h

theorem getElem?_cells {v : Value} :
    (host.book.sheet ⟨sheet⟩).cells[place]? = some v ↔
      (contents edits sheet (.cell place)).getLast? = some (some v) := by
  have stored := h.stored sheet (.cell place)
  rw [Sheet.stored] at stored
  rw [stored, Option.join_eq_some_iff]

theorem mem_filled :
    place ∈ (host.book.sheet ⟨sheet⟩).filled ↔
      ∃ v, (host.book.sheet ⟨sheet⟩).cells[place]? = some v ∧ v.isEmpty = false := by
  constructor
  · rintro ⟨ref, v, slot, value, nonempty⟩
    rw [Sheet.value?_eq, slot] at value
    exact ⟨v, value, nonempty⟩
  · rintro ⟨v, stored, nonempty⟩
    have left := List.mem_of_getLast? (h.getElem?_cells.1 stored)
    obtain ⟨-, address, -, position⟩ := exists_setCell left
    have slot : Reference.slot? ⟨.cell, address⟩ = some (.cell place) := by
      rw [Reference.slot?, position]
      rfl
    refine ⟨⟨.cell, address⟩, v, slot, ?_, nonempty⟩
    rw [Sheet.value?_eq, slot]
    exact stored

theorem mem_emptied :
    place ∈ emptied edits sheet ↔ (host.book.sheet ⟨sheet⟩).cells[place]? = some .empty :=
  h.getElem?_cells.symm

/-- Something is stored in a cell, and it is the empty value or not. -/
theorem mem_cells :
    place ∈ (host.book.sheet ⟨sheet⟩).cells ↔
      place ∈ (host.book.sheet ⟨sheet⟩).filled ∪ emptied edits sheet := by
  rw [Set.mem_union, h.mem_filled, h.mem_emptied, Std.HashMap.mem_iff_isSome_getElem?,
    Option.isSome_iff_exists]
  constructor
  · rintro ⟨v, stored⟩
    cases v with
    | empty => exact .inr stored
    | null | boolean | number | string | array => exact .inl ⟨_, stored, rfl⟩
  · rintro (⟨v, stored, -⟩ | stored)
    · exact ⟨v, stored⟩
    · exact ⟨_, stored⟩

theorem disjoint : Disjoint (host.book.sheet ⟨sheet⟩).filled (emptied edits sheet) := by
  rw [Set.disjoint_left]
  intro place filled emptied
  obtain ⟨v, stored, nonempty⟩ := h.mem_filled.1 filled
  rw [h.mem_emptied.1 emptied] at stored
  cases stored
  cases nonempty

end Agrees

variable {edits : List Edit} {host : Host}

/-- After any edits a sheet counts the cells that references give a value other than the empty one
for, and besides these the cells that were set to the empty value last, through whichever handles.
So the count is that of the cells that are not empty as long as no cell is set to the empty value,
and whenever all such cells have been set again or cleared. -/
theorem cellCount_edits (edited : ({} : Host).editAll edits = some host) (id : SheetId) :
    (host.book.sheet id).filled.Finite ∧ (emptied edits id.index).Finite ∧
      (host.book.sheet id).cellCount =
        (host.book.sheet id).filled.ncard + (emptied edits id.index).ncard ∧
      ((host.book.sheet id).cellCount = (host.book.sheet id).filled.ncard ↔
        emptied edits id.index = ∅) ∧
      ((∀ handle address, Edit.change handle (.setCell address .empty) ∉ edits) →
        (host.book.sheet id).cellCount = (host.book.sheet id).filled.ncard) := by
  obtain ⟨sheet⟩ := id
  have agrees : Agrees edits host := Agrees.start.editAll edited
  have cells : {place | place ∈ (host.book.sheet ⟨sheet⟩).cells} =
      (host.book.sheet ⟨sheet⟩).filled ∪ emptied edits sheet :=
    Set.ext fun _ => agrees.mem_cells
  -- Both parts are finite, so their numbers of cells add up and the second can be told from none.
  have finite := (host.book.sheet ⟨sheet⟩).finite_cells
  rw [cells, Set.finite_union] at finite
  have count : (host.book.sheet ⟨sheet⟩).cellCount =
      (host.book.sheet ⟨sheet⟩).filled.ncard + (emptied edits sheet).ncard := by
    rw [Sheet.cellCount_eq_ncard, cells,
      Set.ncard_union_eq agrees.disjoint finite.1 finite.2]
  have exact_iff : (host.book.sheet ⟨sheet⟩).cellCount = (host.book.sheet ⟨sheet⟩).filled.ncard ↔
      emptied edits sheet = ∅ := by
    rw [count, Nat.add_eq_left, Set.ncard_eq_zero finite.2]
  refine ⟨finite.1, finite.2, count, exact_iff, fun never => exact_iff.2 ?_⟩
  refine Set.eq_empty_of_forall_notMem fun place last => ?_
  obtain ⟨handle, address, mem, -⟩ := exists_setCell (List.mem_of_getLast? last)
  exact never handle address mem

/-- One cell is left: `B2`, set twice in different spellings. `C7` has been cleared, `B0` is no
address, and a name is no cell. -/
theorem cellCount_edits_spellings :
    let edits : List Edit := [.create, .clone 0, .change 0 (.setCell "B2" (.number 5)),
      .change 1 (.setCell "$b$02" .null), .change 1 (.setCell "C7" (.number 5)),
      .change 0 (.clearCell "c7"), .change 0 (.clearCell "C7"), .change 0 (.setCell "B0" .null),
      .change 1 (.setNamed "B2" .empty)]
    ∃ host : Host, ({} : Host).editAll edits = some host ∧ host.handles = [⟨0⟩, ⟨0⟩] ∧
      (host.book.sheet ⟨0⟩).cellCount = 1 ∧ (host.book.sheet ⟨0⟩).filled.ncard = 1 := by
  intro edits
  let set : Std.HashMap Position Value :=
    (((∅ : Std.HashMap Position Value).insert ⟨1, 1⟩ (.number 5)).insert ⟨1, 1⟩ .null).insert ⟨6, 2⟩
      (.number 5)
  let cells := (set.erase ⟨6, 2⟩).erase ⟨6, 2⟩
  let sheet : Sheet := ⟨cells, (∅ : Std.HashMap String Value).insert "B2" .empty⟩
  have edited : ({} : Host).editAll edits = some ⟨⟨#[sheet]⟩, [⟨0⟩, ⟨0⟩]⟩ := by cbv
  have count : cells.size = 1 := by
    simp [cells, set, Std.HashMap.size_insert, Std.HashMap.size_erase]
  have never : ∀ handle address, Edit.change handle (.setCell address .empty) ∉ edits := by
    simp [edits]
  obtain ⟨-, -, -, -, exact⟩ := cellCount_edits edited ⟨0⟩
  exact ⟨_, edited, rfl, count, (exact never).symm.trans count⟩

/-- A cell that holds the empty value is counted although its value is the empty one. -/
theorem cellCount_empty :
    ∃ host : Host,
      ({} : Host).editAll [.create, .change 0 (.setCell "A1" .empty)] = some host ∧
        (host.book.sheet ⟨0⟩).cellCount = 1 ∧ (host.book.sheet ⟨0⟩).filled.ncard = 0 := by
  let cells : Std.HashMap Position Value := (∅ : Std.HashMap Position Value).insert ⟨0, 0⟩ .empty
  let host : Host := ⟨⟨#[⟨cells, ∅⟩]⟩, [⟨0⟩]⟩
  have edited : ({} : Host).editAll [.create, .change 0 (.setCell "A1" .empty)] = some host := by
    cbv
  have agrees := Agrees.start.editAll edited
  have count : cells.size = 1 := by simp [cells, Std.HashMap.size_insert]
  have none : (host.book.sheet ⟨0⟩).filled = ∅ := by
    refine Set.eq_empty_of_forall_notMem fun place filled => ?_
    obtain ⟨v, stored, nonempty⟩ := agrees.mem_filled.1 filled
    have inserted : cells[place]? = some v := stored
    rw [Std.HashMap.getElem?_insert, Std.HashMap.getElem?_empty] at inserted
    split at inserted
    · cases inserted
      cases nonempty
    · cases inserted
  exact ⟨host, edited, count, none ▸ Set.ncard_empty Position⟩

end Host

end SheetFormula
