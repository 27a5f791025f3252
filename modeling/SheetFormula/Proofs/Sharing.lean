import Mathlib.Data.List.Basic
import SheetFormula.Sheet

/-!
# Shared sheets

A host holds handles: those of new sheets, and copies of others. What it does through a handle, it
does to the sheet behind it, so every copy of the handle shows it.

* `Host.edit`: what a host does with sheets. A change that fails leaves them as they are.
* `contents`: what the changes of a history left in a slot of a sheet, read off the history alone.
* `Host.Agrees`: the sheets of a host are what its history says. Each edit keeps this
  (`Host.Agrees.edit`), and so do all edits of a history (`Host.Agrees.editAll`).
-/

namespace SheetFormula

/-! ## Slots -/

/-- Where a sheet keeps a value: in a cell, or under a name. -/
inductive Slot where
  | cell (place : Position)
  | name (name : String)
  deriving DecidableEq, Repr

/-- The place on the grid of an address, if the text is one. -/
def Address.position? (text : String) : Option Position :=
  (parse text).toOption.map position

theorem Address.position?_of_ok {text : String} {address : Address} (h : parse text = .ok address) :
    position? text = some address.position := by
  rw [position?, h]
  rfl

theorem Address.position?_of_error {text : String} {fault : AddressError}
    (h : parse text = .error fault) : position? text = none := by
  rw [position?, h]
  rfl

/-- The slot that a reference refers to; the label of a cell that is no address has none. -/
def Reference.slot? (ref : Reference) : Option Slot :=
  match ref.kind with
  | .cell => (Address.position? ref.label).map .cell
  | .named => ref.name?.map .name

namespace Sheet

/-- What a sheet keeps in a slot. -/
def stored (sheet : Sheet) : Slot → Option Value
  | .cell place => sheet.cells[place]?
  | .name name => sheet.names[name]?

theorem stored_empty (slot : Slot) : empty.stored slot = none := by
  cases slot with
  | cell place => exact Std.HashMap.getElem?_empty
  | name name => exact Std.HashMap.getElem?_empty

theorem value?_eq (sheet : Sheet) (ref : Reference) :
    sheet.value? ref = ref.slot?.bind sheet.stored := by
  obtain ⟨kind, label⟩ := ref
  cases kind with
  | cell =>
    simp only [value?, Reference.name?, Reference.address, Reference.slot?, Address.position?]
    cases Address.parse label <;> rfl
  | named =>
    simp only [value?, Reference.slot?, Reference.address]
    cases Reference.name? ⟨.named, label⟩ <;> rfl

end Sheet

/-! ## Changes of a sheet -/

/-- A change of one slot of a sheet. -/
inductive Change where
  | setCell (address : String) (v : Value)
  | clearCell (address : String)
  | setNamed (name : String) (v : Value)

namespace Change

/-- The sheet after a change, or why the change fails. -/
def apply (sheet : Sheet) : Change → Except AddressError Sheet
  | .setCell address v => sheet.setCell address v
  | .clearCell address => (sheet.clearCell address).map Prod.snd
  | .setNamed name v => .ok (sheet.setNamed name v)

/-- The slot that a change is about, if it has one. -/
def slot? : Change → Option Slot
  | .setCell address _ | .clearCell address => (Address.position? address).map .cell
  | .setNamed name _ => some (.name name)

/-- What a change leaves in its slot. -/
def content : Change → Option Value
  | .setCell _ v | .setNamed _ v => some v
  | .clearCell _ => none

variable {c : Change} {sheet sheet' : Sheet} {fault : AddressError}

theorem slot?_of_error (h : c.apply sheet = .error fault) : c.slot? = none := by
  cases c with
  | setCell address v | clearCell address =>
    simp only [apply, Sheet.setCell, Sheet.clearCell] at h
    cases parsed : Address.parse address with
    | error fault =>
      rw [slot?, Address.position?_of_error parsed]
      rfl
    | ok place =>
      rw [parsed] at h
      cases h
  | setNamed name v => cases h

/-- A change sets its slot and leaves the others alone. -/
theorem stored_of_ok (h : c.apply sheet = .ok sheet') (slot : Slot) :
    sheet'.stored slot = if c.slot? = some slot then c.content else sheet.stored slot := by
  cases c with
  | setCell address v | clearCell address =>
    simp only [apply, Sheet.setCell, Sheet.clearCell] at h
    cases parsed : Address.parse address with
    | error fault =>
      rw [parsed] at h
      cases h
    | ok place =>
      rw [parsed] at h
      cases h
      rw [slot?, Address.position?_of_ok parsed]
      cases slot with
      | cell other =>
        simp [Sheet.stored, content, Std.HashMap.getElem?_insert, Std.HashMap.getElem?_erase]
      | name other => simp [Sheet.stored]
  | setNamed name v =>
    cases h
    cases slot with
    | cell other => simp [Sheet.stored, Sheet.setNamed, slot?]
    | name other =>
      simp [Sheet.stored, Sheet.setNamed, slot?, content, Std.HashMap.getElem?_insert]

end Change

/-! ## Hosts -/

/-- Sheets, and the handles that a host holds of them, in the order in which it got them. -/
structure Host where
  book : Workbook := {}
  handles : List SheetId := []

/-- What a host does with sheets. It names a handle by its number. -/
inductive Edit where
  /-- Gets the handle of a new sheet. -/
  | create
  /-- Gets a copy of a handle. -/
  | clone (handle : Nat)
  | change (handle : Nat) (change : Change)

/-- The number of the handle that an edit goes through. -/
def Edit.handle? : Edit → Option Nat
  | .create => none
  | .clone handle | .change handle _ => some handle

namespace Host

/-- A host after an edit through a handle that it holds. -/
def edit (host : Host) : Edit → Option Host
  | .create => some ⟨host.book.create.2, host.handles ++ [host.book.create.1]⟩
  | .clone handle => host.handles[handle]?.map fun id =>
    { host with handles := host.handles ++ [id] }
  | .change handle c => host.handles[handle]?.map fun id =>
    match c.apply (host.book.sheet id) with
    | .ok sheet => { host with book := host.book.set id sheet }
    | .error _ => host

/-- A host goes through every handle that it holds. -/
theorem exists_edit {host : Host} {e : Edit}
    (held : ∀ handle ∈ e.handle?, handle < host.handles.length) :
    ∃ host', host.edit e = some host' := by
  cases e with
  | create => exact ⟨_, rfl⟩
  | clone handle | change handle c =>
    have known := List.getElem?_eq_getElem (held handle rfl)
    exact ⟨_, congrArg (Option.map _) known⟩

/-- A change that fails changes nothing. -/
theorem edit_of_error {host : Host} {handle : Nat} {id : SheetId} {c : Change}
    {fault : AddressError} (known : host.handles[handle]? = some id)
    (fails : c.apply (host.book.sheet id) = .error fault) :
    host.edit (.change handle c) = some host := by
  rw [edit, known, Option.map_some, fails]

/-- A host after edits one after the other. -/
def editAll (host : Host) (edits : List Edit) : Option Host :=
  edits.foldlM edit host

theorem editAll_append {host host' : Host} {xs : List Edit} (h : host.editAll xs = some host')
    (ys : List Edit) : host.editAll (xs ++ ys) = host'.editAll ys := by
  rw [editAll] at h
  rw [editAll, List.foldlM_append, h]
  rfl

end Host

/-! ## Histories -/

/-- What handles stand for: sheets, numbered as they are created. -/
structure Holdings where
  handles : List Nat := []
  /-- How many sheets there are. -/
  sheets : Nat := 0

/-- What handles stand for after an edit. -/
def Holdings.after (held : Holdings) : Edit → Holdings
  | .create => ⟨held.handles ++ [held.sheets], held.sheets + 1⟩
  | .clone handle => { held with handles := held.handles ++ held.handles[handle]?.toList }
  | .change _ _ => held

/-- What handles stand for after the edits of a history. -/
def holdings (edits : List Edit) : Holdings :=
  edits.foldl Holdings.after {}

/-- The number of the sheet that an edit changes. -/
def Edit.target? (handles : List Nat) : Edit → Option Nat
  | .change handle _ => handles[handle]?
  | .create | .clone _ => none

/-- What an edit leaves in a slot of a sheet if it is about this slot. -/
def Edit.leaves? (handles : List Nat) (sheet : Nat) (slot : Slot) : Edit → Option (Option Value)
  | .change handle c =>
    if handles[handle]? = some sheet ∧ c.slot? = some slot then some c.content else none
  | .create | .clone _ => none

/-- What the edits of a history through any handle of a sheet left in a slot, one after the
other. -/
def contents (edits : List Edit) (sheet : Nat) (slot : Slot) : List (Option Value) :=
  edits.filterMap (Edit.leaves? (holdings edits).handles sheet slot)

/-- What the last set through any handle of a sheet left behind a reference, unless it has been
cleared since. -/
def lastSet (edits : List Edit) (sheet : Nat) (ref : Reference) : Option Value := do
  let slot ← ref.slot?
  (contents edits sheet slot).getLast?.join

theorem holdings_concat (edits : List Edit) (e : Edit) :
    holdings (edits ++ [e]) = (holdings edits).after e :=
  List.foldl_append

/-- Handles keep their meaning. -/
theorem Holdings.prefix_after (held : Holdings) (e : Edit) :
    held.handles <+: (held.after e).handles := by
  cases e with
  | create => exact List.prefix_append _ _
  | clone handle => exact List.prefix_append _ _
  | change handle c => exact List.prefix_rfl

theorem prefix_holdings (edits more : List Edit) :
    (holdings edits).handles <+: (holdings (edits ++ more)).handles := by
  induction more generalizing edits with
  | nil => exact (List.append_nil edits).symm ▸ List.prefix_rfl
  | cons e more ih =>
    rw [List.append_cons]
    refine List.IsPrefix.trans ?_ (ih (edits ++ [e]))
    rw [holdings_concat]
    exact (holdings edits).prefix_after e

theorem getElem?_holdings {edits : List Edit} {handle sheet : Nat}
    (h : (holdings edits).handles[handle]? = some sheet) (more : List Edit) :
    (holdings (edits ++ more)).handles[handle]? = some sheet := by
  obtain ⟨new, handles⟩ := prefix_holdings edits more
  rw [← handles, List.getElem?_append_left (List.getElem?_eq_some_iff.1 h).1, h]

theorem Edit.leaves?_of_prefix {e : Edit} {handles handles' : List Nat} (le : handles <+: handles')
    (held : ∀ handle ∈ e.handle?, handle < handles.length) (sheet : Nat) (slot : Slot) :
    e.leaves? handles' sheet slot = e.leaves? handles sheet slot := by
  cases e with
  | create | clone handle => rfl
  | change handle c =>
    have same : handles'[handle]? = handles[handle]? := by
      obtain ⟨more, rfl⟩ := le
      exact List.getElem?_append_left (held handle rfl)
    rw [leaves?, leaves?, same]

/-- All edits of a history go through handles that were held. -/
def Held (edits : List Edit) : Prop :=
  ∀ e ∈ edits, ∀ handle ∈ e.handle?, handle < (holdings edits).handles.length

theorem contents_concat {edits : List Edit} (held : Held edits) (e : Edit) (sheet : Nat)
    (slot : Slot) :
    contents (edits ++ [e]) sheet slot = contents edits sheet slot ++
      (e.leaves? (holdings (edits ++ [e])).handles sheet slot).toList := by
  have before : edits.filterMap (Edit.leaves? (holdings (edits ++ [e])).handles sheet slot) =
      edits.filterMap (Edit.leaves? (holdings edits).handles sheet slot) :=
    List.filterMap_congr fun e' mem =>
      Edit.leaves?_of_prefix (prefix_holdings edits [e]) (held e' mem) sheet slot
  rw [contents, List.filterMap_append, before]
  cases h : e.leaves? (holdings (edits ++ [e])).handles sheet slot <;> simp [contents, h]

/-! ## Sheets are what their history says -/

namespace Workbook

variable (book : Workbook)

theorem sheet_create (id : SheetId) : book.create.2.sheet id = book.sheet id := by
  simp only [create, sheet, Array.getElem?_push]
  split
  · rename_i new
    rw [new, Array.getElem?_eq_none (Nat.le_refl _)]
    rfl
  · rfl

variable {book}

theorem sheet_set {id : SheetId} (h : id.index < book.sheets.size) (sheet' : Sheet)
    (other : SheetId) :
    (book.set id sheet').sheet other = if other = id then sheet' else book.sheet other := by
  obtain ⟨index⟩ := id
  obtain ⟨index'⟩ := other
  simp only [set, sheet, Array.getElem?_setIfInBounds, SheetId.mk.injEq]
  by_cases same : index' = index
  · subst same
    rw [if_pos rfl, if_pos h, if_pos rfl]
    rfl
  · rw [if_neg (Ne.symm same), if_neg same]

end Workbook

namespace Host

/-- The handles of a host stand for what its history says, and the sheets keep what the history
left in them. -/
structure Agrees (edits : List Edit) (host : Host) : Prop where
  held : Held edits
  handles : host.handles = (holdings edits).handles.map SheetId.mk
  size : host.book.sheets.size = (holdings edits).sheets
  within : ∀ sheet ∈ (holdings edits).handles, sheet < (holdings edits).sheets
  stored : ∀ sheet slot,
    (host.book.sheet ⟨sheet⟩).stored slot = (contents edits sheet slot).getLast?.join

namespace Agrees

variable {edits : List Edit} {host host' : Host} {e : Edit}

theorem start : Agrees [] {} where
  held := nofun
  handles := rfl
  size := rfl
  within := nofun
  stored _ slot := Sheet.stored_empty slot

theorem getElem?_handles (h : Agrees edits host) (handle : Nat) :
    host.handles[handle]? = (holdings edits).handles[handle]?.map SheetId.mk := by
  rw [h.handles, List.getElem?_map]

theorem length_handles (h : Agrees edits host) :
    host.handles.length = (holdings edits).handles.length := by
  rw [h.handles, List.length_map]

/-- A handle stands for a sheet that there is. -/
theorem exists_sheet {handle : Nat} {id : SheetId} (h : Agrees edits host)
    (known : host.handles[handle]? = some id) :
    ∃ sheet, id = ⟨sheet⟩ ∧ (holdings edits).handles[handle]? = some sheet ∧
      sheet < (holdings edits).sheets := by
  rw [h.getElem?_handles] at known
  obtain ⟨sheet, numbered, rfl⟩ := Option.map_eq_some_iff.1 known
  exact ⟨sheet, rfl, numbered, h.within sheet (List.mem_of_getElem? numbered)⟩

theorem held_concat (h : Agrees edits host) (edited : host.edit e = some host') :
    Held (edits ++ [e]) := by
  have longer := (prefix_holdings edits [e]).length_le
  have new : ∀ handle ∈ e.handle?, handle < (holdings edits).handles.length := by
    cases e with
    | create => nofun
    | clone handle | change handle c =>
      rintro _ ⟨⟩
      obtain ⟨id, known, -⟩ := Option.map_eq_some_iff.1 edited
      obtain ⟨sheet, -, numbered, -⟩ := h.exists_sheet known
      exact (List.getElem?_eq_some_iff.1 numbered).1
  intro e' mem handle through
  rcases List.mem_append.1 mem with old | last
  · exact Nat.lt_of_lt_of_le (h.held e' old handle through) longer
  · rw [List.mem_singleton.1 last] at through
    exact Nat.lt_of_lt_of_le (new handle through) longer

theorem create (h : Agrees edits host) :
    Agrees (edits ++ [.create]) ⟨host.book.create.2, host.handles ++ [host.book.create.1]⟩ where
  held := h.held_concat rfl
  handles := by
    rw [holdings_concat, Holdings.after, List.map_append, ← h.handles, ← h.size]
    rfl
  size := by
    rw [holdings_concat, Holdings.after, ← h.size]
    exact Array.size_push _
  within := by
    rw [holdings_concat]
    refine List.forall_mem_append.2 ⟨fun sheet mem => Nat.lt_succ_of_lt (h.within sheet mem), ?_⟩
    exact List.forall_mem_singleton.2 (Nat.lt_succ_self _)
  stored sheet slot := by
    rw [contents_concat h.held, Workbook.sheet_create, h.stored, Edit.leaves?, Option.toList_none,
      List.append_nil]

theorem clone {handle : Nat} {id : SheetId} (h : Agrees edits host)
    (known : host.handles[handle]? = some id) :
    Agrees (edits ++ [.clone handle]) { host with handles := host.handles ++ [id] } := by
  have held := h.held_concat (e := .clone handle) (congrArg (Option.map _) known)
  obtain ⟨sheet, rfl, numbered, exists'⟩ := h.exists_sheet known
  have handles : (holdings (edits ++ [.clone handle])).handles =
      (holdings edits).handles ++ [sheet] := by
    rw [holdings_concat, Holdings.after, numbered, Option.toList_some]
  refine ⟨held, ?_, ?_, ?_, fun other slot => ?_⟩
  · rw [handles, List.map_append, ← h.handles]
    rfl
  · rw [holdings_concat]
    exact h.size
  · rw [handles, holdings_concat]
    exact List.forall_mem_append.2 ⟨h.within, List.forall_mem_singleton.2 exists'⟩
  · rw [contents_concat h.held, Edit.leaves?, Option.toList_none, List.append_nil]
    exact h.stored other slot

theorem change {handle : Nat} {c : Change} {id : SheetId} (h : Agrees edits host)
    (known : host.handles[handle]? = some id) :
    Agrees (edits ++ [.change handle c])
      (match c.apply (host.book.sheet id) with
        | .ok sheet => { host with book := host.book.set id sheet }
        | .error _ => host) := by
  have held := h.held_concat (e := .change handle c) (congrArg (Option.map _) known)
  obtain ⟨sheet, rfl, numbered, inside⟩ := h.exists_sheet known
  rw [← h.size] at inside
  have same : holdings (edits ++ [.change handle c]) = holdings edits := holdings_concat _ _
  have left : ∀ other slot, contents (edits ++ [.change handle c]) other slot =
      contents edits other slot ++
        (if sheet = other ∧ c.slot? = some slot then some c.content else none).toList := by
    intro other slot
    simp only [contents_concat h.held, same, Edit.leaves?, numbered, Option.some.injEq]
  cases applied : c.apply (host.book.sheet ⟨sheet⟩) with
  | error fault =>
    refine ⟨held, same ▸ h.handles, same ▸ h.size, same ▸ h.within, fun other slot => ?_⟩
    rw [left, Change.slot?_of_error applied, if_neg (by simp), Option.toList_none,
      List.append_nil]
    exact h.stored other slot
  | ok sheet' =>
    refine ⟨held, same ▸ h.handles, ?_, same ▸ h.within, fun other slot => ?_⟩
    · rw [same, ← h.size]
      exact Array.size_setIfInBounds
    · rw [left, Workbook.sheet_set inside]
      by_cases target : sheet = other
      · subst target
        rw [if_pos rfl, Change.stored_of_ok applied, h.stored]
        by_cases slots : c.slot? = some slot
        · rw [if_pos slots, if_pos ⟨rfl, slots⟩, Option.toList_some, List.getLast?_concat,
            Option.join_some]
        · rw [if_neg slots, if_neg fun both => slots both.2, Option.toList_none, List.append_nil]
      · rw [if_neg fun same => target (SheetId.mk.inj same).symm, if_neg fun both => target both.1,
          Option.toList_none, List.append_nil]
        exact h.stored other slot

/-- An edit keeps the sheets what their history says. -/
theorem edit (h : Agrees edits host) (edited : host.edit e = some host') :
    Agrees (edits ++ [e]) host' := by
  cases e with
  | create =>
    cases edited
    exact h.create
  | clone handle =>
    obtain ⟨id, known, rfl⟩ := Option.map_eq_some_iff.1 edited
    exact h.clone known
  | change handle c =>
    obtain ⟨id, known, rfl⟩ := Option.map_eq_some_iff.1 edited
    exact h.change known

theorem editAll {more : List Edit} (h : Agrees edits host)
    (edited : host.editAll more = some host') : Agrees (edits ++ more) host' := by
  induction more generalizing edits host with
  | nil =>
    cases edited
    rwa [List.append_nil]
  | cons e more ih =>
    rw [Host.editAll, List.foldlM_cons] at edited
    obtain ⟨between, first, others⟩ := Option.bind_eq_some_iff.1 edited
    rw [List.append_cons]
    exact ih (h.edit first) others

/-- An edit leaves all sheets alone but the one that it changes. -/
theorem sheet_edit (h : Agrees edits host) (edited : host.edit e = some host') {sheet : Nat}
    (other : e.target? (holdings edits).handles ≠ some sheet) :
    host'.book.sheet ⟨sheet⟩ = host.book.sheet ⟨sheet⟩ := by
  cases e with
  | create =>
    cases edited
    exact host.book.sheet_create ⟨sheet⟩
  | clone handle =>
    obtain ⟨id, -, rfl⟩ := Option.map_eq_some_iff.1 edited
    rfl
  | change handle c =>
    obtain ⟨id, known, rfl⟩ := Option.map_eq_some_iff.1 edited
    obtain ⟨target, rfl, numbered, inside⟩ := h.exists_sheet known
    rw [← h.size] at inside
    cases c.apply (host.book.sheet ⟨target⟩) with
    | error fault => rfl
    | ok sheet' =>
      refine (Workbook.sheet_set inside sheet' ⟨sheet⟩).trans (if_neg fun same => ?_)
      rw [SheetId.mk.inj same] at other
      exact other numbered

/-- What a sheet has for a reference is what was set last. -/
theorem value?_eq (h : Agrees edits host) (sheet : Nat) (ref : Reference) :
    (host.book.sheet ⟨sheet⟩).value? ref = lastSet edits sheet ref := by
  rw [Sheet.value?_eq, lastSet]
  exact Option.bind_congr fun slot _ => h.stored sheet slot

end Agrees

end Host

end SheetFormula
