import SheetFormula.Proofs.Runs

/-!
# The order of lookups

An expression stands for a list of lookups, apart from the values that a call gets: `Expr.topics`
lists them from left to right, a call after its arguments. `Expr.mentions` also lists what stands
under a `:`, where nothing is asked. `Expr.IsPart` are the nodes that take part in evaluation.

* `Follows`: that a run goes by such a list, up to where it ends.
* `Expr.Runs.follows`: every run does, by induction on the run.
* `Expr.eval_follows`: so evaluation does in any context.
-/

namespace SheetFormula

/-- What a lookup is about, without the values that a call gets. -/
inductive Topic where
  | name (name : String)
  | call (name : String)
  | reference (label : String)
  | range (start stop : String)
  deriving DecidableEq

/-- What a lookup is about. -/
def Lookup.topic : Lookup → Topic
  | .name label => .name label
  | .call label _ => .call label
  | .reference label => .reference label
  | .range start stop => .range start stop

/-- What an exchange is about. -/
def Exchange.topic (x : Exchange) : Topic :=
  x.lookup.topic

namespace Expr

mutual

/-- What an expression looks up, from left to right and a call after its arguments. What stands
under a `:` that forms no range is never asked, and listed only if `colons` is set. -/
def listed (colons : Bool) : Expr → List Topic
  | .number _ | .string _ | .error _ => []
  | .reference ref => [.reference ref.label]
  | .range start stop => [.range start.label stop.label]
  | .name label => [.name label]
  | .binary _ left right => left.listed colons ++ right.listed colons
  | .unary _ operand => operand.listed colons
  | .colon left right => if colons then left.listed colons ++ right.listed colons else []
  | .call label args => listedList colons args ++ [.call label]
  | .array rows => listedRows colons rows

/-- What a list of expressions looks up. -/
def listedList (colons : Bool) : List Expr → List Topic
  | [] => []
  | e :: es => e.listed colons ++ listedList colons es

/-- What rows of expressions look up. -/
def listedRows (colons : Bool) : List (List Expr) → List Topic
  | [] => []
  | row :: rows => listedList colons row ++ listedRows colons rows

end

/-- All that evaluation asks, if nothing fails. -/
def topics (e : Expr) : List Topic :=
  e.listed false

/-- All that is written in an expression. -/
def mentions (e : Expr) : List Topic :=
  e.listed true

/-- The nodes of an expression that are evaluated. -/
inductive IsPart (part : Expr) : Expr → Prop where
  | self : IsPart part part
  | left {op : BinaryOp} {left right : Expr} (h : IsPart part left) :
      IsPart part (.binary op left right)
  | right {op : BinaryOp} {left right : Expr} (h : IsPart part right) :
      IsPart part (.binary op left right)
  | operand {op : UnaryOp} {operand : Expr} (h : IsPart part operand) :
      IsPart part (.unary op operand)
  | argument {label : String} {args : List Expr} {arg : Expr} (mem : arg ∈ args)
      (h : IsPart part arg) : IsPart part (.call label args)
  | cell {rows : List (List Expr)} {row : List Expr} {cell : Expr} (memRow : row ∈ rows)
      (mem : cell ∈ row) (h : IsPart part cell) : IsPart part (.array rows)

theorem listedList_eq (colons : Bool) (es : List Expr) :
    listedList colons es = es.flatMap (listed colons) := by
  induction es with
  | nil => rfl
  | cons e es ih => rw [listedList, ih, List.flatMap_cons]

theorem listedRows_eq (colons : Bool) (rows : List (List Expr)) :
    listedRows colons rows = rows.flatMap (listedList colons) := by
  induction rows with
  | nil => rfl
  | cons row rows ih => rw [listedRows, ih, List.flatMap_cons]

/-- What a part of an expression looks up is listed with what the expression does. -/
theorem IsPart.listed_subset {part e : Expr} (h : IsPart part e) (colons : Bool) :
    part.listed colons ⊆ e.listed colons := by
  induction h with
  | self => exact List.Subset.refl _
  | left h ih => exact List.subset_append_of_subset_left _ ih
  | right h ih => exact List.subset_append_of_subset_right _ ih
  | operand h ih => exact ih
  | argument mem h ih =>
    refine List.subset_append_of_subset_left _ fun topic listed => ?_
    rw [listedList_eq]
    exact List.mem_flatMap_of_mem mem (ih listed)
  | cell memRow mem h ih =>
    intro topic listed
    rw [Expr.listed, listedRows_eq]
    refine List.mem_flatMap_of_mem memRow ?_
    rw [listedList_eq]
    exact List.mem_flatMap_of_mem mem (ih listed)

end Expr

/-! ## What a run keeps to -/

/-- Every exchange was answered with a value. -/
def Answered (xs : List Exchange) : Prop :=
  ∀ x ∈ xs, ∃ v, x.answer = .ok v

/-- A failure ends the exchanges: it is the answer to the last, or a node raises it when all are
answered. -/
def Ends (parts : Expr → Prop) (xs : List Exchange) (failure : Failure) : Prop :=
  (∃ before x, xs = before ++ [x] ∧ Answered before ∧ x.answer = .error failure) ∨
    Answered xs ∧ ∃ e before ys, parts e ∧ xs = before ++ ys ∧ Expr.Raises e ys failure

/-- Each call gets the values of its arguments, which are run right before it. -/
def CallsGet (parts : Expr → Prop) (xs : List Exchange) : Prop :=
  ∀ before label vs answer after, xs = before ++ ⟨.call label vs, answer⟩ :: after →
    ∃ args earlier ys, parts (.call label args) ∧ before = earlier ++ ys ∧
      Expr.RunsList args ys (.ok vs)

/-- Exchanges that keep to a list of topics until they end in a result. -/
structure Follows {α : Type} (topics : List Topic) (parts : Expr → Prop) (xs : List Exchange)
    (result : Except Failure α) : Prop where
  inOrder : xs.map Exchange.topic <+: topics
  calls : CallsGet parts xs
  ok : ∀ v, result = .ok v → xs.map Exchange.topic = topics ∧ Answered xs
  error : ∀ failure, result = .error failure → Ends parts xs failure

theorem answered_nil : Answered [] := by
  simp [Answered]

theorem Answered.append {xs ys : List Exchange} (hx : Answered xs) (hy : Answered ys) :
    Answered (xs ++ ys) :=
  List.forall_mem_append.2 ⟨hx, hy⟩

section Parts

variable {parts parts' : Expr → Prop} {xs ys : List Exchange} {failure : Failure}

theorem Ends.mono (h : Ends parts xs failure) (le : ∀ e, parts e → parts' e) :
    Ends parts' xs failure := by
  rcases h with h | ⟨answered, e, before, zs, part, h⟩
  · exact .inl h
  · exact .inr ⟨answered, e, before, zs, le e part, h⟩

theorem Ends.after (h : Ends parts ys failure) (answered : Answered xs) :
    Ends parts (xs ++ ys) failure := by
  rcases h with ⟨before, x, rfl, hb, hx⟩ | ⟨hy, e, before, zs, part, rfl, raises⟩
  · exact .inl ⟨xs ++ before, x, (List.append_assoc ..).symm, answered.append hb, hx⟩
  · exact .inr ⟨answered.append hy, e, xs ++ before, zs, part, (List.append_assoc ..).symm, raises⟩

theorem CallsGet.mono (h : CallsGet parts xs) (le : ∀ e, parts e → parts' e) :
    CallsGet parts' xs := by
  intro before label vs answer after split
  obtain ⟨args, earlier, zs, part, hz⟩ := h before label vs answer after split
  exact ⟨args, earlier, zs, le _ part, hz⟩

theorem callsGet_nil : CallsGet parts [] := by
  intro before label vs answer after split
  cases before <;> cases split

theorem CallsGet.append (hx : CallsGet parts xs) (hy : CallsGet parts ys) :
    CallsGet parts (xs ++ ys) := by
  intro before label vs answer after split
  obtain ⟨zs, rfl, hz⟩ | ⟨zs, rfl, hz⟩ := List.append_eq_append_iff.1 split
  · obtain ⟨args, earlier, us, part, rfl, run⟩ := hy _ _ _ _ _ hz
    exact ⟨args, xs ++ earlier, us, part, (List.append_assoc ..).symm, run⟩
  · cases zs with
    | nil =>
      obtain ⟨args, earlier, us, part, h, run⟩ := hy [] _ _ _ _ hz.symm
      refine ⟨args, before ++ earlier, us, part, ?_, run⟩
      rw [List.append_assoc, ← h, List.append_nil]
    | cons z zs =>
      cases hz
      exact hx _ _ _ _ _ rfl

theorem callsGet_singleton {l : Lookup} {answer : Except Failure Value}
    (noCall : ∀ label vs, l ≠ .call label vs) : CallsGet parts [⟨l, answer⟩] := by
  intro before label vs answer' after split
  cases before with
  | nil =>
    cases split
    exact absurd rfl (noCall label vs)
  | cons x before => cases before <;> cases split

theorem CallsGet.call (h : CallsGet parts xs) {label : String} {args : List Expr}
    {vs : List Value} (part : parts (.call label args)) (run : Expr.RunsList args xs (.ok vs))
    (answer : Except Failure Value) : CallsGet parts (xs ++ [⟨.call label vs, answer⟩]) := by
  intro before label' vs' answer' after split
  obtain ⟨zs, rfl, hz⟩ | ⟨zs, rfl, hz⟩ := List.append_eq_append_iff.1 split
  · cases zs with
    | nil =>
      cases hz
      exact ⟨args, [], xs, part, List.append_nil xs, run⟩
    | cons z zs => cases zs <;> cases hz
  · cases zs with
    | nil =>
      cases hz
      exact ⟨args, [], before, part, rfl, by rwa [List.append_nil] at run⟩
    | cons z zs =>
      cases hz
      exact h _ _ _ _ _ rfl

end Parts

/-! ## Steps of a run -/

namespace Follows

variable {α β : Type} {topics topics' : List Topic} {parts parts' : Expr → Prop}
  {xs ys : List Exchange}

theorem mono {result : Except Failure α} (h : Follows topics parts xs result)
    (le : ∀ e, parts e → parts' e) : Follows topics parts' xs result where
  inOrder := h.inOrder
  calls := h.calls.mono le
  ok := h.ok
  error := fun failure hf => (h.error failure hf).mono le

/-- What fails keeps to any longer list. -/
theorem stop {failure : Failure}
    (h : Follows topics parts xs (.error failure : Except Failure α)) :
    Follows (topics ++ topics') parts xs (.error failure : Except Failure β) where
  inOrder := h.inOrder.trans (List.prefix_append ..)
  calls := h.calls
  ok := fun _ h => nomatch h
  error := by
    rintro _ ⟨⟩
    exact h.error failure rfl

/-- What has succeeded goes on with the next list. -/
theorem andThen {v : α} {result : Except Failure β} (h : Follows topics parts xs (.ok v))
    (h' : Follows topics' parts ys result) :
    Follows (topics ++ topics') parts (xs ++ ys) result where
  inOrder := by
    rw [List.map_append, (h.ok v rfl).1]
    exact (List.prefix_append_right_inj _).2 h'.inOrder
  calls := h.calls.append h'.calls
  ok := by
    intro w hw
    rw [List.map_append, (h.ok v rfl).1, (h'.ok w hw).1]
    exact ⟨rfl, (h.ok v rfl).2.append (h'.ok w hw).2⟩
  error := fun failure hf => (h'.error failure hf).after (h.ok v rfl).2

theorem withValue {v : α} (h : Follows topics parts xs (.ok v)) (w : β) :
    Follows topics parts xs (.ok w) where
  inOrder := h.inOrder
  calls := h.calls
  ok := fun _ _ => h.ok v rfl
  error := fun _ h => nomatch h

theorem nil (v : α) : Follows [] parts [] (.ok v) where
  inOrder := List.nil_prefix
  calls := callsGet_nil
  ok := fun _ _ => ⟨rfl, answered_nil⟩
  error := fun _ h => nomatch h

/-- What has succeeded asks once more, and ends in the answer. -/
theorem ask {v : α} (h : Follows topics parts xs (.ok v)) (l : Lookup)
    (answer : Except Failure Value) (calls : CallsGet parts (xs ++ [⟨l, answer⟩])) :
    Follows (topics ++ [l.topic]) parts (xs ++ [⟨l, answer⟩]) answer where
  inOrder := by
    rw [List.map_append, (h.ok v rfl).1]
    exact List.prefix_rfl
  calls := calls
  ok := by
    rintro w rfl
    rw [List.map_append, (h.ok v rfl).1]
    exact ⟨rfl, (h.ok v rfl).2.append (by simp [Answered])⟩
  error := by
    rintro failure rfl
    exact .inl ⟨xs, _, rfl, (h.ok v rfl).2, rfl⟩

theorem lookup (l : Lookup) (answer : Except Failure Value)
    (noCall : ∀ label vs, l ≠ .call label vs) :
    Follows [l.topic] parts [⟨l, answer⟩] answer :=
  (nil ()).ask l answer (callsGet_singleton noCall)

/-- A node that fails by itself has asked all that it looks up. -/
theorem raised {e : Expr} {failure : Failure} {v : α} (h : Follows topics parts xs (.ok v))
    (part : parts e) (raises : Expr.Raises e xs failure) :
    Follows topics parts xs (.error failure : Except Failure β) where
  inOrder := h.inOrder
  calls := h.calls
  ok := fun _ h => nomatch h
  error := by
    rintro _ ⟨⟩
    exact .inr ⟨(h.ok v rfl).2, e, [], xs, part, rfl, raises⟩

end Follows

namespace Expr

variable (colons : Bool)

mutual

theorem Runs.follows : ∀ {e : Expr} {xs : List Exchange} {result : Except Failure Value},
    Runs e xs result → Follows (e.listed colons) (IsPart · e) xs result
  | _, _, _, .number _ => .nil _
  | _, _, _, .string s => .nil _
  | _, _, _, .reference ref answer =>
    .lookup (.reference ref.label) answer fun _ _ h => nomatch h
  | _, _, _, .range start stop answer =>
    .lookup (.range start.label stop.label) answer fun _ _ h => nomatch h
  | _, _, _, .name label answer =>
    .lookup (.name label) answer fun _ _ h => nomatch h
  | _, _, _, .left hl => by
    rw [listed]
    exact (hl.follows.mono fun _ => .left).stop
  | _, _, _, .right hl hr => by
    rw [listed]
    exact (hl.follows.mono fun _ => .left).andThen (hr.follows.mono fun _ => .right)
  | _, _, _, .binary hl hr _ => by
    rw [listed]
    exact ((hl.follows.mono fun _ => .left).andThen (hr.follows.mono fun _ => .right)).withValue _
  | _, _, _, .operand h => by
    rw [listed]
    exact h.follows.mono fun _ => .operand
  | _, _, _, .unary h _ => by
    rw [listed]
    exact (h.follows.mono fun _ => .operand).withValue _
  | _, _, _, .arguments h => by
    rw [listed]
    exact (h.follows.mono fun _ ⟨_, mem, part⟩ => .argument mem part).stop
  | _, _, _, @Runs.call label args xs vs h answer => by
    have asked : Follows (listedList colons args) (IsPart · (.call label args)) xs (.ok vs) :=
      h.follows.mono fun _ ⟨_, mem, part⟩ => .argument mem part
    rw [listed]
    exact asked.ask _ answer (asked.calls.call .self h answer)
  | _, _, _, .cells h => by
    have cells := h.follows.mono fun _ ⟨_, memRow, _, mem, part⟩ => IsPart.cell memRow mem part
    rw [listed]
    exact List.append_nil (listedRows colons _) ▸ cells.stop
  | _, _, _, .array h => by
    rw [listed]
    exact (h.follows.mono fun _ ⟨_, memRow, _, mem, part⟩ => .cell memRow mem part).withValue _
  | _, _, _, .raised h => h.follows

theorem Raises.follows : ∀ {e : Expr} {xs : List Exchange} {failure : Failure},
    Raises e xs failure →
      Follows (e.listed colons) (IsPart · e) xs (.error failure : Except Failure Value)
  | _, _, _, .number finite => (Follows.nil ()).raised .self (.number finite)
  | _, _, _, .error code => (Follows.nil ()).raised .self (.error code)
  | _, _, _, .binary hl hr applied => by
    rw [listed]
    exact ((hl.follows.mono fun _ => .left).andThen (hr.follows.mono fun _ => .right)).raised .self
      (.binary hl hr applied)
  | _, _, _, .unary h applied => by
    rw [listed]
    exact (h.follows.mono fun _ => .operand).raised .self (.unary h applied)
  | _, _, _, .colon left right => by
    have raised : Follows [] (IsPart · (.colon left right)) []
        (.error (.signal .value) : Except Failure Value) :=
      (Follows.nil ()).raised .self (.colon left right)
    exact raised.stop

theorem RunsList.follows : ∀ {es : List Expr} {xs : List Exchange}
    {result : Except Failure (List Value)}, RunsList es xs result →
      Follows (listedList colons es) (fun part => ∃ e ∈ es, IsPart part e) xs result
  | _, _, _, .nil => .nil _
  | _, _, _, .head h => by
    rw [listedList]
    exact (h.follows.mono fun _ part => ⟨_, List.mem_cons_self .., part⟩).stop
  | _, _, _, .tail h hs => by
    rw [listedList]
    exact (h.follows.mono fun _ part => ⟨_, List.mem_cons_self .., part⟩).andThen
      (hs.follows.mono fun _ ⟨e, mem, part⟩ => ⟨e, List.mem_cons_of_mem _ mem, part⟩)
  | _, _, _, .cons h hs => by
    rw [listedList]
    exact ((h.follows.mono fun _ part => ⟨_, List.mem_cons_self .., part⟩).andThen
      (hs.follows.mono fun _ ⟨e, mem, part⟩ => ⟨e, List.mem_cons_of_mem _ mem, part⟩)).withValue _

theorem RunsRows.follows : ∀ {rows : List (List Expr)} {xs : List Exchange}
    {result : Except Failure (List (List Value))}, RunsRows rows xs result →
      Follows (listedRows colons rows) (fun part => ∃ row ∈ rows, ∃ e ∈ row, IsPart part e) xs
        result
  | _, _, _, .nil => .nil _
  | _, _, _, .head h => by
    rw [listedRows]
    exact (h.follows.mono fun _ part => ⟨_, List.mem_cons_self .., part⟩).stop
  | _, _, _, .tail h hs => by
    rw [listedRows]
    exact (h.follows.mono fun _ part => ⟨_, List.mem_cons_self .., part⟩).andThen
      (hs.follows.mono fun _ ⟨row, mem, part⟩ => ⟨row, List.mem_cons_of_mem _ mem, part⟩)
  | _, _, _, .cons h hs => by
    rw [listedRows]
    exact ((h.follows.mono fun _ part => ⟨_, List.mem_cons_self .., part⟩).andThen
      (hs.follows.mono fun _ ⟨row, mem, part⟩ => ⟨row, List.mem_cons_of_mem _ mem, part⟩)).withValue
        _

end

/-! ## Evaluation -/

/-- In any context, whatever its answers, an expression asks what it looks up from left to right,
each call with the values of its arguments, up to the end or to a failure. Then nothing more is
asked, and the failure is the last answer or is raised by a node of the expression. -/
theorem eval_follows {σ : Type} (context : Context σ) (e : Expr) (s : σ) :
    ∃ xs, e.eval context.transcribing ([], s) = ((e.eval context s).1, xs, (e.eval context s).2) ∧
      e.eval context.recording ([], s) =
        ((e.eval context s).1, xs.map Exchange.lookup, (e.eval context s).2) ∧
      Runs e xs (e.eval context s).1 ∧
      xs.map Exchange.topic <+: e.topics ∧
      CallsGet (IsPart · e) xs ∧
      (∀ v, (e.eval context s).1 = .ok v → xs.map Exchange.topic = e.topics ∧ Answered xs) ∧
      ∀ failure, (e.eval context s).1 = .error failure → Ends (IsPart · e) xs failure := by
  obtain ⟨xs, run, seen⟩ := exists_runs context e s
  have follows := run.follows false
  refine ⟨xs, ?_, ?_, run, follows.inOrder, follows.calls, follows.ok, follows.error⟩
  · rw [Context.transcribing, seen, List.foldl_append_eq_append, ← List.flatMap_def,
      List.flatMap_singleton', List.nil_append]
  · rw [Context.recording_eq_observing, seen, List.foldl_append_eq_append, ← List.flatMap_def,
      ← List.map_eq_flatMap, List.nil_append]

end Expr

end SheetFormula
