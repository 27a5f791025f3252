import SheetFormula.Proofs.Clipping

/-!
# What aggregates collect

Aggregates go through their arguments one after the other and collect what each contributes
(`Builtin.gather`).

* Of arrays they take the leaves, so how the leaves are spread over arrays makes no difference
  (`Builtin.gather_of_leaves`).
* Collected in another order, there are the same items or the same error (`Builtin.SameItems`). This
  is all that functions of truth values and counts see (`Builtin.aggregates_see_leaves`).
* `COUNT` selects what `SUM` sums, but for truth values among the arguments
  (`Builtin.length_of_numbers`, `Builtin.count_agrees_with_sum`).
-/

namespace SheetFormula.Builtin

variable {α : Type}

/-! ## Collecting -/

/-- The items of a second list behind those of a first one, if neither fails; of two failures the
first counts. -/
def append (first second : Except ErrorCode (List α)) : Except ErrorCode (List α) := do
  let xs ← first
  let ys ← second
  return xs ++ ys

theorem append_eq_ok {a b : Except ErrorCode (List α)} {zs : List α}
    (h : append a b = .ok zs) : ∃ xs ys, a = .ok xs ∧ b = .ok ys ∧ zs = xs ++ ys := by
  cases a with
  | error code => cases h
  | ok xs =>
    cases b with
    | error code => cases h
    | ok ys => exact ⟨xs, ys, rfl, rfl, (Except.ok.inj h).symm⟩

/-- What arguments contribute, one after the other. -/
def gather (f : Value → Except ErrorCode (List α)) : List Value → Except ErrorCode (List α)
  | [] => .ok []
  | v :: vs => append (f v) (gather f vs)

theorem flatten_mapM (f : Value → Except ErrorCode (List α)) (args : List Value) :
    (args.mapM f).map List.flatten = gather f args := by
  induction args with
  | nil => rfl
  | cons v vs ih =>
    rw [List.mapM_cons, gather, ← ih]
    cases f v with
    | error code => rfl
    | ok xs => cases vs.mapM f <;> rfl

theorem numbers_eq (args : List Value) :
    Argument.numbers args = gather Argument.numbersOf args :=
  flatten_mapM Argument.numbersOf args

theorem truths_eq (args : List Value) :
    Argument.truths args = (do
      let bs ← gather Argument.truthsOf args
      if bs.isEmpty then .error .value else .ok bs) := by
  rw [← flatten_mapM, Argument.truths]
  cases args.mapM Argument.truthsOf <;> rfl

theorem countAll_eq (args : List Value) :
    Aggregate.countAll args = (args.map Aggregate.countOf).sum := by
  induction args with
  | nil => rfl
  | cons v vs ih => rw [Aggregate.countAll, ih, List.map_cons, List.sum_cons]

/-! ## Arrays -/

theorem gather_of_leaves {f : Value → Except ErrorCode (List α)} {g : Value → Option α}
    {args : List Value} (leaves : ∀ v ∈ args, f v = .ok (v.leaves.filterMap g)) :
    gather f args = .ok ((Value.leavesOf args).filterMap g) := by
  induction args with
  | nil => rfl
  | cons v vs ih =>
    obtain ⟨first, others⟩ := List.forall_mem_cons.1 leaves
    rw [gather, first, ih others, Value.leavesOf, List.filterMap_append]
    rfl

section Arrays

variable {args : List Value} (arrays : ∀ v ∈ args, v.isArray)

include arrays

theorem numbers_of_arrays :
    Argument.numbers args = .ok ((Value.leavesOf args).filterMap Argument.leafNumber?) := by
  rw [numbers_eq]
  exact gather_of_leaves fun v hv => if_pos (arrays v hv)

theorem gather_truthsOf_of_arrays :
    gather Argument.truthsOf args = .ok ((Value.leavesOf args).filterMap Argument.leafTruth?) :=
  gather_of_leaves fun v hv => if_pos (arrays v hv)

theorem countAll_of_arrays :
    Aggregate.countAll args = ((Value.leavesOf args).filterMap Argument.leafNumber?).length := by
  induction args with
  | nil => rfl
  | cons v vs ih =>
    obtain ⟨first, others⟩ := List.forall_mem_cons.1 arrays
    rw [Aggregate.countAll, ih others, countOf_of_isArray first, Value.leavesOf,
      List.filterMap_append, List.length_append]

end Arrays

/-! ## Order -/

/-- Collected items that are the same but for their order, or the same error. -/
inductive SameItems : Except ErrorCode (List α) → Except ErrorCode (List α) → Prop where
  | ok {xs ys : List α} (perm : xs.Perm ys) : SameItems (.ok xs) (.ok ys)
  | error (code : ErrorCode) : SameItems (.error code) (.error code)

namespace SameItems

variable {a b c a' b' : Except ErrorCode (List α)}

theorem refl (a : Except ErrorCode (List α)) : SameItems a a := by
  cases a with
  | ok xs => exact .ok (.refl xs)
  | error code => exact .error code

theorem trans (h : SameItems a b) (h' : SameItems b c) : SameItems a c := by
  cases h with
  | ok perm =>
    cases h' with
    | ok perm' => exact .ok (perm.trans perm')
  | error code => exact h'

theorem append (ha : SameItems a a') (hb : SameItems b b') :
    SameItems (append a b) (append a' b') := by
  cases ha with
  | error code => exact .error code
  | ok perm =>
    cases hb with
    | error code => exact .error code
    | ok perm' => exact .ok (perm.append perm')

/-- Two failures in the other order are the same if there is only one code to fail with. -/
theorem append_left_comm {code : ErrorCode} (ha : ∀ e, a = .error e → e = code)
    (hb : ∀ e, b = .error e → e = code) (c : Except ErrorCode (List α)) :
    SameItems (Builtin.append a (Builtin.append b c)) (Builtin.append b (Builtin.append a c)) := by
  cases a with
  | error e =>
    obtain rfl := ha e rfl
    cases b with
    | error e' =>
      obtain rfl := hb e' rfl
      exact .error _
    | ok ys => exact .error _
  | ok xs =>
    cases b with
    | error e' => exact .error e'
    | ok ys =>
      cases c with
      | error e'' => exact .error e''
      | ok zs =>
        refine .ok ?_
        rw [← List.append_assoc, ← List.append_assoc]
        exact List.perm_append_comm.append_right zs

theorem bind_eq {β : Type} {f : List α → Except ErrorCode β} (h : SameItems a b)
    (hf : ∀ xs ys, xs.Perm ys → f xs = f ys) : (a >>= f) = (b >>= f) := by
  cases h with
  | ok perm => exact hf _ _ perm
  | error code => rfl

variable {f : Value → Except ErrorCode (List α)} {args args' : List Value}

theorem gather_of_perm {code : ErrorCode} (fault : ∀ v e, f v = .error e → e = code)
    (h : args.Perm args') : SameItems (gather f args) (gather f args') := by
  induction h with
  | nil => exact .refl _
  | cons v _ ih => exact (refl (f v)).append ih
  -- Of two failing arguments another one fails first, with the same code.
  | swap u v vs => exact append_left_comm (fault v) (fault u) (gather f vs)
  | trans _ _ ih ih' => exact ih.trans ih'

theorem gather_of_forall₂ {R : Value → Value → Prop} (h : List.Forall₂ R args args')
    (same : ∀ v w, R v w → SameItems (f v) (f w)) : SameItems (gather f args) (gather f args') := by
  induction h with
  | nil => exact .refl _
  | cons first _ ih => exact (same _ _ first).append ih

end SameItems

/-- A value as it is, or an array with the same leaves in any order and nesting. -/
inductive Reordered : Value → Value → Prop where
  | same (v : Value) : Reordered v v
  | array {items items' : List Value}
      (leaves : (Value.leavesOf items).Perm (Value.leavesOf items')) :
      Reordered (.array items) (.array items')

namespace Reordered

variable {v w : Value}

theorem truthsOf (h : Reordered v w) :
    SameItems (Argument.truthsOf v) (Argument.truthsOf w) := by
  cases h with
  | same => exact .refl _
  | array leaves => exact .ok (leaves.filterMap Argument.leafTruth?)

theorem countOf (h : Reordered v w) : Aggregate.countOf v = Aggregate.countOf w := by
  cases h with
  | same => rfl
  | array leaves => exact (leaves.filterMap Argument.leafNumber?).length_eq

end Reordered

theorem eq_value_of_truthsOf {v : Value} {code : ErrorCode}
    (h : Argument.truthsOf v = .error code) : code = .value := by
  unfold Argument.truthsOf at h
  split at h
  · cases h
  · split at h
    · cases h
    · split at h
      · cases h
      · exact (Except.error.inj h).symm

section Order

variable {args mid args' : List Value} (perm : args.Perm mid)
  (leaves : List.Forall₂ Reordered mid args')

include perm leaves

theorem truths_of_perm : SameItems (Argument.truths args) (Argument.truths args') := by
  have collected := (SameItems.gather_of_perm (fun _ _ => eq_value_of_truthsOf) perm).trans
    (.gather_of_forall₂ leaves fun _ _ => Reordered.truthsOf)
  rw [truths_eq, truths_eq]
  generalize gather Argument.truthsOf args = a at collected
  generalize gather Argument.truthsOf args' = b at collected
  cases collected with
  | error code => exact .error code
  | @ok xs ys perm =>
    change SameItems (if xs.isEmpty then _ else _) (if ys.isEmpty then _ else _)
    rw [perm.isEmpty_eq]
    split
    · exact .error .value
    · exact .ok perm

theorem countAll_of_perm : Aggregate.countAll args = Aggregate.countAll args' := by
  have counts : mid.map Aggregate.countOf = args'.map Aggregate.countOf := by
    rw [← List.forall₂_eq_eq_eq, List.forall₂_map_left_iff, List.forall₂_map_right_iff]
    exact leaves.imp fun _ _ => Reordered.countOf
  rw [countAll_eq, countAll_eq, (perm.map Aggregate.countOf).sum_eq, counts]

end Order

/-- The aggregates to which the order of what they collect makes no difference: a count, and
functions of truth values. -/
def orderless : List Builtin :=
  [.count, .and, .or, .xor]

/-! ## Aggregates -/

theorem call_eq_of_apply {f : Builtin} {args args' : List Value}
    (admits : f.arity.admits args.length = f.arity.admits args'.length)
    (same : f.apply args = f.apply args') : f.call args = f.call args' := by
  rw [call, call, admits, same]

theorem admits_of_ne_nil {f : Builtin} (aggregate : f ∈ aggregates) {args : List Value}
    (h : args ≠ []) : f.arity.admits args.length := by
  have arity : f.arity = ⟨1, none⟩ := by
    revert aggregate
    cases f <;> decide
  have one : 1 ≤ args.length := List.length_pos_iff.2 h
  simpa [arity, Arity.admits] using one

theorem apply_of_leaves {f : Builtin} (aggregate : f ∈ aggregates) {args args' : List Value}
    (arrays : ∀ v ∈ args, v.isArray) (arrays' : ∀ v ∈ args', v.isArray)
    (leaves : Value.leavesOf args = Value.leavesOf args') : f.apply args = f.apply args' := by
  refine apply_eq ?_ ?_ ?_ ?_ aggregate
  · rw [numbers_of_arrays arrays, numbers_of_arrays arrays', leaves]
  · rw [truths_eq, truths_eq, gather_truthsOf_of_arrays arrays, gather_truthsOf_of_arrays arrays',
      leaves]
  · rw [countAll_of_arrays arrays, countAll_of_arrays arrays', leaves]
  · rw [Aggregate.concatenate, Aggregate.concatenate, leaves]

theorem apply_of_perm {f : Builtin} (orderless : f ∈ orderless) {args mid args' : List Value}
    (perm : args.Perm mid) (leaves : List.Forall₂ Reordered mid args') :
    f.apply args = f.apply args' := by
  have truths := truths_of_perm perm leaves
  simp only [Builtin.orderless, List.mem_cons, List.not_mem_nil, or_false] at orderless
  rcases orderless with rfl | rfl | rfl | rfl
  -- A count cannot fail. The others look at the truth values only after all have been collected.
  · rw [apply, apply, Aggregate.count, Aggregate.count, countAll_of_perm perm leaves]
  · exact truths.bind_eq fun xs ys h => by rw [h.all_eq]
  · exact truths.bind_eq fun xs ys h => by rw [h.any_eq]
  · exact truths.bind_eq fun xs ys h => by rw [h.count_eq]

/-- Aggregates see only the leaves of arrays: how these are put into arrays makes no difference to
the result or the error. To counts and functions of truth values it makes no difference either in
which order the arguments come, and in which order the leaves of each array. -/
theorem aggregates_see_leaves :
    (∀ f ∈ aggregates, ∀ args args' : List Value, args ≠ [] → args' ≠ [] →
      (∀ v ∈ args, v.isArray) → (∀ v ∈ args', v.isArray) →
        Value.leavesOf args = Value.leavesOf args' →
          f.apply args = f.apply args' ∧ f.call args = f.call args') ∧
    ∀ f ∈ orderless, ∀ args mid args' : List Value, args.Perm mid →
      List.Forall₂ Reordered mid args' →
        f.apply args = f.apply args' ∧ f.call args = f.call args' := by
  constructor
  · intro f aggregate args args' nonempty nonempty' arrays arrays' leaves
    have same := apply_of_leaves aggregate arrays arrays' leaves
    refine ⟨same, call_eq_of_apply ?_ same⟩
    rw [admits_of_ne_nil aggregate nonempty, admits_of_ne_nil aggregate nonempty']
  · intro f orderless args mid args' perm leaves
    have same := apply_of_perm orderless perm leaves
    refine ⟨same, call_eq_of_apply ?_ same⟩
    rw [perm.length_eq, leaves.length_eq]

/-- A row in several nested arrays, and a row whose leaves come last to first beside other arguments
in the opposite order. -/
theorem aggregates_see_leaves_nested :
    let row : Value := .array [.number 1, .number 2, .string "x", .boolean true]
    let parts : List Value := [.array [.number 1, .array []],
      .array [.array [.number 2, .string "x"], .array [.array [.boolean true]]]]
    let back : Value := .array [.boolean true, .array [.string "x", .number 2], .number 1]
    Value.leavesOf [row] = Value.leavesOf parts ∧
      average.call [row] = average.call parts ∧
      xor.call [.boolean true, row, .string "false"] =
        xor.call [.string "false", back, .boolean true] := by
  intro row parts back
  have leaves : Value.leavesOf [row] = Value.leavesOf parts := rfl
  have arrays : ∀ v ∈ [row], v.isArray := by simp [row, Value.isArray]
  have arrays' : ∀ v ∈ parts, v.isArray := by simp [parts, Value.isArray]
  have reordered : Reordered row back := .array (List.reverse_perm _).symm
  refine ⟨leaves, ?_, ?_⟩
  · exact (aggregates_see_leaves.1 average (by decide) [row] parts nofun nofun arrays arrays'
      leaves).2
  · exact (aggregates_see_leaves.2 xor (by decide) _ [.string "false", row, .boolean true] _
      (List.reverse_perm _).symm
      (.cons (.same _) (.cons reordered (.cons (.same _) .nil)))).2

/-! ## Counting -/

/-- Whether a value is a truth value. -/
def isTruth : Value → Bool
  | .boolean _ => true
  | _ => false

theorem length_of_numbersOf {v : Value} {ns : List Float} (h : Argument.numbersOf v = .ok ns) :
    ns.length = Aggregate.countOf v + if isTruth v then 1 else 0 := by
  cases v with
  | empty | null | boolean | number | array =>
    cases h
    rfl
  | string s =>
    simp only [Argument.numbersOf, Value.isArray, Value.isBlank, Bool.false_eq_true, if_false,
      Value.requireNumber, Value.toNumber?] at h
    cases read : Value.readNumber? s with
    | none =>
      rw [read] at h
      cases h
    | some n =>
      rw [read] at h
      cases h
      simp [Aggregate.countOf, read, isTruth]

/-- A count selects the numbers that a sum adds up, but for truth values among the arguments. -/
theorem length_of_numbers {args : List Value} {ns : List Float}
    (h : Argument.numbers args = .ok ns) :
    ns.length = Aggregate.countAll args + args.countP isTruth := by
  rw [numbers_eq] at h
  induction args generalizing ns with
  | nil =>
    cases h
    rfl
  | cons v vs ih =>
    obtain ⟨xs, ys, first, others, rfl⟩ := append_eq_ok h
    rw [List.length_append, length_of_numbersOf first, ih others, Aggregate.countAll,
      List.countP_cons]
    omega

/-- If numbers can be summed, then as many are counted, unless truth values stand among the
arguments themselves, and the mean is the sum over this count; of no numbers it is a division by
zero. If they cannot, then the mean fails as the sum does, and the count does not. -/
theorem count_agrees_with_sum (args : List Value) :
    (∀ s, Aggregate.sum args = .ok (.number s) →
      ∃ ns, Argument.numbers args = .ok ns ∧ s = Aggregate.total ns ∧
        ((∀ b, Value.boolean b ∉ args) →
          Aggregate.count args = .ok (.number (Float.ofNat ns.length))) ∧
        Aggregate.average args =
          if ns.length = 0 then .error .div0 else .ok (.number (s / Float.ofNat ns.length))) ∧
    ∀ code, Aggregate.sum args = .error code →
      Aggregate.average args = .error code ∧
        ∃ k : Nat, Aggregate.count args = .ok (.number (Float.ofNat k)) := by
  unfold Aggregate.sum Aggregate.average
  -- Sum and mean start from the same collected numbers, so they fail together.
  cases collected : Argument.numbers args with
  | error code =>
    refine ⟨nofun, fun code' failed => ?_⟩
    cases failed
    exact ⟨rfl, _, rfl⟩
  | ok ns =>
    refine ⟨fun s summed => ⟨ns, rfl, ?_, fun noTruth => ?_, ?_⟩, nofun⟩
    · cases summed
      rfl
    · have none : args.countP isTruth = 0 := by
        rw [List.countP_eq_zero]
        intro v mem truth
        cases v with
        | boolean b => exact noTruth b mem
        | empty | null | number | string | array => cases truth
      rw [Aggregate.count, length_of_numbers collected, none, Nat.add_zero]
    · cases summed
      cases ns <;> rfl

/-- Numbers of all kinds: four are summed, since a text in an array and a truth value are none. -/
theorem count_agrees_with_sum_mixed :
    let args : List Value := [.number 1.5, .string " 2 ", .null,
      .array [.number 3, .string "4", .array [.boolean true, .number 5]]]
    (∀ b, Value.boolean b ∉ args) ∧ Aggregate.sum args = .ok (.number 11.5) ∧
      Aggregate.count args = .ok (.number 4) ∧
      Aggregate.average args = .ok (.number (11.5 / 4)) ∧
      Aggregate.sum (.string "x" :: args) = .error .value ∧
      Aggregate.average (.string "x" :: args) = .error .value := by
  intro args
  have two : (Value.string " 2 ").requireNumber = .ok 2 := by
    have read : Value.readNumber? " 2 " = some 2 := by decide +kernel
    rw [Value.requireNumber, Value.toNumber?, read]
  have collected : Argument.numbers args = .ok [1.5, 2, 3, 5] := by
    rw [numbers_eq]
    simp only [args, gather, Argument.numbersOf, two]
    rfl
  have four : Float.ofNat 4 = 4 := by decide +kernel
  have summed : Aggregate.sum args = .ok (.number 11.5) := by
    have total : Aggregate.total [1.5, 2, 3, 5] = 11.5 := by decide +kernel
    rw [Aggregate.sum, collected, ← total]
    rfl
  have failed : Aggregate.sum (.string "x" :: args) = .error .value := rfl
  have noTruth : ∀ b, Value.boolean b ∉ args := by simp [args]
  obtain ⟨ns, same, -, counted, mean⟩ := (count_agrees_with_sum args).1 _ summed
  rw [collected] at same
  cases same
  refine ⟨noTruth, summed, ?_, ?_, failed, ((count_agrees_with_sum _).2 _ failed).1⟩
  · rw [counted noTruth, ← four]
    rfl
  · rw [mean, ← four]
    rfl

end SheetFormula.Builtin
