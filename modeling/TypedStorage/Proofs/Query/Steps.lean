/-
The steps that build a selection. They are of five kinds, a filter and several filters at once being of one kind, and
neighbours of different kinds may change places (`Selection.step_comm`). So a selection is the last of its lists of
fields, all of its filters and all of its sort keys in their order, its last limit and its last offset
(`Selection.build_eq`), and what it compiles to does not depend on how the steps of different kinds are mixed
(`Query.compile_build`).
-/
import Mathlib.Data.List.Basic
import Mathlib.Data.List.Induction
import TypedStorage.Query.Compile

namespace TypedStorage

namespace Selection

/-! ## Kinds of steps -/

namespace Step

/-- What a step is about. -/
inductive Kind where
  | fields | conditions | order | limit | offset
  deriving DecidableEq

def kind : Step → Kind
  | .fields _ => .fields
  | .filter _ | .filters _ => .conditions
  | .orderBy _ _ => .order
  | .limit _ => .limit
  | .offset _ => .offset

def fields? : Step → Option (List String)
  | .fields names => some names
  | _ => none

def conditions : Step → List Filter
  | .filter f => [f]
  | .filters fs => fs
  | _ => []

def sortKeys : Step → List SortKey
  | .orderBy field direction => [⟨field, direction⟩]
  | _ => []

def limit? : Step → Option UInt64
  | .limit n => some n
  | _ => none

def offset? : Step → Option UInt64
  | .offset n => some n
  | _ => none

end Step

/-- The same steps, those of one kind in the same order. -/
def Rearranged (steps steps' : List Step) : Prop :=
  ∀ kind, steps.filter (·.kind = kind) = steps'.filter (·.kind = kind)

/-! ## The five parts -/

/-- The last list of fields; no step asks for all of them. -/
def lastFields (steps : List Step) : List String := (steps.filterMap Step.fields?).getLast?.getD []

def allFilters (steps : List Step) : List Filter := steps.flatMap Step.conditions

def allSortKeys (steps : List Step) : List SortKey := steps.flatMap Step.sortKeys

def lastLimit (steps : List Step) : Option UInt64 := (steps.filterMap Step.limit?).getLast?

def lastOffset (steps : List Step) : Option UInt64 := (steps.filterMap Step.offset?).getLast?

/-- The five parts of the steps agree. -/
structure SameParts (steps steps' : List Step) : Prop where
  fields : lastFields steps = lastFields steps'
  filters : allFilters steps = allFilters steps'
  sort : allSortKeys steps = allSortKeys steps'
  limit : lastLimit steps = lastLimit steps'
  offset : lastOffset steps = lastOffset steps'

/-- Steps of different kinds may change places. -/
theorem step_comm (s : Selection) {a b : Step} (h : a.kind ≠ b.kind) : (s.step a).step b = (s.step b).step a := by
  cases a <;> cases b <;> first | rfl | exact absurd rfl h

theorem build_append (steps : List Step) (a : Step) : build (steps ++ [a]) = (build steps).step a := by
  rw [build, List.foldl_append]
  rfl

/-- **A selection is the parts of its steps**: what is asked last where one step replaces another, all where steps add up. -/
theorem build_eq (steps : List Step) :
    build steps = ⟨lastFields steps, allFilters steps, allSortKeys steps, lastLimit steps, lastOffset steps⟩ := by
  induction steps using List.reverseRecOn with
  | nil => rfl
  | append_singleton steps a ih =>
    rw [build_append, ih]
    unfold lastFields allFilters allSortKeys lastLimit lastOffset
    cases a <;>
      simp [step, Step.fields?, Step.conditions, Step.sortKeys, Step.limit?, Step.offset?, List.filterMap_append]

/-- Several filters at once are the filters one by one. -/
theorem step_filters (s : Selection) (fs : List Filter) : s.step (.filters fs) = (fs.map .filter).foldl step s := by
  induction fs generalizing s with
  | nil => simp [step]
  | cons f fs ih =>
    rw [List.map_cons, List.foldl_cons, ← ih]
    simp [step]

theorem build_filters (before : List Step) (fs : List Filter) (after : List Step) :
    build (before ++ .filters fs :: after) = build (before ++ (fs.map .filter ++ after)) := by
  simp only [build, List.foldl_append, List.foldl_cons, step_filters]

/-! ## Steps in another order -/

section

variable {steps steps' : List Step} {kind : Step.Kind}

/-- What only steps of one kind say is said by these. -/
theorem filterMap_of_kind {α : Type} {f : Step → Option α} (hf : ∀ a, a.kind ≠ kind → f a = none) (steps : List Step) :
    steps.filterMap f = (steps.filter (·.kind = kind)).filterMap f := by
  rw [List.filterMap_filter]
  refine List.filterMap_congr fun a _ => ?_
  by_cases ha : a.kind = kind
  · simp [ha]
  · simp [ha, hf a ha]

theorem flatMap_of_kind {α : Type} {f : Step → List α} (hf : ∀ a, a.kind ≠ kind → f a = []) (steps : List Step) :
    steps.flatMap f = (steps.filter (·.kind = kind)).flatMap f := by
  induction steps with
  | nil => rfl
  | cons a steps ih =>
    by_cases ha : a.kind = kind
    · rw [List.filter_cons_of_pos (by simpa using ha), List.flatMap_cons, List.flatMap_cons, ih]
    · rw [List.filter_cons_of_neg (by simpa using ha), List.flatMap_cons, hf a ha, List.nil_append, ih]

namespace Rearranged

theorem filterMap_eq (h : Rearranged steps steps') {α : Type} {f : Step → Option α}
    (hf : ∀ a, a.kind ≠ kind → f a = none) : steps.filterMap f = steps'.filterMap f := by
  rw [filterMap_of_kind hf, h kind, ← filterMap_of_kind hf]

theorem flatMap_eq (h : Rearranged steps steps') {α : Type} {f : Step → List α}
    (hf : ∀ a, a.kind ≠ kind → f a = []) : steps.flatMap f = steps'.flatMap f := by
  rw [flatMap_of_kind hf, h kind, ← flatMap_of_kind hf]

/-- Each of the parts is told by the steps of one kind. -/
theorem sameParts (h : Rearranged steps steps') : SameParts steps steps' where
  fields := by
    have hf : ∀ a : Step, a.kind ≠ .fields → a.fields? = none := by
      intro a ha
      cases a <;> first | rfl | exact absurd rfl ha
    rw [lastFields, lastFields, h.filterMap_eq hf]
  filters := by
    have hf : ∀ a : Step, a.kind ≠ .conditions → a.conditions = [] := by
      intro a ha
      cases a <;> first | rfl | exact absurd rfl ha
    exact h.flatMap_eq hf
  sort := by
    have hf : ∀ a : Step, a.kind ≠ .order → a.sortKeys = [] := by
      intro a ha
      cases a <;> first | rfl | exact absurd rfl ha
    exact h.flatMap_eq hf
  limit := by
    have hf : ∀ a : Step, a.kind ≠ .limit → a.limit? = none := by
      intro a ha
      cases a <;> first | rfl | exact absurd rfl ha
    rw [lastLimit, lastLimit, h.filterMap_eq hf]
  offset := by
    have hf : ∀ a : Step, a.kind ≠ .offset → a.offset? = none := by
      intro a ha
      cases a <;> first | rfl | exact absurd rfl ha
    rw [lastOffset, lastOffset, h.filterMap_eq hf]

end Rearranged

theorem SameParts.build_eq (h : SameParts steps steps') : build steps = build steps' := by
  rw [Selection.build_eq, Selection.build_eq, h.fields, h.filters, h.sort, h.limit, h.offset]

end

end Selection

open Selection

/-- What a selection compiles to, in whatever order it is built. -/
structure CompilesByParts (table : String) : Prop where
  /-- Neighbours of different kinds may change places, wherever they stand. -/
  comm : ∀ (s : Selection) (a b : Step), a.kind ≠ b.kind → (s.step a).step b = (s.step b).step a
  /-- What is compiled is the statement of the five parts of the steps, -/
  parts : ∀ steps, ((build steps).of table).compile = Compiled.select table
    ⟨lastFields steps, allFilters steps, allSortKeys steps, lastLimit steps, lastOffset steps⟩
  /-- with the arguments of the filters, in the order of these. -/
  args : ∀ steps, ((build steps).of table).compile.args = (allFilters steps).flatMap fun f => (Clause.filter f).args
  /-- Nothing else of the steps matters, -/
  same : ∀ steps steps', SameParts steps steps' → ((build steps).of table).compile = ((build steps').of table).compile
  /-- so those of different kinds may be mixed in any way. -/
  rearranged : ∀ steps steps', Rearranged steps steps' →
    ((build steps).of table).compile = ((build steps').of table).compile
  /-- Several filters at once are the filters one by one. -/
  filters : ∀ before fs after, ((build (before ++ .filters fs :: after)).of table).compile =
    ((build (before ++ (fs.map .filter ++ after))).of table).compile

theorem Clause.args_whereAll_eq (filters : List Filter) :
    (whereAll filters).args = filters.flatMap fun f => (filter f).args := by
  rw [whereAll]
  split
  · next h => rw [List.isEmpty_iff.1 h, List.flatMap_nil]
  · rfl

/-- **A selection compiles to the statement of its parts**, and steps of different kinds may come in any order. -/
theorem Query.compile_build (table : String) : CompilesByParts table where
  comm s _ _ h := s.step_comm h
  parts steps := by
    rw [← build_eq]
    rfl
  args steps := by
    rw [build_eq]
    exact Clause.args_whereAll_eq _
  same _ _ h := by rw [h.build_eq]
  rearranged _ _ h := by rw [h.sameParts.build_eq]
  filters before fs after := by rw [build_filters]

/-- Steps of all kinds, mixed and one kind after the other. -/
theorem Query.compile_build_mixed :
    let mixed : List Step := [.limit 5, .filter (.eq "a" (.integer 1)), .fields ["a"], .orderBy "b" .descending,
      .filters [.inSet "b" [.text "x", .null], .gt "a" (.integer 0)], .limit 2, .orderBy "a" .ascending, .offset 1,
      .fields ["b", "c"]]
    let sorted : List Step := [.fields ["a"], .fields ["b", "c"], .filter (.eq "a" (.integer 1)),
      .filters [.inSet "b" [.text "x", .null], .gt "a" (.integer 0)], .orderBy "b" .descending,
      .orderBy "a" .ascending, .limit 5, .limit 2, .offset 1]
    Rearranged mixed sorted ∧ ((build mixed).of "t").compile = ((build sorted).of "t").compile ∧
      ((build mixed).of "t").compile.sql =
        "SELECT b, c FROM t WHERE a = ? AND b IN (?, ?) AND a > ? ORDER BY b DESC, a ASC LIMIT 2 OFFSET 1" := by
  intro mixed sorted
  have h : Rearranged mixed sorted := by
    intro kind
    cases kind <;> rfl
  exact ⟨h, (compile_build "t").rearranged mixed sorted h, by decide +kernel⟩

end TypedStorage
