/-
JSON values. A number is an integer of 64 bits, with or without a sign, or else a finite double: JSON has no
other doubles. `Document` is a value whose objects all list their members in increasing order of names, so
that each value has one representative.
-/
import TypedStorage.KeyMap
import TypedStorage.Double.Basic

namespace TypedStorage

namespace Json

inductive Number where
  | int (value : Int) (inRange : -0x8000000000000000 ≤ value ∧ value < 0x10000000000000000)
  | double (x : Double.Finite)
  deriving DecidableEq

end Json

inductive Json where
  | null
  | bool (b : Bool)
  | number (n : Json.Number)
  | string (s : String)
  | array (items : List Json)
  | object (members : List (String × Json))

namespace Json

mutual

/-- Every object lists its members in strictly increasing order of names. -/
def Ordered : Json → Prop
  | .array items => OrderedItems items
  | .object members => SortedKeys members ∧ OrderedMembers members
  | _ => True

def OrderedItems : List Json → Prop
  | [] => True
  | j :: items => Ordered j ∧ OrderedItems items

def OrderedMembers : List (String × Json) → Prop
  | [] => True
  | (_, j) :: members => Ordered j ∧ OrderedMembers members

end

mutual

/-- How many arrays and objects stand inside one another at most. -/
def depth : Json → Nat
  | .array items => itemsDepth items + 1
  | .object members => membersDepth members + 1
  | _ => 0

def itemsDepth : List Json → Nat
  | [] => 0
  | j :: items => max (depth j) (itemsDepth items)

def membersDepth : List (String × Json) → Nat
  | [] => 0
  | (_, j) :: members => max (depth j) (membersDepth members)

end

theorem orderedMembers_iff {members : List (String × Json)} :
    OrderedMembers members ↔ ∀ p ∈ members, Ordered p.2 := by
  induction members with
  | nil => simp [OrderedMembers]
  | cons p members ih => obtain ⟨k, j⟩ := p; simp [OrderedMembers, ih]

theorem orderedItems_iff {items : List Json} : OrderedItems items ↔ ∀ j ∈ items, Ordered j := by
  induction items with
  | nil => simp [OrderedItems]
  | cons j items ih => simp [OrderedItems, ih]

theorem mem_sortEntries {α : Type} {p : String × α} {pairs : List (String × α)}
    (h : p ∈ sortEntries pairs) : p ∈ pairs := by
  have go : ∀ (pairs acc : List (String × α)),
      p ∈ pairs.foldl (fun acc p => insertKey p.1 p.2 acc) acc → p ∈ acc ∨ p ∈ pairs := by
    intro pairs
    induction pairs with
    | nil => intro acc h; exact .inl h
    | cons q pairs ih =>
      intro acc h
      rcases ih _ h with h | h
      · rcases mem_insertKey h with h | h
        · exact .inr (h ▸ List.mem_cons_self)
        · exact .inl h
      · exact .inr (List.mem_cons_of_mem _ h)
  rcases go pairs [] h with h | h
  · simp at h
  · exact h

/-- The object with these members; the last one under a name counts. -/
def ofMembers (members : List (String × Json)) : Json := .object (sortEntries members)

theorem ordered_ofMembers {members : List (String × Json)} (h : OrderedMembers members) :
    (ofMembers members).Ordered := by
  refine ⟨sortedKeys_sortEntries members, orderedMembers_iff.2 fun p hp => ?_⟩
  exact orderedMembers_iff.1 h p (mem_sortEntries hp)

def ofInt64 (i : Int64) : Json := .number (.int i.toInt (by
  have h1 := i.le_toInt
  have h2 := i.toInt_lt
  omega))

/-- A finite double; JSON has no NaN and no infinity, and `null` stands in. -/
def ofDouble : Double → Json
  | .finite x => .number (.double x)
  | _ => .null

end Json

/-- A JSON value in its one ordered form. -/
structure Json.Document where
  tree : Json
  ordered : tree.Ordered

namespace Json.Document

theorem ext {a b : Document} (h : a.tree = b.tree) : a = b := by
  cases a; cases b; simp_all

def null : Document := ⟨.null, trivial⟩

instance : Inhabited Document := ⟨null⟩

end Json.Document

end TypedStorage
