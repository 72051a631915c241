/-
What typed readers take the text of a value for. A reader takes a document for a value (`Takes`) if it finds this value
and no other in it, exactly when a condition on the value holds and the nesting stays within the bound. Readers of
records, choices, lists and maps do so where the readers of their parts do.
-/
import Mathlib.Data.List.Perm.Basic
import TypedStorage.Json.Read
import TypedStorage.Json.Write
import TypedStorage.Proofs.Json.Order

namespace TypedStorage.Json

variable {α β : Type}

/-- In the document, however it is arranged, the reader finds this value if the condition holds and the nesting stays
within the bound; otherwise it finds nothing. -/
def Takes (r : Reader α) (d : Document) (x : α) (ok : Prop) : Prop :=
  ∀ ⦃budget : Nat⦄ ⦃j : Json⦄, j.Arranges d.tree →
    ∀ y, r budget (Source.ofJson j) = some y ↔ y = x ∧ ok ∧ j.depth ≤ budget

theorem Takes.congr {r : Reader α} {d : Document} {x : α} {ok ok' : Prop} (h : Takes r d x ok) (hok : ok ↔ ok') :
    Takes r d x ok' := fun _ _ hj y => by rw [h hj, hok]

/-- Reading goes on with the value. -/
theorem Takes.bind_eq_some_iff {r : Reader α} {d : Document} {x : α} {ok : Prop} (h : Takes r d x ok) {budget : Nat}
    {j : Json} (hj : j.Arranges d.tree) {next : α → Option β} {y : β} :
    (r budget (Source.ofJson j)).bind next = some y ↔ ok ∧ j.depth ≤ budget ∧ next x = some y := by
  simp only [Option.bind_eq_some_iff, h hj]
  constructor
  · rintro ⟨_, ⟨rfl, hok, hd⟩, hy⟩
    exact ⟨hok, hd, hy⟩
  · rintro ⟨hok, hd, hy⟩
    exact ⟨x, ⟨rfl, hok, hd⟩, hy⟩

theorem Takes.bind {r : Reader α} {d : Document} {x : α} {ok : Prop} (h : Takes r d x ok) {f : α → Option β} {z : β}
    (hf : f x = some z) : Takes (fun budget s => (r budget s).bind f) d z ok := by
  intro budget j hj y
  rw [h.bind_eq_some_iff hj, hf, Option.some.injEq, eq_comm (a := z), ← and_assoc, and_comm]

/-! ## Plain values -/

theorem takes_bool (b : Bool) : Takes Readable.read? (.ofBool b) b True := by
  intro budget j hj y
  cases hj
  simp [Source.ofJson, Readable.read?, depth, eq_comm]

theorem takes_string (s : String) : Takes Readable.read? (.ofString s) s True := by
  intro budget j hj y
  cases hj
  simp [Source.ofJson, Readable.read?, depth, eq_comm]

theorem takes_int64 (i : Int64) : Takes Readable.read? (.ofInt64 i) i True := by
  intro budget j hj y
  have hlo := i.le_toInt
  have hhi := i.toInt_lt
  cases hj
  simp only [Source.ofJson, Readable.read?, Reader.int?, Option.bind_some, depth]
  rw [if_pos (by omega), Int64.ofInt_toInt]
  simp [eq_comm]

theorem takes_uint8 (b : UInt8) : Takes Readable.read? (.ofInt64 (Int64.ofInt b.toNat)) b True := by
  intro budget j hj y
  have hb := b.toNat_lt
  have hi : (Int64.ofInt b.toNat).toInt = b.toNat := Int64.toInt_ofInt_of_le (by omega) (by omega)
  cases hj
  simp only [Source.ofJson, Readable.read?, Reader.int?, Option.bind_some, depth, hi]
  rw [if_pos (by omega), Int.toNat_natCast, UInt8.ofNat_toNat]
  simp [eq_comm]

/-- A double has a JSON form if it is finite. -/
theorem takes_double (x : Double) : Takes Readable.read? (.ofDouble x) x (∃ f, x = .finite f) := by
  intro budget j hj y
  cases x with
  | nan =>
    cases hj
    simp [Source.ofJson, Readable.read?]
  | infinite negative =>
    cases hj
    simp [Source.ofJson, Readable.read?]
  | finite f =>
    cases hj
    simp [Source.ofJson, Readable.read?, depth, eq_comm]

theorem takes_document (d : Document) : Takes Readable.read? d d True := by
  intro budget j hj y
  rw [true_and]
  exact document?_of_arranges hj y

/-- Reads null as nothing, and anything else as a value. -/
def orNull (r : Reader α) : Reader (Option α)
  | _, .null => some none
  | budget, s => (r budget s).map some

theorem takes_orNull {r : Reader α} {o : Option α} {doc : α → Document} {ok : α → Prop}
    (h : ∀ x, Takes r (doc x) x (ok x)) (hne : ∀ x, (doc x).tree ≠ .null) :
    Takes (orNull r) (.ofOption (o.map doc)) o (∀ x ∈ o, ok x) := by
  intro budget j hj y
  cases o with
  | none =>
    cases hj
    simp [Source.ofJson, orNull, depth, eq_comm]
  | some x =>
    have hsome : orNull r budget (Source.ofJson j) = (r budget (Source.ofJson j)).map some := by
      have hj' : j ≠ .null := by
        rintro rfl
        have hnull : Arranges .null (doc x).tree := hj
        generalize ht : (doc x).tree = t at hnull
        cases hnull
        exact hne x ht
      cases j with
      | null => exact absurd rfl hj'
      | _ => rfl
    rw [hsome, Option.map_eq_some_iff]
    simp only [h x hj]
    constructor
    · rintro ⟨_, ⟨rfl, hok, hd⟩, rfl⟩
      exact ⟨rfl, by simpa using hok, hd⟩
    · rintro ⟨rfl, hok, hd⟩
      exact ⟨x, ⟨rfl, hok x rfl, hd⟩, rfl⟩

theorem takes_ofOption [Readable α] {o : Option α} {doc : α → Document} {ok : α → Prop}
    (h : ∀ x, Takes Readable.read? (doc x) x (ok x)) (hne : ∀ x, (doc x).tree ≠ .null) :
    Takes Readable.read? (.ofOption (o.map doc)) o (∀ x ∈ o, ok x) := by
  have hread : (Readable.read? : Reader (Option α)) = orNull Readable.read? := by
    funext budget s
    cases s <;> rfl
  rw [hread]
  exact takes_orNull h hne

/-! ## Lists and maps -/

/-- What the parts of a list are read as makes up what the list is read as. -/
theorem mapM_eq_some_iff {γ : Type} {f : α → Option γ} {ok : γ → Prop} {fits : α → Prop} {as : List α} {cs : List γ}
    (h : List.Forall₂ (fun a c => ∀ y, f a = some y ↔ y = c ∧ ok c ∧ fits a) as cs) (ys : List γ) :
    as.mapM f = some ys ↔ ys = cs ∧ (∀ c ∈ cs, ok c) ∧ ∀ a ∈ as, fits a := by
  induction h generalizing ys with
  | nil => simp [eq_comm]
  | @cons a c as cs hac _ ih =>
    simp only [List.mapM_cons, Option.bind_eq_bind, Option.bind_eq_some_iff, Option.pure_def, Option.some.injEq, hac, ih,
      List.forall_mem_cons]
    constructor
    · rintro ⟨_, ⟨rfl, hok, hfits⟩, _, ⟨rfl, hoks, hrest⟩, rfl⟩
      exact ⟨rfl, ⟨hok, hoks⟩, hfits, hrest⟩
    · rintro ⟨rfl, ⟨hok, hoks⟩, hfits, hrest⟩
      exact ⟨c, ⟨rfl, hok, hfits⟩, cs, ⟨rfl, hoks, hrest⟩, rfl⟩

theorem takes_ofList [Readable α] {xs : List α} {doc : α → Document} {ok : α → Prop}
    (h : ∀ x, Takes Readable.read? (doc x) x (ok x)) :
    Takes Readable.read? (.ofList (xs.map doc)) xs (∀ x ∈ xs, ok x) := by
  intro budget j hj y
  cases hj with
  | @array items' _ hitems =>
    rw [List.map_map, List.forall₂_map_right_iff] at hitems
    cases budget with
    | zero => simp [Readable.read?, depth]
    | succ budget =>
      have hparts := mapM_eq_some_iff (f := Readable.read? (α := α) budget ∘ Source.ofJson)
        (hitems.imp fun j' x hx => @h x budget j' hx) y
      simp only [Source.ofJson, ofItems_eq_map, Readable.read?, List.mapM_map, hparts, depth, Nat.add_le_add_iff_right,
        itemsDepth_le_iff]

/-- The members of an arranged object, each with the pair that it is the member of. -/
theorem arranges_ofPairs_iff {pairs : List (String × Document)} (hn : (pairs.map Prod.fst).Nodup) {j : Json} :
    j.Arranges (Document.ofPairs pairs).tree ↔ ∃ members pairs', j = .object members ∧ pairs'.Perm pairs ∧
      List.Forall₂ (fun m q => m.1 = q.1 ∧ m.2.Arranges q.2.tree) members pairs' := by
  have hnames : ((pairs.map fun q => (q.1, q.2.tree)).map Prod.fst).Nodup := by rwa [List.map_map]
  have hsort := sortEntries_perm hnames
  refine arranges_object_iff.trans ⟨?_, ?_⟩
  · rintro ⟨members, arranged, rfl, hmembers, order⟩
    obtain ⟨pairs', rfl, hperm⟩ := (congrFun₂ (List.eq_map_comp_perm _) _ _).mpr (order.trans hsort)
    rw [List.forall₂_map_right_iff] at hmembers
    exact ⟨members, pairs', rfl, hperm, hmembers⟩
  · rintro ⟨members, pairs', rfl, hperm, hmembers⟩
    exact ⟨members, _, rfl, List.forall₂_map_right_iff.2 hmembers, (hperm.map _).trans hsort.symm⟩

/-- What a member of an object is read as. -/
def readMember? [Readable α] (budget : Nat) (q : String × Json) : Option (String × α) :=
  (Readable.read? budget (Source.ofJson q.2)).map (q.1, ·)

theorem read?_object_eq [Readable α] (budget : Nat) (members : List (String × Json)) :
    (Readable.read? (budget + 1) (Source.ofJson (.object members)) : Option (KeyMap α)) =
      (members.mapM (readMember? budget)).map KeyMap.ofPairs := by
  have hmember : (fun q : String × Json => (do
      let k ← some q.1
      let v ← Readable.read? budget (Source.ofJson q.2)
      return (k, v) : Option (String × α))) = readMember? budget := by
    funext q
    unfold readMember?
    cases (Readable.read? budget (Source.ofJson q.2) : Option α) <;> rfl
  simp only [Source.ofJson, ofMembers_eq_map, Readable.read?, List.mapM_map, Function.comp_def, hmember]
  cases members.mapM (readMember? (α := α) budget) <;> rfl

theorem takes_ofMap [Readable α] {m : KeyMap α} {doc : α → Document} {ok : α → Prop}
    (h : ∀ x, Takes Readable.read? (doc x) x (ok x)) :
    Takes Readable.read? (.ofPairs (m.entries.map fun e => (e.1, doc e.2))) m (∀ e ∈ m.entries, ok e.2) := by
  intro budget j hj y
  have hnames : ((m.entries.map fun e => (e.1, doc e.2)).map Prod.fst).Nodup := by
    rw [List.map_map]
    exact m.nodup_keys
  obtain ⟨members, pairs, rfl, hperm, hmembers⟩ := (arranges_ofPairs_iff hnames).1 hj
  obtain ⟨entries, rfl, hentries⟩ := (congrFun₂ (List.eq_map_comp_perm _) _ _).mpr hperm
  rw [List.forall₂_map_right_iff] at hmembers
  cases budget with
  | zero => simp [Readable.read?, depth]
  | succ budget =>
    have hparts : List.Forall₂ (fun q e => ∀ y, readMember? budget q = some y ↔ y = e ∧ ok e.2 ∧ q.2.depth ≤ budget)
        members entries := by
      refine hmembers.imp fun q e hq y => ?_
      simp only [readMember?, Option.map_eq_some_iff, h e.2 hq.2, hq.1]
      constructor
      · rintro ⟨_, ⟨rfl, hok, hd⟩, rfl⟩
        exact ⟨rfl, hok, hd⟩
      · rintro ⟨rfl, hok, hd⟩
        exact ⟨y.2, ⟨rfl, hok, hd⟩, rfl⟩
    have hmap : KeyMap.ofPairs entries = m := KeyMap.ofPairs_of_perm hentries
    simp only [read?_object_eq, Option.map_eq_some_iff, mapM_eq_some_iff hparts, depth, Nat.add_le_add_iff_right,
      membersDepth_le_iff]
    constructor
    · rintro ⟨_, ⟨rfl, hok, hd⟩, rfl⟩
      exact ⟨hmap, fun e he => hok e (hentries.mem_iff.2 he), hd⟩
    · rintro ⟨rfl, hok, hd⟩
      exact ⟨entries, ⟨rfl, fun e he => hok e (hentries.mem_iff.1 he), hd⟩, hmap⟩

/-! ## Records -/

/-- The fields are those of a record with these pairs; `part` says what was found under each name. -/
structure Fields.Gives (f : Fields) (pairs : List (String × Document)) (part : String → Json) : Prop where
  named : f.inOrder = false
  arranges : ∀ q ∈ pairs, (part q.1).Arranges q.2.tree
  found : ∀ q ∈ pairs, f.found.lookup q.1 = some (Source.ofJson (part q.1))

namespace Fields.Gives

variable {f : Fields} {pairs : List (String × Document)} {part : String → Json} {name : String} {d : Document}

theorem lookup (h : f.Gives pairs part) (hd : (name, d) ∈ pairs) :
    f.found.lookup name = some (Source.ofJson (part name)) := h.found _ hd

/-- Reading goes on with a field that is taken for a value. -/
theorem read_bind (h : f.Gives pairs part) (name : String) {d : Document} (hd : (name, d) ∈ pairs) {r : Reader α} {x : α}
    {ok : Prop} (hx : Takes r d x ok) {next : α → Option β} {y : β} :
    ((f.found.lookup name).bind (r f.budget)).bind next = some y ↔ ok ∧ (part name).depth ≤ f.budget ∧ next x = some y := by
  rw [h.lookup hd, Option.bind_some, hx.bind_eq_some_iff (h.arranges _ hd)]

theorem required_bind [Readable α] (h : f.Gives pairs part) (name : String) {d : Document} (hd : (name, d) ∈ pairs)
    {x : α} {ok : Prop} (hx : Takes Readable.read? d x ok) {next : α → Option β} {y : β} :
    (f.required name).bind next = some y ↔ ok ∧ (part name).depth ≤ f.budget ∧ next x = some y :=
  h.read_bind name hd hx

theorem optional_bind [Readable α] (h : f.Gives pairs part) (name : String) {d : Document} (hd : (name, d) ∈ pairs)
    {x : Option α} {ok : Prop} (hx : Takes Readable.read? d x ok) {next : Option α → Option β} {y : β} :
    (f.optional name).bind next = some y ↔ ok ∧ (part name).depth ≤ f.budget ∧ next x = some y := by
  rw [Fields.optional, h.lookup hd]
  exact hx.bind_eq_some_iff (h.arranges _ hd)

end Fields.Gives

theorem exists_mem_of_forall₂ {R : α → β → Prop} {as : List α} {bs : List β} (h : List.Forall₂ R as bs) :
    ∀ b ∈ bs, ∃ a ∈ as, R a b := by
  induction h with
  | nil => exact fun _ hb => nomatch hb
  | @cons a b as bs hab _ ih =>
    refine List.forall_mem_cons.2 ⟨⟨a, List.mem_cons_self, hab⟩, fun b' hb' => ?_⟩
    obtain ⟨a', ha', h⟩ := ih b' hb'
    exact ⟨a', List.mem_cons_of_mem a ha', h⟩

/-- In an arranged record all fields are found. -/
theorem exists_gives {pairs : List (String × Document)} (hn : (pairs.map Prod.fst).Nodup) {j : Json}
    (h : j.Arranges (Document.ofPairs pairs).tree) : ∃ members part, j = .object members ∧
      (∀ n, membersDepth members ≤ n ↔ ∀ q ∈ pairs, (part q.1).depth ≤ n) ∧
      ∀ n, ∃ f, Fields.ofMembers? (pairs.map Prod.fst) n (Source.ofMembers members) = some f ∧ f.budget = n ∧
        f.Gives pairs part := by
  obtain ⟨members, pairs', rfl, hperm, hmembers⟩ := (arranges_ofPairs_iff hn).1 h
  have hnames : members.map Prod.fst = pairs'.map Prod.fst := by
    rw [← List.forall₂_eq_eq_eq, List.forall₂_map_left_iff, List.forall₂_map_right_iff]
    exact hmembers.imp fun _ _ hm => hm.1
  have hperm' : (members.map Prod.fst).Perm (pairs.map Prod.fst) := hnames ▸ hperm.map Prod.fst
  have hnodup : (members.map Prod.fst).Nodup := hperm'.nodup_iff.2 hn
  obtain ⟨part, hpart⟩ : ∃ part : String → Json, ∀ m ∈ members, part m.1 = m.2 :=
    ⟨fun name => (members.lookup name).getD .null, fun m hm => congrArg (·.getD .null) (lookup_of_mem hnodup hm)⟩
  have hfound : ∀ q ∈ pairs, (q.1, part q.1) ∈ members ∧ (part q.1).Arranges q.2.tree := by
    intro q hq
    obtain ⟨m, hm, hname, harr⟩ := exists_mem_of_forall₂ hmembers q (hperm.mem_iff.2 hq)
    rw [← hname, hpart m hm]
    exact ⟨hm, harr⟩
  have hkeyed : (Source.ofMembers members).mapM (fun p : Option String × Source => p.1.map (·, p.2)) =
      some (members.map fun m => (m.1, Source.ofJson m.2)) := by
    rw [ofMembers_eq_map, List.mapM_map]
    exact List.mapM_pure
  refine ⟨members, part, rfl, fun n => ?_,
    fun n => ⟨⟨false, n, members.map fun m => (m.1, Source.ofJson m.2)⟩, ?_, rfl, ?_⟩⟩
  · rw [membersDepth_le_iff]
    refine ⟨fun h q hq => h _ (hfound q hq).1, fun h m hm => ?_⟩
    obtain ⟨q, hq, hname⟩ := List.mem_map.1 (hperm'.mem_iff.1 (List.mem_map_of_mem hm))
    have := h q hq
    rwa [hname, hpart m hm] at this
  · have hknown : (members.map fun m => (m.1, Source.ofJson m.2)).filter
        (fun p => (pairs.map Prod.fst).contains p.1) = members.map fun m => (m.1, Source.ofJson m.2) := by
      rw [List.filter_eq_self]
      intro p hp
      obtain ⟨m, hm, rfl⟩ := List.mem_map.1 hp
      rw [List.contains_iff_mem]
      exact hperm'.mem_iff.1 (List.mem_map_of_mem hm)
    have hnodup' : ((members.map fun m => (m.1, Source.ofJson m.2)).map Prod.fst).Nodup := by rwa [List.map_map]
    rw [Fields.ofMembers?, hkeyed]
    simp only [Option.bind_eq_bind, Option.bind_some, hknown, guard, if_pos hnodup']
    rfl
  · refine ⟨rfl, fun q hq => (hfound q hq).2, fun q hq => ?_⟩
    refine lookup_of_mem (by rwa [List.map_map]) (List.mem_map.2 ⟨_, (hfound q hq).1, rfl⟩)

/-- A record is taken for what its fields are taken for. -/
theorem takes_record {names : List String} {r : Reader α} {next : Fields → Option α}
    (hr : ∀ budget s, r budget s = (Fields.ofSource? names budget s).bind next) {pairs : List (String × Document)}
    (hnames : pairs.map Prod.fst = names) (hn : names.Nodup) {x : α} {ok : Prop}
    (hnext : ∀ f part, Fields.Gives f pairs part →
      ∀ y, next f = some y ↔ y = x ∧ ok ∧ ∀ q ∈ pairs, (part q.1).depth ≤ f.budget) :
    Takes r (.ofPairs pairs) x ok := by
  intro budget j hj y
  subst hnames
  obtain ⟨members, part, rfl, hdepth, hfields⟩ := exists_gives hn hj
  rw [hr]
  cases budget with
  | zero => simp [Fields.ofSource?, depth]
  | succ budget =>
    obtain ⟨f, hf, hbudget, hgives⟩ := hfields budget
    have hsource : Fields.ofSource? (pairs.map Prod.fst) (budget + 1) (Source.ofJson (.object members)) = some f := hf
    rw [hsource, Option.bind_some, hnext f part hgives, hbudget, depth, Nat.add_le_add_iff_right, hdepth]

/-! ## Choices -/

/-- The name of an alternative that holds nothing. -/
theorem takes_name {name : String} {r : Reader α} {next : Choice → Option α}
    (hr : ∀ budget s, r budget s = (Choice.ofSource? budget s).bind next) {x : α}
    (hnext : ∀ budget, next ⟨name, budget, none⟩ = some x) : Takes r (.ofString name) x True := by
  intro budget j hj y
  cases hj
  simp [hr, Source.ofJson, Choice.ofSource?, hnext, depth, eq_comm]

theorem takes_among {alternatives : List (String × α)} {name : String} {x : α} (h : alternatives.lookup name = some x) :
    Takes (Choice.among alternatives) (.ofString name) x True :=
  takes_name (fun _ _ => rfl) fun _ => h

/-- An alternative and what it holds. -/
theorem takes_choice {name : String} {d : Document} [Readable β] {r : Reader α} {next : Choice → Option α} {make : β → α}
    (hr : ∀ budget s, r budget s = (Choice.ofSource? budget s).bind next)
    (hnext : ∀ budget s, next ⟨name, budget, some s⟩ = (Choice.holds ⟨name, budget, some s⟩).map make) {x : β} {ok : Prop}
    (h : Takes Readable.read? d x ok) : Takes r (.choice name d) (make x) ok := by
  intro budget j hj y
  obtain ⟨members, pairs', rfl, hperm, hmembers⟩ := (@arranges_ofPairs_iff [(name, d)] (List.nodup_singleton name) _).1 hj
  rw [List.perm_singleton] at hperm
  subst hperm
  obtain ⟨m, _, ⟨hname, harr⟩, hnil, rfl⟩ := List.forall₂_cons_right_iff.1 hmembers
  cases hnil
  obtain ⟨name', j⟩ := m
  obtain rfl : name' = name := hname
  rw [hr]
  cases budget with
  | zero => simp [Source.ofJson, Choice.ofSource?, depth]
  | succ budget =>
    simp only [Source.ofJson, Source.ofMembers, Choice.ofSource?, Option.bind_some, hnext, Choice.holds,
      Option.map_eq_some_iff, h harr, depth, membersDepth, Nat.max_zero, Nat.add_le_add_iff_right]
    constructor
    · rintro ⟨_, ⟨rfl, hx⟩, rfl⟩
      exact ⟨rfl, hx⟩
    · rintro ⟨rfl, hx⟩
      exact ⟨x, ⟨rfl, hx⟩, rfl⟩

end TypedStorage.Json
