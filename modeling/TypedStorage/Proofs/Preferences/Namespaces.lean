/-
Namespaces on one server (`namespaces_onServer`). A key goes to the server behind its namespace and a colon, and neither
of the two is kept from holding colons. So a namespace can lie inside another one: of `app` and `app:cache`, the first
has the key `cache:theme` where the second has `theme`, and what one of them puts there the other gets. That is the only
way: namespaces of which neither lies inside the other never touch each other's values, however many applications use
the server, and among namespaces without a colon none does.

Of the server it is assumed that it keeps bytes under names (`KeepsByName`): a request that it carries out does what it
says under the name that it gives, and no request changes anything under another name. It may refuse a request.
-/
import TypedStorage.Preferences.Server
import TypedStorage.Proofs.KeyMap
import TypedStorage.Proofs.Text.Colon

namespace TypedStorage

/-! ## Servers -/

variable {σ : Type} {server : PreferencesManager σ} {value : σ → String → Option (List UInt8)}

/-- A server that keeps bytes under names: which, is told of each of its states. -/
structure PreferencesManager.KeepsByName (server : PreferencesManager σ) (value : σ → String → Option (List UInt8)) :
    Prop where
  put_self : ∀ {name bytes s s'}, server.put name bytes s = (.ok (), s') → value s' name = some bytes
  put_other : ∀ {name bytes s name'}, name' ≠ name → value (server.put name bytes s).2 name' = value s name'
  remove_self : ∀ {name s s'}, server.remove name s = (.ok (), s') → value s' name = none
  remove_other : ∀ {name s name'}, name' ≠ name → value (server.remove name s).2 name' = value s name'
  get_keeps : ∀ {name s}, value (server.get name s).2 = value s
  get_answer : ∀ {name s s' found}, server.get name s = (.ok found, s') → found = value s name
  contains_keeps : ∀ {name s}, value (server.contains name s).2 = value s
  contains_answer : ∀ {name s s' found}, server.contains name s = (.ok found, s') → found = (value s name).isSome

/-- Memory keeps bytes under names. -/
theorem PreferencesManager.keepsByName_memory : memory.KeepsByName KeyMap.get? where
  put_self := by
    intro name bytes s s' h
    cases h
    exact KeyMap.get?_insert_self s name bytes
  put_other h := KeyMap.get?_insert_other _ h _
  remove_self := by
    intro name s s' h
    cases h
    exact (KeyMap.get?_erase s name name).trans (if_pos rfl)
  remove_other h := (KeyMap.get?_erase _ _ _).trans (if_neg h)
  get_keeps := rfl
  get_answer := by
    intro name s s' found h
    cases h
    rfl
  contains_keeps := rfl
  contains_answer := by
    intro name s s' found h
    cases h
    rfl

/-- A request to a server. -/
inductive ServerRequest where
  | put (key : String) (bytes : List UInt8)
  | get (key : String)
  | remove (key : String)
  | contains (key : String)

namespace ServerRequest

def key : ServerRequest → String
  | put key _ | get key | remove key | contains key => key

/-- The state of the server after a request that comes from a namespace. -/
def after (server : PreferencesManager σ) (p : ServerPreferences) (s : σ) : ServerRequest → σ
  | put key bytes => ((p.onServer server).put key bytes s).2
  | get key => ((p.onServer server).get key s).2
  | remove key => ((p.onServer server).remove key s).2
  | contains key => ((p.onServer server).contains key s).2

/-- The state after requests that come from several namespaces. -/
def run (server : PreferencesManager σ) (requests : List (ServerPreferences × ServerRequest)) (s : σ) : σ :=
  requests.foldl (fun s r => r.2.after server r.1 s) s

/-- A request changes nothing but what is under the name of its key. -/
theorem value_after (hs : server.KeepsByName value) (q : ServerPreferences) (r : ServerRequest) {name : String}
    (h : name ≠ q.buildKey r.key) (s : σ) : value (r.after server q s) name = value s name := by
  cases r with
  | put key bytes => exact hs.put_other h
  | get key => exact congrFun hs.get_keeps name
  | remove key => exact hs.remove_other h
  | contains key => exact congrFun hs.contains_keeps name

theorem value_run (hs : server.KeepsByName value) {requests : List (ServerPreferences × ServerRequest)} {name : String}
    (h : ∀ r ∈ requests, name ≠ r.1.buildKey r.2.key) (s : σ) : value (run server requests s) name = value s name := by
  induction requests generalizing s with
  | nil => rfl
  | cons r requests ih =>
    calc value (run server requests (r.2.after server r.1 s)) name
      _ = value (r.2.after server r.1 s) name := ih (fun r' hr' => h r' (List.mem_cons_of_mem r hr')) _
      _ = value s name := value_after hs r.1 r.2 (h r List.mem_cons_self) s

end ServerRequest

/-! ## Namespaces -/

namespace ServerPreferences

open PreferencesManager

/-- The second namespace is the first one, a colon, and more; what is more stands in the first one's key. -/
def Overlaps (p : ServerPreferences) (k : String) (q : ServerPreferences) (k' : String) : Prop :=
  ∃ part, q.ns = p.ns ++ ":" ++ part ∧ k = part ++ ":" ++ k'

/-- The second namespace lies inside the first. -/
def Encloses (p q : ServerPreferences) : Prop := ∃ part, q.ns = p.ns ++ ":" ++ part

/-- Different namespaces of which neither lies inside the other. -/
structure Apart (p q : ServerPreferences) : Prop where
  ne : p.ns ≠ q.ns
  not_encloses : ¬p.Encloses q
  not_enclosed : ¬q.Encloses p

variable {p q : ServerPreferences} {k k' : String}

theorem buildKey_eq_iff (h : p.ns ≠ q.ns) : p.buildKey k = q.buildKey k' ↔ p.Overlaps k q k' ∨ q.Overlaps k' p k :=
  colon_eq_iff.trans (or_iff_right fun he => h he.1)

theorem Apart.buildKey_ne (h : p.Apart q) (k k' : String) : p.buildKey k ≠ q.buildKey k' := by
  intro he
  rcases (buildKey_eq_iff h.ne).1 he with ⟨part, hpart, -⟩ | ⟨part, hpart, -⟩
  · exact h.not_encloses ⟨part, hpart⟩
  · exact h.not_enclosed ⟨part, hpart⟩

theorem buildKey_eq_of_overlaps (h : p.Overlaps k q k' ∨ q.Overlaps k' p k) : p.buildKey k = q.buildKey k' :=
  colon_eq_iff.2 (.inr h)

/-- An enclosed namespace has a key in common with the one around it, whatever its own key is. -/
theorem Encloses.exists_overlap (h : p.Encloses q) (k' : String) : ∃ k, p.Overlaps k q k' := by
  obtain ⟨part, hpart⟩ := h
  exact ⟨part ++ ":" ++ k', part, hpart, rfl⟩

theorem not_encloses_of_plain (h : ':' ∉ q.ns.toList) : ¬p.Encloses q := by
  rintro ⟨part, hpart⟩
  simp [hpart] at h

/-- Namespaces that share a server. -/
structure ShareServer (server : PreferencesManager σ) (value : σ → String → Option (List UInt8)) : Prop where
  /-- Keys of different namespaces are one name exactly where they overlap. -/
  same : ∀ p q : ServerPreferences, p.ns ≠ q.ns →
    ∀ k k', p.buildKey k = q.buildKey k' ↔ p.Overlaps k q k' ∨ q.Overlaps k' p k
  /-- Different namespaces have no key in common exactly when neither lies inside the other, -/
  apart : ∀ p q : ServerPreferences, p.ns ≠ q.ns → ((∀ k k', p.buildKey k ≠ q.buildKey k') ↔ p.Apart q)
  /-- which is so when they have no colon. -/
  plain : ∀ p q : ServerPreferences, p.ns ≠ q.ns → ':' ∉ p.ns.toList → ':' ∉ q.ns.toList → p.Apart q
  /-- Whatever is requested from namespaces apart from one, its values stay. -/
  untouched : ∀ (p : ServerPreferences) requests, (∀ r ∈ requests, r.1.Apart p) →
    ∀ s k, value (ServerRequest.run server requests s) (p.buildKey k) = value s (p.buildKey k)
  /-- Where keys overlap, what is put under the one is got under the other, -/
  seen : ∀ p q : ServerPreferences, ∀ k k', p.Overlaps k q k' ∨ q.Overlaps k' p k →
    ∀ bytes s s', (q.onServer server).put k' bytes s = (.ok (), s') →
      ∀ found s'', (p.onServer server).get k s' = (.ok found, s'') → found = some bytes
  /-- and what is removed under the one is gone under the other. -/
  lost : ∀ p q : ServerPreferences, ∀ k k', p.Overlaps k q k' ∨ q.Overlaps k' p k →
    ∀ s s', (q.onServer server).remove k' s = (.ok (), s') →
      ∀ found s'', (p.onServer server).contains k s' = (.ok found, s'') → found = false

/-- **Namespaces see each other's values exactly where one lies inside the other.** -/
theorem namespaces_onServer (hs : server.KeepsByName value) : ShareServer server value where
  same p q hne k k' := buildKey_eq_iff hne
  apart p q hne := by
    refine ⟨fun h => ⟨hne, fun hpq => ?_, fun hqp => ?_⟩, fun h => h.buildKey_ne⟩
    · obtain ⟨k, hk⟩ := hpq.exists_overlap ""
      exact h k "" ((buildKey_eq_iff hne).2 (.inl hk))
    · obtain ⟨k, hk⟩ := hqp.exists_overlap ""
      exact h "" k ((buildKey_eq_iff hne).2 (.inr hk))
  plain p q hne hp hq := ⟨hne, not_encloses_of_plain hq, not_encloses_of_plain hp⟩
  untouched p requests h s k := ServerRequest.value_run hs (fun r hr => ((h r hr).buildKey_ne _ _).symm) s
  seen p q k k' h bytes s s' hput found s'' hget := by
    have hvalue := hs.put_self hput
    rw [← buildKey_eq_of_overlaps h] at hvalue
    exact (hs.get_answer hget).trans hvalue
  lost p q k k' h s s' hremove found s'' hcontains := by
    have hvalue := hs.remove_self hremove
    rw [← buildKey_eq_of_overlaps h] at hvalue
    exact (hs.contains_answer hcontains).trans (congrArg Option.isSome hvalue)

/-- Memory is such a server. -/
theorem namespaces_onServer_memory : memory.KeepsByName KeyMap.get? ∧ ShareServer memory KeyMap.get? :=
  ⟨keepsByName_memory, namespaces_onServer keepsByName_memory⟩

/-- Two namespaces that are taken can have a key in common. -/
theorem not_buildKey_ne : ¬∀ (url : String) (p q : ServerPreferences), of? url p.ns = .ok p → of? url q.ns = .ok q →
    p.ns ≠ q.ns → ∀ k k', p.buildKey k ≠ q.buildKey k' := by
  intro h
  exact h "redis://localhost" ⟨"redis://localhost", "app"⟩ ⟨"redis://localhost", "app:cache"⟩ (by rfl) (by rfl)
    (by decide) "cache:theme" "theme" (by decide)

end ServerPreferences

end TypedStorage
