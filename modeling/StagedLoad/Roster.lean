/-!
# Rosters: items with distinct keys, in order of arrival

A `Roster key` is a list of items no two of which have the same `key`.  `put` replaces the item
of the same key where it stands and appends an item whose key is new, so a key keeps its first
place and its last item.  With the identity as key a roster is a set that remembers the order of
first insertion; with the first component of a pair as key it is an ordered table (`Keyed`).

Main statements: what `put` does to the list (`put_of_mem`, `toList_put_of_not_mem`), to the keys
(`keys_put`) and to look-ups (`find?_put`); a list with distinct keys is the list of its roster
(`toList_ofList`); and a roster is known by its keys and its look-ups (`ext_find?`).
-/

namespace StagedLoad

/-! ## placing an item in a list -/

section
variable {α κ : Type} [DecidableEq κ] (key : α → κ)

/-- `a` instead of the item of the same key, or behind all items when there is none -/
def place (a : α) : List α → List α
  | [] => [a]
  | b :: bs => if key b = key a then a :: bs else b :: place a bs

theorem place_cons (a b : α) (bs : List α) :
    place key a (b :: bs) = if key b = key a then a :: bs else b :: place key a bs := rfl

theorem place_of_not_mem {a : α} {l : List α} (h : key a ∉ l.map key) :
    place key a l = l ++ [a] := by
  induction l with
  | nil => rfl
  | cons b bs ih =>
    have hb : ¬ key b = key a := fun e => h (by simp [e])
    have hbs : key a ∉ bs.map key := fun m => h (List.mem_cons_of_mem _ m)
    rw [place_cons, if_neg hb, ih hbs, List.cons_append]

theorem map_place_of_mem {a : α} {l : List α} (h : key a ∈ l.map key) :
    (place key a l).map key = l.map key := by
  induction l with
  | nil => simp at h
  | cons b bs ih =>
    rw [place_cons]
    split
    · next e => simp [e]
    · next e =>
      rcases List.mem_cons.mp h with h | h
      · exact absurd h.symm e
      · rw [List.map_cons, ih h, List.map_cons]

theorem map_place (a : α) (l : List α) :
    (place key a l).map key = if key a ∈ l.map key then l.map key else l.map key ++ [key a] := by
  split
  · next h => exact map_place_of_mem key h
  · next h => rw [place_of_not_mem key h, List.map_append]; rfl

theorem find?_place (a : α) (l : List α) (k : κ) :
    (place key a l).find? (fun b => key b = k) =
      if key a = k then some a else l.find? (fun b => key b = k) := by
  induction l with
  | nil => by_cases h : key a = k <;> simp [place, h]
  | cons b bs ih =>
    rw [place_cons]
    by_cases hb : key b = key a
    · rw [if_pos hb]
      by_cases h : key a = k
      · simp [h]
      · have : ¬ key b = k := fun e => h (hb ▸ e)
        simp [h, this]
    · rw [if_neg hb]
      by_cases hk : key b = k
      · have : ¬ key a = k := fun e => hb (hk.trans e.symm)
        simp [hk, this]
      · simp only [List.find?_cons, hk, decide_false]
        exact ih

theorem mem_place {a b : α} {l : List α} (h : b ∈ place key a l) : b = a ∨ b ∈ l := by
  induction l with
  | nil => exact Or.inl (List.mem_singleton.mp h)
  | cons c cs ih =>
    rw [place_cons] at h
    split at h
    · rcases List.mem_cons.mp h with h | h
      · exact Or.inl h
      · exact Or.inr (List.mem_cons_of_mem _ h)
    · rcases List.mem_cons.mp h with rfl | h
      · exact Or.inr (List.mem_cons_self ..)
      · exact (ih h).imp (fun e => e) (List.mem_cons_of_mem _)

theorem nodup_map_place (a : α) {l : List α} (h : (l.map key).Nodup) :
    ((place key a l).map key).Nodup := by
  rw [map_place]
  split
  · exact h
  · next hn =>
    rw [List.nodup_append]
    refine ⟨h, by simp, ?_⟩
    intro x hx y hy e
    rw [List.mem_singleton] at hy
    exact hn (hy ▸ e ▸ hx)

end

/-! ## rosters -/

/-- items with distinct keys, in order -/
structure Roster {α κ : Type} (key : α → κ) where
  toList : List α
  distinct : (toList.map key).Nodup

namespace Roster
variable {α κ : Type} {key : α → κ}

@[ext] theorem ext {r s : Roster key} (h : r.toList = s.toList) : r = s := by
  cases r; cases s; cases h; rfl

instance [DecidableEq α] : DecidableEq (Roster key) := fun r s =>
  decidable_of_iff (r.toList = s.toList) ⟨ext, fun h => h ▸ rfl⟩

def empty : Roster key := ⟨[], by simp⟩

instance : EmptyCollection (Roster key) := ⟨empty⟩
instance : Inhabited (Roster key) := ⟨empty⟩

def keys (r : Roster key) : List κ := r.toList.map key

def size (r : Roster key) : Nat := r.toList.length

def isEmpty (r : Roster key) : Bool := r.toList.isEmpty

theorem keys_empty : (∅ : Roster key).keys = [] := rfl

theorem nodup_keys (r : Roster key) : r.keys.Nodup := r.distinct

theorem toList_eq_map_keys {r : Roster key} {f : κ → α} (h : ∀ a ∈ r.toList, f (key a) = a) :
    r.toList = r.keys.map f := by
  rw [keys, List.map_map]
  exact (List.map_id _).symm.trans (List.map_congr_left fun a ha => (h a ha).symm)

variable [DecidableEq κ]

def find? (r : Roster key) (k : κ) : Option α := r.toList.find? (fun a => key a = k)

def hasKey (r : Roster key) (k : κ) : Bool := r.keys.contains k

/-- add an item, in place of the one of the same key if there is one -/
def put (r : Roster key) (a : α) : Roster key :=
  ⟨place key a r.toList, nodup_map_place key a r.distinct⟩

def putAll (r : Roster key) (as : List α) : Roster key := as.foldl put r

/-- the roster of a list: of each key the first place and the last item -/
def ofList (as : List α) : Roster key := putAll ∅ as

/-! ## small facts -/

theorem hasKey_iff (r : Roster key) (k : κ) : r.hasKey k = true ↔ k ∈ r.keys := by
  simp [hasKey]

theorem toList_put_of_not_mem {r : Roster key} {a : α} (h : key a ∉ r.keys) :
    (r.put a).toList = r.toList ++ [a] := place_of_not_mem key h

theorem keys_put (r : Roster key) (a : α) :
    (r.put a).keys = if key a ∈ r.keys then r.keys else r.keys ++ [key a] :=
  map_place key a r.toList

theorem keys_put_of_not_mem {r : Roster key} {a : α} (h : key a ∉ r.keys) :
    (r.put a).keys = r.keys ++ [key a] := by rw [keys_put, if_neg h]

theorem find?_put (r : Roster key) (a : α) (k : κ) :
    (r.put a).find? k = if key a = k then some a else r.find? k :=
  find?_place key a r.toList k

theorem putAll_nil (r : Roster key) : r.putAll [] = r := rfl

theorem putAll_cons (r : Roster key) (a : α) (as : List α) :
    r.putAll (a :: as) = (r.put a).putAll as := rfl

theorem putAll_append (r : Roster key) (as bs : List α) :
    r.putAll (as ++ bs) = (r.putAll as).putAll bs := List.foldl_append

theorem key_of_find? {r : Roster key} {k : κ} {a : α} (h : r.find? k = some a) : key a = k := by
  have := List.find?_some h
  simpa using this

theorem mem_of_find? {r : Roster key} {k : κ} {a : α} (h : r.find? k = some a) :
    a ∈ r.toList := List.mem_of_find?_eq_some h

theorem find?_eq_none_iff (r : Roster key) (k : κ) : r.find? k = none ↔ k ∉ r.keys := by
  simp [find?, keys]

theorem find?_of_mem {r : Roster key} {a : α} (h : a ∈ r.toList) : r.find? (key a) = some a := by
  obtain ⟨l, hd⟩ := r
  show l.find? (fun b => key b = key a) = some a
  replace h : a ∈ l := h
  induction l with
  | nil => cases h
  | cons b bs ih =>
    rw [List.map_cons, List.nodup_cons] at hd
    rw [List.find?_cons]
    rcases List.mem_cons.mp h with rfl | h
    · simp
    · have hb : ¬ key b = key a := fun e => hd.1 (e ▸ List.mem_map_of_mem h)
      simp only [hb, decide_false]
      exact ih hd.2 h

theorem mem_toList_iff (r : Roster key) (a : α) : a ∈ r.toList ↔ r.find? (key a) = some a :=
  ⟨find?_of_mem, mem_of_find?⟩

theorem find?_putAll (r : Roster key) (as : List α) (k : κ) :
    (r.putAll as).find? k = (as.reverse.find? fun a => key a = k).or (r.find? k) := by
  induction as generalizing r with
  | nil => rfl
  | cons a as ih =>
    rw [putAll_cons, ih, find?_put, List.reverse_cons, List.find?_append, Option.or_assoc]
    congr 1
    by_cases h : key a = k <;> simp [h]

theorem find?_ofList (as : List α) (k : κ) :
    (ofList as : Roster key).find? k = as.reverse.find? fun a => key a = k := by
  rw [ofList, find?_putAll]
  exact Option.or_none

theorem mem_ofList_iff (as : List α) (a : α) :
    a ∈ (ofList as : Roster key).toList ↔ (as.reverse.find? fun b => key b = key a) = some a := by
  rw [mem_toList_iff, find?_ofList]

theorem mem_keys_put (r : Roster key) (a : α) (k : κ) :
    k ∈ (r.put a).keys ↔ k ∈ r.keys ∨ k = key a := by
  rw [keys_put]
  split
  · next h => exact ⟨Or.inl, fun o => o.elim (fun x => x) (fun e => e ▸ h)⟩
  · rw [List.mem_append, List.mem_singleton]

theorem mem_keys_putAll (r : Roster key) (as : List α) (k : κ) :
    k ∈ (r.putAll as).keys ↔ k ∈ r.keys ∨ k ∈ as.map key := by
  induction as generalizing r with
  | nil => simp [putAll_nil]
  | cons a as ih => rw [putAll_cons, ih, mem_keys_put, List.map_cons, List.mem_cons, or_assoc]

theorem mem_keys_ofList (as : List α) (k : κ) :
    k ∈ (ofList as : Roster key).keys ↔ k ∈ as.map key := by
  rw [ofList, mem_keys_putAll, keys_empty]
  simp

theorem mem_of_mem_putAll {r : Roster key} {as : List α} {b : α} (h : b ∈ (r.putAll as).toList) :
    b ∈ r.toList ∨ b ∈ as := by
  induction as generalizing r with
  | nil => exact Or.inl h
  | cons a as ih =>
    rw [putAll_cons] at h
    rcases ih h with h | h
    · rcases mem_place key h with rfl | h
      · exact Or.inr (List.mem_cons_self ..)
      · exact Or.inl h
    · exact Or.inr (List.mem_cons_of_mem _ h)

theorem mem_of_mem_ofList {as : List α} {b : α} (h : b ∈ (ofList as : Roster key).toList) :
    b ∈ as := by
  rcases mem_of_mem_putAll h with h | h
  · cases h
  · exact h

theorem toList_putAll_of_nodup (r : Roster key) (as : List α) (h : (r.keys ++ as.map key).Nodup) :
    (r.putAll as).toList = r.toList ++ as := by
  induction as generalizing r with
  | nil => simp [putAll_nil]
  | cons a as ih =>
    rw [List.map_cons, List.nodup_append] at h
    obtain ⟨hr, has, hd⟩ := h
    have ha : key a ∉ r.keys := fun m => hd _ m _ (List.mem_cons_self ..) rfl
    rw [putAll_cons, ih, toList_put_of_not_mem ha, List.append_assoc]; rfl
    rw [keys_put_of_not_mem ha, List.append_assoc, List.nodup_append]
    exact ⟨hr, has, hd⟩

theorem toList_ofList {as : List α} (h : (as.map key).Nodup) :
    (ofList as : Roster key).toList = as :=
  toList_putAll_of_nodup ∅ as h

theorem ofList_toList (r : Roster key) : ofList r.toList = r :=
  ext (toList_ofList r.distinct)

theorem ofList_append (as bs : List α) : (ofList (as ++ bs) : Roster key) = (ofList as).putAll bs :=
  putAll_append ∅ as bs

theorem map_find?_keys (r : Roster key) : r.keys.map r.find? = r.toList.map some := by
  rw [keys, List.map_map]
  exact List.map_congr_left fun _ ha => find?_of_mem ha

theorem ext_find? {r s : Roster key} (hk : r.keys = s.keys) (hf : ∀ k, r.find? k = s.find? k) :
    r = s := by
  have hm : r.toList.map some = s.toList.map some := by
    rw [← map_find?_keys, ← map_find?_keys, hk, funext hf]
  exact ext ((List.map_inj_right fun _ _ => Option.some.inj).mp hm)

theorem put_of_mem {r : Roster key} {a : α} (h : a ∈ r.toList) : r.put a = r := by
  have hk : key a ∈ r.keys := List.mem_map_of_mem h
  refine ext_find? (by rw [keys_put, if_pos hk]) fun k => ?_
  rw [find?_put]
  split
  · next e => rw [← e, find?_of_mem h]
  · rfl

theorem putAll_of_forall_mem {r : Roster key} {as : List α} (h : ∀ a ∈ as, a ∈ r.toList) :
    r.putAll as = r := by
  induction as with
  | nil => rfl
  | cons a as ih =>
    rw [List.forall_mem_cons] at h
    rw [putAll_cons, put_of_mem h.1, ih h.2]

end Roster

/-! ## ordered tables -/

/-- a table from names to values, in order of first insertion of each name -/
abbrev Keyed (β : Type) := Roster (Prod.fst : String × β → String)

/-- a set that keeps the order of first insertion -/
abbrev OrderedSet (α : Type) := Roster (id : α → α)

namespace Keyed
variable {β : Type}

def get? (t : Keyed β) (name : String) : Option β := (t.find? name).map Prod.snd

def values (t : Keyed β) : List β := t.toList.map Prod.snd

def insert (t : Keyed β) (name : String) (value : β) : Keyed β := t.put (name, value)

/-- the two tables have the same names, in any order, and values that agree under `same` -/
def agrees (same : β → β → Bool) (s t : Keyed β) : Bool :=
  s.size == t.size && s.toList.all fun (name, v) => (t.get? name).any (same v)

theorem get?_insert (t : Keyed β) (name : String) (value : β) (k : String) :
    (t.insert name value).get? k = if name = k then some value else t.get? k := by
  unfold get? insert
  rw [Roster.find?_put]
  by_cases h : name = k <;> simp [h]

theorem get?_eq_none_iff (t : Keyed β) (name : String) : t.get? name = none ↔ name ∉ t.keys := by
  rw [get?, Option.map_eq_none_iff, Roster.find?_eq_none_iff]

theorem mem_of_get? {t : Keyed β} {name : String} {value : β} (h : t.get? name = some value) :
    (name, value) ∈ t.toList := by
  obtain ⟨⟨k, v⟩, hf, rfl⟩ := Option.map_eq_some_iff.mp h
  obtain rfl : k = name := Roster.key_of_find? hf
  exact Roster.mem_of_find? hf

theorem get?_eq_some_iff {t : Keyed β} {name : String} {value : β} :
    t.get? name = some value ↔ (name, value) ∈ t.toList := by
  refine ⟨mem_of_get?, fun h => ?_⟩
  rw [get?, Roster.find?_of_mem h]
  rfl

end Keyed

/-! ## ordered sets -/

namespace OrderedSet
variable {α : Type}

theorem keys_eq (s : OrderedSet α) : s.keys = s.toList := List.map_id s.toList

variable [DecidableEq α]

def add (s : OrderedSet α) (a : α) : OrderedSet α × Bool := (s.put a, !s.hasKey a)

theorem isNew_add (s : OrderedSet α) (a : α) : (s.add a).2 = true ↔ a ∉ s.toList := by
  show (!s.hasKey a) = true ↔ _
  rw [Bool.not_eq_true', ← Bool.not_eq_true, s.hasKey_iff, keys_eq]

end OrderedSet

end StagedLoad
