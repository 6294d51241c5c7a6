import StagedLoad.Data.Form
import StagedLoad.Proofs.Outcome

/-!
# Values that show a tree

A value of a format shows a tree when every look at it finds what the tree has there: its texts
and flags, its items, and its entries under their names and in their order.  What a reader makes
of such a value is said here by the tree alone, whatever the format.
-/

namespace StagedLoad.Data

namespace Tree

/-- the entry of a part of a record, none if the part is absent -/
def part (name : String) (o : Option Tree) : List (String × Tree) := (o.map (name, ·)).toList

def written (parts : List (String × Option Tree)) : List (String × Tree) :=
  parts.flatMap fun p => part p.1 p.2

theorem written_nil : written [] = [] := rfl

theorem written_cons (name : String) (o : Option Tree) (parts : List (String × Option Tree)) :
    written ((name, o) :: parts) = part name o ++ written parts := rfl

theorem textIfAny_eq_part (name : String) (o : Option String) :
    textIfAny name o = part name (o.map .text) := by
  cases o <;> rfl

def textsUnlessEmpty : List String → Option Tree
  | [] => none
  | ss => some (texts ss)

theorem textsIfAny_eq_part (name : String) (ss : List String) :
    textsIfAny name ss = part name (textsUnlessEmpty ss) := by
  cases ss <;> rfl

theorem names_written (parts : List (String × Option Tree)) :
    ((written parts).map Prod.fst).Sublist (parts.map Prod.fst) := by
  induction parts with
  | nil => exact List.Sublist.refl _
  | cons p parts ih =>
    obtain ⟨name, o⟩ := p
    cases o with
    | none => exact ih.cons name
    | some t => exact ih.cons_cons name

end Tree

namespace Form

variable {ν : Type} (F : Form ν)

mutual

def shows : Tree → ν → Bool
  | .text s, v => F.text? v == some s && F.absent? v == some false
  | .flag b, v => F.flag? v == some b
  | .list ts, v => (F.items? v).any (showsItems ts)
  | .table es, v => (F.row? v).isNone && (F.entries? v).any (showsEntries es)

def showsItems : List Tree → List ν → Bool
  | [], [] => true
  | t :: ts, v :: vs => shows t v && showsItems ts vs
  | _, _ => false

def showsEntries : List (String × Tree) → List (Option String × ν) → Bool
  | [], [] => true
  | (name, t) :: es, (key, v) :: vs => key == some name && shows t v && showsEntries es vs
  | _, _ => false

end

theorem showsItems_iff {ts : List Tree} {vs : List ν} :
    F.showsItems ts vs = true ↔ List.Forall₂ (fun t v => F.shows t v = true) ts vs := by
  induction ts generalizing vs with
  | nil => cases vs <;> simp [showsItems]
  | cons t ts ih => cases vs <;> simp [showsItems, ih]

theorem showsEntries_iff {es : List (String × Tree)} {vs : List (Option String × ν)} :
    F.showsEntries es vs = true ↔
      List.Forall₂ (fun e v => v.1 = some e.1 ∧ F.shows e.2 v.2 = true) es vs := by
  induction es generalizing vs with
  | nil => cases vs <;> simp [showsEntries]
  | cons e es ih => cases vs <;> simp [showsEntries, ih]

variable {F}

theorem shows_text_iff {s : String} {v : ν} :
    F.shows (.text s) v = true ↔ F.text? v = some s ∧ F.absent? v = some false := by
  show (F.text? v == some s && F.absent? v == some false) = true ↔ _
  rw [Bool.and_eq_true, beq_iff_eq, beq_iff_eq]

theorem shows_flag_iff {b : Bool} {v : ν} :
    F.shows (.flag b) v = true ↔ F.flag? v = some b := by
  show (F.flag? v == some b) = true ↔ _
  rw [beq_iff_eq]

theorem shows_list_iff {ts : List Tree} {v : ν} :
    F.shows (.list ts) v = true ↔ ∃ vs, F.items? v = some vs ∧
      List.Forall₂ (fun t v => F.shows t v = true) ts vs := by
  show (F.items? v).any (F.showsItems ts) = true ↔ _
  simp only [Option.any_eq_true, showsItems_iff]

theorem shows_table_iff {es : List (String × Tree)} {v : ν} :
    F.shows (.table es) v = true ↔ F.row? v = none ∧ ∃ vs, F.entries? v = some vs ∧
      List.Forall₂ (fun e v => v.1 = some e.1 ∧ F.shows e.2 v.2 = true) es vs := by
  show ((F.row? v).isNone && (F.entries? v).any (F.showsEntries es)) = true ↔ _
  simp only [Bool.and_eq_true, Option.isNone_iff_eq_none, Option.any_eq_true, showsEntries_iff]

mutual

theorem shows_self : (t : Tree) → Form.tree.shows t t = true
  | .text _ => shows_text_iff.mpr ⟨rfl, rfl⟩
  | .flag _ => shows_flag_iff.mpr rfl
  | .list ts => showsItems_self ts
  | .table es => showsEntries_self es

theorem showsItems_self : (ts : List Tree) → Form.tree.showsItems ts ts = true
  | [] => rfl
  | t :: ts => Bool.and_eq_true_iff.mpr ⟨shows_self t, showsItems_self ts⟩

theorem showsEntries_self : (es : List (String × Tree)) →
    Form.tree.showsEntries es (es.map fun e => (some e.1, e.2)) = true
  | [] => rfl
  | (name, t) :: es => by
    have ht : (some name == some name && Form.tree.shows t t) = true := by
      rw [beq_self_eq_true, shows_self t]
      rfl
    exact Bool.and_eq_true_iff.mpr ⟨ht, showsEntries_self es⟩

end

/-! ## texts, flags, lists and tables -/

theorem text_of_shows {s : String} {v : ν} (h : F.shows (.text s) v = true) :
    F.text v = .ok s := by
  rw [text, (shows_text_iff.mp h).1]

theorem textIfAny_of_shows {s : String} {v : ν} (h : F.shows (.text s) v = true) :
    F.textIfAny v = .ok (some s) := by
  rw [textIfAny, (shows_text_iff.mp h).2, text_of_shows h]
  rfl

theorem flag_of_shows {b : Bool} {v : ν} (h : F.shows (.flag b) v = true) :
    F.flag v = .ok b := by
  rw [flag, shows_flag_iff.mp h]

section
variable {α : Type} {tree : α → Tree} {read : ν → Except Fault α}

theorem list_of_shows {as : List α} {v : ν}
    (hr : ∀ a ∈ as, ∀ v, F.shows (tree a) v = true → read v = .ok a)
    (h : F.shows (.list (as.map tree)) v = true) : F.list read v = .ok as := by
  obtain ⟨vs, hv, h⟩ := shows_list_iff.mp h
  rw [list, hv]
  exact mapM_eq_ok_of_forall₂ (List.forall₂_map_left_iff.mp h) hr

theorem entry_of_shows {name : String} {a : α} {e : Option String × ν}
    (hr : ∀ v, F.shows (tree a) v = true → read v = .ok a) (hn : e.1 = some name)
    (h : F.shows (tree a) e.2 = true) : entry read e = .ok (name, a) := by
  rw [entry, hn]
  show (read e.2).map (name, ·) = _
  rw [hr _ h]
  rfl

/-- the names of a table are distinct, so that it comes back in its order -/
theorem keyed_of_shows {r : Keyed α} {v : ν}
    (hr : ∀ e ∈ r.toList, ∀ v, F.shows (tree e.2) v = true → read v = .ok e.2)
    (h : F.shows (.table (r.toList.map fun e => (e.1, tree e.2))) v = true) :
    F.keyed read v = .ok r := by
  obtain ⟨_, vs, hv, h⟩ := shows_table_iff.mp h
  have hm : vs.mapM (entry read) = .ok r.toList :=
    mapM_eq_ok_of_forall₂ (List.forall₂_map_left_iff.mp h)
      fun e he _ hw => entry_of_shows (hr e he) hw.1 hw.2
  rw [keyed, hv]
  show (vs.mapM (entry read)).map Roster.ofList = _
  rw [hm]
  exact congrArg Except.ok r.ofList_toList

end

theorem texts_of_shows {ss : List String} {v : ν} (h : F.shows (.texts ss) v = true) :
    F.texts v = .ok ss :=
  list_of_shows (fun _ _ _ => text_of_shows) h

/-! ## records -/

/-- what is given for a part of a record shows it, and nothing is given for an absent part -/
def Gives (F : Form ν) (given : List (String × ν)) (name : String) : Option Tree → Prop
  | none => given.lookup name = none
  | some t => ∃ v, given.lookup name = some v ∧ F.shows t v = true

theorem Gives.cons {given : List (String × ν)} {name name' : String} {o : Option Tree} (v : ν)
    (hne : name ≠ name') (h : F.Gives given name o) : F.Gives ((name', v) :: given) name o := by
  have hl : ((name', v) :: given).lookup name = given.lookup name := by
    rw [List.lookup_cons, beq_eq_false_iff_ne.mpr hne]
  cases o with
  | none => exact hl.trans h
  | some t =>
    obtain ⟨w, hw, hs⟩ := h
    exact ⟨w, hl.trans hw, hs⟩

theorem gives_none_of_not_mem {given : List (String × ν)} {name : String}
    (h : name ∉ given.map Prod.fst) : F.Gives given name none := by
  show given.lookup name = none
  rw [List.lookup_eq_none_iff]
  intro p hp
  have hne : name ≠ p.1 := fun e => h (e ▸ List.mem_map_of_mem hp)
  simpa using hne

theorem known_of_shows {names : List String} {parts : List (String × Option Tree)}
    {vs : List (Option String × ν)} (hn : (parts.map Prod.fst).Nodup)
    (hk : ∀ p ∈ parts, p.1 ∈ names)
    (h : List.Forall₂ (fun e v => v.1 = some e.1 ∧ F.shows e.2 v.2 = true)
      (Tree.written parts) vs) :
    ∃ given, known names vs = .ok given ∧
      given.map Prod.fst = (Tree.written parts).map Prod.fst ∧
      ∀ p ∈ parts, F.Gives given p.1 p.2 := by
  induction parts generalizing vs with
  | nil =>
    cases h
    exact ⟨[], rfl, rfl, fun p hp => nomatch hp⟩
  | cons p parts ih =>
    obtain ⟨name, o⟩ := p
    rw [List.map_cons, List.nodup_cons] at hn
    rw [List.forall_mem_cons] at hk
    cases o with
    | none =>
      obtain ⟨given, hg, hm, hp⟩ := ih hn.2 hk.2 h
      have hname : name ∉ given.map Prod.fst := by
        rw [hm]
        exact fun h => hn.1 ((Tree.names_written parts).subset h)
      exact ⟨given, hg, hm, List.forall_mem_cons.mpr ⟨gives_none_of_not_mem hname, hp⟩⟩
    | some t =>
      cases h with
      | @cons _ w _ vs hw h =>
        obtain ⟨key, v⟩ := w
        obtain ⟨rfl, hv⟩ : key = some name ∧ F.shows t v = true := hw
        obtain ⟨given, hg, hm, hp⟩ := ih hn.2 hk.2 h
        have hname : name ∉ given.map Prod.fst := by
          rw [hm]
          exact fun h => hn.1 ((Tree.names_written parts).subset h)
        refine ⟨(name, v) :: given, ?_, congrArg (name :: ·) hm, ?_⟩
        · have hk' : names.contains name = true := List.contains_iff_mem.mpr hk.1
          have hn' : ¬ (given.map Prod.fst).contains name = true := by
            rw [List.contains_iff_mem]
            exact hname
          rw [known, hg]
          show (if names.contains name then _ else _) = _
          rw [if_pos hk', if_neg hn']
        · rw [List.forall_mem_cons]
          refine ⟨⟨v, List.lookup_cons_self, hv⟩, fun p hm' => ?_⟩
          have hp' : p.1 ∈ parts.map Prod.fst := List.mem_map_of_mem hm'
          exact (hp p hm').cons v fun e => hn.1 (e ▸ hp')

theorem record_of_shows (names : List String) {parts : List (String × Option Tree)} {v : ν}
    (hn : names.Nodup) (hp : parts.map Prod.fst = names)
    (h : F.shows (.table (Tree.written parts)) v = true) :
    ∃ given, F.record names v = .ok given ∧ ∀ p ∈ parts, F.Gives given p.1 p.2 := by
  obtain ⟨hr, vs, hv, h⟩ := shows_table_iff.mp h
  subst hp
  obtain ⟨given, hg, _, hp⟩ := known_of_shows hn (fun p hp => List.mem_map_of_mem hp) h
  refine ⟨given, ?_, hp⟩
  rw [record, hr, hv]
  exact hg

section
variable {α : Type} {given : List (String × ν)} {name : String} {a : α}
  {read : ν → Except Fault α}

theorem required_of_gives {t : Tree} (h : F.Gives given name (some t))
    (hr : ∀ v, F.shows t v = true → read v = .ok a) : required given name read = .ok a := by
  obtain ⟨v, hv, hs⟩ := h
  rw [required, hv]
  exact hr v hs

theorem defaulting_of_gives {t : Tree} {default : α} (h : F.Gives given name (some t))
    (hr : ∀ v, F.shows t v = true → read v = .ok a) :
    defaulting given name default read = .ok a := by
  obtain ⟨v, hv, hs⟩ := h
  rw [defaulting, hv]
  exact hr v hs

theorem defaulting_of_absent {default : α} (h : F.Gives given name none) :
    defaulting given name default read = .ok default := by
  have hl : given.lookup name = none := h
  rw [defaulting, hl]

theorem textIfAny_of_gives {o : Option String} (h : F.Gives given name (o.map .text)) :
    defaulting given name none F.textIfAny = .ok o := by
  cases o with
  | none => exact defaulting_of_absent h
  | some s => exact defaulting_of_gives h fun _ => textIfAny_of_shows

theorem texts_of_gives {ss : List String} (h : F.Gives given name (Tree.textsUnlessEmpty ss)) :
    defaulting given name [] F.texts = .ok ss := by
  cases ss with
  | nil => exact defaulting_of_absent h
  | cons s ss => exact defaulting_of_gives h fun _ => texts_of_shows

end

end Form

end StagedLoad.Data
