import StagedLoad.Mapping.Written
import StagedLoad.Proofs.Mapping.Steps

/-!
# Steps under the names of their objects

A mapping that is made of steps, or to which steps are added, holds every step under the name of
its object, and so one step per object at most.  A mapping that is read from a text holds its
steps under the names that the text gives them, whatever objects they are of.

`run_byObject_iff` says which runs of changes keep one step per object: those in which the text
that the mapping goes back to, if it goes back to one, names every step that it holds last under
its name by its object.
-/

namespace StagedLoad.Mapping

open Data

/-! ## mappings with one step per object -/

/-- every step stands under its object, which has no other, and is found there -/
structure ByObject (m : Mapping) : Prop where
  filed : ∀ e ∈ m.steps.toList, e.1 = e.2.object
  distinct : (m.toList.map Step.object).Nodup
  found : ∀ s ∈ m.toList, m.get? s.object = some s

theorem mem_toList {m : Mapping} {s : Step} :
    s ∈ m.toList ↔ ∃ name, (name, s) ∈ m.steps.toList := by
  show s ∈ m.steps.toList.map Prod.snd ↔ _
  simp

theorem byObject_iff {m : Mapping} : m.ByObject ↔ ∀ e ∈ m.steps.toList, e.1 = e.2.object := by
  refine ⟨fun h => h.filed, fun h => ⟨h, ?_, ?_⟩⟩
  · have hk : m.toList.map Step.object = m.steps.keys := by
      show (m.steps.toList.map Prod.snd).map Step.object = m.steps.toList.map Prod.fst
      rw [List.map_map]
      exact List.map_congr_left fun e he => (h e he).symm
    rw [hk]
    exact m.steps.nodup_keys
  · intro s hs
    obtain ⟨name, hm⟩ := mem_toList.mp hs
    have hn : name = s.object := h _ hm
    subst hn
    show (m.steps.find? s.object).map Prod.snd = some s
    rw [m.steps.find?_of_mem hm]
    rfl

theorem ByObject.mem_keys_iff {m : Mapping} (h : m.ByObject) (object : String) :
    object ∈ m.steps.keys ↔ object ∈ m.toList.map Step.object := by
  show object ∈ m.steps.toList.map Prod.fst ↔ object ∈ (m.steps.toList.map Prod.snd).map Step.object
  rw [List.map_map, List.map_congr_left h.filed]
  rfl

/-! ## texts -/

def readEntries {ν : Type} (F : Form ν) (v : ν) : Except Fault (List (String × Step)) :=
  match F.entries? v with
  | none => .error .notTable
  | some entries => entries.mapM (Form.entry (Step.read F))

def entriesOf (text : String) : Except Problem (List (String × Step)) :=
  match Yaml.readAs readEntries text with
  | .ok es => .ok es
  | .error detail => .error (.badMapping detail)

theorem read_eq {ν : Type} (F : Form ν) (v : ν) :
    read F v = (readEntries F v).map fun es => { steps := Roster.ofList es } := by
  unfold read Form.keyed readEntries
  cases F.entries? v with
  | none => rfl
  | some entries =>
    dsimp only
    cases entries.mapM (Form.entry (Step.read F)) <;> rfl

theorem ofYaml_eq (text : String) :
    ofYaml text = (entriesOf text).map fun es => { steps := Roster.ofList es } := by
  unfold ofYaml entriesOf Yaml.readAs
  cases Yaml.Node.ofText text with
  | error f => rfl
  | ok doc =>
    dsimp only
    rw [read_eq]
    cases readEntries (Yaml.Node.form (doc.getD .unwritten)) (doc.getD .unwritten) <;> rfl

def IsLast (es : List (String × Step)) (e : String × Step) : Prop :=
  (es.reverse.find? fun x => x.1 = e.1) = some e

/-! ## runs -/

inductive Change where
  | create
  | push (s : Step)
  | ofSteps (ss : List Step)
  | ofYaml (text : String)

def Change.on (m : Mapping) : Change → Except Problem Mapping
  | .create => .ok {}
  | .push s => m.push s
  | .ofSteps ss => Mapping.ofSteps ss
  | .ofYaml text => Mapping.ofYaml text

/-- the mapping after a change; a change that fails leaves it as it is -/
def after (m : Mapping) (c : Change) : Mapping :=
  match c.on m with
  | .ok n => n
  | .error _ => m

def run (cs : List Change) : Mapping := cs.foldl after {}

/-- the entries of the text that a mapping goes back to, given those before the change -/
def Change.written (es : List (String × Step)) : Change → List (String × Step)
  | .create => []
  | .push _ => es
  | .ofSteps ss => if (ss.map Step.object).Nodup then [] else es
  | .ofYaml text =>
    match entriesOf text with
    | .ok es' => es'
    | .error _ => es

/-- the entries of the text that the mapping of a run goes back to: the last one that was read,
unless a mapping was made otherwise since -/
def writtenBy (cs : List Change) : List (String × Step) := cs.foldl Change.written []

theorem after_of_ok {m n : Mapping} {c : Change} (h : c.on m = .ok n) : after m c = n := by
  rw [after, h]

theorem after_of_error {m : Mapping} {c : Change} {p : Problem} (h : c.on m = .error p) :
    after m c = m := by
  rw [after, h]

/-- the steps that stand under another name than their object's are those of the text -/
def Misfiled (m : Mapping) (es : List (String × Step)) : Prop :=
  ∀ e, e.1 ≠ e.2.object → (e ∈ m.steps.toList ↔ IsLast es e)

theorem misfiled_of_filed {m : Mapping} (h : ∀ e ∈ m.steps.toList, e.1 = e.2.object) :
    Misfiled m [] :=
  fun e he => ⟨fun hm => absurd (h e hm) he, fun hl => nomatch hl⟩

theorem misfiled_after {m : Mapping} {es : List (String × Step)} (h : Misfiled m es)
    (c : Change) : Misfiled (after m c) (c.written es) := by
  cases c with
  | create => exact misfiled_of_filed fun e he => nomatch he
  | push s =>
    by_cases hs : s.object ∈ m.steps.keys
    · rw [after_of_error (c := .push s) (push_of_mem hs)]
      exact h
    · rw [after_of_ok (c := .push s) (push_of_not_mem hs)]
      intro e he
      show e ∈ (m.steps.put (filed s)).toList ↔ _
      have hl : (m.steps.put (filed s)).toList = m.steps.toList ++ [filed s] :=
        Roster.toList_put_of_not_mem hs
      -- the new step stands under its object, so it is not the misfiled one
      have hne : e ≠ filed s := fun h' => he (h' ▸ rfl)
      rw [hl, List.mem_append, List.mem_singleton, or_iff_left hne]
      exact h e he
  | ofSteps ss =>
    by_cases hn : (ss.map Step.object).Nodup
    · obtain ⟨n, hp, ht⟩ := ofSteps_of_nodup hn
      rw [after_of_ok (c := .ofSteps ss) hp, Change.written, if_pos hn]
      apply misfiled_of_filed
      intro e he
      rw [ht] at he
      obtain ⟨s, _, rfl⟩ := List.mem_map.mp he
      rfl
    · obtain ⟨object, hp⟩ := ofSteps_of_not_nodup hn
      rw [after_of_error (c := .ofSteps ss) hp, Change.written, if_neg hn]
      exact h
  | ofYaml text =>
    have hy : (Change.ofYaml text).on m =
        (entriesOf text).map fun es => { steps := Roster.ofList es } := ofYaml_eq text
    rw [Change.written]
    cases he : entriesOf text with
    | error p =>
      rw [he] at hy
      rw [after_of_error hy]
      exact h
    | ok es' =>
      rw [he] at hy
      rw [after_of_ok hy]
      exact fun e _ => Roster.mem_ofList_iff es' e

theorem misfiled_run (cs : List Change) : Misfiled (run cs) (writtenBy cs) := by
  -- for a run from any mapping, given the entries of the text that it goes back to
  have h : ∀ (m : Mapping) (es : List (String × Step)), Misfiled m es →
      Misfiled (cs.foldl after m) (cs.foldl Change.written es) := by
    induction cs with
    | nil => exact fun m es h => h
    | cons c cs ih => exact fun m es h => ih _ _ (misfiled_after h c)
  exact h {} [] (misfiled_of_filed fun e he => nomatch he)

/-- **A run keeps one step per object exactly when the text that its mapping goes back to names
the steps by their objects.**  A second step for an object is refused when it is added or given
in a list; a text is refused only when it cannot be read. -/
theorem run_byObject_iff (cs : List Change) :
    ((run cs).ByObject ↔ ∀ e, IsLast (writtenBy cs) e → e.1 = e.2.object) ∧
    ((run cs).ByObject → ∀ s, (run cs).push s = .error (.repeatedStep s.object) ↔
      s.object ∈ (run cs).toList.map Step.object) ∧
    (∀ ss, (∃ object, ofSteps ss = .error (.repeatedStep object)) ↔
      ¬ (ss.map Step.object).Nodup) ∧
    ∀ text, (∃ m, ofYaml text = .ok m) ↔ ∃ es, entriesOf text = .ok es := by
  refine ⟨?_, fun h s => ?_, fun ss => ⟨?_, ofSteps_of_not_nodup⟩,
    fun text => ?_⟩
  · rw [byObject_iff]
    refine ⟨fun h e hl => ?_, fun h e hm => ?_⟩
    · by_contra hne
      exact hne (h e ((misfiled_run cs e hne).mpr hl))
    · by_contra hne
      exact hne (h e ((misfiled_run cs e hne).mp hm))
  · rw [← h.mem_keys_iff]
    refine ⟨fun he => ?_, push_of_mem⟩
    by_contra hm
    rw [push_of_not_mem hm] at he
    cases he
  · rintro ⟨object, he⟩ hn
    obtain ⟨m, hp, _⟩ := ofSteps_of_nodup hn
    rw [hp] at he
    cases he
  · rw [ofYaml_eq]
    refine ⟨fun ⟨m, h⟩ => ?_, fun ⟨es, h⟩ => ⟨_, map_eq_ok.mpr ⟨es, h, rfl⟩⟩⟩
    obtain ⟨es, h, _⟩ := map_eq_ok.mp h
    exact ⟨es, h⟩

/-- a text with two steps for one object is read, and the object is not found -/
theorem ofYaml_two_steps_for_one_object :
    let m := run [.ofYaml "A:\n  sf_object: X\nB:\n  sf_object: X\n"]
    m.toList.map Step.object = ["X", "X"] ∧ m.get? "X" = none ∧ ¬ m.ByObject := by
  intro m
  have ho : m.toList.map Step.object = ["X", "X"] := by decide +kernel
  refine ⟨ho, by decide +kernel, fun h => ?_⟩
  have hd := h.distinct
  rw [ho] at hd
  exact absurd hd (by decide)

end StagedLoad.Mapping
