import StagedLoad.Proofs.Mapping.Refusal

/-!
# One step under each object

A list of steps makes a mapping exactly when no two of them are of one object; the mapping then
holds the steps as they are listed and finds each by its object.  Otherwise the first step whose
object has a step before it is refused (`ofSteps_keys_steps`).

A mapping that is at hand is added to in place: first its object is looked up, then the step is
put behind the others (`pushInPlace`).  This is `push`, and where `push` refuses the step the
mapping at hand stays as it was (`pushInPlace_eq`).
-/

namespace StagedLoad.Mapping

/-! ## a mapping of listed steps -/

/-- the mapping holds the steps as they are listed, and finds the one step of an object -/
structure KeyedAs (m : Mapping) (ss : List Step) : Prop where
  toList : m.toList = ss
  found : ∀ object s, m.get? object = some s ↔ s ∈ ss ∧ s.object = object
  notFound : ∀ object, m.get? object = none ↔ ∀ s ∈ ss, s.object ≠ object

theorem mem_map_filed {ss : List Step} {object : String} {s : Step} :
    (object, s) ∈ ss.map filed ↔ s ∈ ss ∧ s.object = object := by
  rw [List.mem_map]
  constructor
  · rintro ⟨t, ht, he⟩
    cases he
    exact ⟨ht, rfl⟩
  · rintro ⟨hs, rfl⟩
    exact ⟨s, hs, rfl⟩

theorem keyedAs_of_filed {m : Mapping} {ss : List Step} (h : m.steps.toList = ss.map filed) :
    m.KeyedAs ss := by
  obtain ⟨ht, hk⟩ := toList_eq_map_filed_iff.mp h
  refine ⟨ht, ?_, ?_⟩
  · intro object s
    show m.steps.get? object = some s ↔ _
    rw [Keyed.get?_eq_some_iff, h, mem_map_filed]
  · intro object
    show m.steps.get? object = none ↔ _
    rw [Keyed.get?_eq_none_iff, hk]
    simp

/-! ## adding a step in place -/

def pushInPlace (s : Step) : EStateM Problem Mapping Unit := do
  if (← get).steps.hasKey s.object then
    throw (.repeatedStep s.object)
  modify fun m => { steps := m.steps.insert s.object s }

/-- adding in place is adding, and a step that is refused leaves the mapping at hand as it was -/
theorem pushInPlace_eq (m : Mapping) (s : Step) :
    pushInPlace s m =
      match m.push s with
      | .ok n => .ok () n
      | .error p => .error p m := by
  have hrun : pushInPlace s m = (if m.steps.hasKey s.object then
      (throw (.repeatedStep s.object) : EStateM Problem Mapping Unit) >>= fun _ =>
        modify fun m => { steps := m.steps.insert s.object s }
      else modify fun m => { steps := m.steps.insert s.object s }) m := rfl
  by_cases h : m.steps.hasKey s.object = true
  · rw [hrun, if_pos h, push, if_pos h]
    rfl
  · rw [hrun, if_neg h, push, if_neg h]
    rfl

theorem pushInPlace_eq_ok {m n : Mapping} {s : Step} :
    pushInPlace s m = .ok () n ↔ m.push s = .ok n := by
  rw [pushInPlace_eq]
  cases m.push s with
  | ok n' =>
    constructor
    · intro h
      cases h
      rfl
    · intro h
      cases h
      rfl
  | error p => exact iff_of_false (fun h => nomatch h) fun h => nomatch h

theorem pushInPlace_eq_error {m n : Mapping} {s : Step} {p : Problem} :
    pushInPlace s m = .error p n ↔ m.push s = .error p ∧ n = m := by
  rw [pushInPlace_eq]
  cases m.push s with
  | ok n' => exact iff_of_false (fun h => nomatch h) fun h => nomatch h.1
  | error p' =>
    constructor
    · intro h
      cases h
      exact ⟨rfl, rfl⟩
    · rintro ⟨h, rfl⟩
      cases h
      rfl

/-! ## what adding a step changes -/

/-- the step stands behind the others and is found by its object, and what is found by other
objects is the same as before -/
structure AddedTo (m : Mapping) (s : Step) (n : Mapping) : Prop where
  toList : n.toList = m.toList ++ [s]
  found : n.get? s.object = some s
  others : ∀ object, object ≠ s.object → n.get? object = m.get? object

theorem get?_eq_none_iff {m : Mapping} {object : String} :
    m.get? object = none ↔ object ∉ m.steps.keys :=
  m.steps.get?_eq_none_iff object

theorem exists_push_iff {m : Mapping} {s : Step} :
    (∃ n, m.push s = .ok n) ↔ m.get? s.object = none := by
  rw [get?_eq_none_iff]
  constructor
  · rintro ⟨n, h⟩ hs
    rw [push_of_mem hs] at h
    cases h
  · intro hs
    exact ⟨_, push_of_not_mem hs⟩

theorem repeatedStep_of_push {m : Mapping} {s : Step} {p : Problem} (h : m.push s = .error p) :
    p = .repeatedStep s.object := by
  by_cases hs : s.object ∈ m.steps.keys
  · rw [push_of_mem hs] at h
    cases h
    rfl
  · rw [push_of_not_mem hs] at h
    cases h

theorem addedTo_of_push {m n : Mapping} {s : Step} (h : m.push s = .ok n) : m.AddedTo s n := by
  have hs : s.object ∉ m.steps.keys := get?_eq_none_iff.mp (exists_push_iff.mp ⟨n, h⟩)
  have hn : ∀ object, n.get? object = if s.object = object then some s else m.get? object := by
    intro object
    rw [push_of_not_mem hs] at h
    cases h
    exact m.steps.get?_insert s.object s object
  refine ⟨toList_push h, ?_, ?_⟩
  · rw [hn, if_pos rfl]
  · intro object ho
    rw [hn, if_neg (Ne.symm ho)]

/-! ## the law -/

/-- **A list of steps makes a mapping exactly when no object has two of them, and then the mapping
is keyed as they are listed; otherwise the first repeated step is refused.  A step is added in
place exactly when its object has none yet, and then it comes last and changes nothing else; a
step that is refused changes nothing at all.** -/
theorem ofSteps_keys_steps :
    (∀ ss : List Step,
      ((∃ m, ofSteps ss = .ok m) ↔ (ss.map Step.object).Nodup) ∧
      (∀ m, ofSteps ss = .ok m → m.KeyedAs ss) ∧
      ∀ p, ofSteps ss = .error p ↔
        ∃ object, FirstRepeated [] ss object ∧ p = .repeatedStep object) ∧
    ∀ (m : Mapping) (s : Step),
      ((∃ n, pushInPlace s m = .ok () n) ↔ m.get? s.object = none) ∧
      (∀ n, pushInPlace s m = .ok () n → m.push s = .ok n ∧ m.AddedTo s n) ∧
      ∀ p n, pushInPlace s m = .error p n →
        m.push s = .error p ∧ p = .repeatedStep s.object ∧ n = m := by
  constructor
  · intro ss
    refine ⟨⟨?_, ?_⟩, ?_, fun p => ofSteps_eq_error⟩
    · rintro ⟨m, h⟩
      exact (ofSteps_eq_ok.mp h).1
    · intro hn
      obtain ⟨m, h, _⟩ := ofSteps_of_nodup hn
      exact ⟨m, h⟩
    · intro m h
      exact keyedAs_of_filed (ofSteps_eq_ok.mp h).2
  · intro m s
    simp only [pushInPlace_eq_ok, pushInPlace_eq_error]
    refine ⟨exists_push_iff, ?_, ?_⟩
    · intro n h
      exact ⟨h, addedTo_of_push h⟩
    · rintro p n ⟨h, rfl⟩
      exact ⟨h, repeatedStep_of_push h, rfl⟩

/-- of three steps the last is of the object of the first; with the first two there is a mapping,
which refuses the third and takes one of another object -/
theorem ofSteps_keys_steps_accounts :
    let account : Step := { object := "Account" }
    let contact : Step := { object := "Contact", table := some "Account" }
    let partner : Step := { object := "Account", recordType := some "Partner" }
    let m : Mapping := { steps := Roster.ofList [("Account", account), ("Contact", contact)] }
    ofSteps [account, contact, partner] = .error (.repeatedStep "Account") ∧
      m.KeyedAs [account, contact] ∧
      pushInPlace partner m = .error (.repeatedStep "Account") m ∧
      ∃ n, pushInPlace { object := "Lead" } m = .ok () n ∧ m.AddedTo { object := "Lead" } n := by
  intro account contact partner m
  have hm : ofSteps [account, contact] = .ok m := by decide +kernel
  have hr : FirstRepeated [] [account, contact, partner] "Account" :=
    ⟨[account, contact], partner, [], rfl, by decide, by decide, rfl⟩
  have hp : pushInPlace partner m = .error (.repeatedStep "Account") m :=
    pushInPlace_eq_error.mpr ⟨by decide +kernel, rfl⟩
  obtain ⟨hadd, hlast, _⟩ := ofSteps_keys_steps.2 m { object := "Lead" }
  obtain ⟨n, hn⟩ := hadd.mpr (by decide +kernel)
  exact ⟨((ofSteps_keys_steps.1 _).2.2 _).mpr ⟨_, hr, rfl⟩, (ofSteps_keys_steps.1 _).2.1 m hm, hp,
    n, hn, (hlast n hn).2⟩

end StagedLoad.Mapping
