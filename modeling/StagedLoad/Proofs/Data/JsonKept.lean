import StagedLoad.Proofs.Data.JsonText
import StagedLoad.Proofs.Export.Persistence
import StagedLoad.Proofs.LastItem
import StagedLoad.Proofs.Mapping.Persistence

/-!
# Values that are kept as JSON texts

Values are `Kept` as JSON texts when what is written of a value is read as this value, and so
every text that is read has a normal form.  All that a kind of values needs for this is a reader
that undoes its writer on the values that show a tree (`kept_of_shows`).
-/

namespace StagedLoad.Data.Json

section
variable {α : Type} (tree : α → Tree) (read : Json → Except Fault α)

/-- a text in the form in which its value is written -/
def normalised (text : String) : Except Fault String :=
  (readAs read text).map fun a => print (tree a)

/-- no value is lost or changed by being written and read, and of each text that is read as a
value the written form of this value is the normal form -/
structure Kept : Prop where
  restored : ∀ a, readAs read (print (tree a)) = .ok a
  normal : ∀ text a, readAs read text = .ok a →
    normalised tree read text = .ok (print (tree a)) ∧
      readAs read (print (tree a)) = .ok a ∧
      normalised tree read (print (tree a)) = .ok (print (tree a))

variable {tree read}

theorem normalised_of_readAs {text : String} {a : α} (h : readAs read text = .ok a) :
    normalised tree read text = .ok (print (tree a)) := by
  rw [normalised, h]
  rfl

theorem kept_of_shows (h : ∀ a v, form.shows (tree a) v = true → read v = .ok a) :
    Kept tree read := by
  have hr : ∀ a, readAs read (print (tree a)) = .ok a := by
    intro a
    rw [readAs, read?_print]
    exact h a _ (shows_ofTree (tree a))
  exact ⟨hr, fun _ a ht =>
    ⟨normalised_of_readAs ht, hr a, normalised_of_readAs (hr a)⟩⟩

end

/-- a list of edges that is read as a set gives the set of the edges that it is read as -/
theorem readAs_readSet (text : String) :
    readAs (Edge.readSet form) text =
      (readAs (form.list (Edge.read form)) text).map Roster.ofList := by
  unfold readAs
  cases read? text <;> rfl

/-- **Everything that is kept as JSON texts comes back as it was, and has a normal form; a set of
edges that is read from a list with repetitions holds the first occurrences.** -/
theorem kept_as_json :
    (Kept Declaration.tree (Declaration.read form) ∧
      Kept Classified.tree (Classified.read form) ∧
      Kept Edge.tree (Edge.read form) ∧
      Kept Edge.treeOfSet (Edge.readSet form) ∧
      Kept Lookup.tree (Lookup.read form) ∧
      Kept Step.tree (Step.read form) ∧
      Kept Rule.tree (Rule.read form) ∧
      Kept Mapping.tree (Mapping.read form)) ∧
    (∀ text, readAs (Edge.readSet form) text =
      (readAs (form.list (Edge.read form)) text).map Roster.ofList) ∧
    ∀ edges : List Edge, FirstOccurrences edges (Roster.ofList edges : OrderedSet Edge).toList := by
  refine ⟨⟨?_, ?_, ?_, ?_, ?_, ?_, ?_, ?_⟩, readAs_readSet, fun edges => ?_⟩
  · exact kept_of_shows fun d _ => d.read_of_shows
  · exact kept_of_shows fun c _ => c.read_of_shows
  · exact kept_of_shows fun e _ => e.read_of_shows
  · exact kept_of_shows fun edges _ => Edge.readSet_of_shows edges
  · exact kept_of_shows fun l _ => l.read_of_shows
  · exact kept_of_shows fun s _ => s.read_of_shows
  · exact kept_of_shows fun r _ => r.read_of_shows
  · exact kept_of_shows fun m _ => m.read_of_shows
  · rw [firstOccurrences_iff, OrderedSet.toList_ofList]

/-- a step given as the list of its parts, with a name that is repeated, an absent part that is
spelled out and an escape that is not needed -/
example :
    normalised Step.tree (Step.read form) ("[\"X\", null, \x7b\"a\": \"b\", \"c\": \"\\u0064\"," ++
        " \"a\": \"\\n\"\x7d, \x7b\"l\": [\"Y\"]\x7d, []]") =
      .ok ("\x7b\"sf_object\":\"X\",\"fields\":\x7b\"a\":\"\\n\",\"c\":\"d\"\x7d," ++
        "\"lookups\":\x7b\"l\":\x7b\"table\":\"Y\",\"after\":false\x7d\x7d\x7d") := by
  decide +kernel

end StagedLoad.Data.Json
