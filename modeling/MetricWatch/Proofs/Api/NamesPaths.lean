import MetricWatch.Proofs.Api.Addresses
import MetricWatch.Proofs.Text.Utf8

/-!
# Names paths read back

The path of a names request is a template with two encoded texts in it. Encoding leaves no slash,
so the slashes of the path are those of the template, and decoding what stands between them gives
back the node and the namespace, whatever these are. The main statement is
`Api.encodedNamesPath_legible`.
-/

namespace MetricWatch

namespace Text.Percent

/-- Decoding gives back every text, the empty one included. -/
theorem decode?_encode (s : String) : decode? (encode s) = some s := by
  rw [decode?, decodeBytes_encode, Utf8.decode?_encode]

/-- Encoded text has no slash in it. -/
lemma slash_notMem_encode (s : String) : '/' ∉ (encode s).toList := fun mem =>
  ne_of_isPlain (isPlain_of_mem_encode mem) '/' (by decide) rfl

end Text.Percent

namespace Api

open Client (namesRoute)
open Text.Percent (encode decode? decode?_encode isPlain isPlain_of_mem_encode slash_notMem_encode)

/-- Whether a character is an ASCII letter, a digit or one of the marks of a names path. -/
def isOfNamesPath (ch : Char) : Bool :=
  ch.isAlphanum || ['-', '_', '.', '~', '%', '/'].contains ch

/-- That a path can be read by whoever knows only the template and the encoding. -/
structure Legible (path node namesNamespace : String) : Prop where
  /-- No separator but the slash stands in it. -/
  characters : ∀ ch ∈ path.toList, isOfNamesPath ch = true
  /-- Its parts are those of the template. -/
  parts : ∃ p q, path.toList.splitOn '/'
      = [[], "cluster".toList, p.toList, "metrics".toList, "namespace".toList, q.toList] ∧
    decode? p = some node ∧ decode? q = some namesNamespace

/-- A path is legible in one way only. -/
lemma Legible.eq {path node namesNamespace node' namesNamespace' : String}
    (legible : Legible path node namesNamespace) (legible' : Legible path node' namesNamespace') :
    node = node' ∧ namesNamespace = namesNamespace' := by
  obtain ⟨p, q, parts, readNode, readNamespace⟩ := legible.parts
  obtain ⟨p', q', parts', readNode', readNamespace'⟩ := legible'.parts
  have same := parts.symm.trans parts'
  simp only [List.cons.injEq, String.toList_inj, and_true, true_and] at same
  obtain ⟨rfl, rfl⟩ := same
  exact ⟨Option.some.inj (readNode.symm.trans readNode'),
    Option.some.inj (readNamespace.symm.trans readNamespace')⟩

section

variable (node namesNamespace : String)

lemma splitOn_encodedNamesPath : (encodedNamesPath node namesNamespace).toList.splitOn '/'
    = [] :: (namesRoute node namesNamespace).map String.toList := by
  have joined : (encodedNamesPath node namesNamespace).toList
      = ['/'].intercalate ([] :: (namesRoute node namesNamespace).map String.toList) := by
    simp [encodedNamesPath, namesPath, namesRoute, List.intercalate]
  rw [joined]
  refine List.splitOn_intercalate '/' ?_ (List.cons_ne_nil _ _)
  simp [namesRoute, slash_notMem_encode]

lemma isOfNamesPath_of_mem {ch : Char}
    (mem : ch ∈ (encodedNamesPath node namesNamespace).toList) : isOfNamesPath ch = true := by
  have template : ∀ ch ∈ "/cluster/".toList ++ "/metrics/namespace/".toList,
      isOfNamesPath ch = true := List.all_eq_true.mp (by decide)
  have marks : ∀ ch ∈ ['%', '-', '.', '_', '~'], ch ∈ ['-', '_', '.', '~', '%', '/'] := by simp
  have encoded {s : String} (mem : ch ∈ (encode s).toList) : isOfNamesPath ch = true := by
    have plain := isPlain_of_mem_encode mem
    simp only [isPlain, isOfNamesPath, Bool.or_eq_true, List.contains_iff_mem] at plain ⊢
    exact plain.imp_right (marks ch)
  simp only [encodedNamesPath, namesPath, String.toList_append, List.mem_append] at mem template
  rcases mem with ((inTemplate | inNode) | inTemplate) | inNamespace
  · exact template ch (.inl inTemplate)
  · exact encoded inNode
  · exact template ch (.inr inTemplate)
  · exact encoded inNamespace

end

/-- The path of every node and every namespace is legible, so no two pairs share one. -/
theorem encodedNamesPath_legible (node namesNamespace : String) :
    Legible (encodedNamesPath node namesNamespace) node namesNamespace ∧
      ∀ {node' namesNamespace' : String},
        encodedNamesPath node namesNamespace = encodedNamesPath node' namesNamespace' →
          node = node' ∧ namesNamespace = namesNamespace' := by
  have legible (node namesNamespace : String) :
      Legible (encodedNamesPath node namesNamespace) node namesNamespace :=
    { characters := fun _ => isOfNamesPath_of_mem node namesNamespace
      parts := ⟨encode node, encode namesNamespace, splitOn_encodedNamesPath node namesNamespace,
        decode?_encode node, decode?_encode namesNamespace⟩ }
  refine ⟨legible node namesNamespace, fun {node' namesNamespace'} same => ?_⟩
  have other := legible node' namesNamespace'
  rw [← same] at other
  exact (legible node namesNamespace).eq other

end Api

end MetricWatch
