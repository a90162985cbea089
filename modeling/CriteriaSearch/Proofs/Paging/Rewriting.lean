import CriteriaSearch.Proofs.Json.Documents
import CriteriaSearch.Proofs.Paging.Decoders

namespace CriteriaSearch

/-!
# Decoding does not depend on how a document is written

One change to the way in which a document is written changes neither whether
the document is accepted nor what is decoded from it.  The induction goes along
the place of the change, and at each object or array around it the law of its
shape carries the outcome of the part over to the whole.  No name is used twice
after a change either, so any number of changes can be made.

A text and the value that it is parsed to differ in two ways.  The text lists
members in another order, which is a rewriting, and it limits how deep the
document may nest, which is met wherever the text is parsed at all.
-/

namespace Shape

variable {s : Shape} {first second document : Json}

/-! ## Changes -/

theorem Step.outcome_eq (step : Step s first second) (distinct : first.Distinct) :
    s.outcome first = s.outcome second := by
  induction step with
  | permute perm => exact (lawful _).permute (Json.distinct_obj.1 distinct).1 perm
  | rename names _ =>
      rcases names with forward | back
      · exact (lawful _).rename forward
      · exact ((lawful _).rename back).symm
  | member inside ih =>
      have value := (Json.distinct_obj_middle.1 distinct).1.2
      exact (lawful _).member value (inside.distinct value) (ih value)
  | item inside ih =>
      have value := (Json.distinct_arr_middle.1 distinct).1
      exact (lawful _).item value (inside.distinct value) (ih value)

theorem Rewrites.distinct_and_outcome_eq (rewrites : s.Rewrites first second)
    (distinct : first.Distinct) : second.Distinct ∧ s.outcome first = s.outcome second := by
  induction rewrites with
  | refl => exact ⟨distinct, rfl⟩
  | tail _ step ih => exact ⟨step.distinct ih.1, ih.2.trans (step.outcome_eq ih.1)⟩

/-- A document is as good as the value that it is parsed to. -/
theorem outcome_sorted (distinct : document.Distinct) :
    s.outcome document.sorted = s.outcome document :=
  ((rewrites_sorted s distinct).distinct_and_outcome_eq distinct).2.symm

/-- A document that gives a field under both of its names is not accepted,
however deep inside it that happens. -/
theorem Doubled.outcome_eq_none (doubled : s.Doubled document) : s.outcome document = none := by
  induction doubled with
  | here names given also => exact (lawful _).twice names given also
  | member listed _ ih =>
      by_contra accepted
      exact (lawful _).accepts_member accepted listed ih
  | item placed _ ih =>
      by_contra accepted
      exact (lawful _).accepts_item accepted placed ih

/-! ## Texts and values -/

theorem toOption_fromText {text : String} (written : document.WrittenBy text) :
    (Decode.fromText s.decode text).toOption = s.outcome document := by
  rw [Decode.fromText_of_writtenBy written]
  exact (lawful s).portable written.depth

theorem toOption_fromValue (value : Json) :
    (Decode.fromValue s.decode value).toOption = s.outcome value :=
  rfl

/-- What is decoded from a document of the shape does not depend on how the
document is written. -/
structure Indifferent {α : Type} (s : Shape) (decode : ConditionDecoder α) : Prop where
  /-- A text is decoded as the value that it is parsed to. -/
  parsed : ∀ {text : String} {document value : Json}, document.WrittenBy text →
    document.Distinct → Json.parse? text = some value → ∀ result,
      Decode.fromText decode text = .ok result ↔ Decode.fromValue decode value = .ok result
  /-- Members in another order and fields under their other names change nothing. -/
  rewritten : ∀ {text other : String} {first second : Json}, first.WrittenBy text →
    second.WrittenBy other → first.Distinct → s.Rewrites first second → ∀ result,
      Decode.fromText decode text = .ok result ↔ Decode.fromText decode other = .ok result
  rewritten_value : ∀ {first second : Json}, first.Distinct → s.Rewrites first second →
    ∀ result, Decode.fromValue decode first = .ok result ↔
      Decode.fromValue decode second = .ok result
  /-- No field is given under both of its names. -/
  doubled : ∀ {text : String} {document : Json}, document.WrittenBy text →
    s.Doubled document → ∀ result, Decode.fromText decode text ≠ .ok result
  doubled_value : ∀ {value : Json}, s.Doubled value → ∀ result,
    Decode.fromValue decode value ≠ .ok result

theorem indifferent_decode (s : Shape) : s.Indifferent s.decode where
  parsed {text document value} written distinct parsed := by
    have same : value = document.sorted :=
      Option.some.inj (parsed.symm.trans (Json.parse?_eq_some.2 ⟨document, written, rfl⟩))
    rw [← Decode.toOption_eq_iff, toOption_fromText written, toOption_fromValue, same,
      outcome_sorted distinct]
  rewritten written writtenAlso distinct rewrites := by
    rw [← Decode.toOption_eq_iff, toOption_fromText written, toOption_fromText writtenAlso]
    exact (rewrites.distinct_and_outcome_eq distinct).2
  rewritten_value distinct rewrites := by
    rw [← Decode.toOption_eq_iff, toOption_fromValue, toOption_fromValue]
    exact (rewrites.distinct_and_outcome_eq distinct).2
  doubled written doubled result decoded := by
    have accepted := Decode.toOption_eq_some.2 decoded
    rw [toOption_fromText written, doubled.outcome_eq_none] at accepted
    cases accepted
  doubled_value doubled result decoded := by
    have accepted := Decode.toOption_eq_some.2 decoded
    rw [toOption_fromValue, doubled.outcome_eq_none] at accepted
    cases accepted

end Shape

/-! ## A group and a request in two writings -/

/-- A leaf with its fields under some of their names, in some order. -/
private def writtenLeaf : Json :=
  .obj [("pair", .obj [("a", .arr [.str "x"])]), ("logic", .str "MUST"), ("nodeType", .str "TERMS")]

/-- The same leaf with a field under another name, and the other way round. -/
private def rewrittenLeaf : Json :=
  .obj [("nodeType", .str "TERMS"), ("logic", .str "MUST"),
    ("fieldValues", .obj [("a", .arr [.str "x"])])]

private def writtenGroup : Json :=
  .obj [("queryLogic", .str "SHOULD"), ("children", .arr [writtenLeaf])]

private def rewrittenGroup : Json :=
  .obj [("children", .arr [rewrittenLeaf]), ("logic", .str "SHOULD")]

private def writtenRequest : Json :=
  .obj [("zone", .str "UTC"), ("limit", Json.ofNat 3)]

private def rewrittenRequest : Json :=
  .obj [("limit", Json.ofNat 3), ("timeZone", .str "UTC")]

set_option maxRecDepth 2000 in
private theorem writtenBy_writtenGroup : writtenGroup.WrittenBy
    ("\x7b\"queryLogic\":\"SHOULD\",\"children\":[" ++
      "\x7b\"pair\":\x7b\"a\":[\"x\"]\x7d,\"logic\":\"MUST\",\"nodeType\":\"TERMS\"\x7d]\x7d") :=
  ⟨rfl, by decide⟩

set_option maxRecDepth 2000 in
private theorem writtenBy_rewrittenGroup : rewrittenGroup.WrittenBy
    ("\x7b\"children\":[" ++
      "\x7b\"nodeType\":\"TERMS\",\"logic\":\"MUST\",\"fieldValues\":\x7b\"a\":[\"x\"]\x7d\x7d]," ++
      "\"logic\":\"SHOULD\"\x7d") :=
  ⟨rfl, by decide⟩

private theorem writtenBy_writtenRequest :
    writtenRequest.WrittenBy "\x7b\"zone\":\"UTC\",\"limit\":3\x7d" :=
  ⟨rfl, by decide⟩

private theorem writtenBy_rewrittenRequest :
    rewrittenRequest.WrittenBy "\x7b\"limit\":3,\"timeZone\":\"UTC\"\x7d" :=
  ⟨rfl, by decide⟩

private theorem rewrites_writtenLeaf : Shape.condition.Rewrites writtenLeaf rewrittenLeaf := by
  have renamed : Shape.condition.Step
      (.obj ([] ++ ("pair", _) :: [("logic", .str "MUST"), ("nodeType", .str "TERMS")]))
      (.obj ([] ++ ("fieldValues", .obj [("a", .arr [.str "x"])]) ::
        [("logic", .str "MUST"), ("nodeType", .str "TERMS")])) :=
    .rename (by decide) (by decide)
  exact (Relation.ReflTransGen.single renamed).tail (.permute (List.reverse_perm _).symm)

private theorem rewrites_writtenGroup : Shape.condition.Rewrites writtenGroup rewrittenGroup := by
  have renamed : Shape.condition.Step
      (.obj ([] ++ ("queryLogic", .str "SHOULD") :: [("children", .arr [writtenLeaf])]))
      (.obj ([] ++ ("logic", .str "SHOULD") :: [("children", .arr [writtenLeaf])])) :=
    .rename (by decide) (by decide)
  have inside : Shape.condition.Rewrites
      (.obj ([("logic", .str "SHOULD")] ++ ("children", .arr ([] ++ [writtenLeaf])) :: []))
      (.obj ([("logic", .str "SHOULD")] ++ ("children", .arr ([] ++ [rewrittenLeaf])) :: [])) :=
    Shape.Rewrites.inMember (Shape.Rewrites.inItem rewrites_writtenLeaf)
  exact ((Relation.ReflTransGen.single renamed).trans inside).tail (.permute (.swap _ _ _))

private theorem rewrites_writtenRequest :
    Shape.paging.Rewrites writtenRequest rewrittenRequest := by
  have renamed : Shape.paging.Step
      (.obj ([] ++ ("zone", .str "UTC") :: [("limit", Json.ofNat 3)]))
      (.obj ([] ++ ("timeZone", .str "UTC") :: [("limit", Json.ofNat 3)])) :=
    .rename (by decide) (by decide)
  exact (Relation.ReflTransGen.single renamed).tail (.permute (.swap _ _ _))

private theorem distinct_writtenGroup : writtenGroup.Distinct := by
  simp only [writtenGroup, writtenLeaf, Json.Distinct, Json.DistinctMembers, Json.DistinctItems]
  decide

private theorem distinct_writtenRequest : writtenRequest.Distinct := by
  have names : ["zone", "limit"].Nodup := by decide
  exact ⟨names, trivial, trivial, trivial⟩

/-- Every text that is parsed writes a document, and what is decoded from it as
a condition or as a request depends neither on the order of its members nor on
which names its fields have, nor on whether it is parsed first. -/
theorem decodes_however_written :
    (∀ text value, Json.parse? text = some value →
      ∃ document : Json, document.WrittenBy text ∧ document.sorted = value) ∧
    Shape.condition.Indifferent Condition.decode ∧ Shape.paging.Indifferent Paging.decode :=
  ⟨fun _ _ => Json.parse?_eq_some.1, Shape.indifferent_decode .condition,
    Shape.indifferent_decode .paging⟩

/-- A group whose leaf has members in another order and a field under another
name, a leaf with a field under both names, and a request in two writings. -/
theorem decodes_however_written_nested :
    let text := "\x7b\"queryLogic\":\"SHOULD\",\"children\":[" ++
      "\x7b\"pair\":\x7b\"a\":[\"x\"]\x7d,\"logic\":\"MUST\",\"nodeType\":\"TERMS\"\x7d]\x7d"
    let other := "\x7b\"children\":[" ++
      "\x7b\"nodeType\":\"TERMS\",\"logic\":\"MUST\",\"fieldValues\":\x7b\"a\":[\"x\"]\x7d\x7d]," ++
      "\"logic\":\"SHOULD\"\x7d"
    let condition := Condition.group .should
      [.leaf .must (.terms (FieldMap.empty.insert "a" [.text "x"]))]
    (∃ value, Json.parse? text = some value ∧
        (∃ document : Json, document.WrittenBy text ∧ document.sorted = value) ∧
        Decode.fromValue Condition.decode value = .ok condition) ∧
      Decode.fromText Condition.decode other = .ok condition ∧
      (∀ result, Decode.fromValue Condition.decode
        (.obj [("logic", .str "MUST"), ("queryLogic", .str "MUST")]) ≠ .ok result) ∧
      Decode.fromText Paging.decode "\x7b\"limit\":3,\"timeZone\":\"UTC\"\x7d" =
        .ok { limit := 3, timeZone := some "UTC" } := by
  intro text other condition
  rcases decodes_however_written with ⟨documents, conditions, requests⟩
  have decoded : Decode.fromText Condition.decode text = .ok condition := by
    rw [Decode.fromText_of_writtenBy writtenBy_writtenGroup]
    rfl
  have parsed : Json.parse? text = some writtenGroup.sorted :=
    Json.parse?_eq_some.2 ⟨writtenGroup, writtenBy_writtenGroup, rfl⟩
  refine ⟨⟨_, parsed, documents _ _ parsed, ?_⟩, ?_, ?_, ?_⟩
  · exact (conditions.parsed writtenBy_writtenGroup distinct_writtenGroup parsed condition).1
      decoded
  · exact (conditions.rewritten writtenBy_writtenGroup writtenBy_rewrittenGroup
      distinct_writtenGroup rewrites_writtenGroup condition).1 decoded
  · have names : ("logic", "queryLogic") ∈ Shape.condition.aliases := by decide
    exact conditions.doubled_value (.here names (by decide) (by decide))
  · refine (requests.rewritten writtenBy_writtenRequest writtenBy_rewrittenRequest
      distinct_writtenRequest rewrites_writtenRequest _).1 ?_
    rw [Decode.fromText_of_writtenBy writtenBy_writtenRequest]
    rfl

end CriteriaSearch
