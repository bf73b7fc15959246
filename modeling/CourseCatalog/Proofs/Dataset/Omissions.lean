import CourseCatalog.Proofs.Dataset.Places
/-!
# Leaving something out

A dataset that could be read cannot be read any more when one of its records or entries has
lost a member that it needs. No other form of an entry fits instead, and no default fills
the gap, so there is no catalog of a part of the text.
-/

namespace CourseCatalog

open Json (Document Items Members Spelling Value)

namespace Dataset

/-- What stands at a place loses a member that it needs. A record needs its fields except the optional
ones, a leaf its code and its grade, and a group its list. Of a leaf that has a list as well
nothing is said. -/
inductive Omits : Edit
  | field {limit : Nat} {k : Kind} {f : Json.Field k.Draft} {before after : List (Spelling × Document)} {name : String}
    {e : Document} (hf : f ∈ k.type.fields) (ho : f.optional = false) (hn : f.named name = true) :
    Omits (limit + 1) (.record k) (.object (.ofList (before ++ (.ok name, e) :: after)))
      (.object (.ofList (before ++ after)))
  | leaf {limit : Nat} {p : Prerequisite} {before after : List (Spelling × Document)} {name : String} {e : Document}
    (hn : name ∈ ["codeName", "minimumGrade", "minimum grade"])
    (h : Requirement.decode (limit + 1) (.object (.ofList (before ++ (.ok name, e) :: after))) = .ok (.course p))
    (hone : ∀ d, (.ok "one of", d) ∉ before ++ after) :
    Omits (limit + 1) .requirement (.object (.ofList (before ++ (.ok name, e) :: after)))
      (.object (.ofList (before ++ after)))
  | group {limit : Nat} {members : List Requirement} {before after : List (Spelling × Document)} {e : Document}
    (h : Requirement.decode (limit + 1) (.object (.ofList (before ++ (.ok "one of", e) :: after))) =
      .ok (.oneOf members)) :
    Omits (limit + 1) .requirement (.object (.ofList (before ++ (.ok "one of", e) :: after)))
      (.object (.ofList (before ++ after)))

/-- What was read cannot be read after the loss. -/
theorem Omits.decode_ne_ok {limit : Nat} {p : Place} {d d' : Document} (h : Omits limit p d d') (x x' : p.Result)
    (hx : p.decode limit d = .ok x) : p.decode limit d' ≠ .ok x' := by
  cases h with
  | field hf ho hn => exact Json.decodeRecord_omitted (Kind.orderly _) hf ho hn hx x'
  | leaf hn h hone => exact Requirement.decode_leaf_omitted hn h hone
  | group h => exact Requirement.decode_group_omitted h

end Dataset

/-- A text whose dataset has lost a needed member makes no catalog. -/
theorem Catalog.no_partial_catalog {text text' : String} {serial serial' : Nat} {c : Catalog}
    (h : (Catalog.ofText text serial).value = .ok c)
    (ho : Dataset.Somewhere Dataset.Omits Json.depthLimit (.record .dataset) (Document.ofText text).1
      (Document.ofText text').1) :
    ∃ fault, (Catalog.ofText text' serial').value = .error fault := by
  rw [Catalog.value_ofText] at h ⊢
  obtain ⟨d, hd, -⟩ := Json.exists_of_map_eq_ok h
  cases hd' : Dataset.ofText text' with
  | error fault => exact ⟨fault, rfl⟩
  | ok d' => exact absurd (Json.decoded_of_decode hd') (ho.decode_ne_ok Dataset.Omits.decode_ne_ok (Json.decoded_of_decode hd) d')

/-- A leaf in a group loses its grade. -/
theorem Catalog.no_partial_catalog_leaf :
    let full := Dataset.valueWith (.object [("codeName", .string "CS-1"), ("minimumGrade", .string "B")])
    let cut := Dataset.valueWith (.object [("codeName", .string "CS-1")])
    (∃ c, (Catalog.ofText (String.ofList full.compact) 0).value = .ok c) ∧
      ∃ fault, (Catalog.ofText (String.ofList cut.compact) 0).value = .error fault := by
  intro full cut
  obtain ⟨c, hc⟩ := Catalog.exists_of_isOk (Document.ofText_compact full) 0 (by decide +kernel)
  refine ⟨⟨c, hc⟩, no_partial_catalog hc ?_⟩
  rw [Document.ofText_compact, Document.ofText_compact]
  exact @Dataset.Somewhere.valueWith _ _ _ [.course ⟨"CS-1", .b⟩] rfl
    (.here (@Dataset.Omits.leaf _ ⟨"CS-1", .b⟩ [(_, _)] [] "minimumGrade" _ (by decide) rfl (by simp)))

end CourseCatalog
