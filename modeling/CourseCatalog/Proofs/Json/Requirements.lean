import CourseCatalog.CommandLine.Execution
import CourseCatalog.Proofs.Json.Depth
import CourseCatalog.Proofs.Json.Values
import CourseCatalog.Proofs.Lowering
/-!
# Requirements through JSON

A requirement list is read back from its printed text, unless the text nests deeper than
the reader goes. A list that was read from a text is never that deep: whatever spelling
it had, its own printed form nests no deeper.
-/

namespace CourseCatalog

open Json (Value Document Items Fault within)

theorem Grade.ofText?_text (g : Grade) : Grade.ofText? g.text = some g := by
  cases g <;> decide

namespace Requirement

/-! ## Entries and their values -/

theorem leafOfFields?_text (code : String) (g : Grade) :
    leafOfFields? (.string code) (.string g.text) = some (course ⟨code, g⟩) := by
  simp [leafOfFields?, Grade.ofText?_text]

theorem leafOfMembers?_toValue (p : Prerequisite) :
    leafOfMembers? [("codeName", .string p.code), ("minimumGrade", .string p.minimum.text)] = some (course p) := by
  simp [leafOfMembers?, onlyMember?, leafOfFields?_text]

/-- A group has no member that a leaf has, so it is never taken for a leaf. -/
theorem leafOfMembers?_group (v : Value) : leafOfMembers? [("one of", v)] = none := by
  simp [leafOfMembers?, onlyMember?]

mutual

/-- An entry is read back from the value that stands for it. -/
theorem ofValue?_toValue : ∀ r : Requirement, ofValue? r.toValue = some r
  | course p => by
    rw [toValue, Prerequisite.toValue, ofValue?, leafOfMembers?_toValue]
    rfl
  | oneOf members => by
    rw [toValue, ofValue?, leafOfMembers?_group]
    simp [groupOfMembers?, membersOfValue?, ofValues?_toValues members]

theorem ofValues?_toValues : ∀ rs : List Requirement, ofValues? (toValues rs) = some rs
  | [] => by rw [toValues, ofValues?]
  | r :: rs => by
    rw [toValues, ofValues?, ofValue?_toValue r, ofValues?_toValues rs]
    rfl

end

mutual

/-- The value of an entry has no numbers. -/
theorem finite_toValue : ∀ r : Requirement, r.toValue.Finite
  | course p => by simp [toValue, Prerequisite.toValue, Value.Finite, Json.FiniteMembers]
  | oneOf members => by
    simpa [toValue, Value.Finite, Json.FiniteMembers] using finite_toValues members

theorem finite_toValues : ∀ rs : List Requirement, Json.FiniteItems (toValues rs)
  | [] => by simp [toValues, Json.FiniteItems]
  | r :: rs => by
    rw [toValues, Json.FiniteItems]
    exact ⟨finite_toValue r, finite_toValues rs⟩

end

/-! ## Depth of entries -/

theorem depth_course (p : Prerequisite) : (course p).toValue.depth = 1 := by
  simp [toValue, Prerequisite.toValue, Value.depth, Json.depthOfMembers]

/-- A group stands in an object and an array. -/
theorem depth_oneOf (members : List Requirement) :
    (oneOf members).toValue.depth = 2 + Json.depthOfItems (toValues members) := by
  simp [toValue, Value.depth, Json.depthOfMembers]
  omega

theorem depth_of_leafOfFields? {code minimum : Value} {r : Requirement} (h : leafOfFields? code minimum = some r) :
    r.toValue.depth = 1 := by
  unfold leafOfFields? at h
  split at h
  · obtain ⟨g, -, rfl⟩ := Option.map_eq_some_iff.1 h
    exact depth_course _
  · cases h

theorem depth_of_leafOfMembers? {members : List (String × Value)} {r : Requirement}
    (h : leafOfMembers? members = some r) : r.toValue.depth = 1 := by
  obtain ⟨code, -, h⟩ := Option.bind_eq_some_iff.1 h
  obtain ⟨minimum, -, h⟩ := Option.bind_eq_some_iff.1 h
  exact depth_of_leafOfFields? h

mutual

/-- The printed form of an entry nests no deeper than the value that it was read from. -/
theorem depth_le_of_ofValue? : ∀ (v : Value) {r : Requirement}, ofValue? v = some r → r.toValue.depth ≤ v.depth
  | .array [code, minimum], r, h => by
    rw [ofValue?] at h
    rw [depth_of_leafOfFields? h, Value.depth]
    omega
  | .array [members], r, h => by
    rw [ofValue?] at h
    obtain ⟨rs, hrs, rfl⟩ := Option.map_eq_some_iff.1 h
    have := depth_lt_of_membersOfValue? members hrs
    rw [depth_oneOf, Value.depth, Json.depthOfItems]
    omega
  | .object members, r, h => by
    rw [ofValue?] at h
    rw [Value.depth]
    rcases Option.or_eq_some_iff.1 h with h | ⟨-, h⟩
    · rw [depth_of_leafOfMembers? h]
      omega
    · obtain ⟨rs, hrs, rfl⟩ := Option.map_eq_some_iff.1 h
      rw [depth_oneOf]
      rcases depth_lt_of_groupOfMembers? members hrs with hnone | hlt
      · cases hnone
      · omega
  | .null, r, h | .bool _, r, h | .number _, r, h | .string _, r, h | .array [], r, h | .array (_ :: _ :: _ :: _), r, h =>
    nomatch h

theorem depth_lt_of_membersOfValue? : ∀ (v : Value) {rs : List Requirement}, membersOfValue? v = some rs →
    Json.depthOfItems (toValues rs) < v.depth
  | .array items, rs, h => by
    rw [membersOfValue?] at h
    have := depth_le_of_ofValues? items h
    rw [Value.depth]
    omega
  | .null, rs, h | .bool _, rs, h | .number _, rs, h | .string _, rs, h | .object _, rs, h => nomatch h

theorem depth_le_of_ofValues? : ∀ (vs : List Value) {rs : List Requirement}, ofValues? vs = some rs →
    Json.depthOfItems (toValues rs) ≤ Json.depthOfItems vs
  | [], rs, h => by
    rw [ofValues?] at h
    cases h
    exact Nat.le_refl _
  | v :: vs, rs, h => by
    rw [ofValues?] at h
    obtain ⟨first, hfirst, h⟩ := Option.bind_eq_some_iff.1 h
    obtain ⟨others, hothers, h⟩ := Option.bind_eq_some_iff.1 h
    cases h
    have := depth_le_of_ofValue? v hfirst
    have := depth_le_of_ofValues? vs hothers
    rw [toValues, Json.depthOfItems, Json.depthOfItems]
    omega

/-- The members of a group had been found before, or stand in a value among the members. -/
theorem depth_lt_of_groupOfMembers? : ∀ (ms : List (String × Value)) {found : Option (List Requirement)}
    {rs : List Requirement}, groupOfMembers? ms found = some rs →
    found = some rs ∨ Json.depthOfItems (toValues rs) < Json.depthOfMembers ms
  | [], found, rs, h => .inl h
  | (name, v) :: ms, found, rs, h => by
    rw [Json.depthOfMembers]
    by_cases hname : name = "one of"
    · match found with
      | some _ => simp [groupOfMembers?, hname] at h
      | none =>
        rw [groupOfMembers?, if_pos hname] at h
        obtain ⟨members, hmembers, h⟩ := Option.bind_eq_some_iff.1 h
        have := depth_lt_of_membersOfValue? v hmembers
        rcases depth_lt_of_groupOfMembers? ms h with hsome | hlt
        · cases hsome
          exact .inr (by omega)
        · exact .inr (by omega)
    · simp only [groupOfMembers?, if_neg hname] at h
      exact (depth_lt_of_groupOfMembers? ms h).imp_right fun hlt => by omega

end

/-! ## Decoding what is printed -/

theorem decode_toValue (limit : Nat) (r : Requirement) :
    decode limit r.toValue.document = within limit r.toValue.depth r := by
  unfold decode Json.decodeVariant
  rw [r.toValue.value_document limit (finite_toValue r), within, within]
  split
  · simp [bind, Except.bind, ofValue?_toValue]
  · rfl

theorem decodeItems_toValues (limit : Nat) (rs : List Requirement) :
    Json.decodeItems decode limit (Json.documentOfItems (toValues rs)) =
      within limit (Json.depthOfItems (toValues rs)) rs := by
  induction rs with
  | nil => simp [toValues, Json.documentOfItems, Json.decodeItems, Json.depthOfItems]
  | cons r rs ih =>
    rw [toValues, Json.documentOfItems, Json.decodeItems, decode_toValue, ih, Json.depthOfItems, Json.within_max]

theorem decodeAll_document (limit : Nat) (rs : List Requirement) :
    decodeAll limit (Value.array (toValues rs)).document =
      within limit (Value.array (toValues rs)).depth rs := by
  rw [Value.document, Value.depth]
  cases limit with
  | zero => simp [decodeAll, Json.decodeList]
  | succ limit =>
    rw [decodeAll, Json.decodeList, decodeItems_toValues]
    unfold within
    congr 1
    simp only [eq_iff_iff]
    omega

theorem decode_of_ofText {text : String} {rs : List Requirement}
    (h : Document.ofText text = ((Value.array (toValues rs)).document, false)) :
    Json.decode decodeAll text = within Json.depthLimit (Value.array (toValues rs)).depth rs := by
  unfold Json.decode
  rw [h]
  simp only [decodeAll_document]
  unfold within
  split <;> rfl

theorem decode_compact (rs : List Requirement) :
    Json.decode decodeAll (String.ofList (Value.array (toValues rs)).compact) =
      within Json.depthLimit (Value.array (toValues rs)).depth rs :=
  decode_of_ofText (Document.ofText_compact _)

theorem decode_pretty (rs : List Requirement) :
    Json.decode decodeAll (String.ofList ((Value.array (toValues rs)).pretty 0)) =
      within Json.depthLimit (Value.array (toValues rs)).depth rs :=
  decode_of_ofText (Document.ofText_pretty 0 _)

/-! ## The depth of what was decoded -/

theorem depth_le_of_decode {limit : Nat} {d : Document} {r : Requirement} (h : decode limit d = .ok r) :
    r.toValue.depth ≤ limit := by
  obtain ⟨v, hv, h⟩ := Json.exists_of_bind_eq_ok h
  split at h
  · next hr =>
    cases h
    exact Nat.le_trans (depth_le_of_ofValue? v hr) (d.depth_le hv)
  · cases h

theorem depth_le_of_decodeItems {limit : Nat} : ∀ (items : Items) {rs : List Requirement},
    Json.decodeItems decode limit items = .ok rs → Json.depthOfItems (toValues rs) ≤ limit
  | .closed, rs, h => by
    rw [Json.decodeItems] at h
    cases h
    exact Nat.zero_le limit
  | .broken _, rs, h => by
    rw [Json.decodeItems] at h
    cases h
  | .cons item rest, rs, h => by
    rw [Json.decodeItems] at h
    obtain ⟨first, hfirst, h⟩ := Json.exists_of_bind_eq_ok h
    obtain ⟨others, hothers, h⟩ := Json.exists_of_bind_eq_ok h
    cases h
    rw [toValues, Json.depthOfItems]
    exact Nat.max_le.2 ⟨depth_le_of_decode hfirst, depth_le_of_decodeItems rest hothers⟩

theorem depth_le_of_decodeAll {limit : Nat} {d : Document} {rs : List Requirement} (h : decodeAll limit d = .ok rs) :
    (Value.array (toValues rs)).depth ≤ limit := by
  unfold decodeAll Json.decodeList at h
  split at h
  · cases h
  · have := depth_le_of_decodeItems _ h
    rw [Value.depth]
    omega
  · cases h

theorem depth_le_of_decode_text {text : String} {rs : List Requirement} (h : Json.decode decodeAll text = .ok rs) :
    (Value.array (toValues rs)).depth ≤ Json.depthLimit :=
  depth_le_of_decodeAll (Json.decoded_of_decode h)

/-! ## Results -/

theorem lines_parseReport {text : String} {rs : List Requirement} (h : (Wording.read text).value = .ok rs) :
    (parseReport text).lines = [.plain (String.ofList ((Value.array (toValues rs)).pretty 0))] := by
  simp [parseReport, Report.andThen, Report.ofLogged, Report.ofExcept, Report.line, h]

/-- A printed list is read back unless it nests too deeply, which also goes for what `parse` prints, and a list that
was read from any text is read back from its printed text. -/
theorem decode_printed :
    (∀ rs : List Requirement,
      let result : Except Fault (List Requirement) :=
        if (Value.array (toValues rs)).depth ≤ 127 then .ok rs else .error .tooDeep
      Json.decode decodeAll (String.ofList (Value.array (toValues rs)).compact) = result ∧
        Json.decode decodeAll (String.ofList ((Value.array (toValues rs)).pretty 0)) = result) ∧
      (∀ (text : String) (rs : List Requirement), (Wording.read text).value = .ok rs →
        ∃ printed, (parseReport text).lines = [.plain printed] ∧
          Json.decode decodeAll printed =
            if (Value.array (toValues rs)).depth ≤ 127 then .ok rs else .error .tooDeep) ∧
      ∀ (text : String) (rs : List Requirement), Json.decode decodeAll text = .ok rs →
        Json.decode decodeAll (String.ofList (Value.array (toValues rs)).compact) = .ok rs ∧
          Json.decode decodeAll (String.ofList ((Value.array (toValues rs)).pretty 0)) = .ok rs := by
  refine ⟨fun rs => ⟨decode_compact rs, decode_pretty rs⟩, ?_, ?_⟩
  · intro text rs h
    exact ⟨_, lines_parseReport h, decode_pretty rs⟩
  · intro text rs h
    have hd := Json.within_eq_ok (depth_le_of_decode_text h) rs
    exact ⟨(decode_compact rs).trans hd, (decode_pretty rs).trans hd⟩

/-- What `parse` prints for a wording, and a text with arrays in place of objects, a padded grade, another name of a
member and a member without meaning. -/
theorem decode_printed_loose :
    (∃ printed, (parseReport "A 1 and B 2 [Min Grade: C] or C-3").lines = [.plain printed] ∧
      Json.decode decodeAll printed = .ok [.course ⟨"A-1", .any⟩, .oneOf [.course ⟨"B-2", .c⟩, .course ⟨"C-3", .any⟩]]) ∧
      let rs : List Requirement := [.course ⟨"CS-1", .aPlus⟩, .course ⟨"MA-2", .b⟩, .oneOf [.course ⟨"BIO-3", .any⟩]]
      let text := "[[\"CS-1\",\" A+ \"],\x7b\"minimum grade\":\"B\",\"n\":null,\"codeName\":\"MA-2\"\x7d,[[[\"BIO-3\",\"Any\"]]]]"
      Json.decode decodeAll text = .ok rs ∧
        Json.decode decodeAll (String.ofList (Value.array (toValues rs)).compact) = .ok rs ∧
        Json.decode decodeAll (String.ofList ((Value.array (toValues rs)).pretty 0)) = .ok rs := by
  constructor
  · have hr := (Wording.read_value_of_row Wording.tokens_nested).1 Wording.listable_nested
    obtain ⟨printed, hl, hd⟩ := decode_printed.2.1 _ _ hr
    exact ⟨printed, hl, hd.trans (if_pos (by decide))⟩
  · intro rs text
    let v : Value := .array [.array [.string "CS-1", .string " A+ "],
      .object [("minimum grade", .string "B"), ("n", .null), ("codeName", .string "MA-2")],
      .array [.array [.array [.string "BIO-3", .string "Any"]]]]
    have ht : text = String.ofList v.compact := by decide
    have h : Json.decode decodeAll text = .ok rs := by
      unfold Json.decode
      rw [ht, Document.ofText_compact]
      rfl
    exact ⟨h, decode_printed.2.2 text rs h⟩

end Requirement

end CourseCatalog
