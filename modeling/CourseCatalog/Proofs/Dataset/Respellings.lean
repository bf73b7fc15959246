import CourseCatalog.Proofs.Dataset.Places
import Mathlib.Logic.Relation
/-!
# Spelling a dataset otherwise

One dataset has many spellings: members in any order and under any of their names, members
that mean nothing, arrays in place of objects, a title in place of a list, blanks around a
grade. A text that was read is read as the same dataset after any number of such changes,
wherever in it they are made.
-/

namespace CourseCatalog

open Json (Document Items Members Spelling Value Listed Rearranged)

/-! ## Grades with blanks around them -/

namespace Text

/-- Blanks around a text are trimmed off. -/
theorem trim_padded {before after cs : List Char} (hb : ∀ c ∈ before, isBlank c = true) (ha : ∀ c ∈ after, isBlank c = true) :
    trim (before ++ cs ++ after) = trim cs := by
  have hend : after.dropWhile isBlank = [] := List.dropWhile_eq_nil_iff.2 ha
  have hend' : after.reverse.dropWhile isBlank = [] := List.dropWhile_eq_nil_iff.2 fun c hc => ha c (List.mem_reverse.1 hc)
  unfold trim
  rw [List.append_assoc, List.dropWhile_append_of_pos hb, List.dropWhile_append]
  split
  next h => rw [hend, List.isEmpty_iff.1 h]
  next h => rw [List.reverse_append, List.dropWhile_append, hend']; rfl

end Text

/-- A text with blanks before and after it. -/
def Padded (s s' : String) : Prop :=
  ∃ before after : List Char, (∀ c ∈ before, Text.isBlank c = true) ∧ (∀ c ∈ after, Text.isBlank c = true) ∧
    s'.toList = before ++ s.toList ++ after

theorem Grade.ofText?_padded {s s' : String} (h : Padded s s') : Grade.ofText? s' = Grade.ofText? s := by
  obtain ⟨before, after, hb, ha, hs⟩ := h
  rw [ofText?, ofText?, trimmed, trimmed, hs, Text.trim_padded hb ha]

namespace Dataset

/-! ## Changes -/

/-- What an optional field has when it is not there. -/
def absentValue (name : String) : Document :=
  if name ∈ ["faculty", "titles"] then .array .closed else .null

/-- A member of the name is passed over or holds no more than a text: no field of a record goes by it,
or it is not the list of a group. -/
def Place.Unread : Place → String → Prop
  | .requirement, name => name ≠ "one of"
  | p, name => ∀ names ∈ p.names, name ∉ names

/-- What stands at a place is spelled otherwise. -/
inductive Respells : Edit
  | permuted {limit : Nat} {p : Place} {ms ms' : List (Spelling × Document)} (h : ms.Perm ms') :
    Respells (limit + 1) p (.object (.ofList ms)) (.object (.ofList ms'))
  | renamed {limit : Nat} {p : Place} {before after : List (Spelling × Document)} {names : List String}
    {name name' : String} {e : Document} (h : names ∈ p.names) (hn : name ∈ names) (hn' : name' ∈ names) :
    Respells (limit + 1) p (.object (.ofList (before ++ (.ok name, e) :: after)))
      (.object (.ofList (before ++ (.ok name', e) :: after)))
  | added {limit : Nat} {p : Place} {before after : List (Spelling × Document)} {name : String} {v : Value}
    (hn : ∀ names ∈ p.names, name ∉ names) (hv : v.Within limit) :
    Respells (limit + 1) p (.object (.ofList (before ++ after)))
      (.object (.ofList (before ++ (.ok name, v.document) :: after)))
  | rearranged {limit : Nat} {p : Place} {before after : List (Spelling × Document)} {name : String} {e e' : Document}
    (hn : p.Unread name) (h : Rearranged limit e e') :
    Respells (limit + 1) p (.object (.ofList (before ++ (.ok name, e) :: after)))
      (.object (.ofList (before ++ (.ok name, e') :: after)))
  /-- An entry that is a leaf does not notice what stands under `one of`. -/
  | leafAdded {limit : Nat} {p : Prerequisite} {before after : List (Spelling × Document)} {v : Value}
    (h : Requirement.decode (limit + 1) (.object (.ofList (before ++ after))) = .ok (.course p)) (hv : v.Within limit) :
    Respells (limit + 1) .requirement (.object (.ofList (before ++ after)))
      (.object (.ofList (before ++ (.ok "one of", v.document) :: after)))
  | leafExchanged {limit : Nat} {p : Prerequisite} {before after : List (Spelling × Document)} {e : Document} {v : Value}
    (h : Requirement.decode (limit + 1) (.object (.ofList (before ++ (.ok "one of", e) :: after))) = .ok (.course p))
    (hv : v.Within limit) :
    Respells (limit + 1) .requirement (.object (.ofList (before ++ (.ok "one of", e) :: after)))
      (.object (.ofList (before ++ (.ok "one of", v.document) :: after)))
  | padded {limit : Nat} {before after : List (Spelling × Document)} {name : String} {s s' : String}
    (hn : name ∈ ["minimumGrade", "minimum grade"]) (h : Padded s s') :
    Respells (limit + 1) .requirement (.object (.ofList (before ++ (.ok name, .string (.ok s)) :: after)))
      (.object (.ofList (before ++ (.ok name, .string (.ok s')) :: after)))
  | paddedItem {limit : Nat} {e : Document} {s s' : String} (h : Padded s s') :
    Respells (limit + 1) .requirement (.array (.ofList [e, .string (.ok s)])) (.array (.ofList [e, .string (.ok s')]))
  /-- Records stand in the upper levels, where there is always room for an empty list. -/
  | listed {limit : Nat} {k : Kind} {ms : List (Spelling × Document)} {ds : List Document}
    (h : Listed absentValue k.type.fields ms ds) :
    Respells (limit + 2) (.record k) (.object (.ofList ms)) (.array (.ofList ds))
  | listedLeaf {limit : Nat} {p : Prerequisite} {ms : List (Spelling × Document)} {ds : List Document}
    (h : Requirement.decode (limit + 1) (.object (.ofList ms)) = .ok (.course p))
    (hl : Listed absentValue Prerequisite.recordType.fields ms ds) :
    Respells (limit + 1) .requirement (.object (.ofList ms)) (.array (.ofList ds))
  | listedGroup {limit : Nat} {members : List Requirement} {ms : List (Spelling × Document)} {ds : List Document}
    (h : Requirement.decode (limit + 1) (.object (.ofList ms)) = .ok (.oneOf members))
    (hl : Listed absentValue Requirement.groupRecordType.fields ms ds) :
    Respells (limit + 1) .requirement (.object (.ofList ms)) (.array (.ofList ds))
  | oneTitle {limit : Nat} {s : Spelling} :
    Respells (limit + 1) .titles (.array (.ofList [.string s])) (.string s)

/-! ## Each change keeps what is read -/

/-- Only records and entries are read from objects. -/
theorem Place.eq_of_decode_object {p : Place} {limit : Nat} {members : Members} {x : p.Result}
    (h : p.decode limit (.object members) = .ok x) : (∃ k, p = .record k) ∨ p = .requirement := by
  cases p with
  | record k => exact .inl ⟨k, rfl⟩
  | requirement => exact .inr rfl
  | titles =>
    obtain ⟨v, hv, hx⟩ := Json.decodeVariant_eq_ok.1 h
    obtain ⟨k, vs, -, -, rfl⟩ := Document.value_object hv
    cases hx
  | list p => cases limit <;> cases h

theorem Kind.mem_names {k : Kind} {names : List String} (h : names ∈ (Place.record k).names) :
    ∃ f ∈ k.type.fields, ∀ name, name ∈ names ↔ f.named name = true := by
  obtain ⟨f, hf, rfl⟩ := List.mem_map.1 h
  exact ⟨f, hf, fun name => (Json.Field.named_iff f name).symm⟩

theorem Kind.not_named {k : Kind} {name : String} (h : ∀ names ∈ (Place.record k).names, name ∉ names) :
    ∀ f ∈ k.type.fields, f.named name = false := by
  intro f hf
  rw [← Bool.not_eq_true, Json.Field.named_iff]
  exact h _ (List.mem_map_of_mem hf)

section Members
variable {limit : Nat} {p : Place} {ms ms' before after : List (Spelling × Document)} {name name' : String}
  {names : List String} {e e' : Document} {x : p.Result}

theorem Place.decode_permuted (h : ms.Perm ms') (hx : p.decode (limit + 1) (.object (.ofList ms)) = .ok x) :
    p.decode (limit + 1) (.object (.ofList ms')) = .ok x := by
  rcases Place.eq_of_decode_object hx with ⟨k, rfl⟩ | rfl
  · exact Json.decodeRecord_perm k.separate hx h
  · exact Requirement.decode_perm hx h

theorem Place.decode_renamed (h : names ∈ p.names) (hn : name ∈ names) (hn' : name' ∈ names)
    (hx : p.decode (limit + 1) (.object (.ofList (before ++ (.ok name, e) :: after))) = .ok x) :
    p.decode (limit + 1) (.object (.ofList (before ++ (.ok name', e) :: after))) = .ok x := by
  rcases Place.eq_of_decode_object hx with ⟨k, rfl⟩ | rfl
  · obtain ⟨f, hf, hnames⟩ := Kind.mem_names h
    exact Json.decodeRecord_renamed k.separate hf ((hnames name).1 hn) ((hnames name').1 hn') hx
  · have hone : ∀ names ∈ Requirement.memberNames, ∀ others ∈ Requirement.memberNames, ∀ name ∈ names,
        ∀ name' ∈ names, name ∈ others → name' ∈ others := by decide
    exact Requirement.decode_replace hx fun v hv => ⟨v, hv, fun vs => Requirement.ofValue?_renamed fun others ho =>
      ⟨hone names h others ho name hn name' hn', hone names h others ho name' hn' name hn⟩⟩

theorem Place.decode_added (hn : ∀ names ∈ p.names, name ∉ names) {v : Value} (hv : v.Within limit)
    (hx : p.decode (limit + 1) (.object (.ofList (before ++ after))) = .ok x) :
    p.decode (limit + 1) (.object (.ofList (before ++ (.ok name, v.document) :: after))) = .ok x := by
  rcases Place.eq_of_decode_object hx with ⟨k, rfl⟩ | rfl
  · exact Json.decodeRecord_added k.separate (Kind.not_named hn) v.passFault?_document hx
  · refine Requirement.decode_added hx hv.value_document fun vs hr => ?_
    rw [Requirement.ofValue?_cons hn, hr]

theorem Place.decode_rearranged (hn : p.Unread name) (h : Rearranged limit e e')
    (hx : p.decode (limit + 1) (.object (.ofList (before ++ (.ok name, e) :: after))) = .ok x) :
    p.decode (limit + 1) (.object (.ofList (before ++ (.ok name, e') :: after))) = .ok x := by
  rcases Place.eq_of_decode_object hx with ⟨k, rfl⟩ | rfl
  · exact Json.decodeRecord_passed k.separate (Kind.not_named hn) h.passFault?_eq_none hx
  · refine Requirement.decode_replace hx fun v hv => ?_
    obtain ⟨⟨v', hv', hs'⟩, hs⟩ := h.value_eq_ok hv
    refine ⟨v', hv', fun vs => Requirement.ofValue?_exchanged hn (fun _ w => ?_) fun _ w => ?_⟩
    · rw [(Requirement.leafOfFields?_eq_none hs).1, (Requirement.leafOfFields?_eq_none hs').1]
    · rw [(Requirement.leafOfFields?_eq_none hs).2, (Requirement.leafOfFields?_eq_none hs').2]

end Members

section Entries
variable {limit : Nat} {before after : List (Spelling × Document)} {name : String} {e : Document} {s s' : String}
  {r : Requirement}

theorem leafOfFields?_padded (h : Padded s s') (code : Value) :
    Requirement.leafOfFields? code (.string s) = Requirement.leafOfFields? code (.string s') := by
  cases code with
  | string code => simp [Requirement.leafOfFields?, Grade.ofText?_padded h]
  | _ => rfl

theorem decode_padded (hn : name ∈ ["minimumGrade", "minimum grade"]) (h : Padded s s')
    (hr : Requirement.decode (limit + 1) (.object (.ofList (before ++ (.ok name, .string (.ok s)) :: after))) = .ok r) :
    Requirement.decode (limit + 1) (.object (.ofList (before ++ (.ok name, .string (.ok s')) :: after))) = .ok r := by
  refine Requirement.decode_replace hr fun v hv => ⟨.string s', rfl, fun vs => ?_⟩
  cases hv
  refine Requirement.ofValue?_exchanged ?_ (fun hc => ?_) fun _ => leafOfFields?_padded h
  · rintro rfl
    exact absurd hn (by decide)
  · subst hc
    exact absurd hn (by decide)

theorem decode_paddedItem (h : Padded s s')
    (hr : Requirement.decode (limit + 1) (.array (.ofList [e, .string (.ok s)])) = .ok r) :
    Requirement.decode (limit + 1) (.array (.ofList [e, .string (.ok s')])) = .ok r := by
  obtain ⟨v, w, hv, hw, hleaf⟩ := Requirement.decode_pair.1 hr
  cases hw
  exact Requirement.decode_pair.2 ⟨v, .string s', hv, rfl, by rw [← leafOfFields?_padded h, hleaf]⟩

end Entries

/-- The defaults of optional fields do not change a record. -/
theorem Kind.defaults (k : Kind) (depth : Nat) : k.type.Defaults absentValue (depth + 1) := by
  intro f hf ho x hx
  cases k with
  | college =>
    simp only [type, College.recordType, List.mem_cons, List.not_mem_nil, or_false] at hf
    rcases hf with rfl | rfl | rfl
    · cases ho
    · cases ho
    · have hx : x.faculty = none := by simpa [Json.Field.of] using hx
      exact ⟨{ x with faculty := some [] }, rfl, by simp [type, College.recordType, hx]⟩
  | member =>
    simp only [type, FacultyMember.recordType, List.mem_cons, List.not_mem_nil, or_false] at hf
    rcases hf with rfl | rfl | rfl | rfl | rfl
    · cases ho
    · have hx : x.titles = none := by simpa [Json.Field.of] using hx
      exact ⟨{ x with titles := some [] }, rfl, by simp [type, FacultyMember.recordType, hx]⟩
    · have hx : x.email = none := by simpa [Json.Field.of] using hx
      exact ⟨{ x with email := some none }, rfl, by simp [type, FacultyMember.recordType, hx]⟩
    · have hx : x.phone = none := by simpa [Json.Field.of] using hx
      exact ⟨{ x with phone := some none }, rfl, by simp [type, FacultyMember.recordType, hx]⟩
    · have hx : x.interests = none := by simpa [Json.Field.of] using hx
      exact ⟨{ x with interests := some none }, rfl, by simp [type, FacultyMember.recordType, hx]⟩
  | _ =>
    revert f
    simp [type, Dataset.recordType, Major.recordType, Course.recordType, Organization.recordType, Json.Field.of]

theorem decode_oneTitle {limit : Nat} {s : Spelling} {titles : List String}
    (h : Place.titles.decode (limit + 1) (.array (.ofList [.string s])) = .ok titles) :
    Place.titles.decode (limit + 1) (.string s) = .ok titles := by
  obtain ⟨v, hv, ht⟩ := Json.decodeVariant_eq_ok.1 h
  obtain ⟨k, vs, -, hvs, rfl⟩ := Document.value_array hv
  obtain ⟨w, ws, hw, hws, rfl⟩ := List.forall₂_cons_left_iff.1 (Items.values_ofList.1 hvs)
  cases hws
  rw [Document.value] at hw
  obtain ⟨t, ht', rfl⟩ := Json.exists_of_map_eq_ok hw
  cases ht
  exact Json.decodeVariant_eq_ok.2 ⟨.string t, by rw [Document.value, ht']; rfl, rfl⟩

/-- What is spelled otherwise is read as the same. -/
theorem Respells.decode_eq_ok {limit : Nat} {p : Place} {d d' : Document} (h : Respells limit p d d') (x : p.Result)
    (hx : p.decode limit d = .ok x) : p.decode limit d' = .ok x := by
  cases h with
  | permuted h => exact Place.decode_permuted h hx
  | renamed h hn hn' => exact Place.decode_renamed h hn hn' hx
  | added hn hv => exact Place.decode_added hn hv hx
  | rearranged hn h => exact Place.decode_rearranged hn h hx
  | leafAdded h hv =>
    cases h.symm.trans hx
    exact Requirement.decode_leaf_added h hv.value_document
  | leafExchanged h hv =>
    cases h.symm.trans hx
    exact Requirement.decode_leaf_exchanged h hv.value_document
  | padded hn h => exact decode_padded hn h hx
  | paddedItem h => exact decode_paddedItem h hx
  | @listed limit k ms ds h => exact Json.decodeRecord_listed k.orderly (k.defaults limit) h hx
  | listedLeaf h hl =>
    cases h.symm.trans hx
    exact Requirement.decode_leaf_listed h hl
  | listedGroup h hl =>
    cases h.symm.trans hx
    exact Requirement.decode_group_listed h hl
  | oneTitle => exact decode_oneTitle hx

/-- So it is after any number of changes anywhere in it. -/
theorem decode_of_respelled {limit : Nat} {p : Place} {d d' : Document}
    (h : Relation.ReflTransGen (Somewhere Respells limit p) d d') {x : p.Result} (hx : p.decode limit d = .ok x) :
    p.decode limit d' = .ok x := by
  induction h with
  | refl => exact hx
  | tail _ h ih => exact h.decode_eq_ok Respells.decode_eq_ok ih

end Dataset

/-- A text that differs in spelling from one that makes a catalog makes the same catalog. -/
theorem Catalog.spellings_interchangeable {text text' : String} {serial : Nat} {c : Catalog}
    (hc : (Catalog.ofText text serial).value = .ok c)
    (h : Relation.ReflTransGen (Dataset.Somewhere Dataset.Respells Json.depthLimit (.record .dataset))
      (Document.ofText text).1 (Document.ofText text').1)
    (hend : (Document.ofText text').2 = false) : (Catalog.ofText text' serial).value = .ok c := by
  rw [Catalog.value_ofText] at hc
  obtain ⟨d, hd, rfl⟩ := Json.exists_of_map_eq_ok hc
  have hd' : Dataset.decode Json.depthLimit (Document.ofText text').1 = .ok d :=
    Dataset.decode_of_respelled h (Json.decoded_of_decode hd)
  rw [Catalog.value_ofText_of_document (Prod.ext rfl hend), hd']
  rfl

/-- The organizations under their other name and first, a member that means nothing, a college as an array that ends
before its faculty, and blanks around a grade. -/
theorem Catalog.spellings_interchangeable_several :
    let plain := Dataset.valueWith (.object [("codeName", .string "CS-1"), ("minimumGrade", .string "B")])
    let other : Value := .object [
      ("studentOrganizations", .array []),
      ("note", .object [("seen", .bool true)]),
      ("colleges", .array [.array [.string "Engineering",
        .array [.object [("name", .string "Software"),
          ("courses", .array [.object [("codeName", .string "CS-2"), ("properName", .string "Graphs"),
            ("credits", .number ⟨false, 3, 0, none⟩),
            ("prerequisites", .array [.object [("one of",
              .array [.object [("codeName", .string "CS-1"), ("minimumGrade", .string " B ")]])]])]])]]]])]
    ∃ c, (Catalog.ofText (String.ofList plain.compact) 0).value = .ok c ∧
      (Catalog.ofText (String.ofList other.compact) 0).value = .ok c := by
  intro plain other
  obtain ⟨c, hc⟩ := Catalog.exists_of_isOk (Document.ofText_compact plain) 0 (by decide +kernel)
  refine ⟨c, hc, spellings_interchangeable hc ?_ (by rw [Document.ofText_compact])⟩
  rw [Document.ofText_compact, Document.ofText_compact]
  have hgrade : Dataset.Somewhere Dataset.Respells 127 (.record .dataset) plain.document
      (Dataset.valueWith (.object [("codeName", .string "CS-1"), ("minimumGrade", .string " B ")])).document :=
    @Dataset.Somewhere.valueWith _ _ _ [.course ⟨"CS-1", .b⟩] rfl
      (.here (@Dataset.Respells.padded _ [(_, _)] [] "minimumGrade" "B" " B " (by decide)
        ⟨[' '], [' '], List.forall_mem_singleton.2 rfl, List.forall_mem_singleton.2 rfl, by decide⟩))
  refine .tail (.tail (.tail (.tail (.single hgrade)
    (.inside (@Dataset.Part.member _ .dataset _ _ [] [(_, _)] "colleges" _ (.head _) rfl rfl) <|
      .inside (@Dataset.Part.item _ _ [] [] _) <|
      .here (@Dataset.Respells.listed _ .college [(_, _), (_, _)] [_, _] (@Listed.present _ _ _ _ [] [(_, _)] "name" _ _ rfl
        (@Listed.present _ _ _ _ [] [] "majors" _ _ rfl (.off ?_))))))
    (.here (@Dataset.Respells.renamed _ _ [(_, _)] [] ["organizations", "studentOrganizations"] "organizations"
      "studentOrganizations" _ ?_ ?_ ?_)))
    (.here (@Dataset.Respells.permuted _ _ [(_, _), (_, _)] [(_, _), (_, _)] (.swap _ _ []))))
    (.here (@Dataset.Respells.added _ _ [(_, _)] [(_, _)] "note" (.object [("seen", .bool true)]) ?_ ⟨?_, ?_⟩))
  · simp [Json.Field.of, Json.Field.Absent]
  · decide
  · decide
  · decide
  · decide
  · simp [Value.Finite, Json.FiniteMembers]
  · decide

end CourseCatalog
